import Mathlib.Data.List.Forall2

namespace ParseKit

variable {ε α β : Type} {f g : α → Except ε β}

theorem ok_bind (a : α) (g : α → Except ε β) : (Except.ok a >>= g) = g a := rfl

-- What comes after a step only matters for the results that the step can have.
theorem bind_congr_ok {x : Except ε α} {g g' : α → Except ε β}
    (h : ∀ a, x = .ok a → g a = g' a) : x >>= g = x >>= g' := by
  cases x with
  | error e => rfl
  | ok a => exact h a rfl

theorem bind_eq_ok_iff {x : Except ε α} {g : α → Except ε β} {b : β} :
    x >>= g = .ok b ↔ ∃ a, x = .ok a ∧ g a = .ok b := by
  cases x <;> simp [bind, Except.bind]

theorem bind_eq_error_iff {x : Except ε α} {g : α → Except ε β} {e : ε} :
    x >>= g = .error e ↔ x = .error e ∨ ∃ a, x = .ok a ∧ g a = .error e := by
  cases x <;> simp [bind, Except.bind]

theorem mapM_eq_ok_iff {items : List α} {values : List β} :
    items.mapM f = .ok values ↔ List.Forall₂ (fun i x => f i = .ok x) items values := by
  induction items generalizing values with
  | nil => cases values <;> simp [pure, Except.pure]
  | cons i items ih =>
      simp only [List.mapM_cons, bind_eq_ok_iff, pure, Except.pure, Except.ok.injEq, ih]
      constructor
      · rintro ⟨x, hx, rest, hrest, rfl⟩
        exact .cons hx hrest
      · rintro (_ | ⟨hx, hrest⟩)
        exact ⟨_, hx, _, hrest, rfl⟩

theorem mapM_ok {items : List α} {values : List β}
    (h : List.Forall₂ (fun i x => f i = .ok x) items values) : items.mapM f = .ok values :=
  mapM_eq_ok_iff.mpr h

theorem mapM_eq_map {items : List α} {h : α → β} (hok : ∀ i ∈ items, f i = .ok (h i)) :
    items.mapM f = .ok (items.map h) :=
  mapM_ok (List.forall₂_map_right_iff.mpr (List.forall₂_same.mpr hok))

theorem exists_mapM_eq_ok {items : List α} (h : ∀ i ∈ items, ∃ x, f i = .ok x) :
    ∃ values, items.mapM f = .ok values := by
  induction items with
  | nil => exact ⟨[], rfl⟩
  | cons i items ih =>
      obtain ⟨x, hx⟩ := h i (by simp)
      obtain ⟨values, hvalues⟩ := ih fun j hj => h j (by simp [hj])
      exact ⟨x :: values, mapM_ok (.cons hx (mapM_eq_ok_iff.mp hvalues))⟩

theorem exists_ok_of_mapM {items : List α} {values : List β} (h : items.mapM f = .ok values) :
    ∀ i ∈ items, ∃ x, f i = .ok x := by
  intro i hi
  induction mapM_eq_ok_iff.mp h with
  | nil => cases hi
  | cons hfirst hrest ih =>
      rcases List.mem_cons.mp hi with rfl | hi
      · exact ⟨_, hfirst⟩
      · exact ih (mapM_ok hrest) hi

-- The first failure ends a traversal.
theorem mapM_error {before after : List α} {i : α} {e : ε}
    (hbefore : ∀ j ∈ before, ∃ x, f j = .ok x) (hi : f i = .error e) :
    (before ++ i :: after).mapM f = .error e := by
  induction before with
  | nil =>
      rw [List.nil_append, List.mapM_cons, hi]
      rfl
  | cons j before ih =>
      obtain ⟨x, hx⟩ := hbefore j (by simp)
      rw [List.cons_append, List.mapM_cons, hx, ih fun k hk => hbefore k (by simp [hk])]
      rfl

theorem exists_error_of_mapM {items : List α} {e : ε} (h : items.mapM f = .error e) :
    ∃ i ∈ items, f i = .error e := by
  induction items with
  | nil => cases h
  | cons i items ih =>
      rw [List.mapM_cons, bind_eq_error_iff] at h
      rcases h with hi | ⟨x, -, h⟩
      · exact ⟨i, by simp, hi⟩
      · rcases bind_eq_error_iff.mp h with hrest | ⟨_, -, h⟩
        · obtain ⟨j, hj, hfail⟩ := ih hrest
          exact ⟨j, by simp [hj], hfail⟩
        · cases h

theorem mapM_congr {items : List α} (h : ∀ i ∈ items, f i = g i) : items.mapM f = items.mapM g := by
  induction items with
  | nil => rfl
  | cons i items ih =>
      rw [List.mapM_cons, List.mapM_cons, h i (by simp), ih fun j hj => h j (by simp [hj])]

end ParseKit
