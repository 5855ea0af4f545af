import Mathlib.Data.List.ProdSigma
import ParseKit.Build.Unroll
import ParseKit.Proofs.Run.Basic
import ParseKit.Proofs.Run.Except
import ParseKit.Proofs.Store.Extends

namespace ParseKit

section Project

variable {s : Store} {take item : Value} {items indices : List Value}

theorem pickAll_eq_mapM (s : Store) (item : Value) (indices : List Value) :
    pickAll s item indices = indices.mapM (s.item item) := by
  induction indices with
  | nil => rfl
  | cons index rest ih => rw [pickAll, List.mapM_cons, ih]

-- What is asked for is every index of the first item, then every one of the second, and so on.
theorem project_eq_mapM (h : indicesOf s take = .ok indices) (items : List Value) :
    project s take items = (items ×ˢ indices).mapM fun e => s.item e.1 e.2 := by
  induction items with
  | nil => rfl
  | cons item rest ih =>
      have hpicked : (indices.map fun index => (item, index)).mapM (fun e => s.item e.1 e.2) =
          pickAll s item indices := by
        rw [List.mapM_map, pickAll_eq_mapM]
        rfl
      rw [project, h, ih, List.product_cons, List.mapM_append, hpicked]
      rfl

theorem project_append (s : Store) (take : Value) (a b : List Value) :
    project s take (a ++ b) = (do
      let xs ← project s take a
      let ys ← project s take b
      return xs ++ ys) := by
  induction a with
  | nil => exact (bind_pure (project s take b)).symm
  | cons item a ih =>
      simp only [List.cons_append, project, ih, bind_assoc, pure_bind, List.append_assoc]

theorem project_congr {take' : Value} (h : indicesOf s take = indicesOf s take')
    (items : List Value) : project s take items = project s take' items := by
  induction items with
  | nil => rfl
  | cons item rest ih => rw [project, project, h, ih]

end Project

variable {σ : Type} {w : World σ} {location : Run σ Value}
  {errorClass first items take : Value} {old indices : List Value}

theorem unroll_null (h : w.store.get? items = some (.list old)) :
    unroll location errorClass first items .null w =
      .ok items { w with store := w.store.put items (.list (present first ++ old)) } := by
  rw [unroll, Run.bind_apply, Run.store_apply]
  dsimp only
  rw [Store.list?_eq_some_iff.mpr h]
  rfl

theorem unroll_take (h : w.store.get? items = some (.list old)) (htake : take ≠ .null) :
    unroll location errorClass first items take w = match project w.store take old with
      | .ok values =>
        .ok (w.store.alloc (.list (present first ++ values))).1
          { w with store := (w.store.alloc (.list (present first ++ values))).2 }
      | .error f => .error (.raised f) w := by
  rw [unroll, Run.bind_apply, Run.store_apply]
  dsimp only
  rw [Store.list?_eq_some_iff.mpr h]
  dsimp only
  rw [if_neg htake, Run.bind_apply]
  cases project w.store take old <;> rfl

-- A run gives a list of these values.
def Run.Lists (x : Run σ Value) (w : World σ) (values : List Value) : Prop :=
  ∃ v w', x w = .ok v w' ∧ w'.store.get? v = some (.list values)

-- What follows the first item.
def taken (s : Store) (take : Value) (old : List Value) : Except Failure (List Value) :=
  if take = .null then .ok old else project s take old

theorem taken_append (s : Store) (take : Value) (a b : List Value) :
    taken s take (a ++ b) = (do
      let xs ← taken s take a
      let ys ← taken s take b
      return xs ++ ys) := by
  unfold taken
  split
  · rfl
  · exact project_append s take a b

theorem unroll_lists_iff (h : w.store.get? items = some (.list old)) {values : List Value} :
    (unroll location errorClass first items take).Lists w values ↔
      ∃ picked, taken w.store take old = .ok picked ∧ values = present first ++ picked := by
  unfold taken
  by_cases htake : take = .null
  · subst htake
    rw [if_pos rfl, Run.Lists, unroll_null h]
    constructor
    · rintro ⟨v, w', hrun, hv⟩
      cases hrun
      rw [Store.get?_put_here _ h] at hv
      cases hv
      exact ⟨old, rfl, rfl⟩
    · rintro ⟨picked, hpicked, rfl⟩
      cases hpicked
      exact ⟨_, _, rfl, Store.get?_put_here _ h⟩
  · rw [if_neg htake, Run.Lists, unroll_take h htake]
    constructor
    · rintro ⟨v, w', hrun, hv⟩
      cases hpicked : project w.store take old with
      | error f =>
          rw [hpicked] at hrun
          cases hrun
      | ok picked =>
          rw [hpicked] at hrun
          cases hrun
          rw [Store.get?_alloc_here] at hv
          cases hv
          exact ⟨picked, rfl, rfl⟩
    · rintro ⟨picked, hpicked, rfl⟩
      rw [hpicked]
      exact ⟨_, _, rfl, Store.get?_alloc_here _ _⟩

section Index

variable {s : Store} {items xs : List Value}

theorem Store.same_of_toInt? {a b : Value} {i : Int} (hb : b.toInt? = some i) :
    s.same a b = (a.integral? == some i) := by
  have hb' : b.integral? = some i := by
    cases b <;> first | exact hb | cases hb
  have hnoText : s.text? b = none := by
    cases b <;> first | rfl | cases hb
  by_cases hab : a = b
  · simp [hab, same_refl, hb']
  · rw [same, sameAt, if_neg (by simpa using hab)]
    by_cases htext : s.isText a = true
    · obtain ⟨t, ht⟩ := Option.isSome_iff_exists.mp htext
      have hnumber : a.integral? = none := by
        cases a <;> first | rfl | cases ht
      simp [htext, sameText, ht, hnoText, hnumber]
    · have hother : s.isText b = false := by rw [isText, hnoText]; rfl
      rw [if_neg (by simp [htext, hother]), hb']
      cases a.integral? <;> rfl

-- Truth values are the indices 0 and 1.
theorem Store.item_bool (s : Store) (item : Value) (b : Bool) (x : Value) :
    s.item item (.bool b) = .ok x ↔ s.item item (.int (if b then 1 else 0)) = .ok x := by
  have hkey : ∀ entries, s.pickKey entries (.bool b) = .ok x ↔
      s.pickKey entries (.int (if b then 1 else 0)) = .ok x := by
    intro entries
    have hsame : ∀ a, s.same a (.bool b) = s.same a (.int (if b then 1 else 0)) := by
      intro a
      rw [same_of_toInt? (b := .bool b) rfl, same_of_toInt? (b := .int _) rfl]
    have hlookup : s.lookup? entries (.bool b) =
        s.lookup? entries (.int (if b then 1 else 0)) := by
      simp only [lookup?, hsame]
    have hpick : ∀ key, s.requireKey key = .ok () →
        (s.pickKey entries key = .ok x ↔ s.lookup? entries key = some x) := by
      intro key hrequire
      rw [pickKey, hrequire]
      cases s.lookup? entries key <;> simp [bind, Except.bind]
    rw [hpick _ rfl, hpick _ rfl, hlookup]
  cases item with
  | ref id =>
      simp only [item]
      cases s.get? (.ref id) with
      | none => exact Iff.rfl
      | some o => cases o <;> first | exact Iff.rfl | exact hkey _
  | _ => exact Iff.rfl

theorem project_index_cons (index : Value) {i : Int} (h : index.toInt? = some i) (item : Value)
    (items : List Value) :
    project s index (item :: items) = .ok xs ↔ ∃ x rest, s.item item index = .ok x ∧
      project s index items = .ok rest ∧ xs = x :: rest := by
  have hindices : indicesOf s index = .ok [index] := by rw [indicesOf, h]
  have hpicked : ∀ picked, pickAll s item [index] = .ok picked ↔
      ∃ x, s.item item index = .ok x ∧ picked = [x] := by
    intro picked
    simp only [pickAll, bind_eq_ok_iff, pure, Except.pure, Except.ok.injEq, exists_eq_left']
    exact exists_congr fun x => and_congr_right fun _ => eq_comm
  simp only [project, hindices, bind_eq_ok_iff, Except.ok.injEq, exists_eq_left', hpicked, pure,
    Except.pure]
  constructor
  · rintro ⟨_, ⟨x, hx, rfl⟩, rest, hrest, rfl⟩
    exact ⟨x, rest, hx, hrest, rfl⟩
  · rintro ⟨x, rest, hx, hrest, rfl⟩
    exact ⟨[x], ⟨x, hx, rfl⟩, rest, hrest, rfl⟩

theorem project_bool (s : Store) (b : Bool) (items xs : List Value) :
    project s (.bool b) items = .ok xs ↔
      project s (.int (if b then 1 else 0)) items = .ok xs := by
  induction items generalizing xs with
  | nil => exact Iff.rfl
  | cons item rest ih =>
      rw [project_index_cons (.bool b) rfl, project_index_cons (.int _) rfl]
      simp only [Store.item_bool, ih]

theorem project_single (h : List.Forall₂ (fun item x => s.get? item = some (.list [x])) items xs) :
    project s (.int 0) items = .ok xs := by
  induction h with
  | nil => rfl
  | @cons item x rest xs hitem _ ih =>
      have hpicked : s.item item (.int 0) = .ok x := by
        cases item with
        | ref id =>
            simp only [Store.item, hitem]
            rfl
        | _ => cases hitem
      exact (project_index_cons (.int 0) rfl item rest).mpr ⟨x, xs, hpicked, ih, rfl⟩

end Index

-- The indices that a value stands for: an integer for itself, a list or a tuple for its items.
def Indices (s : Store) (take : Value) (indices : List Value) : Prop :=
  (∃ i, take.toInt? = some i) ∧ indices = [take] ∨ s.items? take = some indices

theorem Indices.indicesOf_eq (h : Indices w.store take indices) :
    indicesOf w.store take = .ok indices := by
  rcases h with ⟨⟨i, hi⟩, rfl⟩ | h
  · rw [indicesOf, hi]
  · have htoInt : take.toInt? = none := by
      cases take <;> first | rfl | cases h
    rw [indicesOf, htoInt, Store.elements, Store.elements?_of_items? h]

theorem Indices.ne_null (h : Indices w.store take indices) : take ≠ .null := by
  rintro rfl
  rcases h with ⟨⟨i, hi⟩, -⟩ | h
  · cases hi
  · cases h

-- Without indices the first item goes to the front of the list itself. With them there is a new
-- list, and nothing else is changed: the first item, and every index of every item in order. The
-- first of these that is not there is what fails. Both ways of unrolling go through the parts of a
-- list one after the other, and taking the only field of each item is like taking the items.
theorem unroll_flattens (hitems : w.store.get? items = some (.list old)) :
    let front := if first = .null then [] else [first]
    (∃ s', unroll location errorClass first items .null w = .ok items { w with store := s' } ∧
      s'.get? items = some (.list (front ++ old)) ∧
      (∀ x, x ≠ items → s'.get? x = w.store.get? x) ∧ (first = .null → s' = w.store)) ∧
    (∀ take indices, Indices w.store take indices →
      (∀ values, List.Forall₂ (fun e x => w.store.item e.1 e.2 = .ok x) (old ×ˢ indices) values →
        ∃ v s', unroll location errorClass first items take w = .ok v { w with store := s' } ∧
          w.store.get? v = none ∧ w.store.Extends s' ∧
          s'.get? v = some (.list (front ++ values)) ∧
          (front ++ values).length =
            (if first = .null then 0 else 1) + old.length * indices.length) ∧
      ∀ before e after f, old ×ˢ indices = before ++ e :: after →
        (∀ e ∈ before, ∃ x, w.store.item e.1 e.2 = .ok x) → w.store.item e.1 e.2 = .error f →
        unroll location errorClass first items take w = .error (.raised f) w) ∧
    (∀ take a b x y, old = a ++ b → w.store.get? x = some (.list a) →
      w.store.get? y = some (.list b) → ∀ values,
      (unroll location errorClass first items take).Lists w values ↔
        ∃ l r, (unroll location errorClass first x take).Lists w l ∧
          (unroll location errorClass .null y take).Lists w r ∧ values = l ++ r) ∧
    (∀ index take, (∃ i, index.toInt? = some i) → w.store.items? take = some [index] →
      unroll location errorClass first items index w =
        unroll location errorClass first items take w) ∧
    (∀ b values,
      (unroll location errorClass first items (.bool b)).Lists w values ↔
        (unroll location errorClass first items (.int (if b then 1 else 0))).Lists w values) ∧
    ∀ xs plain, w.store.get? plain = some (.list xs) →
      List.Forall₂ (fun item x => w.store.get? item = some (.list [x])) old xs → ∀ values,
      (unroll location errorClass first items (.int 0)).Lists w values ↔
        (unroll location errorClass first plain .null).Lists w values := by
  intro front
  refine ⟨?_, ?_, ?_, ?_, ?_, ?_⟩
  · refine ⟨_, unroll_null hitems, Store.get?_put_here _ hitems,
      fun x hx => Store.get?_put_elsewhere _ _ hx, ?_⟩
    rintro rfl
    exact Store.put_self hitems
  · intro take indices hindices
    have hproject := project_eq_mapM hindices.indicesOf_eq old
    constructor
    · intro values hvalues
      have hrun : unroll location errorClass first items take w = _ :=
        unroll_take hitems hindices.ne_null
      rw [hproject, mapM_ok hvalues] at hrun
      refine ⟨_, _, hrun, Store.get?_alloc_fresh _ _, .alloc _ _, Store.get?_alloc_here _ _, ?_⟩
      rw [List.length_append, ← hvalues.length_eq, List.length_product]
      simp only [front]
      split <;> rfl
    · intro before e after f hsplit hbefore he
      have hfails : project w.store take old = .error f := by
        rw [hproject, hsplit]
        exact mapM_error hbefore he
      rw [unroll_take hitems hindices.ne_null, hfails]
  · rintro take a b x y rfl hx hy values
    simp only [unroll_lists_iff hitems, unroll_lists_iff hx, unroll_lists_iff hy, taken_append]
    cases taken w.store take a with
    | error f => simp [bind, Except.bind]
    | ok xs =>
        cases taken w.store take b with
        | error f => simp [bind, Except.bind]
        | ok ys => simp [bind, Except.bind, pure, Except.pure, present]
  · rintro index take ⟨i, hi⟩ htake
    have hindex : Indices w.store index [index] := .inl ⟨⟨i, hi⟩, rfl⟩
    have hsequence : Indices w.store take [index] := .inr htake
    rw [unroll_take hitems hindex.ne_null, unroll_take hitems hsequence.ne_null,
      project_congr (hindex.indicesOf_eq.trans hsequence.indicesOf_eq.symm)]
  · intro b values
    rw [unroll_lists_iff hitems, unroll_lists_iff hitems]
    simp only [taken, reduceCtorEq, if_false, project_bool]
  · intro xs plain hplain hsingle values
    rw [unroll_lists_iff hitems, unroll_lists_iff hplain, taken, taken, if_neg (by simp),
      if_pos rfl, project_single hsingle]

private def twoPairs : World Unit where
  store := ⟨#[.list [.ref 1, .ref 2], .list [.text "a", .null], .tuple [.text "b"],
    .tuple [.int (-1), .bool false]]⟩
  log := []
  client := ()

-- An item may be null, and so may what is taken of it. The second pair has nothing at 1.
theorem unroll_flattens_twoPairs :
    (∃ v s', unroll (pure .null) .null (.bool false) (.ref 0) (.ref 3) twoPairs =
        .ok v { twoPairs with store := s' } ∧
      s'.get? v =
        some (.list [.bool false, .null, .text "a", .text "b", .text "b"])) ∧
      unroll (pure .null) .null (.bool false) (.ref 0) (.int 1) twoPairs =
        .error (.raised (.message .indexError "tuple index out of range")) twoPairs := by
  have hitems : twoPairs.store.get? (.ref 0) = some (.list [.ref 1, .ref 2]) := rfl
  have hlaws := @unroll_flattens Unit twoPairs (pure .null) .null (.bool false) _ _ hitems
  have hpicked : List.Forall₂ (fun e x => twoPairs.store.item e.1 e.2 = .ok x)
      (([.ref 1, .ref 2] : List Value) ×ˢ [.int (-1), .bool false])
      [.null, .text "a", .text "b", .text "b"] :=
    .cons rfl (.cons rfl (.cons rfl (.cons rfl .nil)))
  obtain ⟨v, s', hrun, -, -, hv, -⟩ := (hlaws.2.1 (.ref 3) _ (.inr rfl)).1 _ hpicked
  have hfails := (hlaws.2.1 (.int 1) [.int 1] (.inl ⟨⟨1, rfl⟩, rfl⟩)).2 [(.ref 1, .int 1)]
    (.ref 2, .int 1) [] (.message .indexError "tuple index out of range") rfl
    (by simpa using ⟨.null, rfl⟩) rfl
  exact ⟨⟨v, s', hrun, hv⟩, hfails⟩

end ParseKit
