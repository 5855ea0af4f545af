import Mathlib.Data.List.Count
import Mathlib.Data.List.Perm.Basic
import Mathlib.Order.Bounds.Defs
import ParseKit.Proofs.Node.Effects
import ParseKit.Proofs.Value.Refusal

namespace ParseKit.Node

variable {σ : Type} {w : World σ} {v holder : Value} {items args : List Value}

-- The items but for the first occurrences of each value, as many as are requested. An item stays if
-- as many of its kind stand ahead of it.
def remaining (items requested : List Value) : List Value :=
  (items.zipIdx.filter fun e => requested.count e.1 ≤ (items.take e.2).count e.1).map Prod.fst

theorem remaining_cons (x : Value) (items requested : List Value) :
    remaining (x :: items) requested =
      if x ∈ requested then remaining items (requested.erase x)
      else x :: remaining items requested := by
  have hshift : items.zipIdx 1 = items.zipIdx.map fun e => (e.1, e.2 + 1) := List.zipIdx_succ
  have htail : ∀ other : List Value,
      (∀ y n, requested.count y ≤ ((x :: items).take (n + 1)).count y ↔
        other.count y ≤ (items.take n).count y) →
      ((items.zipIdx 1).filter fun e =>
          requested.count e.1 ≤ ((x :: items).take e.2).count e.1).map Prod.fst =
        remaining items other := by
    intro other hother
    simp only [hshift, List.filter_map, List.map_map, remaining, Function.comp_def, hother]
  by_cases hx : x ∈ requested
  · have hpos : 0 < requested.count x := List.count_pos_iff.mpr hx
    have hcounts : ∀ y n, requested.count y ≤ ((x :: items).take (n + 1)).count y ↔
        (requested.erase x).count y ≤ (items.take n).count y := by
      intro y n
      simp only [List.take_succ_cons, List.count_cons, List.count_erase]
      omega
    have hfirst : ¬requested.count x ≤ ((x :: items).take 0).count x := by
      rw [List.take_zero, List.count_nil]
      omega
    rw [if_pos hx, ← htail _ hcounts, remaining, List.zipIdx_cons,
      List.filter_cons_of_neg (by rwa [decide_eq_true_eq])]
  · have hzero : requested.count x = 0 := List.count_eq_zero.mpr hx
    have hcounts : ∀ y n, requested.count y ≤ ((x :: items).take (n + 1)).count y ↔
        requested.count y ≤ (items.take n).count y := by
      intro y n
      simp only [List.take_succ_cons, List.count_cons]
      by_cases hy : x = y
      · subst hy
        simp [hzero]
      · simp [hy]
    rw [if_neg hx, ← htail _ hcounts, remaining, List.zipIdx_cons, List.filter_cons_of_pos]
    · rfl
    · simp [hzero]

theorem remaining_eq_diff (items requested : List Value) :
    remaining items requested = items.diff requested := by
  induction items generalizing requested with
  | nil => simp [remaining]
  | cons x items ih =>
      rw [remaining_cons, List.cons_diff]
      by_cases hx : x ∈ requested
      · rw [if_pos hx, if_pos hx, ih]
      · rw [if_neg hx, if_neg hx, ih]

-- How long a beginning of the arguments can be in which nothing is requested more often than it
-- occurs among the items.
def servable (items args : List Value) : Set Nat :=
  {n | n ≤ args.length ∧ ∀ x, (args.take n).count x ≤ items.count x}

theorem zero_mem_servable (items args : List Value) : 0 ∈ servable items args :=
  ⟨Nat.zero_le _, by simp⟩

theorem succ_mem_servable_iff {child : Value} {n : Nat} :
    n + 1 ∈ servable items (child :: args) ↔
      child ∈ items ∧ n ∈ servable (items.erase child) args := by
  constructor
  · rintro ⟨hlength, hcount⟩
    have hchild : 0 < items.count child := by
      have h := hcount child
      simp only [List.take_succ_cons, List.count_cons_self] at h
      omega
    refine ⟨List.count_pos_iff.mp hchild, by simpa using hlength, fun x => ?_⟩
    have h := hcount x
    simp only [List.take_succ_cons, List.count_cons] at h
    rw [List.count_erase]
    omega
  · rintro ⟨hchild, hlength, hcount⟩
    have hpos : 0 < items.count child := List.count_pos_iff.mpr hchild
    refine ⟨by simpa using hlength, fun x => ?_⟩
    have h := hcount x
    rw [List.count_erase] at h
    simp only [List.take_succ_cons, List.count_cons]
    by_cases hx : child = x
    · subst hx
      simp only [beq_self_eq_true, if_true] at h ⊢
      omega
    · simpa [hx] using h

-- What is done once the children are out that could be taken out.
def missed (stray : Option Value) : Run σ Unit :=
  match stray with
  | none => pure ()
  | some stray => do
    let shown ← Run.inspect (·.inspect stray)
    Run.raise .notFound ("Child not found: " ++ shown)

-- By induction on the arguments, each of which finds the list as those before it have left it.
theorem removeEach_serves (hc : w.store.childrenOf? v = some (holder, items))
    (args : List Value) :
    ∃ k, IsGreatest (servable items args) k ∧
      removeEach v args w = missed args[k]?
        { w with store := w.store.put holder (.list (items.diff (args.take k))) } := by
  induction args generalizing items w with
  | nil =>
      obtain ⟨-, -, -, hlist⟩ := Store.childrenOf?_eq_some hc
      refine ⟨0, ⟨zero_mem_servable items [], fun n hn => hn.1⟩, ?_⟩
      simp only [List.take_nil, List.diff_nil, Store.put_self hlist]
      rfl
  | cons child rest ih =>
      by_cases hchild : child ∈ items
      · have hc' := Store.childrenOf?_put_here hc (items.erase child)
        obtain ⟨k, ⟨hk, hbound⟩, hrun⟩ := ih
          (w := { w with store := w.store.put holder (.list (items.erase child)) }) hc'
        refine ⟨k + 1, ⟨succ_mem_servable_iff.mpr ⟨hchild, hk⟩, ?_⟩, ?_⟩
        · intro n hn
          cases n with
          | zero => exact Nat.zero_le _
          | succ n => exact Nat.succ_le_succ (hbound (succ_mem_servable_iff.mp hn).2)
        · rw [removeEach_present hc hchild, hrun]
          simp only [Store.put_put, List.take_succ_cons, List.diff_cons, List.getElem?_cons_succ]
      · obtain ⟨-, -, -, hlist⟩ := Store.childrenOf?_eq_some hc
        refine ⟨0, ⟨zero_mem_servable items _, ?_⟩, ?_⟩
        · intro n hn
          cases n with
          | zero => exact Nat.le_refl 0
          | succ n => exact absurd (succ_mem_servable_iff.mp hn).1 hchild
        · rw [removeEach_missing hc hchild]
          simp only [List.take_zero, List.diff_nil, Store.put_self hlist,
            List.getElem?_cons_zero]
          rfl

-- What is taken out, and where the removal ends.
theorem removeChildren_serves (hc : w.store.childrenOf? v = some (holder, items))
    (hargs : args ≠ []) :
    ∃ k, IsGreatest (servable items args) k ∧
      removeChildren v args w = (missed args[k]? >>= fun _ => return v : Run σ Value)
        { w with store := w.store.put holder (.list (items.diff (args.take k))) } := by
  obtain ⟨p, hnode, -, -⟩ := Store.childrenOf?_eq_some hc
  obtain ⟨k, hk, hrun⟩ := removeEach_serves hc args
  refine ⟨k, hk, ?_⟩
  have hsome : args.isEmpty = false := by simpa using hargs
  rw [removeChildren, Run.bind_apply, parts_gives _ hnode w rfl]
  simp only [hsome, Bool.false_eq_true, if_false]
  rw [Run.bind_apply, Run.bind_apply, hrun]

-- Where all arguments can be served, it does not matter in which order they come.
theorem removeChildren_all (hc : w.store.childrenOf? v = some (holder, items)) (hargs : args ≠ [])
    (hall : args.length ∈ servable items args) :
    removeChildren v args w =
      .ok v { w with store := w.store.put holder (.list (items.diff args)) } := by
  obtain ⟨k, ⟨hk, hbound⟩, hrun⟩ := removeChildren_serves hc hargs
  have hlength : k = args.length := Nat.le_antisymm hk.1 (hbound hall)
  subst hlength
  rw [hrun, List.take_length, List.getElem?_length]
  rfl

theorem length_mem_servable_of_perm {other : List Value} (hperm : args.Perm other)
    (hall : args.length ∈ servable items args) : other.length ∈ servable items other := by
  refine ⟨Nat.le_refl _, fun x => ?_⟩
  have h := hall.2 x
  rw [List.take_length] at h ⊢
  rw [← hperm.count_eq x]
  exact h

-- The longest beginning of the arguments is served in which nothing is requested more often than it
-- occurs. What is left of the children is the difference, in its old order, and nothing else is
-- changed. If an argument is left over, the first such is reported as not found, unless it cannot
-- even be shown.
theorem removeChildren_difference (hc : w.store.childrenOf? v = some (holder, items)) :
    removeChildren v [] w = .error (.raised (.message .invalidArgument
      "remove_children: missing argument(s)")) w ∧
    (∀ args, args ≠ [] → ∃ k s', IsGreatest (servable items args) k ∧
      s' = w.store.put holder (.list (remaining items (args.take k))) ∧
      s'.childrenOf? v = some (holder, remaining items (args.take k)) ∧
      (∀ x, x ≠ holder → s'.get? x = w.store.get? x) ∧
      (∀ x, x ∉ args → (remaining items (args.take k)).count x = items.count x) ∧
      (k = args.length → removeChildren v args w = .ok v { w with store := s' }) ∧
      ∀ stray, args[k]? = some stray →
        let failure := s'.refusal .notFound ("Child not found: " ++ ·) stray
        removeChildren v args w = .error (.raised failure) { w with store := s' } ∧
          (w.store.WholeNodes →
            (∃ text, failure = .message .notFound ("Child not found: " ++ text)) ∨
              failure = Store.tooDeep)) ∧
    (∀ args other, args ≠ [] → args.length ∈ servable items args → args.Perm other →
      removeChildren v other w = removeChildren v args w) ∧
    (items ≠ [] → ∃ s', removeChildren v items w = .ok v { w with store := s' } ∧
      s'.childrenOf? v = some (holder, [])) := by
  obtain ⟨p, hnode, -, hlist⟩ := Store.childrenOf?_eq_some hc
  refine ⟨?_, ?_, ?_, ?_⟩
  · rw [removeChildren, Run.bind_apply, parts_gives _ hnode w rfl]
    rfl
  · intro args hargs
    obtain ⟨k, hk, hrun⟩ := removeChildren_serves (σ := σ) hc hargs
    rw [← remaining_eq_diff] at hrun
    refine ⟨k, _, hk, rfl, Store.childrenOf?_put_here hc _, ?_, ?_, ?_, ?_⟩
    · intro x hx
      exact Store.get?_put_elsewhere w.store _ hx
    · intro x hx
      have hzero : (args.take k).count x = 0 :=
        List.count_eq_zero.mpr fun h => hx (List.mem_of_mem_take h)
      rw [remaining_eq_diff, List.count_diff, hzero, Nat.sub_zero]
    · rintro rfl
      rw [hrun, List.getElem?_length]
      rfl
    · intro stray hstray
      refine ⟨?_, fun hwhole => Store.refusal_cases (hwhole.put hlist rfl rfl) _ _ _⟩
      rw [hrun, hstray, missed, Run.bind_apply, Run.refusal_apply]
  · intro args other hargs hall hperm
    have hother : other ≠ [] := by
      rintro rfl
      exact hargs hperm.eq_nil
    rw [removeChildren_all hc hargs hall,
      removeChildren_all hc hother (length_mem_servable_of_perm hperm hall), hperm.diff_left]
  · intro hitems
    have hall : items.length ∈ servable items items := by
      refine ⟨Nat.le_refl _, fun x => ?_⟩
      exact (List.take_sublist _ _).count_le x
    refine ⟨_, removeChildren_all hc hitems hall, ?_⟩
    have hnone : items.diff items = [] := by
      refine List.eq_nil_iff_forall_not_mem.mpr fun x => List.count_eq_zero.mp ?_
      rw [List.count_diff, Nat.sub_self]
    rw [Store.childrenOf?_put_here hc, hnone]

private def strippedStray : World Unit where
  store := ⟨#[
    .node ⟨.text "root", .ref 3, .ref 4, .ref 5⟩, .node ⟨.text "leaf", .ref 6, .ref 7, .ref 5⟩,
    .node ⟨.text "stray", .ref 6, .ref 7, .null⟩, .dict {}, .list [.ref 1, .ref 1],
    .position (.int 0) (.int 0) (.int 0), .dict {}, .list []]⟩
  log := []
  client := ()

-- One of two equal children is taken out before a node that is no child cannot be shown.
theorem removeChildren_difference_strippedStray :
    strippedStray.store.childrenOf? (.ref 0) = some (.ref 4, [.ref 1, .ref 1]) ∧
      removeChildren (.ref 0) [.ref 1, .ref 2] strippedStray =
        .error (.raised (.message .attributeError "'NoneType' object has no attribute 'line'"))
          { strippedStray with store := strippedStray.store.put (.ref 4) (.list [.ref 1]) } := by
  have hc : strippedStray.store.childrenOf? (.ref 0) = some (.ref 4, [.ref 1, .ref 1]) := rfl
  have hgreatest : IsGreatest (servable [.ref 1, .ref 1] [.ref 1, .ref 2]) 1 := by
    refine ⟨succ_mem_servable_iff.mpr ⟨by decide, zero_mem_servable _ _⟩, fun n hn => ?_⟩
    match n with
    | 0 | 1 => decide
    | n + 2 =>
        have hstray := (succ_mem_servable_iff.mp (succ_mem_servable_iff.mp hn).2).1
        exact absurd hstray (by decide)
  obtain ⟨k, s', hk, hs', -, -, -, -, hmissed⟩ :=
    (removeChildren_difference hc).2.1 [.ref 1, .ref 2] (by decide)
  have hone : k = 1 := Nat.le_antisymm (hgreatest.2 hk.1) (hk.2 hgreatest.1)
  subst hone hs'
  have hfailure : (strippedStray.store.put (.ref 4) (.list [.ref 1])).refusal .notFound
      ("Child not found: " ++ ·) (.ref 2) = .message .attributeError
        "'NoneType' object has no attribute 'line'" := by decide
  have hrun := (hmissed (.ref 2) rfl).1
  exact ⟨hc, hfailure ▸ hrun⟩

end ParseKit.Node
