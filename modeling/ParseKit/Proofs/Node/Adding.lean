import ParseKit.Proofs.Node.Effects
import ParseKit.Proofs.Value.Refusal

namespace ParseKit.Node

variable {σ : Type} {s : Store} {w : World σ} {v holder : Value} {items args : List Value}

-- What an argument stands for: null for nothing, a list or a tuple for what is directly in it, and
-- anything else for itself.
inductive Means (s : Store) : Value → List Value → Prop where
  | nothing : Means s .null []
  | several {arg : Value} {nodes : List Value}
      (items : s.get? arg = some (.list nodes) ∨ s.get? arg = some (.tuple nodes)) :
      Means s arg nodes
  | one {v : Value} (known : v ≠ .null)
      (noItems : ∀ nodes, s.get? v ≠ some (.list nodes) ∧ s.get? v ≠ some (.tuple nodes)) :
      Means s v [v]

-- An argument and the nodes that it stands for, all of which have to be well formed.
structure Accepts (s : Store) (arg : Value) (nodes : List Value) : Prop where
  means : Means s arg nodes
  wellFormed : ∀ u ∈ nodes, s.WellFormed u

-- The first of all the values for which some arguments stand that is no well-formed node.
structure Refuses (s : Store) (args : List Value) (bad : Value) : Prop where
  first : ∃ parts before after, List.Forall₂ (Means s) args parts ∧
    parts.flatten = before ++ bad :: after ∧ (∀ u ∈ before, s.WellFormed u) ∧ ¬s.WellFormed bad

theorem items?_eq_some_iff {arg : Value} {nodes : List Value} :
    s.items? arg = some nodes ↔
      s.get? arg = some (.list nodes) ∨ s.get? arg = some (.tuple nodes) := by
  unfold Store.items?
  cases s.get? arg with
  | none => simp
  | some o => cases o <;> simp

theorem items?_eq_none_iff {arg : Value} :
    s.items? arg = none ↔
      ∀ nodes, s.get? arg ≠ some (.list nodes) ∧ s.get? arg ≠ some (.tuple nodes) := by
  simp only [Option.eq_none_iff_forall_ne_some, ne_eq, items?_eq_some_iff, not_or]

theorem contribution_eq {arg : Value} (h : arg ≠ .null) :
    contribution s arg = (s.items? arg).getD [arg] := by
  cases arg <;> first | rfl | exact absurd rfl h

theorem means_iff {arg : Value} {nodes : List Value} :
    Means s arg nodes ↔ contribution s arg = nodes := by
  constructor
  · intro h
    cases h with
    | nothing => rfl
    | several hitems =>
        have hitems := items?_eq_some_iff.mpr hitems
        rw [contribution_eq (by rintro rfl; cases hitems), hitems, Option.getD_some]
    | one hknown hnone =>
        rw [contribution_eq hknown, items?_eq_none_iff.mpr hnone, Option.getD_none]
  · rintro rfl
    by_cases hnull : arg = .null
    · subst hnull
      exact .nothing
    · rw [contribution_eq hnull]
      cases hitems : s.items? arg with
      | none => exact .one hnull (items?_eq_none_iff.mp hitems)
      | some nodes => exact .several (items?_eq_some_iff.mp hitems)

theorem Accepts.node (h : s.WellFormed v) : Accepts s v [v] := by
  obtain ⟨p, hnode⟩ := get?_of_wellFormed h
  refine ⟨.one ?_ (by simp [hnode]), by simpa using h⟩
  rintro rfl
  cases hnode

theorem forall₂_means_iff {parts : List (List Value)} :
    List.Forall₂ (Means s) args parts ↔ args.map (contribution s) = parts := by
  have hmeans : Means s = fun arg nodes => contribution s arg = nodes := by
    funext arg nodes
    exact propext means_iff
  rw [← List.forall₂_eq_eq_eq, List.forall₂_map_left_iff, hmeans]

theorem forall₂_accepts_iff {parts : List (List Value)} :
    List.Forall₂ (Accepts s) args parts ↔
      args.map (contribution s) = parts ∧
        ∀ u ∈ args.flatMap (contribution s), s.WellFormed u := by
  induction args generalizing parts with
  | nil => cases parts <;> simp
  | cons arg args ih =>
      cases parts with
      | nil => simp
      | cons nodes parts =>
          have haccepts : Accepts s arg nodes ↔
              contribution s arg = nodes ∧ ∀ u ∈ nodes, s.WellFormed u :=
            ⟨fun h => ⟨means_iff.mp h.means, h.wellFormed⟩, fun h => ⟨means_iff.mpr h.1, h.2⟩⟩
          rw [List.forall₂_cons, haccepts, ih]
          simp only [List.map_cons, List.cons.injEq, List.flatMap_cons, List.mem_append]
          constructor
          · rintro ⟨⟨rfl, hnodes⟩, rfl, hrest⟩
            exact ⟨⟨rfl, rfl⟩, fun u hu => hu.elim (hnodes u) (hrest u)⟩
          · rintro ⟨⟨rfl, rfl⟩, hall⟩
            exact ⟨⟨rfl, fun u hu => hall u (.inl hu)⟩, rfl, fun u hu => hall u (.inr hu)⟩

theorem refuses_iff {bad : Value} : Refuses s args bad ↔ ∃ before after,
    args.flatMap (contribution s) = before ++ bad :: after ∧ (∀ u ∈ before, s.WellFormed u) ∧
      ¬s.WellFormed bad := by
  constructor
  · rintro ⟨parts, before, after, hparts, hsplit, hbefore, hbad⟩
    rw [forall₂_means_iff] at hparts
    exact ⟨before, after, by rw [List.flatMap_def, hparts, hsplit], hbefore, hbad⟩
  · rintro ⟨before, after, hsplit, hbefore, hbad⟩
    exact ⟨_, before, after, forall₂_means_iff.mpr rfl, by rw [← List.flatMap_def, hsplit],
      hbefore, hbad⟩

-- Arguments that are not all accepted have a first value that is refused.
theorem exists_refuses (h : ¬∃ parts, List.Forall₂ (Accepts s) args parts) :
    ∃ bad, Refuses s args bad := by
  cases hbad : (args.flatMap (contribution s)).find? fun u => !decide (s.WellFormed u) with
  | none =>
      have hall : ∀ u ∈ args.flatMap (contribution s), s.WellFormed u := by
        simpa only [Bool.not_eq_true', decide_eq_false_iff_not, not_not] using
          List.find?_eq_none.mp hbad
      exact absurd ⟨_, forall₂_accepts_iff.mpr ⟨rfl, hall⟩⟩ h
  | some bad =>
      obtain ⟨hwrong, before, after, hsplit, hbefore⟩ := List.find?_eq_some_iff_append.mp hbad
      exact ⟨bad, refuses_iff.mpr ⟨before, after, hsplit, by simpa using hbefore,
        by simpa using hwrong⟩⟩

-- A value that is no well-formed node is refused with its type, or with all of it if it has none.
-- The refusal fails itself where that has no text.
theorem requireWellFormed_refuses {bad : Value} (hbad : ¬w.store.WellFormed bad) :
    (requireWellFormed bad : Run σ Unit) w = .error (.raised (w.store.refusal .invalidArgument
      ("Invalid ast node: " ++ w.store.className bad ++ " " ++ ·)
      ((w.store.part? bad "type").getD bad))) w := by
  rw [requireWellFormed, Run.bind_apply, Run.store_apply]
  dsimp only
  rw [if_neg (mt Store.isWellFormedNode_iff.mp hbad)]
  exact Run.refusal_apply .invalidArgument
    ("Invalid ast node: " ++ w.store.className bad ++ " " ++ ·) _ w

-- The first value that is not accepted is refused before anything is added.
theorem addChildren_refuses {bad : Value} (hc : w.store.childrenOf? v = some (holder, items))
    (hbad : Refuses w.store args bad) :
    addChildren v args w = .error (.raised (w.store.refusal .invalidArgument
      ("Invalid ast node: " ++ w.store.className bad ++ " " ++ ·)
      ((w.store.part? bad "type").getD bad))) w := by
  obtain ⟨before, after, hsplit, hbefore, hwrong⟩ := refuses_iff.mp hbad
  have hargs : args ≠ [] := by
    rintro rfl
    simp at hsplit
  rw [addChildren_apply hc hargs, Run.bind_apply, hsplit, requireAll_first hbefore hwrong,
    requireWellFormed_refuses hwrong]

-- Children are added in the order of the arguments to the list that was there before, and nothing
-- else changes. If there are no arguments or if one of them is not accepted, nothing changes at
-- all, and the failure says what was wrong unless what was refused cannot even be shown.
theorem addChildren_allOrNothing (hc : w.store.childrenOf? v = some (holder, items)) :
    (args = [] → addChildren v args w = .error (.raised (.message .invalidArgument
      "add_children: missing argument(s)")) w) ∧
    (∀ parts, args ≠ [] → List.Forall₂ (Accepts w.store) args parts →
      ∃ s', addChildren v args w = .ok v { w with store := s' } ∧
        s'.childrenOf? v = some (holder, items ++ parts.flatten) ∧
        ∀ x, x ≠ holder → s'.get? x = w.store.get? x) ∧
    ((¬∃ parts, List.Forall₂ (Accepts w.store) args parts) → ∃ bad shown failure,
      Refuses w.store args bad ∧
      shown = w.store.inspect ((w.store.part? bad "type").getD bad) ∧
      addChildren v args w = .error (.raised failure) w ∧
      (∀ text, shown = .ok text → failure = .message .invalidArgument
        ("Invalid ast node: " ++ w.store.className bad ++ " " ++ text)) ∧
      (∀ f, shown = .error f → failure = f ∧ (w.store.WholeNodes → f = Store.tooDeep))) := by
  refine ⟨?_, ?_, ?_⟩
  · rintro rfl
    obtain ⟨p, hnode, -, -⟩ := Store.childrenOf?_eq_some hc
    rw [addChildren, Run.bind_apply, parts_gives _ hnode w rfl]
    rfl
  · intro parts hargs haccepts
    obtain ⟨hparts, hall⟩ := forall₂_accepts_iff.mp haccepts
    have hnodes : args.flatMap (contribution w.store) = parts.flatten := by
      rw [← hparts, List.flatMap_def]
    have hadd := addChildren_of_wellFormed (σ := σ) hc hargs hall w rfl
    rw [hnodes] at hadd
    exact ⟨_, hadd, Store.childrenOf?_put_here hc _, fun x hx => Store.get?_put_elsewhere _ _ hx⟩
  · intro hrefused
    obtain ⟨bad, hbad⟩ := exists_refuses hrefused
    have hadd := addChildren_refuses hc hbad
    cases hshown : w.store.inspect ((w.store.part? bad "type").getD bad) with
    | ok text =>
        rw [Store.refusal, hshown] at hadd
        exact ⟨bad, _, _, hbad, hshown.symm, hadd, by simp, by simp⟩
    | error f =>
        rw [Store.refusal, hshown] at hadd
        refine ⟨bad, _, _, hbad, hshown.symm, hadd, by simp, ?_⟩
        rintro _ ⟨rfl⟩
        exact ⟨rfl, fun hwhole => Store.inspect_onlyTooDeep hwhole _ _ hshown⟩

-- A node with a child that has lost its position, and lists with this child.
private def strippedChild : World Unit where
  store := ⟨#[
    .node ⟨.text "root", .ref 2, .ref 3, .ref 4⟩, .node ⟨.text "leaf", .ref 5, .ref 6, .null⟩,
    .dict {}, .list [.ref 1], .position (.int 0) (.int 0) (.int 0), .dict {}, .list [],
    .list [.ref 8], .list [.ref 1]]⟩
  log := []
  client := ()

-- A list in a list is refused, but it cannot be shown, since a node in it has no line.
theorem addChildren_allOrNothing_strippedChild :
    strippedChild.store.childrenOf? (.ref 0) = some (.ref 3, [.ref 1]) ∧
      addChildren (.ref 0) [.ref 7] strippedChild = .error (.raised (.message .attributeError
        "'NoneType' object has no attribute 'line'")) strippedChild := by
  have hc : strippedChild.store.childrenOf? (.ref 0) = some (.ref 3, [.ref 1]) := rfl
  have hrefused : ¬∃ parts, List.Forall₂ (Accepts strippedChild.store) [.ref 7] parts := by
    rintro ⟨parts, haccepts⟩
    have hall := (forall₂_accepts_iff.mp haccepts).2 (.ref 8) (by decide)
    revert hall
    decide
  obtain ⟨bad, shown, failure, hbad, rfl, hadd, -, hfault⟩ :=
    (addChildren_allOrNothing hc).2.2 hrefused
  have hlist : bad = .ref 8 := by
    obtain ⟨before, after, hsplit, -⟩ := refuses_iff.mp hbad
    obtain ⟨-, hhead⟩ | ⟨rest, -, hrest⟩ := List.cons_eq_append_iff.mp hsplit
    · exact (List.cons.inj hhead).1
    · simp at hrest
  subst hlist
  have hfailure : failure = .message .attributeError
      "'NoneType' object has no attribute 'line'" := (hfault _ rfl).1.trans (by decide)
  exact ⟨hc, by rw [hadd, hfailure]⟩

end ParseKit.Node
