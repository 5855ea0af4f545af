import ParseKit.Proofs.Forest.Basic

namespace ParseKit.Forest

variable {α : Type}

-- The calls ahead of the one that closes a node, the depth of the node, and the forest below it.
inductive Closes : Forest α → Nat → List (Call α) → α → Nat → Forest α → Prop where
  | here (root : α) (below beside : Forest α) (depth : Nat) :
      Closes (.cons root below beside) depth
        (⟨root, depth, .before⟩ :: below.calls (depth + 1)) root depth below
  | under {root : α} {below beside inner : Forest α} {depth e : Nat} {calls : List (Call α)}
      {v : α} (rest : Closes below (depth + 1) calls v e inner) :
      Closes (.cons root below beside) depth (⟨root, depth, .before⟩ :: calls) v e inner
  | behind {root : α} {below beside inner : Forest α} {depth e : Nat} {calls : List (Call α)}
      {v : α} (rest : Closes beside depth calls v e inner) :
      Closes (.cons root below beside) depth
        (⟨root, depth, .before⟩ :: below.calls (depth + 1) ++ ⟨root, depth, .after⟩ :: calls)
        v e inner

-- Wherever a node is closed, it has been opened, and the walk has been through what is below it.
theorem exists_closing {f : Forest α} {depth e : Nat} {calls rest : List (Call α)} {v : α}
    (h : f.calls depth = calls ++ ⟨v, e, .after⟩ :: rest) :
    ∃ inner, Closes f depth calls v e inner := by
  induction f generalizing depth calls rest with
  | nil => simp [Forest.calls] at h
  | cons root below beside ihb ihs =>
      cases calls with
      | nil => simp [Forest.calls] at h
      | cons c calls =>
          simp only [Forest.calls, List.cons_append, List.cons.injEq] at h
          obtain ⟨rfl, h⟩ := h
          rcases List.append_eq_append_iff.mp h with ⟨more, rfl, htail⟩ | ⟨more, hbelow, htail⟩
          · cases more with
            | nil =>
                cases htail
                rw [List.append_nil]
                exact ⟨below, .here _ _ _ _⟩
            | cons c more =>
                simp only [List.cons_append, List.cons.injEq] at htail
                obtain ⟨rfl, hbeside⟩ := htail
                obtain ⟨inner, hinner⟩ := ihs hbeside
                exact ⟨inner, .behind hinner⟩
          · cases more with
            | nil =>
                cases htail
                rw [List.append_nil] at hbelow
                rw [← hbelow]
                exact ⟨below, .here _ _ _ _⟩
            | cons c more =>
                simp only [List.cons_append, List.cons.injEq] at htail
                obtain ⟨rfl, -⟩ := htail
                obtain ⟨inner, hinner⟩ := ihb hbelow
                exact ⟨inner, .under hinner⟩

-- Every node that is no root comes from the forest below another one.
theorem exists_parent {f : Forest α} {x : α} (hx : x ∈ f.labels) (depth : Nat) :
    x ∈ f.roots ∨ ∃ calls v e inner, Closes f depth calls v e inner ∧ x ∈ inner.roots := by
  induction f generalizing depth with
  | nil => cases hx
  | cons root below beside ihb ihs =>
      rw [mem_labels_cons] at hx
      simp only [roots, List.mem_cons]
      rcases hx with rfl | hx | hx
      · exact Or.inl (Or.inl rfl)
      · refine Or.inr ?_
        rcases ihb hx (depth + 1) with hroot | ⟨calls, v, e, inner, hclosing, hmem⟩
        · exact ⟨_, _, _, below, .here root below beside depth, hroot⟩
        · exact ⟨_, _, _, inner, .under hclosing, hmem⟩
      · rcases ihs hx depth with hroot | ⟨calls, v, e, inner, hclosing, hmem⟩
        · exact Or.inl (Or.inr hroot)
        · exact Or.inr ⟨_, _, _, inner, .behind hclosing, hmem⟩

theorem mem_calls_of_mem_roots {f : Forest α} {x : α} (hx : x ∈ f.roots) (depth : Nat)
    (phase : Phase) : ⟨x, depth, phase⟩ ∈ f.calls depth := by
  induction f with
  | nil => cases hx
  | cons root below beside _ ihs =>
      simp only [calls, List.cons_append, List.mem_cons, List.mem_append]
      rcases List.mem_cons.mp hx with rfl | hx
      · cases phase <;> simp
      · exact Or.inr (Or.inr (Or.inr (ihs hx)))

-- Of two roots the first one is closed before the second one is opened.
theorem sublist_of_roots {f : Forest α} {u x : α} (h : [u, x].Sublist f.roots) (depth : Nat) :
    [⟨u, depth, .after⟩, ⟨x, depth, .before⟩].Sublist (f.calls depth) := by
  induction f with
  | nil => cases h
  | cons root below beside _ ihs =>
      rw [calls]
      cases h with
      | cons _ h =>
          exact (ihs h).trans ((List.sublist_cons_self _ _).trans (List.sublist_append_right _ _))
      | cons_cons _ h =>
          have hx := mem_calls_of_mem_roots (List.singleton_sublist.mp h) depth .before
          exact ((List.singleton_sublist.mpr hx).cons_cons _).trans (List.sublist_append_right _ _)

namespace Closes

variable {f inner inner' : Forest α} {depth e e' : Nat} {calls calls' : List (Call α)} {u v x : α}

theorem split (h : Closes f depth calls v e inner) :
    ∃ rest, f.calls depth = calls ++ ⟨v, e, .after⟩ :: rest := by
  induction h with
  | here root below beside depth => exact ⟨beside.calls depth, rfl⟩
  | @under root below beside inner depth e calls v _ ih =>
      obtain ⟨rest, hrest⟩ := ih
      exact ⟨rest ++ ⟨root, depth, .after⟩ :: beside.calls depth, by simp [Forest.calls, hrest]⟩
  | behind _ ih =>
      obtain ⟨rest, hrest⟩ := ih
      exact ⟨rest, by simp [Forest.calls, hrest]⟩

theorem calls_prefix (h : Closes f depth calls v e inner) : calls <+: f.calls depth := by
  obtain ⟨rest, hrest⟩ := h.split
  exact hrest ▸ List.prefix_append _ _

theorem mem_labels (h : Closes f depth calls v e inner) : v ∈ f.labels := by
  obtain ⟨rest, hrest⟩ := h.split
  have hcall : (⟨v, e, .after⟩ : Call α) ∈ f.calls depth := by simp [hrest]
  exact node_mem_labels hcall

-- What is below a node is done by then.
theorem sublist (h : Closes f depth calls v e inner) : (inner.calls (e + 1)).Sublist calls := by
  induction h with
  | here => exact List.sublist_cons_self _ _
  | under _ ih => exact ih.trans (List.sublist_cons_self _ _)
  | behind _ ih =>
      exact ih.trans ((List.sublist_cons_self _ _).trans (List.sublist_append_right _ _))

-- If all nodes are different, each of them is closed once.
theorem unique (hdistinct : f.labels.Nodup) (h : Closes f depth calls v e inner)
    (h' : Closes f depth calls' v e' inner') : calls = calls' ∧ inner = inner' := by
  induction h generalizing calls' e' with
  | here root below beside depth =>
      obtain ⟨hbelow, hbeside, -⟩ := nodup_labels_cons.mp hdistinct
      cases h' with
      | here => exact ⟨rfl, rfl⟩
      | under h' => exact absurd h'.mem_labels hbelow
      | behind h' => exact absurd h'.mem_labels hbeside
  | under h ih =>
      obtain ⟨hroot, -, hbelow, -, hapart⟩ := nodup_labels_cons.mp hdistinct
      cases h' with
      | here => exact absurd h.mem_labels hroot
      | under h' =>
          obtain ⟨rfl, rfl⟩ := ih hbelow h'
          exact ⟨rfl, rfl⟩
      | behind h' => exact absurd h'.mem_labels (hapart _ h.mem_labels)
  | behind h ih =>
      obtain ⟨-, hroot, -, hbeside, hapart⟩ := nodup_labels_cons.mp hdistinct
      cases h' with
      | here => exact absurd h.mem_labels hroot
      | under h' => exact absurd h.mem_labels (hapart _ h'.mem_labels)
      | behind h' =>
          obtain ⟨rfl, rfl⟩ := ih hbeside h'
          exact ⟨rfl, rfl⟩

end Closes

end ParseKit.Forest
