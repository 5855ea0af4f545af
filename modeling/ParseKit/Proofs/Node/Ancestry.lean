import ParseKit.Proofs.Node.Tree

namespace ParseKit.Store

variable {s s' : Store} {u v x a b : Value} {added : List Value}

-- The children of a node, none for what is no node.
def children (s : Store) (v : Value) : List Value := ((s.childrenOf? v).map (·.2)).getD []

theorem children_eq {holder : Value} {items : List Value}
    (h : s.childrenOf? v = some (holder, items)) : s.children v = items := by
  simp [children, h]

theorem childrenOf?_of_mem (h : x ∈ s.children v) :
    ∃ holder, s.childrenOf? v = some (holder, s.children v) := by
  cases hv : s.childrenOf? v with
  | none => simp [children, hv] at h
  | some c => exact ⟨c.1, by simp [children, hv]⟩

namespace Descends

theorem of_mem {depth : Nat} (hx : x ∈ s.children v) (h : s.Descends x depth u) :
    s.Descends v (depth + 1) u :=
  .step (childrenOf?_of_mem hx).choose_spec hx h

theorem exists_first {depth : Nat} (h : s.Descends v (depth + 1) u) :
    ∃ x ∈ s.children v, s.Descends x depth u := by
  cases h with
  | step hc hmem hrest => exact ⟨_, children_eq hc ▸ hmem, hrest⟩

theorem trans {i j : Nat} (h : s.Descends a i b) (h' : s.Descends b j u) :
    s.Descends a (i + j) u := by
  induction h with
  | refl => simpa using h'
  | step hc hmem _ ih =>
      rw [Nat.add_right_comm]
      exact .step hc hmem (ih h')

theorem child {depth : Nat} (h : s.Descends v depth u) (hx : x ∈ s.children u) :
    s.Descends v (depth + 1) x :=
  h.trans (.of_mem hx (.refl x))

theorem exists_last {depth : Nat} (h : s.Descends v (depth + 1) x) :
    ∃ u, s.Descends v depth u ∧ x ∈ s.children u := by
  induction depth generalizing v with
  | zero =>
      obtain ⟨y, hy, hrest⟩ := h.exists_first
      cases hrest
      exact ⟨v, .refl v, hy⟩
  | succ depth ih =>
      obtain ⟨y, hy, hrest⟩ := h.exists_first
      obtain ⟨u, hu, hx⟩ := ih hrest
      exact ⟨u, .of_mem hy hu, hx⟩

end Descends

-- Every node is in one list of children at most, and there only once, and no node is below itself.
structure IsForest (s : Store) : Prop where
  once : ∀ v, (s.children v).Nodup
  oneParent : ∀ u v x, x ∈ s.children u → x ∈ s.children v → u = v
  acyclic : ∀ v depth, ¬s.Descends v (depth + 1) v

-- A value that is nobody's child.
def Orphan (s : Store) (x : Value) : Prop := ∀ v, x ∉ s.children v

-- One node has lost some of its children, and may have got others.
structure Regrown (v : Value) (added : List Value) (s s' : Store) : Prop where
  elsewhere : ∀ u, u ≠ v → s'.children u = s.children u
  here : (s'.children v).Sublist (s.children v ++ added)

namespace Regrown

theorem mem_or (h : Regrown v added s s') (hx : x ∈ s'.children u) :
    x ∈ s.children u ∨ u = v ∧ x ∈ added := by
  by_cases hu : u = v
  · subst hu
    exact (List.mem_append.mp (h.here.subset hx)).imp id fun hx => ⟨rfl, hx⟩
  · exact Or.inl (h.elsewhere u hu ▸ hx)

-- A way down that is new goes through the node that has changed, and from there on through one of
-- those that were added. By induction on the way, whose first step may be the new one.
theorem descends (h : Regrown v added s s') {depth : Nat} (hdown : s'.Descends a depth b) :
    s.Descends a depth b ∨ ∃ n ∈ added, ∃ i j, s.Descends a i v ∧ s.Descends n j b := by
  induction depth generalizing a with
  | zero =>
      cases hdown
      exact Or.inl (.refl _)
  | succ depth ih =>
      obtain ⟨x, hx, hrest⟩ := hdown.exists_first
      rcases h.mem_or hx with hold | ⟨rfl, hnew⟩
      · rcases ih hrest with hsame | ⟨n, hn, i, j, hto, hfrom⟩
        · exact Or.inl (.of_mem hold hsame)
        · exact Or.inr ⟨n, hn, i + 1, j, .of_mem hold hto, hfrom⟩
      · rcases ih hrest with hsame | ⟨n, hn, -, j, -, hfrom⟩
        · exact Or.inr ⟨x, hnew, 0, depth, .refl _, hsame⟩
        · exact Or.inr ⟨n, hn, 0, j, .refl _, hfrom⟩

end Regrown

namespace IsForest

-- What is added to a node has to be different nodes that are nobody's children, and the node must
-- not be one of them or below one of them.
theorem regrown (h : IsForest s) (hgrown : Regrown v added s s') (hdistinct : added.Nodup)
    (horphan : ∀ n ∈ added, s.Orphan n) (hbelow : ∀ n ∈ added, ∀ depth, ¬s.Descends n depth v) :
    IsForest s' where
  once u := by
    by_cases hu : u = v
    · subst hu
      refine List.Nodup.sublist hgrown.here (List.nodup_append.mpr ⟨h.once u, hdistinct, ?_⟩)
      rintro x hx _ hn rfl
      exact horphan x hn u hx
    · rw [hgrown.elsewhere u hu]
      exact h.once u
  oneParent a b x ha hb := by
    rcases hgrown.mem_or ha with ha | ⟨rfl, hn⟩
    · rcases hgrown.mem_or hb with hb | ⟨rfl, hn⟩
      · exact h.oneParent a b x ha hb
      · exact absurd ha (horphan x hn a)
    · rcases hgrown.mem_or hb with hb | ⟨rfl, -⟩
      · exact absurd hb (horphan x hn b)
      · rfl
  acyclic a depth hcycle := by
    rcases hgrown.descends hcycle with hold | ⟨n, hn, i, j, hto, hfrom⟩
    · exact h.acyclic a depth hold
    · exact hbelow n hn (j + i) (hfrom.trans hto)

theorem same_children (h : IsForest s) (hsame : ∀ u, s'.children u = s.children u) :
    IsForest s' := by
  have hgrown : Regrown .null [] s s' := ⟨fun u _ => hsame u, by simp [hsame]⟩
  exact h.regrown hgrown List.nodup_nil (by simp) (by simp)

-- Of two nodes above the same node one is above the other.
theorem above_or (h : IsForest s) {i j : Nat} (ha : s.Descends a i x) (hb : s.Descends b j x) :
    (∃ depth, s.Descends a depth b) ∨ ∃ depth, s.Descends b depth a := by
  induction i generalizing x j with
  | zero =>
      cases ha
      exact Or.inr ⟨j, hb⟩
  | succ i ih =>
      cases j with
      | zero =>
          cases hb
          exact Or.inl ⟨i + 1, ha⟩
      | succ j =>
          obtain ⟨y, hy, hx⟩ := ha.exists_last
          obtain ⟨z, hz, hx'⟩ := hb.exists_last
          cases h.oneParent y z x hx hx'
          exact ih hy hz

end IsForest

end ParseKit.Store
