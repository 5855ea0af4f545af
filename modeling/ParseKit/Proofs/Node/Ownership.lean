import ParseKit.Proofs.Node.Lineage
import ParseKit.Proofs.Node.Operation
import ParseKit.Proofs.Node.Traversal

namespace ParseKit

namespace Store

variable {s s' : Store} {v : Value} {added : List Value}

theorem Proper.children_eq {p : NodeParts} {d : Dictionary} {items : List Value}
    (h : Proper s v p d items) : s.children v = items :=
  Store.children_eq h.childrenOf?

theorem children_of_not_node (h : ¬∃ p, s.get? v = some (.node p)) : s.children v = [] := by
  cases hv : s.childrenOf? v with
  | none => simp [children, hv]
  | some c =>
      obtain ⟨p, hp, -⟩ := childrenOf?_eq_some hv
      exact absurd ⟨p, hp⟩ h

theorem KeepsNodes.children (h : KeepsNodes s s') (hsound : Sound s) (v : Value) :
    s'.children v = s.children v := by
  by_cases hv : ∃ p, s.get? v = some (.node p)
  · obtain ⟨p, hp⟩ := hv
    obtain ⟨d, items, hproper⟩ := hsound.proper v p hp
    rw [hproper.children_eq, (h.proper v p d items hproper).children_eq]
  · have hv' : ¬∃ p, s'.get? v = some (.node p) := fun ⟨p, hp⟩ => hv ⟨p, h.nodes v p hp⟩
    rw [children_of_not_node hv, children_of_not_node hv']

theorem Changed.regrown (h : Changed v added s s') (hsound : Sound s) : Regrown v added s s' where
  elsewhere u hu := by
    by_cases hnode : ∃ p, s.get? u = some (.node p)
    · obtain ⟨p, hp⟩ := hnode
      obtain ⟨d, items, hproper⟩ := hsound.proper u p hp
      rw [hproper.children_eq, (h.proper_other hsound hproper hu).children_eq]
    · have hnode' : ¬∃ p, s'.get? u = some (.node p) := fun ⟨p, hp⟩ => hnode (h.nodes u p hp)
      rw [children_of_not_node hnode, children_of_not_node hnode']
  here := by
    by_cases hnode : ∃ p, s.get? v = some (.node p)
    · obtain ⟨p, hp⟩ := hnode
      obtain ⟨d, old, hproper⟩ := hsound.proper v p hp
      obtain ⟨p', d', items, hproper', -, -, hitems⟩ := h.here p hp
      rw [hproper.children_eq, hproper'.children_eq]
      exact hitems old hproper.children
    · have hnode' : ¬∃ p, s'.get? v = some (.node p) := fun ⟨p, hp⟩ => hnode (h.nodes v p hp)
      rw [children_of_not_node hnode']
      exact List.nil_sublist _

theorem Born.regrown (h : Born v added s s') (hsound : Sound s) : Regrown v added s s' where
  elsewhere u hu := by
    by_cases hnode : ∃ p, s.get? u = some (.node p)
    · obtain ⟨p, hp⟩ := hnode
      obtain ⟨d, items, hproper⟩ := hsound.proper u p hp
      rw [hproper.children_eq, (hproper.of_extends h.grown).children_eq]
    · have hnode' : ¬∃ p, s'.get? u = some (.node p) :=
        fun ⟨p, hp⟩ => hnode ⟨p, h.origin hp hu⟩
      rw [children_of_not_node hnode, children_of_not_node hnode']
  here := by
    obtain ⟨p, d, items, hproper, -, -, hitems⟩ := h.here
    rw [hproper.children_eq]
    exact hitems.trans (List.sublist_append_right _ _)

-- Only nodes are children.
theorem Sound.node_of_mem (hsound : Sound s) {x : Value} (hx : x ∈ s.children v) :
    ∃ q, s.get? x = some (.node q) := by
  obtain ⟨holder, hc⟩ := childrenOf?_of_mem hx
  obtain ⟨p, hp, -, -⟩ := childrenOf?_eq_some hc
  obtain ⟨d, items, hproper⟩ := hsound.proper v p hp
  exact hproper.members x (hproper.children_eq ▸ hx)

namespace IsForest

-- A way down from a node meets no node twice, so that it ends. By induction on how many objects are
-- left for it.
private theorem exists_below (h : IsForest s) (hsound : Sound s) {left : Nat} {path : List Value}
    {p : NodeParts} (hv : s.get? v = some (.node p)) (hdistinct : path.Nodup)
    (habove : ∀ u ∈ path, s.get? u ≠ none ∧ ∃ depth, s.Descends u (depth + 1) v)
    (hleft : s.size + 1 ≤ path.length + left) : ∃ below, (Forest.cons v below .nil).In s := by
  induction left generalizing v p path with
  | zero =>
      have := length_le_size hdistinct fun u hu => (habove u hu).1
      omega
  | succ left ih =>
      have hnew : v ∉ path := by
        intro hpath
        obtain ⟨-, depth, hcycle⟩ := habove v hpath
        exact h.acyclic v depth hcycle
      have hchild : ∀ x ∈ s.children v, ∃ below, (Forest.cons x below .nil).In s := by
        intro x hx
        obtain ⟨q, hq⟩ := hsound.node_of_mem hx
        refine ih hq (List.nodup_cons.mpr ⟨hnew, hdistinct⟩) ?_ (by simp only [List.length_cons]; omega)
        intro u hu
        rcases List.mem_cons.mp hu with rfl | hu
        · exact ⟨by simp [hv], 0, .of_mem hx (.refl x)⟩
        · obtain ⟨hthere, depth, hdown⟩ := habove u hu
          exact ⟨hthere, depth + 1, hdown.child hx⟩
      have hforest : ∀ items : List Value,
          (∀ x ∈ items, ∃ below, (Forest.cons x below .nil).In s) →
          ∃ f : Forest Value, f.In s ∧ f.roots = items := by
        intro items hitems
        induction items with
        | nil => exact ⟨.nil, trivial, rfl⟩
        | cons x rest ihs =>
            obtain ⟨below, hx, hbelow, -⟩ := hitems x (by simp)
            obtain ⟨beside, hbeside, hroots⟩ := ihs fun y hy => hitems y (by simp [hy])
            exact ⟨.cons x below beside, ⟨hx, hbelow, hbeside⟩, by rw [Forest.roots, hroots]⟩
      obtain ⟨below, hbelow, hroots⟩ := hforest _ hchild
      obtain ⟨d, items, hproper⟩ := hsound.proper v p hv
      refine ⟨below, ⟨p.children, ?_⟩, hbelow, trivial⟩
      rw [hroots, hproper.childrenOf?, hproper.children_eq]

theorem exists_tree (h : IsForest s) (hsound : Sound s) {p : NodeParts}
    (hv : s.get? v = some (.node p)) : ∃ below, (Forest.cons v below .nil).In s :=
  exists_below h hsound hv List.nodup_nil (by simp) (Nat.le_add_left _ _)

end IsForest

end Store

-- Trees in a store share no nodes if no root is below another one.
theorem Store.IsForest.nodup_labels {s : Store} (h : s.IsForest) {f : Forest Value} (hin : f.In s)
    (hroots : f.roots.Nodup)
    (hapart : ∀ a ∈ f.roots, ∀ b ∈ f.roots, ∀ depth, ¬s.Descends a (depth + 1) b) :
    f.labels.Nodup := by
  induction f with
  | nil => exact List.nodup_nil
  | cons root below beside ihb ihs =>
      obtain ⟨⟨holder, hc⟩, hbelow, hbeside⟩ := hin
      have hchildren : s.children root = below.roots := Store.children_eq hc
      obtain ⟨hroot, hrest⟩ := List.nodup_cons.mp hroots
      have hdown : ∀ x ∈ below.labels, ∃ depth, s.Descends root (depth + 1) x := by
        intro x hx
        obtain ⟨u, hu, depth, hux⟩ := Forest.descends_of_mem_labels hbelow hx
        exact ⟨depth, .step hc hu hux⟩
      -- a root beside that leads to a node below this one, or to this one, is above or below it
      have hbesideApart : ∀ x ∈ beside.labels, ∀ depth, ¬s.Descends root depth x := by
        intro x hx depth hrx
        obtain ⟨u, hu, depth', hux⟩ := Forest.descends_of_mem_labels hbeside hx
        have hne : root ≠ u := fun he => hroot (he ▸ hu)
        rcases h.above_or hrx hux with ⟨_ | k, hk⟩ | ⟨_ | k, hk⟩
        · cases hk
          exact hne rfl
        · exact hapart root (by simp [Forest.roots]) u (by simp [Forest.roots, hu]) k hk
        · cases hk
          exact hne rfl
        · exact hapart u (by simp [Forest.roots, hu]) root (by simp [Forest.roots]) k hk
      have hnodupBelow : below.labels.Nodup := by
        refine ihb hbelow (hchildren ▸ h.once root) fun a ha b hb depth hab => ?_
        obtain ⟨y, hay, hby⟩ := hab.exists_last
        cases h.oneParent root y b (hchildren ▸ hb) hby
        exact h.acyclic root depth (.step hc ha hay)
      have hnodupBeside : beside.labels.Nodup :=
        ihs hbeside hrest fun a ha b hb =>
          hapart a (by simp [Forest.roots, ha]) b (by simp [Forest.roots, hb])
      simp only [Forest.labels, List.cons_append, List.nodup_cons, List.nodup_append,
        List.mem_append, not_or]
      refine ⟨⟨fun hx => ?_, fun hx => hbesideApart root hx 0 (.refl root)⟩, hnodupBelow,
        hnodupBeside, ?_⟩
      · obtain ⟨depth, hcycle⟩ := hdown root hx
        exact h.acyclic root depth hcycle
      · rintro x hx _ hx' rfl
        obtain ⟨depth, hrx⟩ := hdown x hx
        exact hbesideApart x hx' _ hrx

end ParseKit
