import Mathlib.Data.List.Nodup
import Mathlib.Data.List.Pairwise
import ParseKit.Proofs.Node.Ancestry

namespace ParseKit.Forest

variable {s : Store} {f : Forest Value} {a b v x : Value}

theorem descends_of_mem_labels (h : f.In s) (hv : v ∈ f.labels) :
    ∃ u ∈ f.roots, ∃ depth, s.Descends u depth v := by
  induction f with
  | nil => cases hv
  | cons root below beside ihb ihs =>
      obtain ⟨⟨holder, hc⟩, hbelow, hbeside⟩ := h
      rw [mem_labels_cons] at hv
      rcases hv with rfl | hv | hv
      · exact ⟨v, by simp [roots], 0, .refl v⟩
      · obtain ⟨u, hu, depth, hdown⟩ := ihb hbelow hv
        exact ⟨root, by simp [roots], depth + 1, .step hc hu hdown⟩
      · obtain ⟨u, hu, hdown⟩ := ihs hbeside hv
        exact ⟨u, by simp [roots, hu], hdown⟩

theorem mem_labels_of_descends {u : Value} {depth : Nat} (h : f.In s) (hu : u ∈ f.roots)
    (hdown : s.Descends u depth v) : v ∈ f.labels := by
  have hcall : ⟨v, 0 + depth, Phase.before⟩ ∈ f.calls 0 :=
    (mem_calls_iff h 0 v _ .before).mpr ⟨u, hu, depth, rfl, hdown⟩
  exact node_mem_labels hcall

theorem childrenOf?_of_mem_labels (h : f.In s) (hv : v ∈ f.labels) :
    ∃ holder, s.childrenOf? v = some (holder, s.children v) := by
  induction f with
  | nil => cases hv
  | cons root below beside ihb ihs =>
      obtain ⟨⟨holder, hc⟩, hbelow, hbeside⟩ := h
      rw [mem_labels_cons] at hv
      rcases hv with rfl | hv | hv
      · exact ⟨holder, by rw [Store.children_eq hc, hc]⟩
      · exact ihb hbelow hv
      · exact ihs hbeside hv

-- Every node is a root, or a child of one of the nodes.
theorem labels_perm (h : f.In s) : f.labels.Perm (f.roots ++ f.labels.flatMap s.children) := by
  induction f with
  | nil => exact .nil
  | cons root below beside ihb ihs =>
      obtain ⟨⟨holder, hc⟩, hbelow, hbeside⟩ := h
      simp only [labels, roots, List.cons_append, List.flatMap_cons, List.flatMap_append,
        Store.children_eq hc]
      refine List.Perm.cons root ?_
      have hall := (ihb hbelow).append (ihs hbeside)
      rw [List.append_assoc] at hall
      exact hall.trans (((List.perm_append_comm_assoc _ _ _).append_left _).trans
        (List.perm_append_comm_assoc _ _ _))

section

variable (h : f.In s) (hdistinct : f.labels.Nodup)

include h hdistinct

theorem nodup_roots_children : (f.roots ++ f.labels.flatMap s.children).Nodup :=
  (labels_perm h).nodup_iff.mp hdistinct

theorem nodup_children (ha : a ∈ f.labels) : (s.children a).Nodup := by
  have hall := (List.nodup_append.mp (nodup_roots_children h hdistinct)).2.1
  exact (List.nodup_flatMap.mp hall).1 a ha

theorem not_mem_children_of_mem_roots (hx : x ∈ f.roots) (ha : a ∈ f.labels) :
    x ∉ s.children a := by
  intro hxa
  have hapart := (List.nodup_append.mp (nodup_roots_children h hdistinct)).2.2
  exact hapart x hx x (List.mem_flatMap.mpr ⟨a, ha, hxa⟩) rfl

theorem parent_unique (ha : a ∈ f.labels) (hb : b ∈ f.labels) (hxa : x ∈ s.children a)
    (hxb : x ∈ s.children b) : a = b := by
  have hall := (List.nodup_append.mp (nodup_roots_children h hdistinct)).2.1
  have hsymm : Std.Symm (Function.onFun List.Disjoint s.children) :=
    ⟨fun _ _ h _ hx hy => h hy hx⟩
  by_contra hne
  exact (List.nodup_flatMap.mp hall).2.forall ha hb hne hxa hxb

end

theorem mem_labels_of_mem_children (h : f.In s) (ha : a ∈ f.labels) (hx : x ∈ s.children a) :
    x ∈ f.labels :=
  (labels_perm h).mem_iff.mpr
    (List.mem_append_right _ (List.mem_flatMap.mpr ⟨a, ha, hx⟩))

theorem mem_labels_of_below {depth : Nat} (h : f.In s) (ha : a ∈ f.labels)
    (hdown : s.Descends a depth v) : v ∈ f.labels := by
  obtain ⟨u, hu, _, habove⟩ := descends_of_mem_labels h ha
  exact mem_labels_of_descends h hu (habove.trans hdown)

-- Where everything but the roots has come from a parent, what has come from below a child has made
-- its parent the child's. By induction on the way down from the child, taken from its end.
theorem parent_of_below (h : f.In s) (hdistinct : f.labels.Nodup) {Q : Value → Prop}
    {R : Value → Value → Prop}
    (hup : ∀ y, Q y → y ∈ f.roots ∨ ∃ q ∈ f.labels, Q q ∧ R q y)
    (hR : ∀ q y, R q y → y ∈ s.children q) (ha : a ∈ f.labels) (hx : x ∈ s.children a)
    {depth : Nat} {u : Value} (hdown : s.Descends x depth u) (hu : Q u) : R a x := by
  have hmem := mem_labels_of_mem_children h ha hx
  induction depth generalizing u with
  | zero =>
      cases hdown
      rcases hup x hu with hroot | ⟨q, hq, -, hqx⟩
      · exact absurd hx (not_mem_children_of_mem_roots h hdistinct hroot ha)
      · exact parent_unique h hdistinct hq ha (hR q x hqx) hx ▸ hqx
  | succ depth ih =>
      obtain ⟨y, hy, huy⟩ := hdown.exists_last
      have hyf := mem_labels_of_below h hmem hy
      rcases hup u hu with hroot | ⟨q, hq, hQ, hqu⟩
      · exact absurd huy (not_mem_children_of_mem_roots h hdistinct hroot hyf)
      · cases parent_unique h hdistinct hq hyf (hR q u hqu) huy
        exact ih hy hQ

end ParseKit.Forest
