import Mathlib.Data.List.Nodup
import ParseKit.Proofs.Forest.Basic

namespace ParseKit.Forest

variable {α : Type}

-- A forest, and the same one with more trees behind its own on every level. None of the nodes that
-- have come is an old one.
inductive Grown (old : α → Prop) : Forest α → Forest α → Prop where
  | more {fresh : Forest α} (new : ∀ v ∈ fresh.labels, ¬old v) : Grown old .nil fresh
  | cons {root : α} {below below' beside beside' : Forest α} (under : Grown old below below')
      (behind : Grown old beside beside') :
      Grown old (.cons root below beside) (.cons root below' beside')

namespace Grown

variable {old : α → Prop} {f g h : Forest α}

theorem refl (old : α → Prop) (f : Forest α) : Grown old f f := by
  induction f with
  | nil => exact .more (by simp [labels])
  | cons root below beside ihb ihs => exact .cons ihb ihs

theorem weaken {old' : α → Prop} (hg : Grown old f g) (hold : ∀ v, old' v → old v) :
    Grown old' f g := by
  induction hg with
  | more hnew => exact .more fun v hv hv' => hnew v hv (hold v hv')
  | cons _ _ ihb ihs => exact .cons ihb ihs

theorem mem_or {v : α} (hg : Grown old f g) (hv : v ∈ g.labels) : v ∈ f.labels ∨ ¬old v := by
  induction hg with
  | more hnew => exact Or.inr (hnew v hv)
  | cons _ _ ihb ihs =>
      rw [mem_labels_cons] at hv ⊢
      rcases hv with hv | hv | hv
      · exact Or.inl (Or.inl hv)
      · exact (ihb hv).imp (fun h => Or.inr (Or.inl h)) id
      · exact (ihs hv).imp (fun h => Or.inr (Or.inr h)) id

theorem trans (hg : Grown old f g) (hh : Grown old g h) : Grown old f h := by
  induction hg generalizing h with
  | more hnew =>
      refine .more fun v hv hold => ?_
      rcases hh.mem_or hv with hv | hnew'
      · exact hnew v hv hold
      · exact hnew' hold
  | cons _ _ ihb ihs =>
      cases hh with
      | cons hb hs => exact .cons (ihb hb) (ihs hs)

theorem append {fresh : Forest α} (hg : Grown old f g) (hnew : ∀ v ∈ fresh.labels, ¬old v) :
    Grown old f (g.append fresh) := by
  induction hg with
  | more hnew' =>
      refine .more fun v hv => ?_
      rw [labels_append, List.mem_append] at hv
      exact hv.elim (hnew' v) (hnew v)
  | cons hb _ _ ihs => exact .cons hb ihs

theorem roots_prefix (hg : Grown old f g) : f.roots <+: g.roots := by
  induction hg with
  | more => exact List.nil_prefix
  | cons _ _ _ ihs => exact List.prefix_cons_inj _ |>.mpr ihs

theorem labels_sublist (hg : Grown old f g) : f.labels.Sublist g.labels := by
  induction hg with
  | more => exact List.nil_sublist _
  | cons _ _ ihb ihs => exact (ihb.append ihs).cons_cons _

-- The calls for old nodes are those that there were before.
theorem filter_calls [DecidablePred old] (hg : Grown old f g) (hold : ∀ v ∈ f.labels, old v)
    (depth : Nat) : (g.calls depth).filter (fun c => decide (old c.node)) = f.calls depth := by
  induction hg generalizing depth with
  | more hnew =>
      apply List.filter_eq_nil_iff.mpr
      intro c hc
      simpa using hnew c.node (node_mem_labels hc)
  | cons _ _ ihb ihs =>
      simp only [labels, List.cons_append, List.forall_mem_cons, List.forall_mem_append] at hold
      obtain ⟨hroot, hbelow, hbeside⟩ := hold
      simp [calls, hroot, ihb hbelow, ihs hbeside]

end Grown

-- The trees behind the first ones.
def drop : Nat → Forest α → Forest α
  | 0, f => f
  | _ + 1, nil => nil
  | n + 1, cons _ _ beside => beside.drop n

theorem drop_zero (f : Forest α) : f.drop 0 = f := by
  cases f <;> rfl

theorem roots_drop (n : Nat) (f : Forest α) : (f.drop n).roots = f.roots.drop n := by
  induction f generalizing n with
  | nil => cases n <;> simp [drop, roots]
  | cons root below beside _ ihs =>
      cases n with
      | zero => rfl
      | succ n => exact ihs n

theorem drop_succ {f below beside : Forest α} {n : Nat} {root : α}
    (h : f.drop n = cons root below beside) : f.drop (n + 1) = beside := by
  induction f generalizing n with
  | nil => cases n <;> cases h
  | cons root' below' beside' _ ihs =>
      cases n with
      | zero =>
          cases h
          cases beside <;> rfl
      | succ n => exact ihs h

theorem labels_drop_sublist (n : Nat) (f : Forest α) : (f.drop n).labels.Sublist f.labels := by
  induction f generalizing n with
  | nil => cases n <;> exact .slnil
  | cons root below beside _ ihs =>
      cases n with
      | zero => exact List.Sublist.refl _
      | succ n => exact (ihs n).trans (List.sublist_append_right _ _)

theorem Grown.drop {old : α → Prop} {f g : Forest α} (hg : Grown old f g) (n : Nat) :
    Grown old (f.drop n) (g.drop n) := by
  induction hg generalizing n with
  | @more fresh hnew =>
      have hnil : (Forest.nil : Forest α).drop n = .nil := by cases n <;> rfl
      rw [hnil]
      exact .more fun v hv => hnew v ((labels_drop_sublist n fresh).subset hv)
  | cons hb hs _ ihs =>
      cases n with
      | zero => exact .cons hb hs
      | succ n => exact ihs n

section Plant

variable [DecidableEq α] (v : α)

-- More trees below a node, behind those that are there.
def plant : Forest α → Forest α → Forest α
  | nil, _ => nil
  | cons root below beside, fresh =>
    cons root (if root = v then (below.plant fresh).append fresh else below.plant fresh)
      (beside.plant fresh)

theorem roots_plant (f fresh : Forest α) : (f.plant v fresh).roots = f.roots := by
  induction f with
  | nil => rfl
  | cons root below beside _ ihs => rw [plant, roots, roots, ihs]

theorem grown_plant {old : α → Prop} {fresh : Forest α} (hnew : ∀ u ∈ fresh.labels, ¬old u)
    (f : Forest α) : Grown old f (f.plant v fresh) := by
  induction f with
  | nil => exact .refl old .nil
  | cons root below beside ihb ihs =>
      rw [plant]
      by_cases hroot : root = v
      · rw [if_pos hroot]
        exact .cons (ihb.append hnew) ihs
      · rw [if_neg hroot]
        exact .cons ihb ihs

variable {v}

theorem plant_of_not_mem {f : Forest α} (hv : v ∉ f.labels) (fresh : Forest α) :
    f.plant v fresh = f := by
  induction f with
  | nil => rfl
  | cons root below beside ihb ihs =>
      simp only [mem_labels_cons, not_or] at hv
      obtain ⟨hroot, hbelow, hbeside⟩ := hv
      rw [plant, if_neg (Ne.symm hroot), ihb hbelow, ihs hbeside]

theorem labels_plant_perm {f : Forest α} (hdistinct : f.labels.Nodup) (hv : v ∈ f.labels)
    (fresh : Forest α) : (f.plant v fresh).labels.Perm (f.labels ++ fresh.labels) := by
  induction f with
  | nil => cases hv
  | cons root below beside ihb ihs =>
      obtain ⟨hrootBelow, hrootBeside, hbelow, hbeside, hapart⟩ := nodup_labels_cons.mp hdistinct
      rw [mem_labels_cons] at hv
      rw [plant, labels, labels, List.cons_append, List.append_assoc]
      refine List.Perm.cons root ?_
      rcases hv with rfl | hv | hv
      · rw [if_pos rfl, plant_of_not_mem hrootBelow, plant_of_not_mem hrootBeside, labels_append,
          List.append_assoc]
        exact List.perm_append_comm.append_left _
      · have hroot : root ≠ v := fun he => hrootBelow (he ▸ hv)
        have hother : v ∉ beside.labels := fun h => hapart v hv h
        rw [if_neg hroot, plant_of_not_mem hother]
        refine ((ihb hbelow hv).append_right _).trans ?_
        rw [List.append_assoc]
        exact List.perm_append_comm.append_left _
      · have hroot : root ≠ v := fun he => hrootBeside (he ▸ hv)
        have hother : v ∉ below.labels := fun h => hapart v h hv
        rw [if_neg hroot, plant_of_not_mem hother]
        exact (ihs hbeside hv).append_left _

-- Different trees stay different when trees with other nodes come below one of them.
theorem nodup_plant {f fresh : Forest α} (hdistinct : f.labels.Nodup) (hfresh : fresh.labels.Nodup)
    (hapart : ∀ u ∈ f.labels, u ∉ fresh.labels) : (f.plant v fresh).labels.Nodup := by
  by_cases hv : v ∈ f.labels
  · apply (labels_plant_perm hdistinct hv fresh).nodup_iff.mpr
    exact List.nodup_append.mpr ⟨hdistinct, hfresh, fun a ha b hb he => hapart a ha (he ▸ hb)⟩
  · rw [plant_of_not_mem hv]
    exact hdistinct

end Plant

end ParseKit.Forest
