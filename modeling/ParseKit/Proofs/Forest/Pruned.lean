import ParseKit.Proofs.Forest.Basic

namespace ParseKit.Forest

variable {α : Type} (cut : α → Bool)

-- The trees that are seen, with what is seen below them. The flag says that the first tree is to be
-- passed over.
def seen : Bool → Forest α → Forest α
  | _, nil => nil
  | true, cons _ _ beside => beside.seen false
  | false, cons root below beside => cons root (below.seen false) (beside.seen (cut root))

-- Only the last one of several nodes beside each other may be cut.
def LastCut : Forest α → Prop
  | nil => True
  | cons root below beside => below.LastCut ∧ beside.LastCut ∧ (cut root = true → beside = nil)

theorem calls_seen_sublist (missed : Bool) (f : Forest α) (depth : Nat) :
    ((f.seen cut missed).calls depth).Sublist (f.calls depth) := by
  induction f generalizing missed depth with
  | nil => cases missed <;> exact .slnil
  | cons root below beside ihb ihs =>
      cases missed with
      | true =>
          rw [calls]
          exact (ihs false depth).trans
            (((List.sublist_cons_self _ _).trans (List.sublist_append_right _ _)))
      | false =>
          have hbelow := ihb false (depth + 1)
          have hbeside := ihs (cut root) depth
          exact ((hbelow.append (hbeside.cons_cons _)).cons_cons _)

theorem labels_seen_sublist (missed : Bool) (f : Forest α) :
    (f.seen cut missed).labels.Sublist f.labels := by
  induction f generalizing missed with
  | nil => cases missed <;> exact .slnil
  | cons root below beside ihb ihs =>
      cases missed with
      | true =>
          rw [labels]
          exact (ihs false).trans (List.sublist_append_right _ _)
      | false => exact ((ihb false).cons_cons root).append (ihs (cut root))

theorem size_seen_le (missed : Bool) (f : Forest α) : (f.seen cut missed).size ≤ f.size := by
  have hlength := (labels_seen_sublist cut missed f).length_le
  rwa [length_labels, length_labels] at hlength

theorem seen_of_lastCut {f : Forest α} (h : f.LastCut cut) : f.seen cut false = f := by
  induction f with
  | nil => rfl
  | cons root below beside ihb ihs =>
      obtain ⟨hbelow, hbeside, hlast⟩ := h
      rw [seen, ihb hbelow]
      by_cases hcut : cut root = true
      · rw [hlast hcut]
        rfl
      · rw [Bool.eq_false_iff.mpr hcut, ihs hbeside]

-- A tree that is passed over is missing from the size.
theorem lastCut_of_size {f : Forest α} (h : (f.seen cut false).size = f.size) : f.LastCut cut := by
  induction f with
  | nil => trivial
  | cons root below beside ihb ihs =>
      simp only [seen, size] at h
      have hbelow := size_seen_le cut false below
      have hbeside := size_seen_le cut (cut root) beside
      have hlast : cut root = true → beside = nil := by
        intro hcut
        cases beside with
        | nil => rfl
        | cons root' below' beside' =>
            have hrest := size_seen_le cut false beside'
            simp only [hcut, seen, size] at h
            omega
      refine ⟨ihb (by omega), ?_, hlast⟩
      by_cases hcut : cut root = true
      · rw [hlast hcut]
        trivial
      · apply ihs
        rw [← Bool.eq_false_iff.mpr hcut]
        omega

theorem length_filter_calls_after (f : Forest α) (depth : Nat) :
    ((f.calls depth).filter fun c => WalkMode.after.asks c.phase).length = f.size := by
  induction f generalizing depth with
  | nil => rfl
  | cons root below beside ihb ihs =>
      have hopen : WalkMode.after.asks .before = false := rfl
      have hclose : WalkMode.after.asks .after = true := rfl
      simp only [calls, size, List.filter_append, List.cons_append, List.filter_cons, hopen,
        hclose, Bool.false_eq_true, if_false, if_true, List.length_append, List.length_cons,
        ihb, ihs]
      omega

-- All nodes are closed exactly if no tree is passed over.
theorem closings_seen_iff (f : Forest α) (depth : Nat) :
    ((f.seen cut false).calls depth).filter (fun c => WalkMode.after.asks c.phase) =
      (f.calls depth).filter (fun c => WalkMode.after.asks c.phase) ↔ f.LastCut cut := by
  constructor
  · intro h
    apply lastCut_of_size
    rw [← length_filter_calls_after _ depth, h, length_filter_calls_after]
  · intro h
    rw [seen_of_lastCut cut h]

end ParseKit.Forest
