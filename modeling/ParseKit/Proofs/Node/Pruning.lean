import ParseKit.Proofs.Forest.Pruned
import ParseKit.Proofs.Node.Calls
import ParseKit.Proofs.Node.Effects
import ParseKit.Proofs.Node.Lineage

namespace ParseKit.Node

variable {σ : Type}

-- A visitor that takes every cut node from its parent, and changes no other part of the store.
structure Prunes (cut : Value → Bool) (parent : Value → Value)
    (visit : Value → Nat → Phase → Run σ Unit) : Prop where
  pass : ∀ v depth phase w, cut v = false →
    ∃ w', visit v depth phase w = .ok () w' ∧ w'.store = w.store
  prune : ∀ v depth phase w r w₁, cut v = true → removeChildren (parent v) [v] w = .ok r w₁ →
    ∃ w', visit v depth phase w = .ok () w' ∧ w'.store = w₁.store

-- The nodes of a tree have the children that they had at first, less those that are gone.
def Thinned (s₀ : Store) (tree : Forest Value) (gone : List Value) (s : Store) : Prop :=
  ∀ v ∈ tree.labels, ∀ holder items, s₀.childrenOf? v = some (holder, items) →
    s.childrenOf? v = some (holder, items.filter (· ∉ gone))

section Thinned

variable {s₀ s : Store} {tree : Forest Value} {gone gone' : List Value} {v : Value}

theorem thinned_nil (s₀ : Store) (tree : Forest Value) : Thinned s₀ tree [] s₀ := by
  intro v _ holder items hc
  simpa using hc

theorem Thinned.congr (h : Thinned s₀ tree gone s) (hsame : ∀ x, x ∈ gone ↔ x ∈ gone') :
    Thinned s₀ tree gone' s := by
  intro v hv holder items hc
  rw [h v hv holder items hc]
  simp only [hsame]

-- A child is taken out of the list of its parent, and of no other list of the tree.
theorem Thinned.remove {w : World σ} {parent : Value} (hin : tree.In s₀)
    (hdistinct : tree.labels.Nodup) (h : Thinned s₀ tree gone w.store)
    (hparent : parent ∈ tree.labels) (hchild : v ∈ s₀.children parent) (hthere : v ∉ gone) :
    ∃ w', removeChildren parent [v] w = .ok parent w' ∧ Thinned s₀ tree (v :: gone) w'.store := by
  obtain ⟨holder, hc₀⟩ := Store.childrenOf?_of_mem hchild
  have hc := h parent hparent holder _ hc₀
  have hmem : v ∈ (s₀.children parent).filter (· ∉ gone) := by simp [hchild, hthere]
  refine ⟨_, removeChildren_child hc hmem, ?_⟩
  obtain ⟨-, -, -, hlist⟩ := Store.childrenOf?_eq_some hc
  intro u hu holder' items hu₀
  rw [Store.childrenOf?_put_list hlist, h u hu holder' items hu₀, Option.map_some]
  by_cases hv : v ∈ items
  · have hsame : u = parent :=
      Forest.parent_unique hin hdistinct hu hparent (Store.children_eq hu₀ ▸ hv) hchild
    subst hsame
    obtain ⟨rfl, rfl⟩ := Prod.mk.inj (Option.some.inj (hc₀.symm.trans hu₀))
    have hnodup := (Forest.nodup_children hin hdistinct hu).filter (· ∉ gone)
    rw [if_pos rfl, hnodup.erase_eq_filter, List.filter_filter]
    congr 2
    apply List.filter_congr
    intro x _
    by_cases hx : x = v <;> simp [hx]
  · have hother : holder' ≠ holder := by
      rintro rfl
      obtain ⟨-, -, -, hlist₀⟩ := Store.childrenOf?_eq_some hc₀
      obtain ⟨-, -, -, hlist'⟩ := Store.childrenOf?_eq_some hu₀
      cases hlist₀.symm.trans hlist'
      exact hv hchild
    rw [if_neg hother]
    congr 2
    apply List.filter_congr
    intro x hx
    have hne : x ≠ v := fun he => hv (he ▸ hx)
    simp [hne]

end Thinned

section Loop

variable {s₀ : Store} {tree : Forest Value} {cut : Value → Bool} {parent : Value → Value}
  {visit : Value → Nat → Phase → Run σ Unit} {gone : List Value} {made : List (Call Value)}
  {w : World σ} {v : Value} {depth : Nat}

-- What is cut in the tree has its parent there.
def Parented (s₀ : Store) (tree : Forest Value) (cut : Value → Bool) (parent : Value → Value) :
    Prop :=
  ∀ v ∈ tree.labels, cut v = true → parent v ∈ tree.labels ∧ v ∈ s₀.children (parent v)

-- The call that closes a node takes it out if it is cut.
theorem visitAll_closing (hin : tree.In s₀) (hdistinct : tree.labels.Nodup)
    (hparent : Parented s₀ tree cut parent) (hvisit : Prunes cut parent visit)
    (hv : v ∈ tree.labels) (hthere : v ∉ gone) (hthin : Thinned s₀ tree gone w.store)
    (made : List (Call Value)) (depth : Nat) :
    ∃ w', visitAll (listing visit) made (selected .after [⟨v, depth, .after⟩]) w =
        .ok (made ++ selected .after [⟨v, depth, .after⟩]) w' ∧
      Thinned s₀ tree ([v].filter cut ++ gone) w'.store := by
  have hcall : ∃ w', visit v depth .after w = .ok () w' ∧
      Thinned s₀ tree ([v].filter cut ++ gone) w'.store := by
    by_cases hcut : cut v = true
    · obtain ⟨hmem, hchild⟩ := hparent v hv hcut
      obtain ⟨w₁, hremove, hthin₁⟩ := hthin.remove hin hdistinct hmem hchild hthere
      obtain ⟨w', hrun, hstore⟩ := hvisit.prune v depth .after w _ w₁ hcut hremove
      refine ⟨w', hrun, ?_⟩
      rw [hstore]
      simpa [hcut] using hthin₁
    · obtain ⟨w', hrun, hstore⟩ := hvisit.pass v depth .after w (Bool.eq_false_iff.mpr hcut)
      refine ⟨w', hrun, ?_⟩
      rw [hstore]
      simpa [hcut] using hthin
  obtain ⟨w', hrun, hthin'⟩ := hcall
  exact ⟨w', visitAll_listing_ok.mpr ⟨rfl, leads_singleton.mpr hrun⟩, hthin'⟩

-- A node is done when the loop over its children is, and then it is closed.
private theorem walkNode_of_loop (hin : tree.In s₀) (hdistinct : tree.labels.Nodup)
    (hparent : Parented s₀ tree cut parent) (hvisit : Prunes cut parent visit)
    {below : Forest Value} {holder : Value} {fuel : Nat} (hv : v ∈ tree.labels)
    (hc : s₀.childrenOf? v = some (holder, below.roots)) (hthere : v ∉ gone)
    (hbelow : ∀ u ∈ below.labels, u ∉ gone) (houtside : v ∉ below.labels)
    (hthin : Thinned s₀ tree gone w.store)
    (hloop : ∀ loop : Loop, loop.holder = holder → loop.place = 0 → ∃ w',
      walkChildren .after (listing visit) fuel made depth loop w =
        .ok (made ++ selected .after ((below.seen cut false).calls (depth + 1))) w' ∧
      Thinned s₀ tree ((below.seen cut false).labels.filter cut ++ gone) w'.store) :
    ∃ w', walkNode .after (listing visit) (fuel + 1) made v depth w =
        .ok (made ++ selected .after ((Forest.cons v (below.seen cut false) .nil).calls depth)) w' ∧
      Thinned s₀ tree ((Forest.cons v (below.seen cut false) .nil).labels.filter cut ++ gone)
        w'.store := by
  have hopen : selected .after [⟨v, depth, .before⟩] = [] := rfl
  have hchildren : w.store.childrenOf? v = some (holder, below.roots) := by
    have hall : below.roots.filter (· ∉ gone) = below.roots :=
      List.filter_eq_self.mpr fun u hu => by
        simpa using hbelow u (Forest.mem_labels_of_mem_roots hu)
    rw [hthin v hv holder _ hc, hall]
  obtain ⟨w₁, hrun, hthin₁⟩ := hloop ⟨holder, 0, _, _⟩ rfl rfl
  have hthere₁ : v ∉ (below.seen cut false).labels.filter cut ++ gone := by
    intro hmem
    rcases List.mem_append.mp hmem with hmem | hmem
    · exact houtside ((Forest.labels_seen_sublist cut false below).subset (List.mem_filter.mp hmem).1)
    · exact hthere hmem
  obtain ⟨w', hclose, hthin'⟩ := visitAll_closing hin hdistinct hparent hvisit hv hthere₁ hthin₁
    (made ++ selected .after ((below.seen cut false).calls (depth + 1))) depth
  refine ⟨w', ?_, hthin'.congr fun x => ?_⟩
  · have hfirst : visitAll (listing visit) made (selected .after [⟨v, depth, .before⟩]) w =
        .ok made w := rfl
    rw [walkNode_succ, Run.bind_apply, hfirst]
    dsimp only
    rw [Run.bind_apply, Run.inspect_ok (overChildren_eq hchildren)]
    dsimp only
    rw [Run.bind_apply, hrun]
    dsimp only
    rw [hclose, selected_calls_tree, hopen, List.nil_append, List.append_assoc]
  · simp only [Forest.labels, List.append_nil, List.mem_append, List.mem_filter, List.mem_cons,
      List.not_mem_nil, or_false]
    tauto

-- A loop over the children of a node with the trees that are still to come. Those ahead of them are
-- done, and what was cut of them is gone. If the last one was cut, the loop is one place too far.
structure Pending (s₀ : Store) (tree : Forest Value) (gone : List Value) (node : Value)
    (loop : Loop) (ahead : List Value) (missed : Bool) (f : Forest Value) : Prop where
  forest : f.In s₀
  labels : ∀ u ∈ f.labels, u ∈ tree.labels
  nodup : f.labels.Nodup
  member : node ∈ tree.labels
  children : s₀.childrenOf? node = some (loop.holder, ahead ++ f.roots)
  apart : ∀ u ∈ ahead, u ∉ f.labels
  there : ∀ u ∈ f.labels, u ∉ gone
  place : loop.place = (ahead.filter (· ∉ gone)).length + missed.toNat

namespace Pending

variable {node : Value} {loop : Loop} {ahead : List Value} {missed : Bool}
  {f below beside : Forest Value}

theorem childrenOf? (h : Pending s₀ tree gone node loop ahead missed f)
    (hthin : Thinned s₀ tree gone w.store) :
    w.store.childrenOf? node = some (loop.holder, ahead.filter (· ∉ gone) ++ f.roots) := by
  have hroots : f.roots.filter (· ∉ gone) = f.roots :=
    List.filter_eq_self.mpr fun u hu => by
      simpa using h.there u (Forest.mem_labels_of_mem_roots hu)
  rw [hthin node h.member _ _ h.children, List.filter_append, hroots]

-- The loop over the children of the next node starts with all of them.
theorem enter (h : Pending s₀ tree gone node loop ahead missed (.cons v below beside))
    {inner : Loop} (hc : s₀.childrenOf? v = some (inner.holder, below.roots))
    (hplace : inner.place = 0) : Pending s₀ tree gone v inner [] false below where
  forest := h.forest.2.1
  labels u hu := h.labels u (by simp [Forest.mem_labels_cons, hu])
  nodup := (Forest.nodup_labels_cons.mp h.nodup).2.2.1
  member := h.labels v (by simp [Forest.mem_labels_cons])
  children := hc
  apart := by simp
  there u hu := h.there u (by simp [Forest.mem_labels_cons, hu])
  place := by simp [hplace]

-- What goes while the next tree is done, or passed over, belongs to that tree.
theorem advance (h : Pending s₀ tree gone node loop ahead missed (.cons v below beside))
    {more : List Value} {next : Loop} {missed' : Bool}
    (hmore : ∀ u ∈ more, u ∈ v :: below.labels) (hholder : next.holder = loop.holder)
    (hplace : next.place = (ahead.filter (· ∉ gone)).length + ([v].filter (· ∉ more)).length
      + missed'.toNat) :
    Pending s₀ tree (more ++ gone) node next (ahead ++ [v]) missed' beside := by
  obtain ⟨-, hvBeside, -, hnodupBeside, hapart⟩ := Forest.nodup_labels_cons.mp h.nodup
  have hv : v ∉ gone := h.there v (by simp [Forest.mem_labels_cons])
  have hahead : ∀ u ∈ ahead, u ∉ more := by
    intro u hu hm
    refine h.apart u hu ?_
    rw [Forest.labels]
    exact List.mem_append_left _ (hmore u hm)
  have hfilter : (ahead ++ [v]).filter (· ∉ more ++ gone) =
      ahead.filter (· ∉ gone) ++ [v].filter (· ∉ more) := by
    rw [List.filter_append]
    congr 1
    · apply List.filter_congr
      intro u hu
      simp [hahead u hu]
    · apply List.filter_congr
      intro u hu
      simp [List.mem_singleton.mp hu, hv]
  exact {
    forest := h.forest.2.2
    labels := fun u hu => h.labels u (by simp [Forest.mem_labels_cons, hu])
    nodup := hnodupBeside
    member := h.member
    children := by rw [hholder, h.children]; simp [Forest.roots]
    apart := by
      intro u hu
      rcases List.mem_append.mp hu with hu | hu
      · exact fun hb => h.apart u hu (by simp [Forest.mem_labels_cons, hb])
      · exact List.mem_singleton.mp hu ▸ hvBeside
    there := by
      intro u hu hg
      rcases List.mem_append.mp hg with hm | hg
      · rcases List.mem_cons.mp (hmore u hm) with rfl | hb
        · exact hvBeside hu
        · exact hapart u hb hu
      · exact h.there u (by simp [Forest.mem_labels_cons, hu]) hg
    place := by rw [hplace, hfilter, List.length_append] }

-- A tree that is passed over takes no step of the loop, because the loop is already behind it.
theorem pass (h : Pending s₀ tree gone node loop ahead true (.cons v below beside)) :
    Pending s₀ tree gone node loop (ahead ++ [v]) false beside :=
  h.advance (by simp : ∀ u ∈ [], u ∈ v :: below.labels) rfl (by simp [h.place])

theorem next?_cons (h : Pending s₀ tree gone node loop ahead false (.cons v below beside))
    (hthin : Thinned s₀ tree gone w.store) :
    loop.next? w.store = .ok (some (v, loop.step loop.place)) := by
  obtain ⟨-, -, -, hlist⟩ := Store.childrenOf?_eq_some (h.childrenOf? hthin)
  refine Loop.next?_item hlist ?_
  simp [h.place, Forest.roots]

theorem next?_nil (h : Pending s₀ tree gone node loop ahead missed .nil)
    (hthin : Thinned s₀ tree gone w.store) : loop.next? w.store = .ok none := by
  obtain ⟨-, -, -, hlist⟩ := Store.childrenOf?_eq_some (h.childrenOf? hthin)
  refine Loop.next?_end hlist ?_
  rw [Forest.roots, List.append_nil, h.place]
  omega

-- The loop is a place too far for what is behind the next tree if that tree was cut.
theorem step (h : Pending s₀ tree gone node loop ahead false (.cons v below beside)) :
    Pending s₀ tree ((Forest.cons v (below.seen cut false) .nil).labels.filter cut ++ gone) node
      (loop.step loop.place) (ahead ++ [v]) (cut v) beside := by
  have hmore : ∀ u ∈ (Forest.cons v (below.seen cut false) .nil).labels.filter cut,
      u ∈ v :: below.labels := by
    intro u hu
    have hmem : u ∈ v :: ((below.seen cut false).labels ++ []) := (List.mem_filter.mp hu).1
    rw [List.append_nil] at hmem
    exact ((Forest.labels_seen_sublist cut false below).cons_cons v).subset hmem
  have hstep : ([v].filter
      (· ∉ (Forest.cons v (below.seen cut false) .nil).labels.filter cut)).length +
        (cut v).toNat = 1 := by
    have hmem : v ∈ (Forest.cons v (below.seen cut false) .nil).labels := List.mem_cons_self
    by_cases hcut : cut v = true <;> simp [hcut, hmem]
  refine h.advance hmore rfl ?_
  have hplace := h.place
  simp only [Loop.step, Bool.toNat_false, Nat.add_zero] at hplace ⊢
  omega

end Pending

-- By induction on the trees that are still to come.
theorem walkChildren_pruned (hin : tree.In s₀) (hdistinct : tree.labels.Nodup)
    (hparent : Parented s₀ tree cut parent) (hvisit : Prunes cut parent visit) (f : Forest Value)
    {missed : Bool} {fuel : Nat} {loop : Loop} {node : Value} {ahead : List Value}
    (hfuel : 2 * f.size + 1 ≤ fuel) (hpending : Pending s₀ tree gone node loop ahead missed f)
    (hthin : Thinned s₀ tree gone w.store) :
    ∃ w', walkChildren .after (listing visit) fuel made depth loop w =
        .ok (made ++ selected .after ((f.seen cut missed).calls (depth + 1))) w' ∧
      Thinned s₀ tree ((f.seen cut missed).labels.filter cut ++ gone) w'.store := by
  induction f generalizing missed fuel loop node ahead gone made depth w with
  | nil =>
      obtain ⟨fuel, rfl⟩ : ∃ n, fuel = n + 1 := ⟨fuel - 1, by omega⟩
      have hseen : Forest.nil.seen cut missed = .nil := by cases missed <;> rfl
      refine ⟨w, ?_, hthin.congr fun x => by rw [hseen]; rfl⟩
      rw [walkChildren_none (hpending.next?_nil hthin), hseen]
      simp [Forest.calls, selected]
  | cons v below beside ihb ihs =>
      simp only [Forest.size] at hfuel
      cases missed with
      | true => exact ihs (by omega) hpending.pass hthin
      | false =>
          obtain ⟨fuel, rfl⟩ : ∃ n, fuel = n + 2 := ⟨fuel - 2, by omega⟩
          obtain ⟨holder, hc⟩ := hpending.forest.1
          have hvBelow : v ∉ below.labels := (Forest.nodup_labels_cons.mp hpending.nodup).1
          have hfuelBelow : 2 * below.size + 1 ≤ fuel := by omega
          have hfuelBeside : 2 * beside.size + 1 ≤ fuel + 1 := by omega
          obtain ⟨w₁, hfirst, hthin₁⟩ := walkNode_of_loop hin hdistinct hparent hvisit
            (hpending.labels v (by simp [Forest.mem_labels_cons])) hc
            (hpending.there v (by simp [Forest.mem_labels_cons]))
            (fun u hu => hpending.there u (by simp [Forest.mem_labels_cons, hu])) hvBelow hthin
            fun inner hholder hplace =>
              ihb hfuelBelow (hpending.enter (hholder ▸ hc) hplace) hthin
          obtain ⟨w', hothers, hthin'⟩ := ihs hfuelBeside hpending.step hthin₁
          have hsplit : selected .after (((Forest.cons v below beside).seen cut false).calls
              (depth + 1)) =
              selected .after ((Forest.cons v (below.seen cut false) .nil).calls (depth + 1)) ++
                selected .after ((beside.seen cut (cut v)).calls (depth + 1)) := by
            rw [Forest.seen, selected_calls, ← selected_calls_tree]
          refine ⟨w', ?_, hthin'.congr fun x => ?_⟩
          · rw [walkChildren_some (hpending.next?_cons hthin), Run.bind_apply, hfirst]
            dsimp only
            rw [hothers, hsplit, List.append_assoc]
          · simp only [Forest.seen, Forest.labels, List.append_nil, List.cons_append,
              List.mem_append, List.mem_filter, List.mem_cons]
            tauto

end Loop

-- No cut node has another one behind it.
theorem lastCut_cons_iff (cut : Value → Bool) (root : Value) (others : List Value) :
    (∀ x y, cut x = true → ¬[x, y].Sublist (root :: others)) ↔
      (∀ x y, cut x = true → ¬[x, y].Sublist others) ∧ (cut root = true → others = []) := by
  constructor
  · intro h
    refine ⟨fun x y hx hsub => h x y hx (hsub.cons root), fun hroot => ?_⟩
    cases others with
    | nil => rfl
    | cons y rest => exact absurd (by simp) (h root y hroot)
  · rintro ⟨hothers, hroot⟩ x y hx hsub
    cases hsub with
    | cons _ hsub => exact hothers x y hx hsub
    | cons_cons _ hsub =>
        rw [hroot hx] at hsub
        cases hsub

theorem lastCut_iff {s : Store} {f : Forest Value} (cut : Value → Bool) (h : f.In s) :
    f.LastCut cut ↔ (∀ x y, cut x = true → ¬[x, y].Sublist f.roots) ∧
      ∀ v ∈ f.labels, ∀ x y, cut x = true → ¬[x, y].Sublist (s.children v) := by
  induction f with
  | nil => simp [Forest.LastCut, Forest.roots, Forest.labels]
  | cons root below beside ihb ihs =>
      obtain ⟨⟨holder, hc⟩, hbelow, hbeside⟩ := h
      have hnil : beside.roots = [] ↔ beside = .nil := by
        cases beside <;> simp [Forest.roots]
      rw [Forest.LastCut, ihb hbelow, ihs hbeside, Forest.roots, lastCut_cons_iff, hnil,
        Forest.labels, List.cons_append, List.forall_mem_cons, List.forall_mem_append,
        Store.children_eq hc]
      tauto

-- A walk that closes the nodes of a tree passes over a node, with everything below it, if the node
-- ahead of it in the list was taken out meanwhile. All other nodes are closed in their order, and
-- those of them that are cut are taken from their parents. So the walk is complete exactly if no
-- node is taken out of a list in which another one comes behind it.
theorem walk_pruned {visit : Value → Nat → Phase → Run σ Unit} {cut : Value → Bool}
    {parent : Value → Value} {w : World σ} {root phase : Value} {below : Forest Value} {fuel : Nat}
    (htree : (Forest.cons root below .nil).In w.store)
    (hdistinct : (Forest.cons root below .nil).labels.Nodup)
    (hparent : Parented w.store (.cons root below .nil) cut parent)
    (hvisit : Prunes cut parent visit)
    (hmode : w.store.text? phase = some "after")
    (hfuel : 2 * (Forest.cons root below .nil).size ≤ fuel) :
    let tree := Forest.cons root below .nil
    let seen := tree.seen cut false
    let made := (seen.calls 0).filter fun c => WalkMode.after.asks c.phase
    let all := (tree.calls 0).filter fun c => WalkMode.after.asks c.phase
    ∃ w', walk fuel root visit phase w = .ok root w' ∧
      walkNode .after (listing visit) fuel [] root 0 w = .ok made w' ∧
      made.Sublist all ∧ (made.map Call.mark).Nodup ∧
      (∀ v ∈ tree.labels, w'.store.children v =
        (w.store.children v).filter fun x => !(cut x && decide (x ∈ seen.labels))) ∧
      (made = all ↔
        ∀ v ∈ tree.labels, ∀ x y, cut x = true → ¬[x, y].Sublist (w.store.children v)) := by
  intro tree seen made all
  simp only [Forest.size] at hfuel
  obtain ⟨fuel, rfl⟩ : ∃ n, fuel = n + 1 := ⟨fuel - 1, by omega⟩
  obtain ⟨holder, hc⟩ := htree.1
  have hnodup := hdistinct
  simp only [Forest.labels, List.append_nil, List.nodup_cons] at hnodup
  have hloop : ∀ loop : Loop, loop.holder = holder → loop.place = 0 → ∃ w',
      walkChildren .after (listing visit) fuel [] 0 loop w =
        .ok ([] ++ selected .after ((below.seen cut false).calls (0 + 1))) w' ∧
      Thinned w.store tree ((below.seen cut false).labels.filter cut ++ []) w'.store := by
    intro loop hholder hplace
    have hpending : Pending w.store tree [] root loop [] false below := {
      forest := htree.2.1
      labels := fun u hu => by simp [tree, Forest.labels, hu]
      nodup := hnodup.2
      member := by simp [tree, Forest.labels]
      children := by rw [hholder, hc]; rfl
      apart := by simp
      there := by simp
      place := by simp [hplace] }
    exact walkChildren_pruned htree hdistinct hparent hvisit below (by omega) hpending
      (thinned_nil w.store tree)
  obtain ⟨w', hrun, hthin⟩ := walkNode_of_loop htree hdistinct hparent hvisit
    (by simp [Forest.mem_labels_cons]) hc (by simp) (by simp) hnodup.1 (thinned_nil w.store tree) hloop
  have hseen : seen = .cons root (below.seen cut false) .nil := by
    simp only [seen, tree, Forest.seen]
  have hmade : made = [] ++ selected .after
      ((Forest.cons root (below.seen cut false) .nil).calls 0) := by
    rw [List.nil_append, ← hseen]
    rfl
  refine ⟨w', ?_, hmade ▸ hrun, (Forest.calls_seen_sublist cut false tree 0).filter _, ?_, ?_, ?_⟩
  · have hname : w.store.text? phase = some WalkMode.after.name := hmode
    rw [walk_eq_listing _ hc hname, Run.bind_apply, hrun]
    rfl
  · have hmarks := Forest.nodup_marks 0 (hdistinct.sublist (Forest.labels_seen_sublist cut false tree))
    exact hmarks.sublist (List.filter_sublist.map _)
  · intro v hv
    obtain ⟨holder', hcv⟩ := Forest.childrenOf?_of_mem_labels htree hv
    rw [Store.children_eq (hthin v hv _ _ hcv), ← hseen]
    apply List.filter_congr
    intro x _
    by_cases hx : cut x = true <;> simp [hx]
  · rw [Forest.closings_seen_iff, lastCut_iff cut htree]
    simp [Forest.roots, tree]

-- A root with two leaves, each node ahead of its list of children.
private def leavesToPrune : World Unit where
  store := ⟨#[
    .node ⟨.text "sum", .ref 6, .ref 1, .ref 7⟩, .list [.ref 2, .ref 4],
    .node ⟨.text "left", .ref 6, .ref 3, .ref 7⟩, .list [],
    .node ⟨.text "right", .ref 6, .ref 5, .ref 7⟩, .list [],
    .dict {}, .position (.int 1) (.int 1) (.int 0)]⟩
  log := []
  client := ()

-- Takes the first leaf out.
private def dropLeft (v : Value) (_ : Nat) (_ : Phase) : Run Unit Unit := do
  if v = .ref 2 then
    let _ ← removeChildren (.ref 0) [v]

private theorem prunes_dropLeft : Prunes (· = .ref 2) (fun _ => .ref 0) dropLeft where
  pass v depth phase w hv := ⟨w, by simp [dropLeft, of_decide_eq_false hv], rfl⟩
  prune v depth phase w r w₁ hv hremove := by
    refine ⟨w₁, ?_, rfl⟩
    rw [dropLeft, if_pos (of_decide_eq_true hv), Run.bind_apply, hremove]
    rfl

-- The leaf behind it is not visited.
theorem walk_pruned_leftLeaf :
    ∃ w', walk 6 (.ref 0) dropLeft (.text "after") leavesToPrune = .ok (.ref 0) w' ∧
      walkNode .after (listing dropLeft) 6 [] (.ref 0) 0 leavesToPrune =
        .ok [⟨.ref 2, 1, .after⟩, ⟨.ref 0, 0, .after⟩] w' ∧
      w'.store.children (.ref 0) = [.ref 4] := by
  have htree : (Forest.cons (.ref 0) (.cons (.ref 2) .nil (.cons (.ref 4) .nil .nil)) .nil).In
      leavesToPrune.store :=
    ⟨⟨.ref 1, rfl⟩, ⟨⟨.ref 3, rfl⟩, trivial, ⟨.ref 5, rfl⟩, trivial, trivial⟩, trivial⟩
  have hparent : Parented leavesToPrune.store
      (.cons (.ref 0) (.cons (.ref 2) .nil (.cons (.ref 4) .nil .nil)) .nil) (· = .ref 2)
      fun _ => .ref 0 := by
    intro v hv hcut
    cases of_decide_eq_true hcut
    decide
  have hmode : leavesToPrune.store.text? (.text "after") = some "after" := rfl
  have hfuel : 2 * (Forest.cons (.ref 0) (.cons (.ref 2) .nil
      (.cons (Value.ref 4) .nil .nil)) .nil).size ≤ 6 := by decide
  obtain ⟨w', hwalk, hmade, -, -, hchildren, -⟩ :=
    walk_pruned htree (by decide) hparent prunes_dropLeft hmode hfuel
  exact ⟨w', hwalk, hmade, hchildren (.ref 0) (by decide)⟩

end ParseKit.Node
