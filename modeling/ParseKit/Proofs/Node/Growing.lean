import ParseKit.Proofs.Node.Course

namespace ParseKit.Node

variable {σ : Type} {mode : WalkMode} {visit : Value → Nat → Phase → Run σ Unit} {root x : Value}
  {w w' : World σ} {xs ys : List (Call Value)} {depth : Nat} {f g below : Forest Value}

-- What a forest in which all nodes have been closed has become when more children have come.
theorem grown_of_closing {s : Store} (hin : g.In s) (hroots : f.roots <+: g.roots)
    (hclosed : ∀ calls v e inner, f.Closes depth calls v e inner →
      inner.roots <+: s.children v) : f.Grown (fun _ => False) g := by
  induction f generalizing g depth with
  | nil => exact .more fun _ _ h => h
  | cons x below beside ihb ihs =>
      cases g with
      | nil => simp [Forest.roots] at hroots
      | cons x' below' beside' =>
          obtain ⟨⟨holder, hc⟩, hbelow, hbeside⟩ := hin
          simp only [Forest.roots, List.cons_prefix_cons] at hroots
          obtain ⟨rfl, hroots⟩ := hroots
          have hhere := hclosed _ _ _ _ (.here x below beside depth)
          rw [Store.children_eq hc] at hhere
          exact .cons (ihb hbelow hhere fun _ _ _ _ h => hclosed _ _ _ _ (.under h))
            (ihs hbeside hroots fun _ _ _ _ h => hclosed _ _ _ _ (.behind h))

-- A walk that has come to its end, and the forest that it has visited.
structure Finished (mode : WalkMode) (visit : Value → Nat → Phase → Run σ Unit) (root : Value)
    (visited : Forest Value) (w w' : World σ) : Prop where
  advances : Advances root visit (selected mode (visited.calls 0)) w w'
  settled : Settled mode visit root visited 0 w

namespace Finished

variable {visited inner : Forest Value} {calls : List (Call Value)} {a b : World σ} {v u : Value}
  {d e : Nat} {c : Call Value}

theorem grows (h : Finished mode visit root visited w w') (hxs : xs <+: ys)
    (hys : ys <+: visited.calls 0) (ha : Leads visit (selected mode xs) w a)
    (hb : Leads visit (selected mode ys) w b) : Grows root a b := by
  obtain ⟨more, rfl⟩ := hxs
  obtain ⟨rest, hrest⟩ := hys
  have hall := h.advances
  rw [← hrest, selected_append, selected_append] at hall
  rw [selected_append] at hb
  exact hall.between ha hb

-- What is below a node when it is closed are the first of its children from then on.
theorem closed (h : Finished mode visit root visited w w')
    (hclosing : visited.Closes 0 calls v d inner) (hcalls : calls <+: xs)
    (hxs : xs <+: visited.calls 0) (ha : Leads visit (selected mode xs) w a) :
    inner.roots <+: a.store.children v ∧ a.store.Descends root d v := by
  obtain ⟨w₁, hleads, hreached, hchildren⟩ := h.settled _ _ _ _ hclosing
  have hlater := (h.grows hcalls hxs hleads ha).lengthens
  rw [← hchildren]
  exact ⟨hlater.children_prefix ⟨d, hreached⟩, hlater.from_root hreached⟩

-- The children that a node has at some time before it is closed are visited in their order.
theorem visits_children (h : Finished mode visit root visited w w')
    (hsplit : visited.calls 0 = xs ++ ys) (ha : Leads visit (selected mode xs) w a)
    (hv : ⟨v, d, .after⟩ ∈ ys) (hreached : a.store.Descends root d v) :
    ∃ inner : Forest Value, a.store.children v <+: inner.roots ∧
      (inner.calls (d + 1)).Sublist (visited.calls 0) := by
  obtain ⟨more, rest, rfl⟩ := List.append_of_mem hv
  have hsplit' : visited.calls 0 = (xs ++ more) ++ ⟨v, d, .after⟩ :: rest := by
    rw [hsplit, List.append_assoc]
  have hcalls : xs ++ more <+: visited.calls 0 := hsplit' ▸ List.prefix_append _ _
  obtain ⟨inner, hclosing⟩ := Forest.exists_closing hsplit'
  obtain ⟨w₁, hleads, -, hchildren⟩ := h.settled _ _ _ _ hclosing
  have hlater := (h.grows (List.prefix_append xs more) hcalls ha hleads).lengthens
  refine ⟨inner, hchildren ▸ hlater.children_prefix ⟨d, hreached⟩, ?_⟩
  exact hclosing.sublist.trans hcalls.sublist

theorem under_of_closed (h : Finished mode visit root visited w w')
    (hsplit : visited.calls 0 = xs ++ [c] ++ ys) (ha : Leads visit (selected mode xs) w a)
    (hv : ⟨v, d, .after⟩ ∈ xs ++ [c]) :
    ∃ calls inner, visited.Closes 0 calls v d inner ∧ inner.roots <+: a.store.children v ∧
      a.store.Descends root d v := by
  obtain ⟨calls, more, hmore⟩ := List.append_of_mem hv
  have hsplit' : visited.calls 0 = calls ++ ⟨v, d, .after⟩ :: (more ++ ys) := by
    rw [hsplit, hmore]
    simp
  have hlength : calls.length ≤ xs.length := by
    have hlengths := congrArg List.length hmore
    simp only [List.length_append, List.length_cons, List.length_nil] at hlengths
    omega
  have hxs : xs <+: visited.calls 0 := by
    rw [hsplit, List.append_assoc]
    exact List.prefix_append _ _
  have hcalls : calls <+: xs :=
    List.prefix_of_prefix_length_le (hsplit' ▸ List.prefix_append _ _) hxs hlength
  obtain ⟨inner, hclosing⟩ := Forest.exists_closing hsplit'
  exact ⟨calls, inner, hclosing, h.closed hclosing hcalls hxs ha⟩

section Added

variable (h : Finished mode visit root visited w w')
  (htree : (Forest.cons root below .nil).In w.store)
  (hdistinct : (Forest.cons root below .nil).labels.Nodup)

include h htree hdistinct

theorem tree_at (hxs : xs <+: visited.calls 0) (ha : Leads visit (selected mode xs) w a) :
    ∃ g : Forest Value, g.In a.store ∧ g.labels.Nodup ∧ g.roots = [root] := by
  obtain ⟨g, hin, hnodup, hsame, -⟩ := (h.grows List.nil_prefix hxs (.nil w) ha).forest htree
    hdistinct fun _ hu => Forest.under_of_mem_roots w.store hu
  exact ⟨g, hin, hnodup, hsame⟩

theorem visited_in (hroots : visited.roots = [root]) :
    ∃ g : Forest Value, g.In w'.store ∧ g.labels.Nodup ∧ g.roots = [root] ∧
      visited.Grown (fun _ => False) g := by
  have hall := h.advances.leads
  obtain ⟨g, hin, hnodup, hsame⟩ := h.tree_at htree hdistinct (List.prefix_refl _) hall
  have hstart : visited.roots <+: g.roots := by simp only [hroots, hsame, List.prefix_refl]
  have hclosed : ∀ calls v e inner, visited.Closes 0 calls v e inner →
      inner.roots <+: w'.store.children v := by
    intro calls v e inner hclosing
    exact (h.closed hclosing hclosing.calls_prefix (List.prefix_refl _) hall).1
  exact ⟨g, hin, hnodup, hsame, grown_of_closing hin hstart hclosed⟩

variable (hsplit : visited.calls 0 = xs ++ [c] ++ ys) (ha : Leads visit (selected mode xs) w a)
  (hb : Leads visit (selected mode (xs ++ [c])) w b) (hv : b.store.Descends root d v)
  (hx : x ∈ b.store.children v) (hnew : x ∉ a.store.children v)

include hsplit ha hb hv hx hnew

-- What is added to a node ahead of the end of the loop over its children is visited. By induction
-- on the way down from there: nothing on it has been reached before, so nothing of it has been
-- closed.
theorem visits_below_new (hlater : ⟨v, d, .after⟩ ∈ ys) {e : Nat} {u : Value}
    (hdown : b.store.Descends x e u) (phase : Phase) :
    ⟨u, d + 1 + e, phase⟩ ∈ visited.calls 0 := by
  have hcalls : xs ++ [c] <+: visited.calls 0 := hsplit ▸ List.prefix_append _ _
  have hlonger := (h.grows (List.prefix_append xs [c]) hcalls ha hb).lengthens
  obtain ⟨g, hin, hnodup, hroots⟩ := h.tree_at htree hdistinct hcalls hb
  have hvg : v ∈ g.labels := Forest.mem_labels_of_descends hin (by simp [hroots]) hv
  have hopen : ∀ {e y}, b.store.Descends x e y → ⟨y, d + 1 + e, .after⟩ ∈ visited.calls 0 →
      ⟨y, d + 1 + e, .after⟩ ∈ ys := by
    intro e y hdown hy
    rw [hsplit, List.mem_append] at hy
    rcases hy with hy | hy
    · obtain ⟨_, _, -, -, hreached⟩ := h.under_of_closed hsplit ha hy
      exact absurd ⟨_, hreached⟩
        (Forest.not_under_of_new hlonger hin hnodup hroots hvg hx hnew hdown)
    · exact hy
  have hchild : ∀ {k y z} (phase : Phase), ⟨y, k, .after⟩ ∈ ys → b.store.Descends root k y →
      z ∈ b.store.children y → ⟨z, k + 1, phase⟩ ∈ visited.calls 0 := by
    intro k y z phase hy hreached hz
    obtain ⟨inner, hchildren, hinner⟩ := h.visits_children hsplit hb hy hreached
    exact hinner.subset (Forest.mem_calls_of_mem_roots (hchildren.subset hz) _ phase)
  induction e generalizing u phase with
  | zero =>
      cases hdown
      exact hchild phase hlater hv hx
  | succ e ih =>
      obtain ⟨y, hy, hu⟩ := hdown.exists_last
      exact hchild phase (hopen hy (ih hy .after)) ((hv.child hx).trans hy) hu

-- What is added to a node after the end of the loop over its children is not visited. A node that
-- was visited below it would have come there from the children that were seen in that loop.
theorem not_visits_below_new (hroots : visited.roots = [root])
    (hdone : ⟨v, d, .after⟩ ∈ xs ++ [c]) {e k : Nat} {u : Value}
    (hdown : b.store.Descends x e u) (phase : Phase) :
    ⟨u, k, phase⟩ ∉ visited.calls 0 := by
  intro hu
  have hcalls : xs ++ [c] <+: visited.calls 0 := hsplit ▸ List.prefix_append _ _
  have hall := h.advances.leads
  have hlonger := (h.grows hcalls (List.prefix_refl _) hb hall).lengthens
  have hvb : b.store.Under root v := ⟨d, hv⟩
  have hxb : b.store.Under root x := ⟨d + 1, hv.child hx⟩
  obtain ⟨g, hin, hnodup, hsame, hgrown⟩ := h.visited_in htree hdistinct hroots
  have hvg : v ∈ g.labels := by
    obtain ⟨_, hdown'⟩ := hlonger.under hvb
    exact Forest.mem_labels_of_descends hin (by simp [hsame]) hdown'
  have hup : ∀ y, y ∈ visited.labels → y ∈ g.roots ∨ ∃ q ∈ g.labels, q ∈ visited.labels ∧
      ∃ calls e inner, visited.Closes 0 calls q e inner ∧ y ∈ inner.roots := by
    intro y hy
    rcases Forest.exists_parent hy 0 with hroot | ⟨calls, q, e, inner, hclosing, hmem⟩
    · exact Or.inl (by rwa [hsame, ← hroots])
    · exact Or.inr ⟨q, hgrown.labels_sublist.subset hclosing.mem_labels, hclosing.mem_labels,
        calls, e, inner, hclosing, hmem⟩
  have hR : ∀ q y, (∃ calls e inner, visited.Closes 0 calls q e inner ∧ y ∈ inner.roots) →
      y ∈ w'.store.children q := by
    rintro q y ⟨calls, e, inner, hclosing, hy⟩
    exact (h.closed hclosing hclosing.calls_prefix (List.prefix_refl _) hall).1.subset hy
  obtain ⟨_, _, inner', hclosing', hx'⟩ := Forest.parent_of_below hin hnodup hup hR hvg
    ((hlonger.children_prefix hvb).subset hx) (hlonger.descends hxb hdown)
    (Forest.node_mem_labels hu)
  obtain ⟨_, inner, hclosing, hinner, -⟩ := h.under_of_closed hsplit ha hdone
  obtain ⟨-, rfl⟩ := hclosing.unique (hnodup.sublist hgrown.labels_sublist) hclosing'
  exact hnew (hinner.subset hx')

end Added

end Finished

-- A walk over a tree to which new trees are added meanwhile, in finitely many of the calls, ends.
-- All that it visits is opened and closed like the brackets of a forest, less the calls of a phase
-- that was not asked for, and the calls for the nodes of the tree as it was at first are those of a
-- walk in which nothing is added. A new child of a node is visited with all that is below it, once
-- and behind the children ahead of it, if the node is still to be closed, and not at all if it has
-- been closed.
theorem walk_growing {visit : Value → Nat → Phase → Run σ Unit} {w : World σ} {root phase : Value}
    {below : Forest Value} {mode : WalkMode} {bound : Nat}
    (htree : (Forest.cons root below .nil).In w.store)
    (hdistinct : (Forest.cons root below .nil).labels.Nodup)
    (hmode : w.store.text? phase = some mode.name)
    (hgrow : Growing mode visit root w bound) :
    ∃ (visited : Forest Value) (enough : Nat),
      let tree := Forest.cons root below .nil
      let both := visited.calls 0
      let made := both.filter fun c => mode.asks c.phase
      (∀ fuel ≥ enough,
        walk fuel root visit phase w =
          (do forM made (makeCall visit); return root : Run σ Value) w ∧
        walkNode mode (listing visit) fuel [] root 0 w =
          (do forM made (makeCall visit); return made : Run σ (List (Call Value))) w) ∧
      made.filter (fun c => c.node ∈ tree.labels) =
        (tree.calls 0).filter (fun c => mode.asks c.phase) ∧
      ∀ w', forM made (makeCall visit) w = .ok () w' →
        (both.map Call.mark).Nodup ∧
        ∀ before c after w₁ w₂, both = before ++ c :: after → mode.asks c.phase = true →
          Leads visit (before.filter fun c => mode.asks c.phase) w w₁ →
          makeCall visit c w₁ = .ok () w₂ →
          ∀ v d x, w₂.store.Descends root d v → x ∈ w₂.store.children v →
            x ∉ w₁.store.children v →
            (⟨v, d, .after⟩ ∈ after →
              (∀ e u p, w₂.store.Descends x e u → ⟨u, d + 1 + e, p⟩ ∈ both) ∧
              ∀ u, [u, x].Sublist (w₂.store.children v) →
                [⟨u, d + 1, .after⟩, ⟨x, d + 1, .before⟩].Sublist both) ∧
            (⟨v, d, .after⟩ ∈ before ++ [c] →
              ∀ e u k p, w₂.store.Descends x e u → ⟨u, k, p⟩ ∉ both) := by
  obtain ⟨holder, hc⟩ := htree.1
  have hopen : Open root w root 0 holder below := ⟨hc, htree.2.1, hdistinct, .refl root⟩
  obtain ⟨inner, enough, hinner, hrun, hdone⟩ :=
    walkNode_growing hgrow hopen .refl rfl fun {m made w loop g} hopen hplace hreach hleft _ => by
      have hcovers := walkChildren_growing hgrow hopen rfl hreach hleft
      rwa [hplace, List.take_zero, Forest.drop_zero] at hcovers
  refine ⟨.cons root inner .nil, enough, ?_⟩
  intro tree both made
  refine ⟨fun fuel hfuel => ?_, ?_, fun w' hcalls => ?_⟩
  · have hnode : walkNode mode (listing visit) fuel [] root 0 w =
        (do forM made (makeCall visit); return made : Run σ (List (Call Value))) w := by
      rw [hrun fuel hfuel, visitAll_listing]
      rfl
    refine ⟨?_, hnode⟩
    rw [walk_eq_listing fuel hc hmode, Run.bind_apply, hnode]
    simp only [Run.bind_apply]
    cases forM made (makeCall visit) w <;> rfl
  · have hunder : ∀ v ∈ tree.labels, w.store.Under root v := fun _ hv =>
      Forest.under_of_mem_labels htree (fun _ hu => Forest.under_of_mem_roots w.store hu) hv
    have hgrown : tree.Grown (· ∈ tree.labels) (.cons root inner .nil) :=
      .cons (hinner.weaken hunder) (.refl _ .nil)
    rw [← hgrown.filter_calls (fun _ hv => hv) 0, List.filter_filter, List.filter_filter]
    apply List.filter_congr
    intro c _
    exact Bool.and_comm _ _
  · obtain ⟨_, hcourse, -, hsettled⟩ := hdone w' hcalls
    have hfinished : Finished mode visit root (.cons root inner .nil) w w' :=
      ⟨hcourse.advances, hsettled⟩
    obtain ⟨g, -, hnodup, -, hgrown⟩ := hfinished.visited_in htree hdistinct rfl
    refine ⟨Forest.nodup_marks 0 (hnodup.sublist hgrown.labels_sublist), ?_⟩
    intro before c after w₁ w₂ hsplit hvisits hbefore hcall v d x hv hx hnew
    have hthrough := leads_selected hvisits hbefore hcall
    rw [List.append_cons] at hsplit
    refine ⟨fun hlater => ⟨fun e u p hdown => ?_, fun u hu => ?_⟩, fun hdone' e u k p hdown => ?_⟩
    · exact hfinished.visits_below_new htree hdistinct hsplit hbefore hthrough hv hx hnew hlater
        hdown p
    · obtain ⟨inner', hchildren, hinner'⟩ := hfinished.visits_children hsplit hthrough hlater hv
      exact (Forest.sublist_of_roots (hu.trans hchildren.sublist) (d + 1)).trans hinner'
    · exact hfinished.not_visits_below_new htree hdistinct hsplit hbefore hthrough hv hx hnew rfl
        hdone' hdown p

-- A root with two leaves, and a third leaf that nobody has, each node ahead of its list of
-- children. The client knows if that leaf has been added.
private def leavesAndBud : World Bool where
  store := ⟨#[
    .node ⟨.text "sum", .ref 6, .ref 1, .ref 7⟩, .list [.ref 2, .ref 4],
    .node ⟨.text "left", .ref 6, .ref 3, .ref 7⟩, .list [],
    .node ⟨.text "right", .ref 6, .ref 5, .ref 7⟩, .list [],
    .dict {}, .position (.int 1) (.int 1) (.int 0),
    .node ⟨.text "bud", .ref 6, .ref 9, .ref 7⟩, .list []]⟩
  log := []
  client := false

private def budAdded : World Bool where
  store := leavesAndBud.store.put (.ref 1) (.list [.ref 2, .ref 4, .ref 8])
  log := []
  client := true

-- Adds the third leaf to the root in its first call.
private def addBud (_ : Value) (_ : Nat) (_ : Phase) : Run Bool Unit := do
  unless (← get).client do
    let _ ← addChildren (.ref 0) [.ref 8]
    modify fun w => { w with client := true }

private theorem makeCall_addBud (c : Call Value) :
    makeCall addBud c leavesAndBud = .ok () budAdded ∧
      makeCall addBud c budAdded = .ok () budAdded :=
  ⟨rfl, rfl⟩

private theorem tree_leavesAndBud :
    (Forest.cons (.ref 0) (.cons (.ref 2) .nil (.cons (.ref 4) .nil .nil)) .nil).In
      leavesAndBud.store :=
  ⟨⟨.ref 1, rfl⟩, ⟨⟨.ref 3, rfl⟩, trivial, ⟨.ref 5, rfl⟩, trivial, trivial⟩, trivial⟩

private theorem grows_addBud : Grows (.ref 0) leavesAndBud budAdded := by
  let bud := Forest.cons (Value.ref 8) .nil .nil
  have hbud : bud.In leavesAndBud.store := ⟨⟨.ref 9, rfl⟩, trivial, trivial⟩
  have hc : leavesAndBud.store.childrenOf? (.ref 0) = some (.ref 1, [.ref 2, .ref 4]) := rfl
  have hown : ∀ u items, leavesAndBud.store.childrenOf? u = some (.ref 1, items) → u = .ref 0 := by
    intro u items hcu
    have hall : ∀ id : Fin 10, (leavesAndBud.store.childrenOf? (.ref id)).map (·.1) =
        some (.ref 1) → id = 0 := by decide
    obtain ⟨p, hnode, -, -⟩ := Store.childrenOf?_eq_some hcu
    cases u with
    | ref id =>
        have hlt : id < 10 := (Array.getElem?_eq_some_iff.mp hnode).1
        have hzero := congrArg Fin.val (hall ⟨id, hlt⟩ (by rw [hcu]; rfl))
        exact congrArg Value.ref hzero
    | _ => cases hnode
  have hnew : ∀ u ∈ bud.labels, ¬leavesAndBud.store.Under (.ref 0) u := by
    rintro u hu ⟨depth, hdown⟩
    have hmem := Forest.mem_labels_of_descends tree_leavesAndBud List.mem_cons_self hdown
    rw [List.mem_singleton.mp hu] at hmem
    revert hmem
    decide
  have hadd : addChildren (.ref 0) [.ref 8] leavesAndBud =
      .ok (.ref 0) { leavesAndBud with store := budAdded.store } := rfl
  exact (Grows.add hc hown rfl hbud (by decide) hnew hadd).trans (.still fun _ _ => rfl)

private theorem growing_addBud : Growing .after addBud (.ref 0) leavesAndBud 1 := by
  intro stage c w hreach _ _ hrun
  have hworlds : stage.made = [] ∧ stage.world = leavesAndBud ∨ stage.world = budAdded := by
    apply hreach.keeps (P := fun made w => made = [] ∧ w = leavesAndBud ∨ w = budAdded)
      (Or.inl ⟨rfl, rfl⟩)
    rintro made c w w' (⟨-, rfl⟩ | rfl) hcall
    · rw [(makeCall_addBud c).1] at hcall
      cases hcall
      exact Or.inr rfl
    · rw [(makeCall_addBud c).2] at hcall
      cases hcall
      exact Or.inr rfl
  rcases hworlds with ⟨hmade, hworld⟩ | hworld
  · rw [hworld, (makeCall_addBud c).1] at hrun
    cases hrun
    rw [hworld, hmade]
    exact ⟨grows_addBud, fun hle => absurd hle (by decide)⟩
  · rw [hworld, (makeCall_addBud c).2] at hrun
    cases hrun
    rw [hworld]
    exact ⟨.refl _ _, fun _ _ _ => rfl⟩

private theorem calls_budAdded (calls : List (Call Value)) :
    Leads addBud calls budAdded budAdded := by
  induction calls with
  | nil => exact .nil _
  | cons c calls ih =>
      have hfirst := leads_singleton.mpr (makeCall_addBud c).2
      exact leads_append.mpr ⟨budAdded, hfirst, ih⟩

-- The new leaf is visited though nobody had it when the walk began.
theorem walk_growing_bud : ∃ made enough,
    (∀ fuel ≥ enough,
      walk fuel (.ref 0) addBud (.text "after") leavesAndBud = .ok (.ref 0) budAdded ∧
      walkNode .after (listing addBud) fuel [] (.ref 0) 0 leavesAndBud = .ok made budAdded) ∧
    made.filter (fun c => c.node ∈ [Value.ref 0, .ref 2, .ref 4]) =
      [⟨.ref 2, 1, .after⟩, ⟨.ref 4, 1, .after⟩, ⟨.ref 0, 0, .after⟩] ∧
    ⟨.ref 8, 1, .after⟩ ∈ made := by
  have hmode : leavesAndBud.store.text? (.text "after") = some WalkMode.after.name := rfl
  obtain ⟨visited, enough, hrun, hold, hdone⟩ :=
    walk_growing tree_leavesAndBud (by decide) hmode growing_addBud
  cases hmade : (visited.calls 0).filter fun c => WalkMode.after.asks c.phase with
  | nil =>
      rw [hmade] at hold
      cases hold
  | cons c rest =>
      have hcalls : Leads addBud (c :: rest) leavesAndBud budAdded :=
        leads_append.mpr ⟨budAdded, leads_singleton.mpr (makeCall_addBud c).1, calls_budAdded rest⟩
      rw [hmade] at hrun hold hdone
      obtain ⟨before, after, hsplit, hbefore, hvisits, hafter⟩ := List.filter_eq_cons_iff.mp hmade
      have hfirst : before.filter (fun c => WalkMode.after.asks c.phase) = [] :=
        List.filter_eq_nil_iff.mpr hbefore
      have hold : (c :: rest).filter (fun c => c.node ∈ [Value.ref 0, .ref 2, .ref 4]) =
          [⟨.ref 2, 1, .after⟩, ⟨.ref 4, 1, .after⟩, ⟨.ref 0, 0, .after⟩] := hold
      have hroot : ⟨.ref 0, 0, .after⟩ ∈ after := by
        have hrest : ⟨.ref 0, 0, .after⟩ ∈ rest.filter
            fun c => c.node ∈ [Value.ref 0, .ref 2, .ref 4] := by
          have htail := hold
          rw [List.filter_cons] at htail
          split at htail
          · rw [(List.cons.inj htail).2]
            decide
          · rw [htail]
            decide
        have hmem := List.mem_of_mem_filter hrest
        rw [← hafter] at hmem
        exact List.mem_of_mem_filter hmem
      have hadded := (hdone budAdded hcalls).2 before c after leavesAndBud budAdded hsplit hvisits
        (hfirst ▸ .nil _) (makeCall_addBud c).1 (.ref 0) 0 (.ref 8) (.refl _) (by decide)
        (by decide)
      have hbud := (hadded.1 hroot).1 0 (.ref 8) .after (.refl _)
      refine ⟨c :: rest, enough, fun fuel hfuel => ?_, hold, ?_⟩
      · obtain ⟨hwalk, hnode⟩ := hrun fuel hfuel
        rw [hwalk, hnode, Run.bind_apply, Run.bind_apply, hcalls]
        exact ⟨rfl, rfl⟩
      · rw [← hmade]
        exact List.mem_filter.mpr ⟨hbud, rfl⟩

end ParseKit.Node
