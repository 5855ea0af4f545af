import Mathlib.Data.List.Nodup
import ParseKit.Proofs.Node.Tree
import ParseKit.Proofs.Run.Basic

namespace ParseKit.Node

variable {σ α : Type}

-- A visitor that may change everything but which children nodes have.
def Passive (visit : Visitor σ α) : Prop :=
  ∀ acc v depth phase (w : World σ) acc' w',
    visit acc v depth phase w = .ok acc' w' → Store.KeepsChildren w.store w'.store

-- Calls a visitor for one call after the other, until it fails.
def visitAll (visit : Visitor σ α) (acc : α) (calls : List (Call Value)) : Run σ α :=
  calls.foldlM (fun acc c => visit acc c.node c.depth c.phase) acc

-- The calls of a sequence that a walk makes in a mode.
def selected (mode : WalkMode) (calls : List (Call Value)) : List (Call Value) :=
  calls.filter fun c => mode.asks c.phase

theorem visitAll_append (visit : Visitor σ α) (acc : α) (xs ys : List (Call Value)) :
    visitAll visit acc (xs ++ ys) = visitAll visit acc xs >>= (visitAll visit · ys) := by
  simp [visitAll, List.foldlM_append]

theorem visitAll_keeps {visit : Visitor σ α} (hpassive : Passive visit)
    {calls : List (Call Value)} {acc acc' : α} {w w' : World σ}
    (h : visitAll visit acc calls w = .ok acc' w') : Store.KeepsChildren w.store w'.store := by
  induction calls generalizing acc w with
  | nil =>
      cases h
      exact .refl _
  | cons c calls ih =>
      simp only [visitAll, List.foldlM_cons, Run.bind_apply] at h
      split at h
      · next a w₁ hfirst => exact (hpassive _ _ _ _ _ _ _ hfirst).trans (ih h)
      · cases h

theorem overChildren_eq {s : Store} {v holder : Value} {items : List Value}
    (h : s.childrenOf? v = some (holder, items)) :
    Loop.overChildren s v = .ok ⟨holder, 0, items.length, items.length⟩ := by
  obtain ⟨p, hnode, rfl, hlist⟩ := Store.childrenOf?_eq_some h
  simp [Loop.overChildren, hnode, Store.requirePart, Store.part?, Loop.start,
    Store.elements_list hlist, bind, Except.bind, pure, Except.pure]

-- A step of a walk: the call ahead of the children, the children, and the call after them, as far
-- as the mode asks for them.
theorem walkNode_succ (mode : WalkMode) (visit : Visitor σ α) (fuel : Nat) (acc : α) (v : Value)
    (depth : Nat) :
    walkNode mode visit (fuel + 1) acc v depth = (do
      let acc ← visitAll visit acc (selected mode [⟨v, depth, .before⟩])
      let loop ← Run.inspect (Loop.overChildren · v)
      let acc ← walkChildren mode visit fuel acc depth loop
      visitAll visit acc (selected mode [⟨v, depth, .after⟩])) := by
  unfold walkNode
  cases mode <;> simp [visitAll, selected, WalkMode.visits_eq_asks, WalkMode.asks]

-- A step of the loop over the children: it is at its end, or goes through the next child.
theorem walkChildren_none {mode : WalkMode} {visit : Visitor σ α} {loop : Loop} {w : World σ}
    (hend : loop.next? w.store = .ok none) (fuel : Nat) (acc : α) (depth : Nat) :
    walkChildren mode visit (fuel + 1) acc depth loop w = .ok acc w := by
  rw [walkChildren, Run.bind_apply, Run.inspect_ok hend]
  rfl

theorem walkChildren_some {mode : WalkMode} {visit : Visitor σ α} {loop loop' : Loop}
    {w : World σ} {x : Value} (hnext : loop.next? w.store = .ok (some (x, loop'))) (fuel : Nat)
    (acc : α) (depth : Nat) :
    walkChildren mode visit (fuel + 1) acc depth loop w = (do
      let acc ← walkNode mode visit fuel acc x (depth + 1)
      walkChildren mode visit fuel acc depth loop') w := by
  rw [walkChildren, Run.bind_apply, Run.inspect_ok hnext]

theorem selected_calls (mode : WalkMode) (v : Value) (below beside : Forest Value)
    (depth : Nat) :
    selected mode ((Forest.cons v below beside).calls depth) =
      (selected mode [⟨v, depth, .before⟩] ++ (selected mode (below.calls (depth + 1)) ++
        selected mode [⟨v, depth, .after⟩])) ++ selected mode (beside.calls depth) := by
  simp only [selected, ← List.filter_append, Forest.calls]
  simp

theorem selected_calls_tree (mode : WalkMode) (v : Value) (below : Forest Value) (depth : Nat) :
    selected mode ((Forest.cons v below .nil).calls depth) =
      selected mode [⟨v, depth, .before⟩] ++ (selected mode (below.calls (depth + 1)) ++
        selected mode [⟨v, depth, .after⟩]) := by
  have hnil : selected mode (Forest.nil.calls depth) = [] := rfl
  rw [selected_calls, hnil, List.append_nil]

-- A walk over a tree, given that the loop over the children does what it should.
private theorem walkNode_of_below {visit : Visitor σ α} (hpassive : Passive visit)
    (mode : WalkMode) {below : Forest Value} {fuel depth : Nat} {acc : α} {v : Value}
    {w : World σ}
    (hbelow : ∀ {acc : α} {loop : Loop} {w : World σ}, below.In w.store → loop.place = 0 →
      w.store.childrenOf? v = some (loop.holder, below.roots) →
      walkChildren mode visit fuel acc depth loop w =
        visitAll visit acc (selected mode (below.calls (depth + 1))) w)
    (hin : (Forest.cons v below .nil).In w.store) :
    walkNode mode visit (fuel + 1) acc v depth w =
      visitAll visit acc (selected mode ((Forest.cons v below .nil).calls depth)) w := by
  rw [selected_calls_tree, walkNode_succ, visitAll_append]
  refine Run.bind_congr rfl fun acc₁ w₁ hfirst => ?_
  have hin₁ := hin.keep (visitAll_keeps hpassive hfirst)
  obtain ⟨⟨holder, hc⟩, hin₁, -⟩ := hin₁
  rw [Run.bind_apply, Run.inspect_ok (overChildren_eq hc), visitAll_append]
  exact Run.bind_congr (hbelow hin₁ rfl hc) fun _ _ _ => rfl

-- By induction on the trees that the loop has yet to give. The visitor may have changed the store
-- when one of them is done, but the rest of the list is still the same.
theorem walkChildren_eq_visitAll {visit : Visitor σ α} (hpassive : Passive visit)
    (mode : WalkMode) (f : Forest Value) {fuel depth : Nat} {acc : α} {loop : Loop}
    {parent : Value} {items : List Value} {w : World σ} (hfuel : 2 * f.size + 1 ≤ fuel)
    (hin : f.In w.store) (hc : w.store.childrenOf? parent = some (loop.holder, items))
    (hleft : items.drop loop.place = f.roots) :
    walkChildren mode visit fuel acc depth loop w =
      visitAll visit acc (selected mode (f.calls (depth + 1))) w := by
  induction f generalizing fuel depth acc loop parent items w with
  | nil =>
      obtain ⟨fuel, rfl⟩ : ∃ n, fuel = n + 1 := ⟨fuel - 1, by omega⟩
      obtain ⟨-, -, -, hlist⟩ := Store.childrenOf?_eq_some hc
      exact walkChildren_none (Loop.next?_end hlist (List.drop_eq_nil_iff.mp hleft)) fuel acc depth
  | cons v below beside ihb ihs =>
      simp only [Forest.size] at hfuel
      obtain ⟨fuel, rfl⟩ : ∃ n, fuel = n + 2 := ⟨fuel - 2, by omega⟩
      obtain ⟨-, -, -, hlist⟩ := Store.childrenOf?_eq_some hc
      have hnext : items[loop.place]? = some v := by
        rw [← List.head?_drop, hleft]
        rfl
      have hrest : items.drop (loop.place + 1) = beside.roots := by
        rw [← List.drop_drop, hleft]
        rfl
      have hfirst : walkNode mode visit (fuel + 1) acc v (depth + 1) w =
          visitAll visit acc (selected mode ((Forest.cons v below .nil).calls (depth + 1))) w :=
        walkNode_of_below hpassive mode
          (fun hin hplace hc => ihb (by omega) hin hc (by rw [hplace, List.drop_zero]))
          ⟨hin.1, hin.2.1, trivial⟩
      rw [walkChildren_some (Loop.next?_item hlist hnext), selected_calls, ← selected_calls_tree,
        visitAll_append]
      refine Run.bind_congr hfirst fun acc₁ w₁ hdone => ?_
      have hkeep := visitAll_keeps hpassive hdone
      exact ihs (by omega) (hin.2.2.keep hkeep) (hkeep _ _ hc) hrest

theorem walkNode_eq_visitAll {visit : Visitor σ α} (hpassive : Passive visit) (mode : WalkMode)
    {below : Forest Value} {fuel depth : Nat} {acc : α} {v : Value} {w : World σ}
    (hfuel : 2 * (Forest.cons v below .nil).size ≤ fuel)
    (hin : (Forest.cons v below .nil).In w.store) :
    walkNode mode visit fuel acc v depth w =
      visitAll visit acc (selected mode ((Forest.cons v below .nil).calls depth)) w := by
  simp only [Forest.size] at hfuel
  obtain ⟨fuel, rfl⟩ : ∃ n, fuel = n + 1 := ⟨fuel - 1, by omega⟩
  exact walkNode_of_below hpassive mode (fun hin hplace hc =>
    walkChildren_eq_visitAll hpassive mode below (by omega) hin hc
      (by rw [hplace, List.drop_zero])) hin

-- The steps that are allowed for a store are enough for every tree in it.
theorem size_le_walkBound {s : Store} {f : Forest Value} (h : f.In s)
    (hdistinct : f.labels.Nodup) : 2 * f.size ≤ walkBound s := by
  have hfold : ∀ (objects : List Object) (n : Nat),
      n + 2 * objects.length ≤ objects.foldl (fun n o => n + childCount s o + 2) n := by
    intro objects
    induction objects with
    | nil => simp
    | cons o rest ih =>
        intro n
        have := ih (n + childCount s o + 2)
        simp only [List.length_cons, List.foldl_cons]
        omega
  have hbound := hfold s.objects.toList 2
  rw [Array.foldl_toList, Array.length_toList] at hbound
  have hsize : f.size ≤ s.objects.size := f.size_le h hdistinct
  unfold walkBound
  omega

theorem visitAll_unit (visit : Value → Nat → Phase → Run σ Unit) (calls : List (Call Value)) :
    visitAll (fun _ v depth phase => visit v depth phase) () calls =
      forM calls fun c => visit c.node c.depth c.phase := by
  induction calls with
  | nil => rfl
  | cons c calls ih =>
      simp only [visitAll, List.foldlM_cons]
      exact bind_congr fun _ => ih

theorem walk_eq_forM {visit : Value → Nat → Phase → Run σ Unit} {w : World σ}
    {root phase : Value} {below : Forest Value} {mode : WalkMode} {fuel : Nat}
    (hpassive : Passive fun (_ : Unit) => visit)
    (htree : (Forest.cons root below .nil).In w.store)
    (hmode : w.store.text? phase = some mode.name)
    (hfuel : 2 * (Forest.cons root below .nil).size ≤ fuel) :
    walk fuel root visit phase w =
      (do
        forM (selected mode ((Forest.cons root below .nil).calls 0)) fun c =>
          visit c.node c.depth c.phase
        return root : Run σ Value) w := by
  obtain ⟨p, hnode, -, -⟩ := Store.childrenOf?_eq_some htree.1.choose_spec
  have hparts : (parts root "walk" : Run σ NodeParts) w = .ok p w := by
    simp [parts, Run.bind_apply, Store.node?_eq_some_iff.mpr hnode]
  have hwalk : (walkMode phase : Run σ WalkMode) w = .ok mode w := by
    simp [walkMode, Run.bind_apply, hmode, WalkMode.ofName?_name]
  rw [walk, Run.bind_apply, hparts]
  dsimp only
  rw [Run.bind_apply, hwalk]
  refine Run.bind_congr ?_ fun _ _ _ => rfl
  rw [walkNode_eq_visitAll hpassive mode hfuel htree, visitAll_unit]

-- A failure ends a sequence of calls, and nothing after it is called.
theorem forM_eq_error {ι : Type} {f : ι → Run σ Unit} {calls : List ι} {k : Nat} {c : ι}
    {w w₁ w₂ : World σ} {fault : Fault} (hc : calls[k]? = some c)
    (hbefore : forM (calls.take k) f w = .ok () w₁) (hstop : f c w₁ = .error fault w₂) :
    forM calls f w = .error fault w₂ := by
  obtain ⟨hk, rfl⟩ := List.getElem?_eq_some_iff.mp hc
  have hsplit : calls = calls.take k ++ calls[k] :: calls.drop (k + 1) := by
    rw [← List.drop_eq_getElem_cons hk, List.take_append_drop]
  rw [hsplit, List.forM_append, Run.bind_apply, hbefore]
  dsimp only
  rw [List.forM_cons, Run.bind_apply, hstop]

-- A tree has one path to each of its nodes.
theorem descends_unique {s : Store} {root v : Value} {below : Forest Value} {d e : Nat}
    (htree : (Forest.cons root below .nil).In s)
    (hdistinct : (Forest.cons root below .nil).labels.Nodup)
    (hd : s.Descends root d v) (he : s.Descends root e v) : d = e := by
  have hcall : ∀ {k}, s.Descends root k v →
      ⟨v, k, Phase.before⟩ ∈ (Forest.cons root below .nil).calls 0 := fun {k} h =>
    (Forest.mem_calls_iff htree 0 v k .before).mpr ⟨root, by simp [Forest.roots], k, by omega, h⟩
  have hsame := List.inj_on_of_nodup_map (Forest.nodup_marks 0 hdistinct) (hcall hd) (hcall he) rfl
  exact congrArg Call.depth hsame

-- The calls of a walk over a tree are its nodes opened and closed like brackets, less those of the
-- phase that was not asked for. The walk ends with the first call that fails, and otherwise gives
-- the node back. As many steps as the store allows are always enough.
theorem walk_brackets {visit : Value → Nat → Phase → Run σ Unit} {w : World σ}
    {root phase : Value} {below : Forest Value} {mode : WalkMode} {fuel : Nat}
    (hpassive : Passive fun (_ : Unit) => visit)
    (htree : (Forest.cons root below .nil).In w.store)
    (hdistinct : (Forest.cons root below .nil).labels.Nodup)
    (hmode : w.store.text? phase = some mode.name)
    (hfuel : 2 * (Forest.cons root below .nil).size ≤ fuel) :
    let both := (Forest.cons root below .nil).calls 0
    let made := both.filter fun c => mode.asks c.phase
    let call := fun c : Call Value => visit c.node c.depth c.phase
    walk fuel root visit phase w = (do forM made call; return root : Run σ Value) w ∧
    (∀ k c fault w₁ w₂, made[k]? = some c → forM (made.take k) call w = .ok () w₁ →
      call c w₁ = .error fault w₂ → walk fuel root visit phase w = .error fault w₂) ∧
    (∀ w₁, forM made call w = .ok () w₁ → walk fuel root visit phase w = .ok root w₁) ∧
    (both.map Call.mark).Nodup ∧
    (∀ v d p, ⟨v, d, p⟩ ∈ both ↔ w.store.Descends root d v) ∧
    (∀ v d e, w.store.Descends root d v → w.store.Descends root e v → d = e) ∧
    (∀ v d u k p, w.store.Descends root d v → w.store.Descends v (k + 1) u →
      [⟨v, d, .before⟩, ⟨u, d + (k + 1), p⟩, ⟨v, d, .after⟩].Sublist both) ∧
    (∀ root' below', ((Forest.cons root' below' .nil).calls 0).map Call.mark = both.map Call.mark →
      root' = root ∧ below' = below) ∧
    2 * (Forest.cons root below .nil).size ≤ walkBound w.store := by
  intro both made call
  have hwalk := walk_eq_forM hpassive htree hmode hfuel
  have hmem : ∀ v d p, ⟨v, d, p⟩ ∈ both ↔ w.store.Descends root d v := by
    intro v d p
    rw [Forest.mem_calls_iff htree]
    simp [Forest.roots]
  refine ⟨hwalk, ?_, ?_, Forest.nodup_marks 0 hdistinct, hmem,
    fun v d e hd he => descends_unique htree hdistinct hd he, ?_, ?_,
    size_le_walkBound htree hdistinct⟩
  · intro k c fault w₁ w₂ hc hbefore hstop
    rw [hwalk, Run.bind_apply, show selected mode both = made from rfl,
      forM_eq_error hc hbefore hstop]
  · intro w₁ hall
    rw [hwalk, Run.bind_apply, show selected mode both = made from rfl, hall]
    rfl
  · intro v d u k p hv hu
    exact Forest.sublist_of_descends htree ((hmem v d .before).mpr hv) hu p
  · intro root' below' hmarks
    cases Forest.eq_of_marks_eq hmarks
    exact ⟨rfl, rfl⟩

-- A root with two leaves, each node ahead of its list of children.
private def twoLeaves : World Unit where
  store := ⟨#[
    .node ⟨.text "sum", .ref 6, .ref 1, .ref 7⟩, .list [.ref 2, .ref 4],
    .node ⟨.text "left", .ref 8, .ref 3, .ref 7⟩, .list [],
    .node ⟨.text "right", .ref 9, .ref 5, .ref 7⟩, .list [],
    .dict {}, .position (.int 1) (.int 1) (.int 0), .dict {}, .dict {}]⟩
  log := []
  client := ()

-- Renames the nodes that it meets, and fails at the second leaf.
private def renameUntilRight (v : Value) (_ : Nat) (_ : Phase) : Run Unit Unit := do
  if v = .ref 4 then Run.raise .runtimeError "no such leaf"
  let _ ← setType v (.text "seen")

private theorem passive_renameUntilRight : Passive fun (_ : Unit) => renameUntilRight := by
  intro acc v depth phase w acc' w' h
  by_cases hv : v = .ref 4
  · simp [renameUntilRight, hv, Run.bind_apply] at h
  · cases hnode : w.store.node? v with
    | none => simp [renameUntilRight, hv, setType, parts, Run.bind_apply, hnode] at h
    | some p =>
        simp [renameUntilRight, hv, setType, requireType, parts, Run.bind_apply, hnode,
          Store.isText, Store.text?] at h
        rw [← h]
        exact Store.keepsChildren_put (Store.node?_eq_some_iff.mp hnode) rfl

-- The nodes that were met before the failure have their new names, and the leaf at which the walk
-- failed has its old one.
theorem walk_brackets_renaming :
    ∃ w', walk 6 (.ref 0) renameUntilRight (.text "both") twoLeaves =
        .error (.raised (.message .runtimeError "no such leaf")) w' ∧
      w'.store.part (.ref 2) "type" = .text "seen" ∧
      w'.store.part (.ref 4) "type" = .text "right" := by
  have htree : (Forest.cons (.ref 0) (.cons (.ref 2) .nil (.cons (.ref 4) .nil .nil)) .nil).In
      twoLeaves.store :=
    ⟨⟨.ref 1, rfl⟩, ⟨⟨.ref 3, rfl⟩, trivial, ⟨.ref 5, rfl⟩, trivial, trivial⟩, trivial⟩
  have hmode : twoLeaves.store.text? (.text "both") = some WalkMode.both.name := rfl
  exact ⟨_, (walk_brackets passive_renameUntilRight htree (by decide) hmode (by decide)).2.1 3
    ⟨.ref 4, 1, .before⟩ _ _ _ rfl rfl rfl, rfl, rfl⟩

end ParseKit.Node
