import ParseKit.Proofs.Node.Dump
import ParseKit.Proofs.Node.Ownership

namespace ParseKit.Node

variable {σ : Type}

open Store (IsForest Orphan Proper Changed)
open Relation (ReflTransGen)

-- An operation that adds nodes only adds different ones that are nobody's children at that time,
-- and that are neither the node it is called on nor above it. Nothing is asked of an operation that
-- adds nothing because something that it was given is no well-formed node. What it was given
-- exists.
def Disciplined (op : Operation) (s : Store) : Prop :=
  (∀ u ∈ op.nodes s, s.Known u) ∧
  ((∀ u ∈ op.nodes s, s.WellFormed u) →
    (op.nodes s).Nodup ∧ ∀ u ∈ op.nodes s, s.Orphan u ∧
      ∀ v, op.receiver = some v → ∀ depth, ¬s.Descends u depth v)

variable {s s' : Store} {w w' : World σ} {u v : Value}

theorem isForest_of_adds {nodes added : List Value} (hforest : s.IsForest)
    (hgrown : Store.Regrown v added s s') (hadds : Adds s nodes added)
    (hnodes : (∀ u ∈ nodes, s.WellFormed u) → nodes.Nodup ∧
      ∀ u ∈ nodes, s.Orphan u ∧ ∀ depth, ¬s.Descends u depth v) : s'.IsForest := by
  rcases hadds with rfl | ⟨rfl, hall⟩
  · exact hforest.regrown hgrown List.nodup_nil (by simp) (by simp)
  · obtain ⟨hdistinct, hrest⟩ := hnodes hall
    exact hforest.regrown hgrown hdistinct (fun u hu => (hrest u hu).1)
      fun u hu => (hrest u hu).2

-- There is no way to a node that is not there yet.
theorem not_descends_of_new (hsound : s.Sound) (hv : s.get? v = none)
    (hu : s.WellFormed u) (depth : Nat) : ¬s.Descends u depth v := by
  intro hdown
  cases depth with
  | zero =>
      cases hdown
      exact hu.get?_ne_none hv
  | succ depth =>
      obtain ⟨y, -, hy⟩ := hdown.exists_last
      obtain ⟨q, hq⟩ := hsound.node_of_mem hy
      cases hv.symm.trans hq

theorem Operation.isForest (op : Operation) (hsound : w.store.Sound) (hforest : w.store.IsForest)
    (hop : Disciplined op w.store) : (op.perform.after w).store.IsForest := by
  obtain ⟨hknown, hnodes⟩ := hop
  rcases op.effect hsound (w := w) rfl with ⟨-, h⟩ | ⟨-, v, added, hborn, hadds⟩ |
    ⟨v, added, hreceiver, hchanged, hadds⟩
  · rw [h]
    exact hforest
  · refine isForest_of_adds hforest (hborn.regrown hsound) (hadds hknown) fun hall => ?_
    obtain ⟨hdistinct, hrest⟩ := hnodes hall
    exact ⟨hdistinct, fun u hu =>
      ⟨(hrest u hu).1, not_descends_of_new hsound hborn.new (hall u hu)⟩⟩
  · refine isForest_of_adds hforest (hchanged.regrown hsound) hadds fun hall => ?_
    obtain ⟨hdistinct, hrest⟩ := hnodes hall
    exact ⟨hdistinct, fun u hu => ⟨(hrest u hu).1, (hrest u hu).2 v hreceiver⟩⟩

theorem Step.isForest (h : Step Disciplined w w') (hsound : w.store.Sound)
    (hforest : w.store.IsForest) : w'.store.IsForest := by
  cases h with
  | perform op hop => exact op.isForest hsound hforest hop
  | make plain made =>
      rw [made]
      exact hforest.same_children ((Store.KeepsNodes.alloc _ plain).children hsound)
  | change there before plain own changed =>
      rw [changed]
      exact hforest.same_children ((Store.KeepsNodes.put there before plain own).children hsound)

theorem isForest_of_no_nodes (h : ∀ v p, s.get? v ≠ some (.node p)) : s.IsForest where
  once v := by
    rw [Store.children_of_not_node fun ⟨p, hp⟩ => h v p hp]
    exact List.nodup_nil
  oneParent u v x hx := by
    rw [Store.children_of_not_node fun ⟨p, hp⟩ => h u p hp] at hx
    cases hx
  acyclic v depth hcycle := by
    obtain ⟨x, hx, -⟩ := hcycle.exists_first
    rw [Store.children_of_not_node fun ⟨p, hp⟩ => h v p hp] at hx
    cases hx

theorem run_isForest (h : ReflTransGen (Step Disciplined) w w') (hsound : w.store.Sound)
    (hforest : w.store.IsForest) : w'.store.Sound ∧ w'.store.IsForest := by
  induction h with
  | refl => exact ⟨hsound, hforest⟩
  | tail _ hstep ih =>
      obtain ⟨hmid, hmidForest⟩ := ih
      exact ⟨(hstep.sound_later hmid).1, hstep.isForest hmid hmidForest⟩

theorem tree_of_isForest (hsound : s.Sound) (hforest : s.IsForest) {p : NodeParts}
    (hv : s.get? v = some (.node p)) :
    ∃ below, (Forest.cons v below .nil).In s ∧ (Forest.cons v below .nil).labels.Nodup := by
  obtain ⟨below, hin⟩ := hforest.exists_tree hsound hv
  refine ⟨below, hin, hforest.nodup_labels hin (by simp [Forest.roots]) ?_⟩
  intro a ha b hb depth
  simp only [Forest.roots, List.mem_singleton] at ha hb
  subst ha hb
  exact hforest.acyclic _ depth

-- A walk over a node of a forest visits everything that can be reached from the node, in every
-- phase that was asked for exactly once.
theorem walk_of_isForest (hsound : w.store.Sound) (hforest : w.store.IsForest) {p : NodeParts}
    (hv : w.store.get? v = some (.node p)) {phase : Value} {mode : WalkMode}
    (hmode : w.store.text? phase = some mode.name) :
    ∃ calls : List (Call Value), (calls.map Call.mark).Nodup ∧
      (∀ u depth q, ⟨u, depth, q⟩ ∈ calls ↔
        mode.asks q = true ∧ w.store.Descends v depth u) ∧
      ∀ (visit : Value → Nat → Phase → Run σ Unit) fuel, Passive (fun (_ : Unit) => visit) →
        walkBound w.store ≤ fuel → walk fuel v visit phase w = (do
          forM calls fun c => visit c.node c.depth c.phase
          return v : Run σ Value) w := by
  obtain ⟨below, hin, hdistinct⟩ := tree_of_isForest hsound hforest hv
  refine ⟨selected mode ((Forest.cons v below .nil).calls 0), ?_, fun u depth q => ?_, ?_⟩
  · exact (Forest.nodup_marks 0 hdistinct).sublist (List.Sublist.map _ List.filter_sublist)
  · rw [selected, List.mem_filter, Forest.mem_calls_iff hin, and_comm]
    simp [Forest.roots]
  · intro visit fuel hpassive hfuel
    exact walk_eq_forM hpassive hin hmode
      (Nat.le_trans (size_le_walkBound hin hdistinct) hfuel)

theorem node_of_removeChildren_ok {children : List Value} {r : Value}
    (h : removeChildren v children w = .ok r w') : ∃ p, w.store.get? v = some (.node p) := by
  rcases parts_reads v "remove_children" w with ⟨fault, hparts⟩ | ⟨p, hp, -⟩
  · rw [removeChildren, Run.bind_apply, hparts] at h
    cases h
  · exact ⟨p, hp⟩

-- What was taken out is nobody's child any more.
theorem orphan_of_removeChildren (hsound : w.store.Sound) (hforest : w.store.IsForest)
    {children : List Value} {r : Value} (h : removeChildren v children w = .ok r w') :
    w'.store.Sound ∧ w'.store.IsForest ∧ ∀ n ∈ children,
      (∃ q, w'.store.get? n = some (.node q)) ∧ w'.store.Orphan n := by
  obtain ⟨p, hp⟩ := node_of_removeChildren_ok h
  obtain ⟨d, items, hv⟩ := hsound.proper v p hp
  obtain ⟨hthere, hleft⟩ := removeChildren_ok hv h
  have hchanged : Changed v [] w.store w'.store := by
    have := removeChildren_edits (σ := σ) hsound v children w rfl
    rwa [Run.after_ok h] at this
  have hgrown := hchanged.regrown hsound
  refine ⟨hchanged.sound hsound,
    hforest.regrown hgrown List.nodup_nil (by simp) (by simp), fun n hn => ⟨?_, fun u hu => ?_⟩⟩
  · obtain ⟨q, hq⟩ := hv.members n (hthere n hn)
    exact (hchanged.kept hsound hq).imp fun _ h => h.1
  · have hitems := hv.children_eq
    have hdistinct : items.Nodup := hitems ▸ hforest.once v
    by_cases huv : u = v
    · subst huv
      rw [Store.children_eq hleft, hdistinct.mem_sdiff_iff] at hu
      exact hu.2 hn
    · rw [hgrown.elsewhere u huv] at hu
      exact huv (hforest.oneParent u v n hu (hitems ▸ hthere n hn))

-- An orphan may be added to any node that is not below it.
theorem addChildren_orphan (hsound : w.store.Sound) (hforest : w.store.IsForest) {p q : NodeParts}
    (hu : w.store.get? u = some (.node p)) (hv : w.store.get? v = some (.node q))
    (horphan : w.store.Orphan v) (hbelow : ∀ depth, ¬w.store.Descends v depth u) :
    ∃ w'', addChildren u [v] w = .ok u w'' ∧ w''.store.children u = w.store.children u ++ [v] ∧
      w''.store.IsForest := by
  obtain ⟨d, items, hproper⟩ := hsound.proper u p hu
  obtain ⟨d', items', hproper'⟩ := hsound.proper v q hv
  have hnodes : [v].flatMap (contribution w.store) = [v] := by
    cases v with
    | ref id => simp [contribution, Store.items?, hv]
    | _ => cases hv
  have hall : ∀ x ∈ [v].flatMap (contribution w.store), w.store.WellFormed x := by
    rw [hnodes]
    simpa using hproper'.wellFormed
  have hadd := addChildren_of_wellFormed (σ := σ) hproper.childrenOf?
    (List.cons_ne_nil v []) hall
  rw [hnodes] at hadd
  have hmembers : ∀ x ∈ items ++ [v], ∃ q, w.store.get? x = some (.node q) := by
    intro x hx
    rcases List.mem_append.mp hx with hx | hx
    · exact hproper.members x hx
    · exact ⟨q, List.mem_singleton.mp hx ▸ hv⟩
  have hchanged : Changed u [v] w.store (w.store.put p.children (.list (items ++ [v]))) :=
    hproper.put_children (List.Sublist.refl _) fun x hx => hmembers x (by simp [hx])
  refine ⟨_, hadd w rfl, ?_, ?_⟩
  · rw [(hproper.with_children hmembers).children_eq, hproper.children_eq]
  · exact hforest.regrown (hchanged.regrown hsound) (by simp) (by simpa using horphan)
      (by simpa using hbelow)

-- In a run from a store without nodes on that only adds nodes where it is allowed to, the nodes are
-- a forest. A walk or a dump of a node therefore ends, and a walk visits every node below it once
-- in every phase. Nodes that were taken out are nobody's children any more, and can be added to any
-- node that is not below them.
theorem run_owned {w₀ : World σ} (hempty : ∀ v p, w₀.store.get? v ≠ some (.node p))
    (hrun : ReflTransGen (Step Disciplined) w₀ w) :
    w.store.IsForest ∧
    (∀ v p, w.store.get? v = some (.node p) →
      (∀ w', dump v w ≠ .error .outOfFuel w') ∧
      ∀ phase (mode : WalkMode), w.store.text? phase = some mode.name →
        ∃ calls : List (Call Value), (calls.map Call.mark).Nodup ∧
          (∀ u depth q, ⟨u, depth, q⟩ ∈ calls ↔
            mode.asks q = true ∧ w.store.Descends v depth u) ∧
          ∀ (visit : Value → Nat → Phase → Run σ Unit) fuel, Passive (fun (_ : Unit) => visit) →
            walkBound w.store ≤ fuel → walk fuel v visit phase w = (do
              forM calls fun c => visit c.node c.depth c.phase
              return v : Run σ Value) w) ∧
    ∀ v children r w', removeChildren v children w = .ok r w' →
      w'.store.IsForest ∧ ∀ n ∈ children, n ∉ w'.store.children v ∧ w'.store.Orphan n ∧
        ∀ u p, w'.store.get? u = some (.node p) → (∀ depth, ¬w'.store.Descends n depth u) →
          ∃ w'', addChildren u [n] w' = .ok u w'' ∧
            w''.store.children u = w'.store.children u ++ [n] ∧ w''.store.IsForest := by
  obtain ⟨hsound, hforest⟩ := run_isForest hrun (Store.sound_of_no_nodes hempty)
    (isForest_of_no_nodes hempty)
  refine ⟨hforest, fun v p hv => ⟨fun w' => ?_, fun phase mode hmode => ?_⟩, ?_⟩
  · obtain ⟨below, hin, hdistinct⟩ := tree_of_isForest hsound hforest hv
    exact dump_ne_outOfFuel hin hdistinct
  · exact walk_of_isForest hsound hforest hv hmode
  · intro v children r w' h
    obtain ⟨hsound', hforest', hremoved⟩ := orphan_of_removeChildren hsound hforest h
    refine ⟨hforest', fun n hn => ?_⟩
    obtain ⟨⟨q, hq⟩, horphan⟩ := hremoved n hn
    exact ⟨horphan v, horphan, fun u p hu hbelow =>
      addChildren_orphan hsound' hforest' hu hq horphan hbelow⟩

private def emptyWorld : World Unit where
  store := {}
  log := []
  client := ()

private def leafFirst : World Unit :=
  performAll [.create (.text "leaf") .null .null] emptyWorld

-- A sum that was made with a leaf, and a node beside it.
private def leafInSum : World Unit :=
  performAll [.create (.text "sum") .null (.ref 3), .create (.text "list") .null .null] leafFirst

private theorem leafInSum_reached : ReflTransGen (Step Disciplined) emptyWorld leafInSum := by
  have hnothing : ∀ type s, Disciplined (.create type .null .null) s := by
    intro type s
    simp [Disciplined, Operation.nodes, contribution]
  have hleaf : Disciplined (.create (.text "sum") .null (.ref 3)) leafFirst.store := by
    have hnodes : Operation.nodes leafFirst.store (.create (.text "sum") .null (.ref 3)) =
        [.ref 3] := rfl
    have horphan : leafFirst.store.Orphan (.ref 3) := by
      intro v hv
      cases v with
      | ref id => rcases id with _ | _ | _ | _ | id <;> cases hv
      | _ => cases hv
    rw [Disciplined, hnodes]
    refine ⟨fun u hu id _ => ?_, fun _ => ⟨List.nodup_singleton _, fun u hu => ?_⟩⟩
    · rw [List.mem_singleton.mp hu]
      exact Option.some_ne_none _
    · rw [List.mem_singleton.mp hu]
      refine ⟨horphan, fun v h => ?_⟩
      cases h
  exact .head (.perform (.create (.text "leaf") .null .null) (hnothing _ _))
    (.head (.perform (.create (.text "sum") .null (.ref 3)) hleaf)
      (.head (.perform (.create (.text "list") .null .null) (hnothing _ _)) .refl))

-- The leaf is taken out of the sum and added to the node beside it.
theorem run_owned_leafMoved :
    ∃ w' w'' : World Unit, removeChildren (.ref 7) [.ref 3] leafInSum = .ok (.ref 7) w' ∧
      w'.store.children (.ref 7) = [] ∧ addChildren (.ref 11) [.ref 3] w' = .ok (.ref 11) w'' ∧
      w''.store.children (.ref 11) = [.ref 3] ∧ w''.store.IsForest := by
  have hempty : ∀ v p, emptyWorld.store.get? v ≠ some (.node p) := by
    intro v p
    cases v <;> simp [emptyWorld, Store.get?]
  obtain ⟨-, -, hremoved⟩ := run_owned hempty leafInSum_reached
  let w' := (removeChildren (.ref 7) [.ref 3] : Run Unit Value).after leafInSum
  have hremove : removeChildren (.ref 7) [.ref 3] leafInSum = .ok (.ref 7) w' := rfl
  obtain ⟨-, hmoved⟩ := hremoved (.ref 7) [.ref 3] (.ref 7) w' hremove
  have hbelow : ∀ depth, ¬w'.store.Descends (.ref 3) depth (.ref 11) := by
    intro depth hdown
    cases depth with
    | zero => cases hdown
    | succ depth =>
        obtain ⟨x, hx, -⟩ := hdown.exists_first
        cases hx
  obtain ⟨-, -, hadd⟩ := hmoved (.ref 3) (by simp)
  obtain ⟨w'', hrun, hchildren, hforest⟩ := hadd (.ref 11) _ rfl hbelow
  exact ⟨w', w'', hremove, rfl, hrun, hchildren, hforest⟩

end ParseKit.Node
