import Mathlib.Data.List.Nodup
import ParseKit.Proofs.Node.Change
import ParseKit.Proofs.Node.Construction

namespace ParseKit.Node

variable {σ α β : Type}

open Store (Proper Changed Born)
open Run (Gives Reads)

-- A run that changes one node at most, and that adds no other children to it than these.
def Edits (v : Value) (added : List Value) (x : Run σ α) (s : Store) : Prop :=
  ∀ w, w.store = s → Changed v added s (x.after w).store

namespace Edits

variable {s s' : Store} {v : Value} {added : List Value} {x : Run σ α} {f : α → Run σ β} {a : α}

theorem of_gives (hx : Gives x s a s') (hchanged : Changed v added s s') :
    Edits v added x s := by
  intro w hw
  rw [Run.after_ok (hx w hw)]
  exact hchanged

theorem of_reads {P : α → Store → Prop} (hsound : s.Sound) (hx : Reads x P) :
    Edits v added x s := by
  rintro w rfl
  rcases hx w with ⟨fault, h⟩ | ⟨a, -, h⟩
  · rw [Run.after_error h]
    exact .refl hsound v added
  · rw [Run.after_ok h]
    exact .refl hsound v added

theorem read {P : α → Store → Prop} (hsound : s.Sound) (hx : Reads x P)
    (hf : ∀ a, P a s → Edits v added (f a) s) : Edits v added (x >>= f) s := by
  rintro w rfl
  rcases hx w with ⟨fault, h⟩ | ⟨a, ha, h⟩
  · have hfail : (x >>= f) w = .error fault w := by rw [Run.bind_apply, h]
    rw [Run.after_error hfail]
    exact .refl hsound v added
  · have hrest := hf a ha w rfl
    simpa only [Run.after, Run.bind_apply, h] using hrest

-- What is changed one after the other is changed in all.
theorem bind (hsound : s.Sound) (hx : Edits v [] x s)
    (hf : ∀ a s', s'.Sound → Edits v added (f a) s') : Edits v added (x >>= f) s := by
  intro w hw
  have hfirst := hx w hw
  rcases Run.after_bind x f w with h | ⟨a, -, h⟩
  · rw [h]
    exact hfirst.weaken (List.nil_sublist _)
  · rw [h]
    exact hfirst.trans (hf a _ (hfirst.sound hsound) _ rfl)

end Edits

theorem parts_reads (v : Value) (operation : String) :
    Reads (parts v operation : Run σ NodeParts) fun p s => s.get? v = some (.node p) := by
  intro w
  cases h : w.store.node? v with
  | some p => exact Or.inr ⟨p, Store.node?_eq_some_iff.mp h, by simp [parts, Run.bind_apply, h]⟩
  | none => exact Or.inl ⟨_, by simp [parts, Run.bind_apply, h]; rfl⟩

theorem requireType_reads (type : Value) :
    Reads (requireType type : Run σ Unit) fun _ s => s.isText type = true :=
  .guard (·.isText type) fun _ => .refusal _ _ _ _

theorem requireName_reads (key : Value) :
    Reads (requireName key : Run σ Unit) fun _ s => s.isText key = true :=
  .guard (·.isText key) fun _ => .refusal _ _ _ _

theorem requireWellFormed_reads (v : Value) :
    Reads (requireWellFormed v : Run σ Unit) fun _ s => s.WellFormed v :=
  (Reads.guard (·.isWellFormedNode v) fun _ => .refusal _ _ _ _).weaken fun _ _ =>
    Store.isWellFormedNode_iff.mp

theorem requireAll_reads (nodes : List Value) :
    Reads (requireAll nodes : Run σ Unit) fun _ s => ∀ v ∈ nodes, s.WellFormed v := by
  induction nodes with
  | nil => exact (Reads.pure ()).weaken fun _ _ _ => by simp
  | cons v rest ih =>
      refine ((requireWellFormed_reads v).bind fun _ => ih).weaken fun _ s h => ?_
      obtain ⟨-, hv, hrest⟩ := h
      simpa using ⟨hv, hrest⟩

theorem flatten_reads (args : List Value) :
    Reads (flatten args : Run σ (List Value)) fun nodes s =>
      nodes = args.flatMap (contribution s) ∧ ∀ v ∈ nodes, s.WellFormed v := by
  refine (Reads.store.bind fun s => (requireAll_reads _).bind fun _ => Reads.pure _).weaken
    fun nodes s h => ?_
  obtain ⟨s', rfl, -, hall, rfl⟩ := h
  exact ⟨rfl, hall⟩

theorem orZero_reads (v : Value) : Reads (orZero v : Run σ Value) fun _ _ => True :=
  fun w => Or.inr ⟨_, trivial, by simp [orZero, Run.bind_apply]; rfl⟩

theorem raise_bind_reads {f : α → Run σ β} (c : ErrorClass) (text : String)
    (P : β → Store → Prop) : Reads (Run.raise c text >>= f) P :=
  fun w => Or.inl ⟨_, by rw [Run.bind_apply, Run.raise_apply]⟩

section Changes

variable {s : Store} {v : Value}

theorem setType_edits (hsound : s.Sound) (v type : Value) :
    Edits v [] (setType v type : Run σ Value) s := by
  refine .read hsound (parts_reads v _) fun p hp => ?_
  refine .read hsound (requireType_reads type) fun _ htype => ?_
  obtain ⟨d, items, hv⟩ := hsound.proper v p hp
  exact .of_gives ((Gives.put _ _ _).bind (.pure _ _)) (hv.put_parts rfl rfl htype hv.position)

theorem setPosition_edits (hsound : s.Sound) (v line column offset : Value) :
    Edits v [] (setPosition v line column offset : Run σ Value) s := by
  refine .read hsound (parts_reads v _) fun p hp => ?_
  refine .read hsound (orZero_reads line) fun line _ => ?_
  refine .read hsound (orZero_reads column) fun column _ => ?_
  refine .read hsound (orZero_reads offset) fun offset _ => ?_
  let place : Object := .position line column offset
  have halloc : Changed v [] s (s.alloc place).2 := .alloc hsound rfl
  obtain ⟨d, items, hv⟩ := hsound.proper v p hp
  have hv := hv.of_extends (.alloc s place)
  have hposition : (s.alloc place).2.isPosition (s.alloc place).1 = true := by
    simp [Store.isPosition, Store.get?_alloc_here, place]
  exact .of_gives ((Gives.alloc place s).bind ((Gives.put _ _ _).bind (.pure _ _)))
    (halloc.trans (hv.put_parts rfl rfl hv.type hposition))

theorem setAttribute_edits (hsound : s.Sound) (v key value : Value) :
    Edits v [] (setAttribute v key value : Run σ Value) s := by
  refine .read hsound (parts_reads v _) fun p hp => ?_
  refine .read hsound (requireName_reads key) fun _ hkey => ?_
  obtain ⟨d, items, hv⟩ := hsound.proper v p hp
  obtain ⟨t, ht⟩ := Option.isSome_iff_exists.mp hkey
  refine .of_gives ((assignItem_gives value hv.attributes ht).bind (.pure _ _))
    (hv.put_attributes fun e he => ?_)
  rcases (Store.mem_insert he).1 with h | ⟨e', he', h⟩
  · rw [h]
    exact hkey
  · rw [h]
    exact hv.names e' he'

theorem setEach_edits (hsound : s.Sound) (v : Value) (entries : List (Value × Value)) :
    Edits v [] (setEach v entries : Run σ Unit) s := by
  induction entries generalizing s with
  | nil => exact .of_reads hsound (.pure ())
  | cons e rest ih => exact .bind hsound (setAttribute_edits hsound v e.1 e.2) fun _ _ h => ih h

theorem setAttributes_edits (hsound : s.Sound) (v attributes : Value) :
    Edits v [] (setAttributes v attributes : Run σ Value) s := by
  refine .read hsound (parts_reads v _) fun p hp => ?_
  refine .read hsound .store fun s' hs' => ?_
  cases s'.entries? attributes with
  | some entries =>
      exact .bind hsound (setEach_edits hsound v entries) fun _ _ h => .of_reads h (.pure v)
  | none =>
      exact .read hsound (.inspect _) fun _ _ => .of_reads hsound
        (raise_bind_reads _ _ fun _ _ => True)

-- Of the nodes that are meant to be added either all are, each of them well formed, or none is.
def Adds (s : Store) (nodes added : List Value) : Prop :=
  added = [] ∨ added = nodes ∧ ∀ u ∈ nodes, s.WellFormed u

theorem get?_of_wellFormed {u : Value} (h : s.WellFormed u) :
    ∃ q, s.get? u = some (.node q) := by
  obtain ⟨q, -, -, -, -, -, -, hq, -⟩ := h
  exact ⟨q, hq⟩

theorem addChildren_edits (hsound : s.Sound) (v : Value) (args : List Value) :
    ∃ added, Adds s (args.flatMap (contribution s)) added ∧
      Edits v added (addChildren v args : Run σ Value) s := by
  have hedits : ∀ {added},
      ((∀ u ∈ args.flatMap (contribution s), s.WellFormed u) →
        added = args.flatMap (contribution s)) →
      Edits v added (addChildren v args : Run σ Value) s := by
    intro added hadded
    refine .read hsound (parts_reads v _) fun p hp => ?_
    obtain ⟨d, items, hv⟩ := hsound.proper v p hp
    split
    · exact .of_reads hsound (raise_bind_reads _ _ fun _ _ => True)
    refine .read hsound .store fun s' hs' => ?_
    subst hs'
    rw [Store.list?_eq_some_iff.mpr hv.children]
    refine .read hsound (flatten_reads args) fun nodes ⟨hnodes, hall⟩ => ?_
    subst hnodes
    rw [hadded hall]
    exact .of_gives ((Gives.put _ _ _).bind (.pure _ _))
      (hv.put_children (List.Sublist.refl _) fun u hu => get?_of_wellFormed (hall u hu))
  by_cases hall : ∀ u ∈ args.flatMap (contribution s), s.WellFormed u
  · exact ⟨_, Or.inr ⟨rfl, hall⟩, hedits fun _ => rfl⟩
  · exact ⟨[], Or.inl rfl, hedits fun h => absurd h hall⟩

-- The first of the nodes that is not well formed is the one that is refused.
theorem requireAll_first {before : List Value} {bad : Value} {w : World σ}
    (hbefore : ∀ u ∈ before, w.store.WellFormed u) (hbad : ¬w.store.WellFormed bad)
    (after : List Value) :
    (requireAll (before ++ bad :: after) : Run σ Unit) w = requireWellFormed bad w := by
  induction before with
  | nil =>
      obtain ⟨e, w', hstop⟩ := requireWellFormed_fails (σ := σ) hbad w rfl
      rw [List.nil_append, requireAll, Run.bind_apply, hstop]
  | cons u before ih =>
      obtain ⟨hu, hbefore⟩ := List.forall_mem_cons.mp hbefore
      rw [List.cons_append, requireAll, Run.bind_apply, requireWellFormed_gives hu w rfl]
      exact ih hbefore

-- Nodes are added to a list of children once all of them were checked.
theorem addChildren_apply {holder : Value} {items args : List Value} {w : World σ}
    (hc : w.store.childrenOf? v = some (holder, items)) (hargs : args ≠ []) :
    addChildren v args w = (do
      requireAll (args.flatMap (contribution w.store))
      Run.put holder (.list (items ++ args.flatMap (contribution w.store)))
      return v : Run σ Value) w := by
  obtain ⟨p, hnode, rfl, hlist⟩ := Store.childrenOf?_eq_some hc
  have hargs : args.isEmpty = false := by simpa using hargs
  rw [addChildren, Run.bind_apply, parts_gives _ hnode w rfl]
  simp only [hargs, Bool.false_eq_true, if_false, Run.bind_apply, Run.store_apply,
    Store.list?_eq_some_iff.mpr hlist, flatten, Run.pure_apply]
  cases (requireAll (args.flatMap (contribution w.store)) : Run σ Unit) w <;> rfl

-- Well-formed nodes are added in their order.
theorem addChildren_of_wellFormed {holder : Value} {items args : List Value}
    (hc : s.childrenOf? v = some (holder, items)) (hargs : args ≠ [])
    (hall : ∀ u ∈ args.flatMap (contribution s), s.WellFormed u) :
    Gives (addChildren v args : Run σ Value) s v
      (s.put holder (.list (items ++ args.flatMap (contribution s)))) := by
  rintro w rfl
  rw [addChildren_apply hc hargs, Run.bind_apply, requireAll_gives hall w rfl]
  rfl

-- What an addition to a list of children has done if it was not refused.
theorem addChildren_ok {holder r : Value} {items args : List Value}
    {w w' : World σ} (hc : w.store.childrenOf? v = some (holder, items))
    (h : addChildren v args w = .ok r w') :
    (∀ u ∈ args.flatMap (contribution w.store), w.store.WellFormed u) ∧
      w' = { w with
        store := w.store.put holder (.list (items ++ args.flatMap (contribution w.store))) } := by
  by_cases hargs : args = []
  · subst hargs
    obtain ⟨p, hnode, -, -⟩ := Store.childrenOf?_eq_some hc
    rw [addChildren, Run.bind_apply, parts_gives _ hnode w rfl] at h
    cases h
  · rw [addChildren_apply hc hargs] at h
    obtain ⟨_, w₁, hall, h⟩ := Run.ok_of_bind h
    rcases requireAll_reads _ w with ⟨fault, hfail⟩ | ⟨_, hfit, hread⟩
    · rw [hfail] at hall
      cases hall
    · rw [hread] at hall
      cases hall
      cases h
      exact ⟨hfit, rfl⟩

theorem deleteItem_gives {holder : Value} {items : List Value} {place : Nat}
    (hlist : s.get? holder = some (.list items)) (hplace : place < items.length) :
    Gives (deleteItem holder (.int place) : Run σ Unit) s ()
      (s.put holder (.list (items.eraseIdx place))) := by
  rintro w rfl
  have hnonneg : ¬((place : Int) < 0) := by omega
  simp [deleteItem, changeItemAt, Run.bind_apply, hlist, Value.toInt?, hnonneg, hplace]

-- A child is looked for in the list as it is when its turn comes.
theorem removeEach_cons {holder : Value} {items : List Value} {w : World σ}
    (hc : w.store.childrenOf? v = some (holder, items)) (child : Value) (rest : List Value) :
    removeEach v (child :: rest) w =
      (match items.idxOf? child with
        | some place => do
          deleteItem holder (.int place)
          removeEach v rest
        | none => do
          let shown ← Run.inspect (·.inspect child)
          Run.raise .notFound ("Child not found: " ++ shown) : Run σ Unit) w := by
  obtain ⟨p, hnode, rfl, hlist⟩ := Store.childrenOf?_eq_some hc
  have hitems : Gives (Run.inspect (·.elements p.children) : Run σ (List Value)) w.store items
      w.store := .inspect (Store.elements_list hlist)
  rw [removeEach, Run.bind_apply, parts_gives _ hnode w rfl]
  exact hitems.continues _ w rfl

-- A child that is there is taken out at its first occurrence before the others are.
theorem removeEach_present {holder child : Value} {items : List Value} {w : World σ}
    (hc : w.store.childrenOf? v = some (holder, items)) (hchild : child ∈ items)
    (rest : List Value) :
    removeEach v (child :: rest) w = removeEach v rest
      { w with store := w.store.put holder (.list (items.erase child)) } := by
  obtain ⟨-, -, -, hlist⟩ := Store.childrenOf?_eq_some hc
  rw [removeEach_cons hc]
  cases hplace : items.idxOf? child with
  | none => exact absurd hchild (List.idxOf?_eq_none_iff.mp hplace)
  | some place =>
      obtain ⟨hlt, -, -⟩ := List.idxOf?_eq_some_iff.mp hplace
      have herase : items.erase child = items.eraseIdx place := by
        rw [List.erase_eq_eraseIdx, hplace]
      dsimp only
      rw [Run.bind_apply, deleteItem_gives hlist hlt w rfl, herase]

-- A value that is no child is the end.
theorem removeEach_missing {holder child : Value} {items : List Value} {w : World σ}
    (hc : w.store.childrenOf? v = some (holder, items)) (hmissing : child ∉ items)
    (rest : List Value) :
    removeEach v (child :: rest) w = (do
      let shown ← Run.inspect (·.inspect child)
      Run.raise .notFound ("Child not found: " ++ shown) : Run σ Unit) w := by
  rw [removeEach_cons hc, List.idxOf?_eq_none_iff.mpr hmissing]

theorem removeEach_cases {holder : Value} {items : List Value} {w : World σ}
    (hc : w.store.childrenOf? v = some (holder, items)) (child : Value) (rest : List Value) :
    (child ∈ items ∧ removeEach v (child :: rest) w = removeEach v rest
      { w with store := w.store.put holder (.list (items.erase child)) }) ∨
    (child ∉ items ∧ ∃ fault, removeEach v (child :: rest) w = .error fault w) := by
  by_cases hchild : child ∈ items
  · exact Or.inl ⟨hchild, removeEach_present hc hchild rest⟩
  · have hrefuse : Reads (do
        let shown ← Run.inspect (·.inspect child)
        Run.raise .notFound ("Child not found: " ++ shown) : Run σ Unit) fun _ _ => False :=
      .refusal _ _ _ _
    refine Or.inr ⟨hchild, ?_⟩
    rw [removeEach_missing hc hchild]
    exact (hrefuse w).resolve_right fun ⟨_, h, _⟩ => h

theorem removeChildren_child {holder child : Value} {items : List Value} {w : World σ}
    (hc : w.store.childrenOf? v = some (holder, items)) (hchild : child ∈ items) :
    removeChildren v [child] w =
      .ok v { w with store := w.store.put holder (.list (items.erase child)) } := by
  obtain ⟨p, hnode, -, -⟩ := Store.childrenOf?_eq_some hc
  rcases removeEach_cases hc child [] with ⟨-, hrest⟩ | ⟨hmissing, -⟩
  · rw [removeChildren, Run.bind_apply, parts_gives _ hnode w rfl]
    simp only [List.isEmpty_cons, Bool.false_eq_true, if_false, Run.bind_apply, hrest]
    rfl
  · exact absurd hchild hmissing

theorem removeEach_edits (hsound : s.Sound) (v : Value) (children : List Value) :
    Edits v [] (removeEach v children : Run σ Unit) s := by
  induction children generalizing s with
  | nil => exact .of_reads hsound (.pure ())
  | cons child rest ih =>
      by_cases hnode : ∃ p, s.get? v = some (.node p)
      · rintro w rfl
        obtain ⟨p, hp⟩ := hnode
        obtain ⟨d, items, hv⟩ := hsound.proper v p hp
        rcases removeEach_cases hv.childrenOf? child rest with ⟨-, hrest⟩ | ⟨-, fault, hfail⟩
        · have hput : Changed v [] w.store (w.store.put p.children (.list (items.erase child))) :=
            hv.put_children (by simpa using List.erase_sublist) (by simp)
          rw [Run.after, hrest]
          exact hput.trans (ih (hput.sound hsound) _ rfl)
        · rw [Run.after_error hfail]
          exact .refl hsound v []
      · rw [removeEach]
        exact .read hsound (parts_reads v _) fun p hp => absurd ⟨p, hp⟩ hnode

-- When all values were taken out, what is left is the difference of the lists.
theorem removeEach_ok {p : NodeParts} {d : Dictionary} {items children : List Value}
    {w w' : World σ} {r : Unit} (hv : Proper w.store v p d items)
    (h : removeEach v children w = .ok r w') :
    (∀ u ∈ children, u ∈ items) ∧
      w'.store.childrenOf? v = some (p.children, items.diff children) := by
  induction children generalizing w items with
  | nil =>
      cases h
      exact ⟨by simp, hv.childrenOf?⟩
  | cons child rest ih =>
      rcases removeEach_cases hv.childrenOf? child rest with ⟨hchild, hrest⟩ | ⟨-, fault, hfail⟩
      · rw [hrest] at h
        obtain ⟨hthere, hleft⟩ :=
          ih (hv.with_children fun u hu => hv.members u (List.mem_of_mem_erase hu)) h
        refine ⟨?_, by rw [List.diff_cons]; exact hleft⟩
        rintro u (_ | ⟨_, hu⟩)
        · exact hchild
        · exact List.mem_of_mem_erase (hthere u hu)
      · rw [hfail] at h
        cases h

theorem removeChildren_edits (hsound : s.Sound) (v : Value) (children : List Value) :
    Edits v [] (removeChildren v children : Run σ Value) s := by
  refine .read hsound (parts_reads v _) fun p _ => ?_
  split
  · exact .of_reads hsound (raise_bind_reads _ _ fun _ _ => True)
  · exact .bind hsound (removeEach_edits hsound v children) fun _ _ h => .of_reads h (.pure v)

theorem removeChildren_ok {p : NodeParts} {d : Dictionary} {items children : List Value}
    {w w' : World σ} {r : Value} (hv : Proper w.store v p d items)
    (h : removeChildren v children w = .ok r w') :
    (∀ u ∈ children, u ∈ items) ∧
      w'.store.childrenOf? v = some (p.children, items.diff children) := by
  rw [removeChildren, Run.bind_apply, parts_gives _ hv.node w rfl] at h
  dsimp only at h
  split at h
  · cases h
  · rw [Run.bind_apply] at h
    cases hremove : removeEach v children w with
    | error fault w₁ =>
        rw [hremove] at h
        cases h
    | ok u w₁ =>
        rw [hremove] at h
        cases h
        exact removeEach_ok hv hremove

end Changes

end ParseKit.Node
