import ParseKit.Build.Builder
import ParseKit.Proofs.Build.Span
import ParseKit.Proofs.Node.WellFormed
import ParseKit.Proofs.Run.Basic
import ParseKit.Proofs.Store.Entries
import ParseKit.Proofs.Value.Refusal

namespace ParseKit.Node

variable {σ : Type}

open Run (Continues Fails Gives)

-- A node with its children that is not yet there in an earlier store, as none of its parts is.
structure Made (s s' : Store) (v : Value) (p : NodeParts) (items : List Value) : Prop where
  grown : s.Extends s'
  node : s'.get? v = some (.node p)
  attributes : ∃ d, s'.get? p.attributes = some (.dict d)
  children : s'.get? p.children = some (.list items)
  position : ∃ line column offset, s'.get? p.position = some (.position line column offset)
  newNode : s.get? v = none
  newAttributes : s.get? p.attributes = none
  newChildren : s.get? p.children = none

-- Such a node with its attributes.
structure MadeOf (s s' : Store) (v : Value) (p : NodeParts) (fields : List (Value × Value))
    (items : List Value) : Prop extends Made s s' v p items where
  entries : ∃ d, s'.get? p.attributes = some (.dict d) ∧ d.entries = fields

theorem Made.attributes_ne {s s' : Store} {v : Value} {p : NodeParts} {items : List Value}
    (h : Made s s' v p items) : v ≠ p.attributes ∧ p.children ≠ p.attributes ∧
      p.position ≠ p.attributes := by
  obtain ⟨d, hd⟩ := h.attributes
  obtain ⟨line, column, offset, hp⟩ := h.position
  exact ⟨Store.ne_of_get? h.node hd (by simp), Store.ne_of_get? h.children hd (by simp),
    Store.ne_of_get? hp hd (by simp)⟩

theorem Made.children_ne {s s' : Store} {v : Value} {p : NodeParts} {items : List Value}
    (h : Made s s' v p items) : v ≠ p.children ∧ p.attributes ≠ p.children ∧
      p.position ≠ p.children := by
  obtain ⟨line, column, offset, hp⟩ := h.position
  exact ⟨Store.ne_of_get? h.node h.children (by simp), h.attributes_ne.2.1.symm,
    Store.ne_of_get? hp h.children (by simp)⟩

theorem parts_gives {s : Store} {v : Value} {p : NodeParts} (operation : String)
    (h : s.get? v = some (.node p)) : Gives (parts v operation : Run σ NodeParts) s p s := by
  rintro w rfl
  simp [parts, Run.bind_apply, Store.node?_eq_some_iff.mpr h]

theorem requireType_gives {s : Store} {type : Value} {t : String} (h : s.text? type = some t) :
    Gives (requireType type : Run σ Unit) s () s := by
  rintro w rfl
  simp [requireType, Run.bind_apply, Store.isText, h]

theorem requireName_gives {s : Store} {key : Value} {t : String} (h : s.text? key = some t) :
    Gives (requireName key : Run σ Unit) s () s := by
  rintro w rfl
  simp [requireName, Run.bind_apply, Store.isText, h]

-- A new node of a type has containers of its own, in which there is nothing, and no other node
-- comes into being with it.
theorem bare_gives {s : Store} {type : Value} {t : String} (h : s.text? type = some t) :
    ∃ v p s', Gives (bare type : Run σ Value) s v s' ∧ MadeOf s s' v p [] [] ∧ p.type = type ∧
      ∀ u q, s'.get? u = some (.node q) → u = v ∨ s.get? u = some (.node q) := by
  let place : Object := .position (.int 0) (.int 0) (.int 0)
  let s₁ := (s.alloc (.dict {})).2
  let s₂ := (s₁.alloc (.list [])).2
  let s₃ := (s₂.alloc place).2
  let p : NodeParts := ⟨type, (s.alloc (.dict {})).1, (s₁.alloc (.list [])).1, (s₂.alloc place).1⟩
  have hrun : Gives (bare type : Run σ Value) s (s₃.alloc (.node p)).1 (s₃.alloc (.node p)).2 :=
    (requireType_gives h).bind ((Gives.alloc (.dict {}) s).bind ((Gives.alloc (.list []) s₁).bind
      ((Gives.alloc place s₂).bind (Gives.alloc (.node p) s₃))))
  have h₁ : s.Extends s₁ := .alloc s _
  have h₂ : s₁.Extends s₂ := .alloc s₁ _
  have h₃ : s₂.Extends s₃ := .alloc s₂ _
  have h₄ : s₃.Extends (s₃.alloc (.node p)).2 := .alloc s₃ _
  have hd : (s₃.alloc (.node p)).2.get? p.attributes = some (.dict {}) :=
    h₄ _ _ (h₃ _ _ (h₂ _ _ (Store.get?_alloc_here s (.dict {}))))
  refine ⟨_, p, _, hrun, ?_, rfl, fun u q hu => ?_⟩
  · exact {
      grown := h₁.trans (h₂.trans (h₃.trans h₄))
      node := Store.get?_alloc_here _ _
      attributes := ⟨{}, hd⟩
      entries := ⟨{}, hd, rfl⟩
      children := h₄ _ _ (h₃ _ _ (Store.get?_alloc_here s₁ (.list [])))
      position := ⟨_, _, _, h₄ _ _ (Store.get?_alloc_here s₂ place)⟩
      newNode := (h₁.trans (h₂.trans h₃)).get?_eq_none (Store.get?_alloc_fresh s₃ (.node p))
      newAttributes := Store.get?_alloc_fresh s (.dict {})
      newChildren := h₁.get?_eq_none (Store.get?_alloc_fresh s₁ (.list [])) }
  · rw [Store.get?_alloc] at hu
    split at hu
    · exact .inl ‹_›
    · exact .inr (Store.nodes_alloc rfl (Store.nodes_alloc rfl (Store.nodes_alloc rfl hu)))

section

variable {s s' s'' : Store} {v : Value} {p : NodeParts} {fields : List (Value × Value)}
  {items : List Value}

theorem Made.putAttributes (h : Made s s' v p items) (d : Dictionary) :
    MadeOf s (s'.put p.attributes (.dict d)) v p d.entries items := by
  obtain ⟨old, hold⟩ := h.attributes
  obtain ⟨line, column, offset, hp⟩ := h.position
  obtain ⟨hv, hc, hpos⟩ := h.attributes_ne
  have hd : (s'.put p.attributes (.dict d)).get? p.attributes = some (.dict d) :=
    Store.get?_put_here _ hold
  exact { h with
    grown := h.grown.put h.newAttributes _
    node := (Store.get?_put_elsewhere s' _ hv).trans h.node
    attributes := ⟨d, hd⟩
    children := (Store.get?_put_elsewhere s' _ hc).trans h.children
    position := ⟨line, column, offset, (Store.get?_put_elsewhere s' _ hpos).trans hp⟩
    entries := ⟨d, hd, rfl⟩ }

theorem MadeOf.putChildren (h : MadeOf s s' v p fields items) (more : List Value) :
    MadeOf s (s'.put p.children (.list more)) v p fields more := by
  obtain ⟨d, hd, hentries⟩ := h.entries
  obtain ⟨line, column, offset, hp⟩ := h.position
  obtain ⟨hv, ha, hpos⟩ := h.children_ne
  have hd' := (Store.get?_put_elsewhere s' (.list more) ha).trans hd
  exact { h with
    grown := h.grown.put h.newChildren _
    node := (Store.get?_put_elsewhere s' _ hv).trans h.node
    attributes := ⟨d, hd'⟩
    children := Store.get?_put_here _ h.children
    position := ⟨line, column, offset, (Store.get?_put_elsewhere s' _ hpos).trans hp⟩
    entries := ⟨d, hd', hentries⟩ }

theorem MadeOf.putPosition {q line column offset : Value} (h : MadeOf s s' v p fields items)
    (hq : s'.get? q = some (.position line column offset)) :
    MadeOf s (s'.put v (.node { p with position := q })) v { p with position := q } fields
      items := by
  obtain ⟨d, hd, hentries⟩ := h.entries
  have hqv : q ≠ v := Store.ne_of_get? hq h.node (by simp)
  have hd' := (Store.get?_put_elsewhere s' (.node { p with position := q })
    h.attributes_ne.1.symm).trans hd
  exact { h with
    grown := h.grown.put h.newNode _
    node := Store.get?_put_here _ h.node
    attributes := ⟨d, hd'⟩
    children := (Store.get?_put_elsewhere s' _ h.children_ne.1.symm).trans h.children
    position := ⟨line, column, offset, (Store.get?_put_elsewhere s' _ hqv).trans hq⟩
    entries := ⟨d, hd', hentries⟩ }

theorem MadeOf.extends (h : MadeOf s s' v p fields items) (hext : s'.Extends s'') :
    MadeOf s s'' v p fields items := by
  obtain ⟨d, hd, hentries⟩ := h.entries
  obtain ⟨line, column, offset, hp⟩ := h.position
  exact { h with
    grown := h.grown.trans hext
    node := hext _ _ h.node
    attributes := ⟨d, hext _ _ hd⟩
    children := hext _ _ h.children
    position := ⟨line, column, offset, hext _ _ hp⟩
    entries := ⟨d, hext _ _ hd, hentries⟩ }

theorem MadeOf.weaken (h : MadeOf s' s'' v p fields items) (hext : s.Extends s') :
    MadeOf s s'' v p fields items :=
  { h with
    grown := hext.trans h.grown
    newNode := hext.get?_eq_none h.newNode
    newAttributes := hext.get?_eq_none h.newAttributes
    newChildren := hext.get?_eq_none h.newChildren }

end

theorem requireKey_of_text? {s : Store} {key : Value} {t : String} (h : s.text? key = some t) :
    s.requireKey key = .ok () := by
  unfold Store.text? at h
  split at h
  · rfl
  · split at h
    · next heq => simp [Store.requireKey, Store.unhashableAt?, heq]
    · cases h

theorem assignItem_gives {s : Store} {holder key : Value} {d : Dictionary} {t : String}
    (value : Value) (hd : s.get? holder = some (.dict d)) (hkey : s.text? key = some t) :
    Gives (assignItem holder key value : Run σ Unit) s ()
      (s.put holder (.dict (d.insert s key value))) := by
  rintro w rfl
  have hrequire : (Run.inspect (·.requireKey key) : Run σ Unit) w = .ok () w :=
    Run.inspect_ok (requireKey_of_text? hkey)
  simp [assignItem, Run.bind_apply, hd, hrequire]

theorem setAttribute_gives {s s' : Store} {v key : Value} {p : NodeParts}
    {fields : List (Value × Value)} {items : List Value} {t : String} (value : Value)
    (h : MadeOf s s' v p fields items) (hfields : ∀ e ∈ fields, ∃ t, s.text? e.1 = some t)
    (hkey : s.text? key = some t) :
    ∃ s'', Gives (setAttribute v key value : Run σ Value) s' v s'' ∧
      MadeOf s s'' v p (s.insert fields key value) items := by
  obtain ⟨d, hd, hentries⟩ := h.entries
  have hmade := h.toMade.putAttributes (d.insert s' key value)
  rw [Dictionary.entries_insert, hentries, h.grown.insert_eq hkey hfields] at hmade
  have hkey' := h.grown.text? hkey
  exact ⟨_, (parts_gives _ h.node).bind ((requireName_gives hkey').bind
    ((assignItem_gives value hd hkey').bind (.pure _ _))), hmade⟩

theorem setEach_gives {s s' : Store} {v : Value} {p : NodeParts} {fields : List (Value × Value)}
    {items : List Value} {entries : List (Value × Value)} (h : MadeOf s s' v p fields items)
    (hfields : ∀ e ∈ fields, ∃ t, s.text? e.1 = some t)
    (hkeys : ∀ e ∈ entries, ∃ t, s.text? e.1 = some t) :
    ∃ s'', Gives (setEach v entries : Run σ Unit) s' () s'' ∧
      MadeOf s s'' v p (s.insertAll fields entries) items := by
  induction entries generalizing s' fields with
  | nil => exact ⟨s', .pure _ _, h⟩
  | cons e rest ih =>
      obtain ⟨t, ht⟩ := hkeys e (by simp)
      obtain ⟨s₁, hrun, h₁⟩ := setAttribute_gives e.2 h hfields ht
      have hfields' : ∀ u ∈ s.insert fields e.1 e.2, ∃ t, s.text? u.1 = some t := by
        intro u hu
        rcases (Store.mem_insert hu).1 with hkey | ⟨old, hold, hkey⟩
        · exact ⟨t, hkey ▸ ht⟩
        · exact hkey ▸ hfields old hold
      obtain ⟨s₂, hrest, h₂⟩ := ih h₁ hfields' fun e he => hkeys e (by simp [he])
      exact ⟨s₂, hrun.bind hrest, h₂⟩

-- A new node gets its attributes one by one.
theorem create_continues {s : Store} {type attributes : Value} {t : String}
    {entries : List (Value × Value)} (htype : s.text? type = some t)
    (hentries : attributes = .null ∧ entries = [] ∨ s.entries? attributes = some entries) :
    ∃ v p s', Continues (create type attributes .null : Run σ Value) s (do
        setEach v entries
        return v) s' ∧
      MadeOf s s' v p [] [] ∧ p.type = type ∧ (s.WholeNodes → s'.WholeNodes) := by
  obtain ⟨v, p, s₁, hbare, h₁, hp, hnodes⟩ := bare_gives (σ := σ) htype
  obtain ⟨line, column, offset, hposition⟩ := h₁.position
  refine ⟨v, p, s₁, (hbare.continues _).trans ?_, h₁, hp, fun hwhole =>
    hwhole.grow h₁.grown hnodes h₁.node h₁.children hposition⟩
  rcases hentries with ⟨rfl, rfl⟩ | hentries
  · exact .refl _ _
  · have hnull : attributes ≠ .null := by
      rintro rfl
      cases hentries
    have hset : Continues (setAttributes v attributes : Run σ Value) s₁ (do
        setEach v entries
        return v) s₁ := by
      refine ((parts_gives _ h₁.node).continues _).trans ?_
      refine ((Gives.store s₁).continues _).trans ?_
      rw [h₁.grown.entries? hentries]
      exact .refl _ _
    rintro w rfl
    simp only [ne_eq, hnull, not_false_eq_true, if_true, not_true_eq_false, if_false]
    rw [Run.bind_apply, hset w rfl, Run.bind_apply]
    cases (setEach v entries : Run σ Unit) w <;> rfl

theorem requireWellFormed_gives {s : Store} {v : Value} (h : s.WellFormed v) :
    Gives (requireWellFormed v : Run σ Unit) s () s := by
  rintro w rfl
  simp [requireWellFormed, Run.bind_apply, Store.isWellFormedNode_iff.mpr h]

theorem requireAll_gives {s : Store} {nodes : List Value} (h : ∀ v ∈ nodes, s.WellFormed v) :
    Gives (requireAll nodes : Run σ Unit) s () s := by
  induction nodes with
  | nil => exact .pure _ _
  | cons v rest ih =>
      exact (requireWellFormed_gives (h v (by simp))).bind (ih fun u hu => h u (by simp [hu]))

theorem requireWellFormed_fails {s : Store} {v : Value} (h : ¬s.WellFormed v) :
    Fails (requireWellFormed v : Run σ Unit) s := by
  refine (Gives.store s).bind_fails ?_
  rw [Store.isWellFormedNode_eq_false_iff.mpr h]
  -- the node is refused, or cannot even be shown
  rintro w rfl
  have hshow := Run.inspect_apply (σ := σ) (·.inspect ((w.store.part? v "type").getD v)) w
  cases hshown : w.store.inspect ((w.store.part? v "type").getD v) with
  | error e =>
      rw [hshown] at hshow
      exact ⟨e, w, by simp [Run.bind_apply, hshow]⟩
  | ok shown =>
      rw [hshown] at hshow
      exact ⟨_, w, by simp [Run.bind_apply, hshow]; rfl⟩

theorem requireAll_fails {s : Store} {nodes : List Value} {v : Value} (hv : v ∈ nodes)
    (h : ¬s.WellFormed v) : Fails (requireAll nodes : Run σ Unit) s := by
  induction nodes with
  | nil => cases hv
  | cons u rest ih =>
      by_cases hu : s.WellFormed u
      · have hrest : v ∈ rest := by
          rcases List.mem_cons.mp hv with rfl | hv
          · exact absurd hu h
          · exact hv
        exact (requireWellFormed_gives hu).bind_fails (ih hrest)
      · exact (requireWellFormed_fails hu).bind _

-- The items of one list are checked, and become children in the order of the list.
theorem addChildren_continues {s s' : Store} {v list : Value} {p : NodeParts}
    {fields : List (Value × Value)} {items nodes : List Value} (h : MadeOf s s' v p fields items)
    (hlist : s.items? list = some nodes) :
    Continues (addChildren v [list] : Run σ Value) s' (do
      requireAll nodes
      Run.put p.children (.list (items ++ nodes))
      return v) s' := by
  have hcontribution : [list].flatMap (contribution s') = nodes := by
    cases list with
    | ref id => simp [contribution, h.grown.items? hlist]
    | _ => simp [Store.items?, Store.get?] at hlist
  refine ((parts_gives _ h.node).continues _).trans ?_
  simp only [List.isEmpty_cons, Bool.false_eq_true, if_false]
  refine ((Gives.store s').continues _).trans ?_
  rw [Store.list?_eq_some_iff.mpr h.children]
  rintro w rfl
  have hflatten : (flatten [list] : Run σ (List Value)) w =
      (do requireAll nodes; return nodes : Run σ (List Value)) w := by
    rw [flatten, Run.bind_apply, Run.store_apply]
    dsimp only
    rw [hcontribution]
  dsimp only
  rw [Run.bind_apply, hflatten, Run.bind_apply, Run.bind_apply]
  cases requireAll nodes w <;> rfl

theorem addChildren_gives {s s' : Store} {v list : Value} {p : NodeParts}
    {fields : List (Value × Value)} {items nodes : List Value} (h : MadeOf s s' v p fields items)
    (hlist : s.items? list = some nodes) (hnodes : ∀ u ∈ nodes, s.WellFormed u) :
    ∃ s'', Gives (addChildren v [list] : Run σ Value) s' v s'' ∧
      MadeOf s s'' v p fields (items ++ nodes) :=
  ⟨_, (addChildren_continues h hlist).gives ((requireAll_gives fun u hu =>
    h.grown.wellFormed (hnodes u hu)).bind ((Gives.put _ _ _).bind (.pure _ _))),
    h.putChildren _⟩

theorem setPosition_gives {s s' : Store} {v : Value} {p : NodeParts}
    {fields : List (Value × Value)} {items : List Value} (h : MadeOf s s' v p fields items)
    (line column offset : Value) :
    ∃ p' s'', Gives (setPosition v line column offset : Run σ Value) s' v s'' ∧
      MadeOf s s'' v p' fields items ∧ p'.type = p.type ∧
      s''.get? p'.position = some (.position (s'.orElse line (.int 0))
        (s'.orElse column (.int 0)) (s'.orElse offset (.int 0))) := by
  have hzero : ∀ u, Gives (orZero u : Run σ Value) s' (s'.orElse u (.int 0)) s' := by
    rintro u w rfl
    rfl
  let place : Object := .position (s'.orElse line (.int 0)) (s'.orElse column (.int 0))
    (s'.orElse offset (.int 0))
  let s₁ := (s'.alloc place).2
  let p' : NodeParts := { p with position := (s'.alloc place).1 }
  have hrun : Gives (setPosition v line column offset : Run σ Value) s' v
      (s₁.put v (.node p')) :=
    (parts_gives _ h.node).bind ((hzero line).bind ((hzero column).bind ((hzero offset).bind
      ((Gives.alloc place s').bind ((Gives.put v (.node p') s₁).bind (.pure _ _))))))
  have hplace : s₁.get? p'.position = some place := Store.get?_alloc_here s' place
  have hmade := (h.extends (.alloc s' place)).putPosition hplace
  have hother : p'.position ≠ v :=
    Store.ne_of_get? hplace (Store.get?_alloc_elsewhere place h.node) (by simp [place])
  exact ⟨p', _, hrun, hmade, rfl, (Store.get?_put_elsewhere s₁ _ hother).trans hplace⟩

-- What the standard builder takes from its arguments: a type, the entries of the mapping behind it
-- if there is one, and arguments for children.
inductive Takes (s : Store) : List Value → Value → List (Value × Value) → List Value → Prop where
  | mapped {type attributes : Value} {entries : List (Value × Value)} {children : List Value}
      (mapping : s.entries? attributes = some entries) :
      Takes s (type :: attributes :: children) type entries children
  | plain {type : Value} {children : List Value}
      (other : ∀ first ∈ children.head?, s.entries? first = none) :
      Takes s (type :: children) type [] children

-- The standard builder creates a node first.
theorem buildStandard_continues {s : Store} {args children : List Value} {type : Value} {t : String}
    {entries : List (Value × Value)} (start : Point) (hargs : Takes s args type entries children)
    (htype : s.text? type = some t) :
    ∃ v p s', Continues (buildStandard start args : Run σ Value) s (do
        setEach v entries
        if !children.isEmpty then
          let _ ← addChildren v children
        setPosition v start.line start.column start.offset) s' ∧
      MadeOf s s' v p [] [] ∧ p.type = type ∧ (s.WholeNodes → s'.WholeNodes) := by
  obtain ⟨rest, attributes, rfl, hsplit, hentries⟩ : ∃ rest attributes, args = type :: rest ∧
      splitAttributes s rest = (attributes, children) ∧
      (attributes = .null ∧ entries = [] ∨ s.entries? attributes = some entries) := by
    cases hargs with
    | mapped mapping => exact ⟨_, _, rfl, by simp [splitAttributes, mapping], .inr mapping⟩
    | plain other =>
        refine ⟨children, .null, rfl, ?_, .inl ⟨rfl, rfl⟩⟩
        cases children with
        | nil => rfl
        | cons first rest => simp [splitAttributes, other first rfl]
  obtain ⟨v, p, s₁, hcreate, h₁, hp⟩ := create_continues (σ := σ) htype hentries
  refine ⟨v, p, s₁, ((Gives.store s).continues _).trans ?_, h₁, hp⟩
  rw [hsplit]
  rintro w rfl
  dsimp only
  rw [Run.bind_apply, hcreate w rfl, Run.bind_apply, Run.bind_apply]
  cases (setEach v entries : Run σ Unit) { w with store := s₁ } <;> rfl

-- It makes a node of the type, under which the given nodes stand in their order.
theorem buildStandard_gives {s : Store} {type attributes list : Value} {t : String}
    {entries : List (Value × Value)} {nodes : List Value} (start : Point)
    (htype : s.text? type = some t) (hentries : s.entries? attributes = some entries)
    (hkeys : ∀ e ∈ entries, ∃ t, s.text? e.1 = some t) (hlist : s.items? list = some nodes)
    (hnodes : ∀ u ∈ nodes, s.WellFormed u) :
    ∃ v p s', Gives (buildStandard start [type, attributes, list] : Run σ Value) s v s' ∧
      MadeOf s s' v p (s.insertAll [] entries) nodes ∧ p.type = type ∧
      ∀ line column offset : Int, start = ⟨.int line, .int column, .int offset⟩ →
        s'.get? p.position = some (.position (.int line) (.int column) (.int offset)) := by
  obtain ⟨v, p, s₁, hbuild, h₁, hp, -⟩ :=
    buildStandard_continues (σ := σ) start (.mapped hentries) htype
  obtain ⟨s₂, heach, h₂⟩ := setEach_gives (σ := σ) h₁ (by simp) hkeys
  obtain ⟨s₃, hadd, h₃⟩ := addChildren_gives (σ := σ) h₂ hlist hnodes
  obtain ⟨p', s₄, hset, h₄, hp', hplace⟩ :=
    setPosition_gives (σ := σ) h₃ start.line start.column start.offset
  refine ⟨v, p', s₄, hbuild.gives (heach.bind (hadd.bind hset)), h₄, hp'.trans hp, ?_⟩
  rintro line column offset rfl
  simpa only [Store.orElse_int] using hplace

-- No node comes to stand above something that is no node.
theorem buildStandard_fails {s : Store} {type attributes list u : Value} {t : String}
    {entries : List (Value × Value)} {nodes : List Value} (start : Point)
    (htype : s.text? type = some t) (hentries : s.entries? attributes = some entries)
    (hkeys : ∀ e ∈ entries, ∃ t, s.text? e.1 = some t) (hlist : s.items? list = some nodes)
    (hu : u ∈ nodes) (hstrange : s.Strange u) :
    Fails (buildStandard start [type, attributes, list] : Run σ Value) s := by
  obtain ⟨v, p, s₁, hbuild, h₁, -⟩ :=
    buildStandard_continues (σ := σ) start (.mapped hentries) htype
  obtain ⟨s₂, heach, h₂⟩ := setEach_gives (σ := σ) h₁ (by simp) hkeys
  have hrefused : Fails (addChildren v [list] : Run σ Value) s₂ :=
    (addChildren_continues h₂ hlist).fails
      ((requireAll_fails hu (h₂.grown.strange hstrange).not_wellFormed).bind _)
  exact hbuild.fails (heach.bind_fails (hrefused.bind _))

end ParseKit.Node
