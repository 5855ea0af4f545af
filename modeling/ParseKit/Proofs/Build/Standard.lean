import Mathlib.Data.List.Find
import ParseKit.Proofs.Node.Adding
import ParseKit.Proofs.Node.Birth
import ParseKit.Proofs.Node.Merging

namespace ParseKit

open Node (contribution)

namespace Store

-- What objects are looked into for is there: the parts of nodes, the items of lists and tuples, and
-- the keys of mappings, which are all different.
structure Complete (s : Store) : Prop where
  parts : ∀ v p, s.get? v = some (.node p) →
    ∀ u ∈ [p.type, p.attributes, p.children, p.position], s.Known u
  items : ∀ v items, s.items? v = some items → ∀ u ∈ items, s.Known u
  keys : ∀ v entries, s.entries? v = some entries →
    s.Keyed entries ∧ ∀ e ∈ entries, s.Known e.1

namespace Extends

variable {s s' : Store} {v : Value}

theorem isText_eq (h : s.Extends s') (hv : s.Known v) : s'.isText v = s.isText v := by
  cases v with
  | ref id => simp only [isText, Store.text?, h.get?_eq hv]
  | _ => rfl

theorem orElse_eq (h : s.Extends s') (hv : s.Known v) (other : Value) :
    s'.orElse v other = s.orElse v other := by
  have htruthy : s'.truthy v = s.truthy v := by
    cases v with
    | ref id => simp only [truthy, h.get?_eq hv]
    | _ => rfl
  rw [orElse, htruthy, orElse]

theorem wellFormed_iff (h : s.Extends s') (hs : s.Complete) (hv : s.Known v) :
    s'.WellFormed v ↔ s.WellFormed v := by
  refine ⟨?_, h.wellFormed⟩
  rintro ⟨p, t, d, items, line, column, offset, hnode, htype, hattributes, hchildren, hposition⟩
  rw [h.get?_eq hv] at hnode
  have hparts := hs.parts v p hnode
  simp only [List.mem_cons, List.not_mem_nil, or_false, forall_eq_or_imp, forall_eq] at hparts
  obtain ⟨t', htype⟩ := Option.isSome_iff_exists.mp ((h.isText_eq hparts.1).symm.trans
    (Option.isSome_iff_exists.mpr ⟨t, htype⟩))
  rw [h.get?_eq hparts.2.1] at hattributes
  rw [h.get?_eq hparts.2.2.1] at hchildren
  rw [h.get?_eq hparts.2.2.2] at hposition
  exact ⟨p, t', d, items, line, column, offset, hnode, htype, hattributes, hchildren, hposition⟩

end Extends

theorem Complete.contribution {s : Store} (hs : s.Complete) {arg : Value} (harg : s.Known arg) :
    ∀ u ∈ contribution s arg, s.Known u := by
  intro u hu
  cases arg with
  | null => cases hu
  | ref id =>
      cases hitems : s.items? (.ref id) with
      | none =>
          simp only [Node.contribution, hitems, Option.getD_none, List.mem_singleton] at hu
          exact hu ▸ harg
      | some items =>
          simp only [Node.contribution, hitems, Option.getD_some] at hu
          exact hs.items _ items hitems u hu
  | _ =>
      rw [List.mem_singleton.mp hu]
      exact harg

end Store

namespace Node

-- What a node can be made of.
structure Fits (s : Store) (type : Value) (entries : List (Value × Value)) (children : List Value)
    (parts : List (List Value)) : Prop where
  type : s.isText type = true
  names : ∀ e ∈ entries, s.isText e.1 = true
  children : List.Forall₂ (Accepts s) children parts

-- The first thing that is wrong with what a node was to be made of: how it is said, and the value
-- that is shown for it.
inductive Flaw (s : Store) (type : Value) (entries : List (Value × Value)) (children : List Value) :
    (String → String) → Value → Prop where
  | type (wrong : s.isText type = false) :
      Flaw s type entries children ("Invalid node type: " ++ ·) type
  | name {before after : List (Value × Value)} {e : Value × Value} (text : s.isText type = true)
      (here : entries = before ++ e :: after) (names : ∀ e ∈ before, s.isText e.1 = true)
      (wrong : s.isText e.1 = false) :
      Flaw s type entries children ("Invalid attribute name: " ++ ·) e.1
  | child {bad : Value} (text : s.isText type = true) (names : ∀ e ∈ entries, s.isText e.1 = true)
      (first : Refuses s children bad) :
      Flaw s type entries children ("Invalid ast node: " ++ s.className bad ++ " " ++ ·)
        ((s.part? bad "type").getD bad)

theorem Takes.exists_of_cons (s : Store) (type : Value) (rest : List Value) :
    ∃ entries children, Takes s (type :: rest) type entries children := by
  cases rest with
  | nil => exact ⟨[], [], .plain (by simp)⟩
  | cons first rest =>
      cases hentries : s.entries? first with
      | none => exact ⟨[], first :: rest, .plain (by simpa using hentries)⟩
      | some entries => exact ⟨entries, rest, .mapped hentries⟩

-- Something is wrong with everything else.
theorem exists_flaw {s : Store} {type : Value} {entries : List (Value × Value)}
    {children : List Value} (h : ¬∃ parts, Fits s type entries children parts) :
    ∃ say shown, Flaw s type entries children say shown := by
  by_cases htype : s.isText type = true
  · cases hname : entries.find? fun e => !s.isText e.1 with
    | some e =>
        obtain ⟨hwrong, before, after, hsplit, hbefore⟩ := List.find?_eq_some_iff_append.mp hname
        exact ⟨_, _, .name htype hsplit (by simpa using hbefore) (by simpa using hwrong)⟩
    | none =>
        have hnames : ∀ e ∈ entries, s.isText e.1 = true := by
          simpa using List.find?_eq_none.mp hname
        obtain ⟨bad, hbad⟩ := exists_refuses fun ⟨parts, hparts⟩ => h ⟨parts, htype, hnames, hparts⟩
        exact ⟨_, _, .child htype hnames hbad⟩
  · exact ⟨_, _, .type (Bool.eq_false_iff.mpr htype)⟩

section Builder

variable {σ : Type} {w : World σ} {args children : List Value} {type : Value}
  {entries : List (Value × Value)} {start : Point}

theorem create_refuses (hwrong : w.store.isText type = false) (attributes children : Value) :
    create type attributes children w = .error (.raised
      (w.store.refusal .invalidArgument ("Invalid node type: " ++ ·) type)) w := by
  have htype : (requireType type : Run σ Unit) w = .error (.raised
      (w.store.refusal .invalidArgument ("Invalid node type: " ++ ·) type)) w := by
    rw [requireType, Run.bind_apply, Run.store_apply]
    dsimp only
    rw [hwrong, if_neg Bool.false_ne_true]
    exact Run.refusal_apply .invalidArgument ("Invalid node type: " ++ ·) type w
  rw [create, Run.bind_apply, bare, Run.bind_apply, htype]

theorem MadeOf.childrenOf? {s s' : Store} {v : Value} {p : NodeParts}
    {fields : List (Value × Value)} {items : List Value} (h : MadeOf s s' v p fields items) :
    s'.childrenOf? v = some (p.children, items) := by
  simp [Store.childrenOf?, Store.node?_eq_some_iff.mpr h.node,
    Store.list?_eq_some_iff.mpr h.children]

-- A new node gets the entries of a mapping as they are.
theorem setEach_new {s : Store} {v : Value} {p : NodeParts} (h : MadeOf s w.store v p [] [])
    (hkeyed : s.Keyed entries) (hnames : ∀ e ∈ entries, s.isText e.1 = true) :
    ∃ s', setEach v entries w = .ok () { w with store := s' } ∧ MadeOf s s' v p entries [] ∧
      (w.store.WholeNodes → s'.WholeNodes) := by
  obtain ⟨d, hd, hnone⟩ := h.entries
  have htexts : ∀ e ∈ entries, ∃ t, s.text? e.1 = some t := fun e he =>
    Option.isSome_iff_exists.mp (hnames e he)
  have hnames' : ∀ e ∈ entries, w.store.isText e.1 = true := fun e he =>
    Option.isSome_iff_exists.mpr ((htexts e he).imp fun _ ht => h.grown.text? ht)
  obtain ⟨d', hd', hrun⟩ := setEach_apply h.node hd hnames'
  have hentries : d'.entries = entries := by
    rw [hd', hnone, h.grown.insertAll_eq (by simp) htexts, Store.insertAll_append hkeyed]
    rfl
  have hmade := h.toMade.putAttributes d'
  rw [hentries] at hmade
  exact ⟨_, hrun, hmade, fun hwhole => hwhole.put hd rfl rfl⟩

theorem Takes.children_subset {s : Store} (h : Takes s args type entries children) :
    children ⊆ args := by
  cases h with
  | mapped => exact fun u hu => by simp [hu]
  | plain => exact fun u hu => by simp [hu]

theorem Takes.keys {s : Store} (h : Takes s args type entries children) (hs : s.Complete) :
    s.Keyed entries ∧ ∀ e ∈ entries, s.Known e.1 := by
  cases h with
  | mapped mapping => exact hs.keys _ _ mapping
  | plain => exact ⟨List.Pairwise.nil, by simp⟩

theorem Takes.known {s : Store} (h : Takes s args type entries children) (hs : s.Complete)
    (hargs : ∀ u ∈ args, s.Known u) : ∀ u ∈ children.flatMap (contribution s), s.Known u := by
  intro u hu
  obtain ⟨arg, harg, hu⟩ := List.mem_flatMap.mp hu
  exact hs.contribution (hargs arg (h.children_subset harg)) u hu

-- What fits is made into a node.
theorem buildStandard_makes {parts : List (List Value)} (hs : w.store.Complete)
    (hargs : ∀ u ∈ args, w.store.Known u)
    (hstart : ∀ u ∈ [start.line, start.column, start.offset], w.store.Known u)
    (htakes : Takes w.store args type entries children)
    (hfits : Fits w.store type entries children parts) :
    ∃ v p s', buildStandard start args w = .ok v { w with store := s' } ∧
      MadeOf w.store s' v p entries parts.flatten ∧ p.type = type ∧
      s'.get? p.position = some (.position (w.store.orElse start.line (.int 0))
        (w.store.orElse start.column (.int 0)) (w.store.orElse start.offset (.int 0))) := by
  obtain ⟨t, ht⟩ := Option.isSome_iff_exists.mp hfits.type
  obtain ⟨v, p, s₁, hbuild, h₁, hp, -⟩ := buildStandard_continues (σ := σ) start htakes ht
  obtain ⟨s₂, heach, h₂, -⟩ :=
    @setEach_new σ { w with store := s₁ } entries w.store v p h₁ (htakes.keys hs).1 hfits.names
  obtain ⟨hparts, hall⟩ := forall₂_accepts_iff.mp hfits.children
  have hnodes : children.flatMap (contribution w.store) = parts.flatten := by
    rw [← hparts, List.flatMap_def]
  have hnodes₂ : children.flatMap (contribution s₂) = parts.flatten :=
    (flatMap_contribution_of_extends h₂.grown (htakes.known hs hargs)).trans hnodes
  have hall₂ : ∀ u ∈ children.flatMap (contribution s₂), s₂.WellFormed u := by
    rw [hnodes₂, ← hnodes]
    exact fun u hu => h₂.grown.wellFormed (hall u hu)
  obtain ⟨s₃, hadd, h₃⟩ : ∃ s₃, (do
      if !children.isEmpty then
        let _ ← addChildren v children
      setPosition v start.line start.column start.offset : Run σ Value) { w with store := s₂ } =
        setPosition v start.line start.column start.offset { w with store := s₃ } ∧
      MadeOf w.store s₃ v p entries parts.flatten := by
    by_cases hnone : children = []
    · subst hnone
      exact ⟨s₂, rfl, by rw [← hnodes]; exact h₂⟩
    · have hgives := addChildren_of_wellFormed (σ := σ) h₂.childrenOf? hnone hall₂
      have hsome : children.isEmpty = false := by simpa using hnone
      refine ⟨_, ?_, by rw [← hnodes₂]; exact h₂.putChildren _⟩
      simp only [hsome, Bool.not_false, if_true]
      rw [Run.bind_apply, hgives { w with store := s₂ } rfl, List.nil_append]
  obtain ⟨p', s₄, hset, h₄, hp', hplace⟩ :=
    setPosition_gives (σ := σ) h₃ start.line start.column start.offset
  have hzero : ∀ u ∈ [start.line, start.column, start.offset],
      s₃.orElse u (.int 0) = w.store.orElse u (.int 0) := fun u hu =>
    h₃.grown.orElse_eq (hstart u hu) _
  refine ⟨v, p', s₄, ?_, h₄, hp'.trans hp, ?_⟩
  · rw [hbuild w rfl, Run.bind_apply, heach]
    exact hadd.trans (hset _ rfl)
  · rw [hplace, hzero _ (by simp), hzero _ (by simp), hzero _ (by simp)]

-- What does not fit is refused for the first thing that is wrong with it.
theorem buildStandard_refuses {say : String → String} {shown : Value} (hs : w.store.Complete)
    (hargs : ∀ u ∈ args, w.store.Known u) (htakes : Takes w.store args type entries children)
    (hflaw : Flaw w.store type entries children say shown) :
    ∃ s', w.store.Extends s' ∧ (w.store.WholeNodes → s'.WholeNodes) ∧
      buildStandard start args w =
        .error (.raised (s'.refusal .invalidArgument say shown)) { w with store := s' } := by
  cases hflaw with
  | type wrong =>
      refine ⟨w.store, .refl _, id, ?_⟩
      obtain ⟨rest, rfl⟩ : ∃ rest, args = type :: rest := by
        cases htakes <;> exact ⟨_, rfl⟩
      rw [buildStandard, Run.bind_apply, Run.store_apply]
      dsimp only
      rw [Run.bind_apply, create_refuses wrong]
  | @name before after e text here names wrong =>
      obtain ⟨t, ht⟩ := Option.isSome_iff_exists.mp text
      obtain ⟨v, p, s₁, hbuild, h₁, -, hwhole⟩ := buildStandard_continues (σ := σ) start htakes ht
      have hknown : ∀ u ∈ entries, s₁.isText u.1 = w.store.isText u.1 := fun u hu =>
        h₁.grown.isText_eq ((htakes.keys hs).2 u hu)
      obtain ⟨d, hd, -⟩ := h₁.entries
      have hnames₁ : ∀ u ∈ before, s₁.isText u.1 = true := fun u hu => by
        rw [hknown u (by simp [here, hu]), names u hu]
      have hwrong₁ : s₁.isText e.1 = false := by rw [hknown e (by simp [here]), wrong]
      obtain ⟨d', -, hrefused⟩ := @setEach_refuses σ { w with store := s₁ } v p d before e h₁.node hd
        hnames₁ hwrong₁ after
      refine ⟨_, (h₁.toMade.putAttributes d').grown, fun h => (hwhole h).put hd rfl rfl, ?_⟩
      rw [hbuild w rfl, Run.bind_apply, here, hrefused]
  | @child bad text names first =>
      obtain ⟨t, ht⟩ := Option.isSome_iff_exists.mp text
      obtain ⟨v, p, s₁, hbuild, h₁, -, hwhole⟩ := buildStandard_continues (σ := σ) start htakes ht
      obtain ⟨s₂, heach, h₂, hwhole₂⟩ :=
        @setEach_new σ { w with store := s₁ } entries w.store v p h₁ (htakes.keys hs).1 names
      have hknown := htakes.known hs hargs
      obtain ⟨before, after, hsplit, hbefore, hwrong⟩ := refuses_iff.mp first
      have hthere : w.store.Known bad := hknown bad (by simp [hsplit])
      have hbad : s₂.get? bad = w.store.get? bad := h₂.grown.get?_eq hthere
      have hfirst : Refuses s₂ children bad := by
        refine refuses_iff.mpr ⟨before, after, ?_, fun u hu => h₂.grown.wellFormed (hbefore u hu),
          (h₂.grown.wellFormed_iff hs hthere).not.mpr hwrong⟩
        rw [flatMap_contribution_of_extends h₂.grown hknown, hsplit]
      have hadd := @addChildren_refuses σ { w with store := s₂ } v p.children [] children bad
        h₂.childrenOf? hfirst
      have hclass : s₂.className bad = w.store.className bad := by simp only [Store.className, hbad]
      have hpart : s₂.part? bad "type" = w.store.part? bad "type" := by
        simp only [Store.part?, hbad]
      have hsome : children.isEmpty = false := by
        cases children with
        | nil => simp at hsplit
        | cons => rfl
      refine ⟨s₂, h₂.grown, fun h => hwhole₂ (hwhole h), ?_⟩
      rw [hbuild w rfl, Run.bind_apply, heach]
      simp only [hsome, Bool.not_false, if_true]
      rw [Run.bind_apply, hadd]
      dsimp only
      rw [hclass, hpart]

-- A node is made of exactly the arguments that fit: it is new, of the type, with the entries of the
-- mapping and under it the nodes in their order, and it stands where the builder is told, at zero
-- where that counts as false. All other arguments are refused for the first thing that is wrong
-- with them, and the failure says what it is unless that cannot be shown. Whether there is a node
-- or not, nothing changes that was there before.
theorem buildStandard_exact (hs : w.store.Complete) (hargs : ∀ u ∈ args, w.store.Known u)
    (hstart : ∀ u ∈ [start.line, start.column, start.offset], w.store.Known u) :
    (args = [] → buildStandard start args w =
      .error (.raised (.message .invalidArgument "Node type is required")) w) ∧
    (args ≠ [] → ∃ type entries children, Takes w.store args type entries children) ∧
    ∀ type entries children, Takes w.store args type entries children →
      (∀ parts, Fits w.store type entries children parts → ∃ v p s',
        buildStandard start args w = .ok v { w with store := s' } ∧
        MadeOf w.store s' v p entries parts.flatten ∧ p.type = type ∧
        s'.get? p.position = some (.position (w.store.orElse start.line (.int 0))
          (w.store.orElse start.column (.int 0)) (w.store.orElse start.offset (.int 0)))) ∧
      ((¬∃ parts, Fits w.store type entries children parts) → ∃ say shown s' failure,
        Flaw w.store type entries children say shown ∧ w.store.Extends s' ∧
        buildStandard start args w = .error (.raised failure) { w with store := s' } ∧
        (∀ text, s'.inspect shown = .ok text → failure = .message .invalidArgument (say text)) ∧
        (∀ f, s'.inspect shown = .error f →
          failure = f ∧ (w.store.WholeNodes → f = Store.tooDeep))) := by
  refine ⟨?_, fun hsome => ?_, fun type entries children htakes => ⟨fun parts hfits => ?_,
    fun hnone => ?_⟩⟩
  · rintro rfl
    rfl
  · obtain ⟨type, rest, rfl⟩ := List.exists_cons_of_ne_nil hsome
    exact ⟨type, Takes.exists_of_cons w.store type rest⟩
  · exact buildStandard_makes hs hargs hstart htakes hfits
  · obtain ⟨say, shown, hflaw⟩ := exists_flaw hnone
    obtain ⟨s', hext, hwhole, hrun⟩ :=
      @buildStandard_refuses σ w args children type entries start say shown hs hargs htakes hflaw
    refine ⟨say, shown, s', _, hflaw, hext, hrun, fun text htext => ?_, fun f hf => ⟨?_, fun h => ?_⟩⟩
    · rw [Store.refusal, htext]
    · rw [Store.refusal, hf]
    · exact Store.inspect_onlyTooDeep (hwhole h) shown f hf

-- A leaf, a mapping and a list for the arguments, and a node that has lost its position.
private def workshop : World Unit where
  store := ⟨#[.dict ⟨[], {}⟩, .list [], .position (.int 0) (.int 0) (.int 0),
    .node ⟨.text "leaf", .ref 0, .ref 1, .ref 2⟩, .dict ⟨[(.text "x", .int 1)], {}⟩,
    .list [.ref 3, .ref 3], .node ⟨.text "a", .ref 0, .ref 1, .null⟩]⟩
  log := []
  client := ()

private theorem workshop_known {u : Value} (h : ∀ id, u = .ref id → id < 7) :
    workshop.store.Known u := by
  have hthere : ∀ id < 7, workshop.store.get? (.ref id) ≠ none := by decide
  rintro id rfl
  exact hthere id (h id rfl)

private theorem workshop_complete : workshop.store.Complete := by
  have hmem : ∀ v o, workshop.store.get? v = some o → o ∈ workshop.store.objects.toList := by
    intro v o hv
    cases v with
    | ref id => exact Array.mem_def.mp (Array.mem_of_getElem? hv)
    | _ => cases hv
  refine ⟨fun v p hv u hu => workshop_known ?_, fun v items hv u hu => workshop_known ?_,
    fun v entries hv => ?_⟩
  · have hnode : p = ⟨.text "leaf", .ref 0, .ref 1, .ref 2⟩ ∨
        p = ⟨.text "a", .ref 0, .ref 1, .null⟩ := by simpa [workshop] using hmem v _ hv
    rcases hnode with rfl | rfl <;> simp at hu <;> rcases hu with rfl | rfl | rfl | rfl <;> simp
  · have hlist : items = [] ∨ items = [.ref 3, .ref 3] := by
      rcases items?_eq_some_iff.mp hv with hv | hv <;> simpa [workshop] using hmem v _ hv
    rcases hlist with rfl | rfl <;> simp at hu
    simp [hu]
  · have hentries : entries = [] ∨ entries = [(.text "x", .int 1)] := by
      unfold Store.entries? at hv
      split at hv
      · next d hd =>
        have hdict : d = ⟨[], {}⟩ ∨ d = ⟨[(.text "x", .int 1)], {}⟩ := by
          simpa [workshop] using hmem v _ hd
        cases hv
        rcases hdict with rfl | rfl <;> simp
      · next hmapping => exact absurd (hmem v _ hmapping) (by simp [workshop])
      · cases hv
    rcases hentries with rfl | rfl
    · exact ⟨List.Pairwise.nil, by simp⟩
    · exact ⟨List.pairwise_singleton _ _, by simpa using workshop_known (by simp)⟩

-- A node is made of a name, a mapping, nothing, a list and a node. None is made of the node without
-- a position, which cannot be shown.
theorem buildStandard_exact_workshop :
    (∃ v p s', buildStandard ⟨.int 1, .null, .int 2⟩
        [.text "t", .ref 4, .null, .ref 5, .ref 3] workshop = .ok v { workshop with store := s' } ∧
      MadeOf workshop.store s' v p [(.text "x", .int 1)] [.ref 3, .ref 3, .ref 3] ∧
      p.type = .text "t" ∧ s'.get? p.position = some (.position (.int 1) (.int 0) (.int 2))) ∧
    ∃ s', workshop.store.Extends s' ∧ buildStandard ⟨.int 1, .int 2, .int 3⟩ [.ref 6] workshop =
      .error (.raised (.message .attributeError "'NoneType' object has no attribute 'line'"))
        { workshop with store := s' } := by
  constructor
  · obtain ⟨-, -, hexact⟩ := @buildStandard_exact Unit workshop
      [.text "t", .ref 4, .null, .ref 5, .ref 3] ⟨.int 1, .null, .int 2⟩ workshop_complete
      (by simp [workshop_known]) (by simp [workshop_known])
    have hfits : Fits workshop.store (.text "t") [(.text "x", .int 1)] [.null, .ref 5, .ref 3]
        [[], [.ref 3, .ref 3], [.ref 3]] := by
      exact ⟨rfl, by decide, .cons ⟨.nothing, by simp⟩ (.cons ⟨.several (.inl rfl), by decide⟩
        (.cons (.node (by decide)) .nil))⟩
    exact (hexact _ _ _ (.mapped rfl)).1 _ hfits
  · obtain ⟨-, -, hexact⟩ := @buildStandard_exact Unit workshop [.ref 6]
      ⟨.int 1, .int 2, .int 3⟩ workshop_complete (by simp [workshop_known])
      (by simp [workshop_known])
    have hnone : ¬∃ parts, Fits workshop.store (.ref 6) [] [] parts := by
      rintro ⟨parts, hfits⟩
      cases hfits.type
    obtain ⟨say, shown, s', failure, hflaw, hext, hrun, -, hfault⟩ :=
      (hexact (.ref 6) [] [] (.plain (by simp))).2 hnone
    have hshown : say = ("Invalid node type: " ++ ·) ∧ shown = .ref 6 := by
      cases hflaw with
      | type => exact ⟨rfl, rfl⟩
      | name text | child text => cases text
    obtain ⟨-, rfl⟩ := hshown
    have hnode : s'.get? (.ref 6) = some (.node ⟨.text "a", .ref 0, .ref 1, .null⟩) :=
      hext _ _ rfl
    have hcount : workshop.store.length (.ref 1) = .ok 0 := rfl
    have hfail : s'.inspect (.ref 6) = .error (.message .attributeError
        "'NoneType' object has no attribute 'line'") :=
      Store.inspect_node_error hnode rfl (hext.length hcount) rfl
    exact ⟨s', hext, (hfault _ hfail).1 ▸ hrun⟩

end Builder

end Node

end ParseKit
