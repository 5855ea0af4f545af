import ParseKit.Proofs.Node.Sound

namespace ParseKit.Store

-- At most one node has changed. It is a proper one in the end and still has its containers, and new
-- among its children are only nodes that were added. Otherwise there are only more objects, of
-- which none is a node.
structure Changed (v : Value) (added : List Value) (s s' : Store) : Prop where
  elsewhere : ∀ x o, ¬s.Belongs v x → s.get? x = some o → s'.get? x = some o
  here : ∀ p, s.get? v = some (.node p) → ∃ p' d items, Proper s' v p' d items ∧
    p'.attributes = p.attributes ∧ p'.children = p.children ∧
    ∀ old, s.get? p.children = some (.list old) → items.Sublist (old ++ added)
  nodes : ∀ u q, s'.get? u = some (.node q) → ∃ q', s.get? u = some (.node q')

-- One node has come into being, with containers that were not there before, and everything that
-- was there has stayed as it was.
structure Born (v : Value) (added : List Value) (s s' : Store) : Prop where
  grown : s.Extends s'
  new : s.get? v = none
  here : ∃ p d items, Proper s' v p d items ∧ s.get? p.attributes = none ∧
    s.get? p.children = none ∧ items.Sublist added
  nodes : ∀ u q, s'.get? u = some (.node q) → u = v ∨ ∃ q', s.get? u = some (.node q')

namespace Changed

variable {s s' s'' : Store} {u v : Value} {added more : List Value}

theorem refl (h : Sound s) (v : Value) (added : List Value) : Changed v added s s where
  elsewhere _ _ _ ho := ho
  here p hp := by
    obtain ⟨d, items, hv⟩ := h.proper v p hp
    refine ⟨p, d, items, hv, rfl, rfl, fun old hold => ?_⟩
    cases hv.children.symm.trans hold
    exact List.sublist_append_left _ _
  nodes _ q hq := ⟨q, hq⟩

-- More objects that are no nodes are no change of any node.
theorem of_extends (hsound : Sound s) (hext : s.Extends s')
    (hnodes : ∀ u q, s'.get? u = some (.node q) → ∃ q', s.get? u = some (.node q')) :
    Changed v added s s' where
  elsewhere x o _ ho := hext x o ho
  here p hp := by
    obtain ⟨p', d, items, hv, ha, hc, hitems⟩ := (refl hsound v added).here p hp
    exact ⟨p', d, items, hv.of_extends hext, ha, hc, hitems⟩
  nodes := hnodes

theorem alloc (hsound : Sound s) {o : Object} (ho : o.isNode = false) :
    Changed v added s (s.alloc o).2 :=
  of_extends hsound (.alloc s o) fun _ q hu => ⟨q, nodes_alloc ho hu⟩

theorem weaken (h : Changed v added s s') (hsub : added.Sublist more) : Changed v more s s' :=
  { h with
    here := fun p hp => by
      obtain ⟨p', d, items, hv, ha, hc, hitems⟩ := h.here p hp
      exact ⟨p', d, items, hv, ha, hc, fun old hold =>
        (hitems old hold).trans (List.Sublist.append_left hsub old)⟩ }

-- What belongs to the node before belongs to it afterwards.
theorem belongs (h : Changed v added s s') {x : Value} (hx : ¬s.Belongs v x) :
    ¬s'.Belongs v x := by
  rintro ⟨p', hp', hb⟩
  obtain ⟨p, hp⟩ := h.nodes v p' hp'
  obtain ⟨p'', d, items, hv, ha, hc, -⟩ := h.here p hp
  cases hv.node.symm.trans hp'
  rw [ha, hc] at hb
  exact hx ⟨p, hp, hb⟩

theorem trans (h : Changed v added s s') (h' : Changed v more s' s'') :
    Changed v (added ++ more) s s'' where
  elsewhere x o hx ho := h'.elsewhere x o (h.belongs hx) (h.elsewhere x o hx ho)
  here p hp := by
    obtain ⟨p', d, items, hv, ha, hc, hitems⟩ := h.here p hp
    obtain ⟨p'', d', items', hv', ha', hc', hitems'⟩ := h'.here p' hv.node
    refine ⟨p'', d', items', hv', ha'.trans ha, hc'.trans hc, fun old hold => ?_⟩
    rw [← List.append_assoc]
    exact (hitems' items hv.children).trans ((hitems old hold).append_right more)
  nodes x q hq := (h'.nodes x q hq).elim fun q' hq' => h.nodes x q' hq'

theorem isText (h : Changed v added s s') (hsound : Sound s) {t : Value}
    (ht : s.isText t = true) : s'.isText t = true :=
  isText_of_get? ht fun o ho => h.elsewhere t o (hsound.text_apart ht) ho

-- A node other than the one to change is the same in every respect.
theorem other (h : Changed v added s s') (hsound : Sound s) {p : NodeParts} {d : Dictionary}
    {items : List Value} (hu : Proper s u p d items) (hne : u ≠ v) {x : Value} {o : Object}
    (hx : x ∈ [u, p.type, p.attributes, p.children, p.position]) (ho : s.get? x = some o) :
    s'.get? x = some o :=
  h.elsewhere x o (hsound.apart hu hne hx) ho

theorem kept (h : Changed v added s s') (hsound : Sound s) {p : NodeParts}
    (hu : s.get? u = some (.node p)) :
    ∃ p', s'.get? u = some (.node p') ∧ p'.attributes = p.attributes ∧
      p'.children = p.children := by
  by_cases hne : u = v
  · subst hne
    obtain ⟨p', d, items, hp', ha, hc, -⟩ := h.here p hu
    exact ⟨p', hp'.node, ha, hc⟩
  · obtain ⟨d, items, hp⟩ := hsound.proper u p hu
    exact ⟨p, h.other hsound hp hne (by simp) hu, rfl, rfl⟩

theorem proper_other (h : Changed v added s s') (hsound : Sound s) {p : NodeParts}
    {d : Dictionary} {items : List Value} (hu : Proper s u p d items) (hne : u ≠ v) :
    Proper s' u p d items := by
  refine hu.keep (fun x o hx ho => h.other hsound hu hne ?_ ho)
    (fun t ht => h.isText hsound ht) fun x q hx => (h.kept hsound hx).imp fun _ hq => hq.1
  simp only [List.mem_cons, List.not_mem_nil, or_false] at hx ⊢
  exact hx.imp id Or.inr

theorem origin (h : Changed v added s s') (hsound : Sound s) {p' : NodeParts}
    (hu : s'.get? u = some (.node p')) :
    ∃ p, s.get? u = some (.node p) ∧ p'.attributes = p.attributes ∧ p'.children = p.children := by
  obtain ⟨p, hp⟩ := h.nodes u p' hu
  obtain ⟨p'', hp'', ha, hc⟩ := h.kept hsound hp
  cases hu.symm.trans hp''
  exact ⟨p, hp, ha, hc⟩

theorem sound (h : Changed v added s s') (hsound : Sound s) : Sound s' := by
  refine hsound.of_nodes (fun u p' hu => ?_) fun u p' hu => h.origin hsound hu
  by_cases hne : u = v
  · subst hne
    obtain ⟨p, hp⟩ := h.nodes u p' hu
    obtain ⟨p'', d, items, hp'', -⟩ := h.here p hp
    cases hu.symm.trans hp''.node
    exact ⟨d, items, hp''⟩
  · obtain ⟨p, hp⟩ := h.nodes u p' hu
    obtain ⟨d, items, hproper⟩ := hsound.proper u p hp
    have hproper' := h.proper_other hsound hproper hne
    cases hu.symm.trans hproper'.node
    exact ⟨d, items, hproper'⟩

theorem later (h : Changed v added s s') (hsound : Sound s) : Later s s' where
  known x hx := by
    obtain ⟨o, ho⟩ := Option.ne_none_iff_exists'.mp hx
    by_cases hb : s.Belongs v x
    · obtain ⟨p, hp, hb⟩ := hb
      obtain ⟨p', d, items, hv, ha, hc, -⟩ := h.here p hp
      rw [← ha, ← hc] at hb
      rcases hb with rfl | rfl | rfl
      · simp [hv.node]
      · simp [hv.attributes]
      · simp [hv.children]
    · simp [h.elsewhere x o hb ho]
  kept u p hu := h.kept hsound hu
  taken _ u p' _ hu _ := h.origin hsound hu

theorem untouched (h : Changed v added s s') (hsound : Sound s) (hne : u ≠ v) :
    Untouched u s s' := by
  intro p hp
  obtain ⟨d, items, hu⟩ := hsound.proper u p hp
  exact hu.untouched (fun x o hx ho => h.other hsound hu hne hx ho) p hp

end Changed

namespace Born

variable {s s' s'' : Store} {v : Value} {added more : List Value}

-- A node that has just come into being may be changed like any other.
theorem changed (h : Born v added s s') (hc : Changed v more s' s'') :
    Born v (added ++ more) s s'' := by
  obtain ⟨p, d, items, hv, ha, hl, hitems⟩ := h.here
  have hold : ∀ x o, s.get? x = some o → ¬s'.Belongs v x := by
    intro x o hx
    refine hv.not_belongs ⟨?_, ?_, ?_⟩ <;> rintro rfl
    · cases hx.symm.trans h.new
    · cases hx.symm.trans ha
    · cases hx.symm.trans hl
  obtain ⟨p', d', items', hv', ha', hl', hitems'⟩ := hc.here p hv.node
  exact {
    grown := fun x o hx => hc.elsewhere x o (hold x o hx) (h.grown x o hx)
    new := h.new
    here := ⟨p', d', items', hv', ha' ▸ ha, hl' ▸ hl,
      (hitems' items hv.children).trans (hitems.append_right more)⟩
    nodes := fun u q hu => (hc.nodes u q hu).elim fun q' hq' => h.nodes u q' hq' }

theorem origin (h : Born v added s s') {u : Value} {p : NodeParts}
    (hu : s'.get? u = some (.node p)) (hne : u ≠ v) : s.get? u = some (.node p) := by
  obtain ⟨q, hq⟩ := (h.nodes u p hu).resolve_left hne
  cases hu.symm.trans (h.grown u _ hq)
  exact hq

theorem sound (h : Born v added s s') (hsound : Sound s) : Sound s' := by
  obtain ⟨p, d, items, hv, ha, hl, -⟩ := h.here
  -- containers that were there before are those of other nodes
  have hother : ∀ u q, s'.get? u = some (.node q) → u ≠ v →
      q.attributes ≠ p.attributes ∧ q.children ≠ p.children := by
    intro u q hu hne
    obtain ⟨d', items', hq⟩ := hsound.proper u q (h.origin hu hne)
    constructor <;> intro he
    · cases (he ▸ hq.attributes).symm.trans ha
    · cases (he ▸ hq.children).symm.trans hl
  have hsame : ∀ u x q r, s'.get? u = some (.node q) → s'.get? x = some (.node r) →
      q.attributes = r.attributes ∨ q.children = r.children → u = x := by
    intro u x q r hu hx he
    by_cases hu' : u = v <;> by_cases hx' : x = v
    · exact hu'.trans hx'.symm
    · subst hu'
      cases hu.symm.trans hv.node
      obtain ⟨hna, hnl⟩ := hother x r hx hx'
      exact (he.elim (fun he => hna he.symm) fun he => hnl he.symm).elim
    · subst hx'
      cases hx.symm.trans hv.node
      obtain ⟨hna, hnl⟩ := hother u q hu hu'
      exact (he.elim hna hnl).elim
    · have hu := h.origin hu hu'
      have hx := h.origin hx hx'
      exact he.elim (hsound.attributesApart u x q r hu hx) (hsound.childrenApart u x q r hu hx)
  refine ⟨fun u q hu => ?_, fun u x q r hu hx he => hsame u x q r hu hx (Or.inl he),
    fun u x q r hu hx he => hsame u x q r hu hx (Or.inr he)⟩
  by_cases hne : u = v
  · subst hne
    cases hu.symm.trans hv.node
    exact ⟨d, items, hv⟩
  · obtain ⟨d', items', hq⟩ := hsound.proper u q (h.origin hu hne)
    exact ⟨d', items', hq.of_extends h.grown⟩

theorem later (h : Born v added s s') : Later s s' where
  known x hx := by
    obtain ⟨o, ho⟩ := Option.ne_none_iff_exists'.mp hx
    simp [h.grown x o ho]
  kept u p hu := ⟨p, h.grown u _ hu, rfl, rfl⟩
  taken x u q hx hu he := by
    obtain ⟨p, d, items, hv, ha, hl, -⟩ := h.here
    by_cases hne : u = v
    · subst hne
      cases hu.symm.trans hv.node
      rcases he with rfl | rfl
      · exact absurd ha hx
      · exact absurd hl hx
    · exact ⟨q, h.origin hu hne, rfl, rfl⟩

end Born

-- What is a node stays one, if what is put in its place is one as well.
theorem nodes_put {s : Store} {x : Value} {old : Object} (o : Object) (hold : s.get? x = some old)
    (ho : o.isNode = old.isNode) (u : Value) :
    (∃ q, (s.put x o).get? u = some (.node q)) ↔ ∃ q, s.get? u = some (.node q) := by
  rw [get?_put o hold]
  by_cases hu : u = x
  · rw [if_pos hu, hu, hold]
    cases o <;> cases old <;> simp_all [Object.isNode]
  · rw [if_neg hu]

namespace Proper

variable {s : Store} {v : Value} {p : NodeParts} {d : Dictionary} {items : List Value}

-- A node that is a proper one again once one of its objects has another content.
theorem put_object {x : Value} {old o : Object} {p' : NodeParts} {d' : Dictionary}
    {items' added : List Value} (hv : Proper s v p d items) (hx : s.Belongs v x)
    (hold : s.get? x = some old) (ho : o.isNode = old.isNode)
    (hproper : Proper (s.put x o) v p' d' items') (ha : p'.attributes = p.attributes)
    (hc : p'.children = p.children) (hitems : items'.Sublist (items ++ added)) :
    Changed v added s (s.put x o) where
  elsewhere y oy hy hget := by
    have hne : y ≠ x := by
      rintro rfl
      exact hy hx
    rw [get?_put_elsewhere s o hne, hget]
  here q hq := by
    cases hv.node.symm.trans hq
    refine ⟨p', d', items', hproper, ha, hc, fun l hl => ?_⟩
    cases hv.children.symm.trans hl
    exact hitems
  nodes u q hu := (nodes_put o hold ho u).mp ⟨q, hu⟩

theorem with_parts {p' : NodeParts} (hv : Proper s v p d items)
    (ha : p'.attributes = p.attributes) (hc : p'.children = p.children)
    (htype : s.isText p'.type = true) (hposition : s.isPosition p'.position = true) :
    Proper (s.put v (.node p')) v p' d items := by
  have htext := isText_put (.node p') hv.node rfl rfl
  have hget : ∀ {x}, x ≠ v → (s.put v (.node p')).get? x = s.get? x :=
    fun hx => get?_put_elsewhere s _ hx
  exact {
    node := get?_put_here _ hv.node
    type := (htext _).trans htype
    attributes := by
      rw [ha, hget (ne_of_get? hv.attributes hv.node (by simp)), hv.attributes]
    names := fun e he => (htext _).trans (hv.names e he)
    children := by rw [hc, hget (ne_of_get? hv.children hv.node (by simp)), hv.children]
    members := fun u hu => (nodes_put (.node p') hv.node rfl u).mpr (hv.members u hu)
    position := isPosition_of_get?_eq hposition (hget (hv.position_ne hposition).1) }

theorem with_attributes {d' : Dictionary} (hv : Proper s v p d items)
    (hnames : ∀ e ∈ d'.entries, s.isText e.1 = true) :
    Proper (s.put p.attributes (.dict d')) v p d' items := by
  have htext := isText_put (.dict d') hv.attributes rfl rfl
  have hget : ∀ {x}, x ≠ p.attributes → (s.put p.attributes (.dict d')).get? x = s.get? x :=
    fun hx => get?_put_elsewhere s _ hx
  exact {
    node := (hget (ne_of_get? hv.node hv.attributes (by simp))).trans hv.node
    type := (htext _).trans hv.type
    attributes := get?_put_here _ hv.attributes
    names := fun e he => (htext _).trans (hnames e he)
    children := (hget (ne_of_get? hv.children hv.attributes (by simp))).trans hv.children
    members := fun u hu => (nodes_put (.dict d') hv.attributes rfl u).mpr (hv.members u hu)
    position := isPosition_of_get?_eq hv.position (hget (hv.position_ne hv.position).2.1) }

theorem with_children {items' : List Value} (hv : Proper s v p d items)
    (hitems : ∀ u ∈ items', ∃ q, s.get? u = some (.node q)) :
    Proper (s.put p.children (.list items')) v p d items' := by
  have htext := isText_put (.list items') hv.children rfl rfl
  have hget : ∀ {x}, x ≠ p.children → (s.put p.children (.list items')).get? x = s.get? x :=
    fun hx => get?_put_elsewhere s _ hx
  exact {
    node := (hget (ne_of_get? hv.node hv.children (by simp))).trans hv.node
    type := (htext _).trans hv.type
    attributes := (hget (ne_of_get? hv.attributes hv.children (by simp))).trans hv.attributes
    names := fun e he => (htext _).trans (hv.names e he)
    children := get?_put_here _ hv.children
    members := fun u hu => (nodes_put (.list items') hv.children rfl u).mpr (hitems u hu)
    position := isPosition_of_get?_eq hv.position (hget (hv.position_ne hv.position).2.2) }

theorem put_parts {p' : NodeParts} (hv : Proper s v p d items)
    (ha : p'.attributes = p.attributes) (hc : p'.children = p.children)
    (htype : s.isText p'.type = true) (hposition : s.isPosition p'.position = true) :
    Changed v [] s (s.put v (.node p')) :=
  hv.put_object ⟨p, hv.node, Or.inl rfl⟩ hv.node rfl (hv.with_parts ha hc htype hposition) ha hc
    (List.sublist_append_left _ _)

theorem put_attributes {d' : Dictionary} (hv : Proper s v p d items)
    (hnames : ∀ e ∈ d'.entries, s.isText e.1 = true) :
    Changed v [] s (s.put p.attributes (.dict d')) :=
  hv.put_object ⟨p, hv.node, Or.inr (Or.inl rfl)⟩ hv.attributes rfl (hv.with_attributes hnames) rfl
    rfl (List.sublist_append_left _ _)

theorem put_children {items' added : List Value} (hv : Proper s v p d items)
    (hitems : items'.Sublist (items ++ added))
    (hadded : ∀ u ∈ added, ∃ q, s.get? u = some (.node q)) :
    Changed v added s (s.put p.children (.list items')) := by
  have hmembers : ∀ u ∈ items', ∃ q, s.get? u = some (.node q) := fun u hu =>
    (List.mem_append.mp (hitems.subset hu)).elim (hv.members u) (hadded u)
  exact hv.put_object ⟨p, hv.node, Or.inr (Or.inr rfl)⟩ hv.children rfl (hv.with_children hmembers)
    rfl rfl hitems

end Proper

end ParseKit.Store
