import ParseKit.Proofs.Node.Tree
import ParseKit.Proofs.Node.WellFormed

namespace ParseKit.Store

-- A node with all that belongs to it: its parts, and what is in its dictionary and in its list.
structure Proper (s : Store) (v : Value) (p : NodeParts) (d : Dictionary) (items : List Value) :
    Prop where
  node : s.get? v = some (.node p)
  type : s.isText p.type = true
  attributes : s.get? p.attributes = some (.dict d)
  names : ∀ e ∈ d.entries, s.isText e.1 = true
  children : s.get? p.children = some (.list items)
  members : ∀ u ∈ items, ∃ q, s.get? u = some (.node q)
  position : s.isPosition p.position = true

-- All nodes are proper ones, and every container belongs to one of them at most.
structure Sound (s : Store) : Prop where
  proper : ∀ v p, s.get? v = some (.node p) → ∃ d items, Proper s v p d items
  attributesApart : ∀ u v p q, s.get? u = some (.node p) → s.get? v = some (.node q) →
    p.attributes = q.attributes → u = v
  childrenApart : ∀ u v p q, s.get? u = some (.node p) → s.get? v = some (.node q) →
    p.children = q.children → u = v

-- The objects that a node consists of when it comes to changes: itself and its containers.
def Belongs (s : Store) (v x : Value) : Prop :=
  ∃ p, s.get? v = some (.node p) ∧ (x = v ∨ x = p.attributes ∨ x = p.children)

-- A later store has all objects of an earlier one, and all nodes with the containers that they had.
-- Of what was there nothing has become a container of another node.
structure Later (s s' : Store) : Prop where
  known : ∀ x, s.get? x ≠ none → s'.get? x ≠ none
  kept : ∀ v p, s.get? v = some (.node p) →
    ∃ p', s'.get? v = some (.node p') ∧ p'.attributes = p.attributes ∧ p'.children = p.children
  taken : ∀ x v p', s.get? x ≠ none → s'.get? v = some (.node p') →
    x = p'.attributes ∨ x = p'.children →
    ∃ p, s.get? v = some (.node p) ∧ p'.attributes = p.attributes ∧ p'.children = p.children

-- A node that stays as it is, with its type, attributes, children and position.
def Untouched (v : Value) (s s' : Store) : Prop :=
  ∀ p, s.get? v = some (.node p) → s'.get? v = some (.node p) ∧
    ∀ part ∈ [p.type, p.attributes, p.children, p.position], s'.get? part = s.get? part

theorem get?_of_isPosition {s : Store} {v : Value} (h : s.isPosition v = true) :
    ∃ line column offset, s.get? v = some (.position line column offset) := by
  unfold isPosition at h
  split at h
  · exact ⟨_, _, _, ‹_›⟩
  · cases h

theorem isPosition_of_get?_eq {s s' : Store} {v : Value} (h : s.isPosition v = true)
    (hget : s'.get? v = s.get? v) : s'.isPosition v = true := by
  rw [isPosition, hget]
  exact h

-- A text is no object at all, or a token.
theorem get?_of_isText {s : Store} {v : Value} (h : s.isText v = true) :
    (∃ t, v = .text t) ∨ ∃ type text place, s.get? v = some (.token type text place) := by
  obtain ⟨t, ht⟩ := Option.isSome_iff_exists.mp h
  cases v with
  | text t => exact Or.inl ⟨t, rfl⟩
  | ref id =>
      simp only [text?] at ht
      split at ht
      · exact Or.inr ⟨_, _, _, ‹_›⟩
      · cases ht
  | _ => cases ht

theorem isText_of_get? {s s' : Store} {v : Value} (h : s.isText v = true)
    (hget : ∀ o, s.get? v = some o → s'.get? v = some o) : s'.isText v = true := by
  rcases get?_of_isText h with ⟨t, rfl⟩ | ⟨type, text, place, ho⟩
  · rfl
  · cases v with
    | ref id => simp [isText, text?, hget _ ho]
    | _ => cases ho

namespace Proper

variable {s s' : Store} {v x : Value} {p : NodeParts} {d : Dictionary} {items : List Value}

theorem childrenOf? (h : Proper s v p d items) : s.childrenOf? v = some (p.children, items) :=
  childrenOf?_of_get? h.node h.children

theorem wellFormed (h : Proper s v p d items) : s.WellFormed v := by
  obtain ⟨t, ht⟩ := Option.isSome_iff_exists.mp h.type
  obtain ⟨line, column, offset, hp⟩ := get?_of_isPosition h.position
  exact ⟨p, t, d, items, line, column, offset, h.node, ht, h.attributes,
    h.children, hp⟩

theorem text_ne (h : Proper s v p d items) {t : Value} (ht : s.isText t = true) :
    t ≠ v ∧ t ≠ p.attributes ∧ t ≠ p.children :=
  ⟨ne_of_isText ht h.node rfl, ne_of_isText ht h.attributes rfl, ne_of_isText ht h.children rfl⟩

theorem position_ne (h : Proper s v p d items) {x : Value} (hx : s.isPosition x = true) :
    x ≠ v ∧ x ≠ p.attributes ∧ x ≠ p.children := by
  obtain ⟨line, column, offset, hp⟩ := get?_of_isPosition hx
  exact ⟨ne_of_get? hp h.node (by simp), ne_of_get? hp h.attributes (by simp),
    ne_of_get? hp h.children (by simp)⟩

theorem not_belongs (h : Proper s v p d items)
    (hx : x ≠ v ∧ x ≠ p.attributes ∧ x ≠ p.children) : ¬s.Belongs v x := by
  rintro ⟨q, hq, hb⟩
  cases h.node.symm.trans hq
  rcases hb with rfl | rfl | rfl
  · exact hx.1 rfl
  · exact hx.2.1 rfl
  · exact hx.2.2 rfl

-- What a node consists of can only be changed where it is.
theorem keep (h : Proper s v p d items)
    (hget : ∀ x o, x ∈ [v, p.attributes, p.children, p.position] → s.get? x = some o →
      s'.get? x = some o)
    (htext : ∀ u, s.isText u = true → s'.isText u = true)
    (hnodes : ∀ u q, s.get? u = some (.node q) → ∃ q', s'.get? u = some (.node q')) :
    Proper s' v p d items := by
  obtain ⟨line, column, offset, hp⟩ := get?_of_isPosition h.position
  exact {
    node := hget _ _ (by simp) h.node
    type := htext _ h.type
    attributes := hget _ _ (by simp) h.attributes
    names := fun e he => htext _ (h.names e he)
    children := hget _ _ (by simp) h.children
    members := fun u hu => (h.members u hu).elim (hnodes u)
    position := isPosition_of_get?_eq h.position ((hget _ _ (by simp) hp).trans hp.symm) }

theorem of_extends (h : Proper s v p d items) (hext : s.Extends s') : Proper s' v p d items :=
  h.keep (fun x o _ hx => hext x o hx) (fun _ hu => isText_of_get? hu (hext _))
    fun _ q hu => ⟨q, hext _ _ hu⟩

theorem untouched (h : Proper s v p d items)
    (hget : ∀ x o, x ∈ [v, p.type, p.attributes, p.children, p.position] → s.get? x = some o →
      s'.get? x = some o) : Untouched v s s' := by
  intro q hq
  cases h.node.symm.trans hq
  refine ⟨hget _ _ (by simp) h.node, fun part hpart => ?_⟩
  have hold : (∃ t, part = .text t) ∨ ∃ o, s.get? part = some o := by
    obtain ⟨line, column, offset, hp⟩ := get?_of_isPosition h.position
    simp only [List.mem_cons, List.not_mem_nil, or_false] at hpart
    rcases hpart with rfl | rfl | rfl | rfl
    · exact (get?_of_isText h.type).imp id fun ⟨_, _, _, ho⟩ => ⟨_, ho⟩
    · exact Or.inr ⟨_, h.attributes⟩
    · exact Or.inr ⟨_, h.children⟩
    · exact Or.inr ⟨_, hp⟩
  rcases hold with ⟨t, rfl⟩ | ⟨o, ho⟩
  · rfl
  · rw [hget part o (List.mem_cons_of_mem _ hpart) ho, ho]

end Proper

namespace Sound

variable {s : Store} {v : Value}

-- Of a node that is not the one to change, everything stands elsewhere.
theorem apart (h : Sound s) {u : Value} {p : NodeParts} {d : Dictionary} {items : List Value}
    (hu : Proper s u p d items) (hne : u ≠ v) {x : Value}
    (hx : x ∈ [u, p.type, p.attributes, p.children, p.position]) : ¬s.Belongs v x := by
  rintro ⟨q, hq, hb⟩
  obtain ⟨d', items', hv⟩ := h.proper v q hq
  refine hv.not_belongs ?_ ⟨q, hq, hb⟩
  simp only [List.mem_cons, List.not_mem_nil, or_false] at hx
  rcases hx with rfl | rfl | rfl | rfl | rfl
  · exact ⟨hne, ne_of_get? hu.node hv.attributes (by simp),
      ne_of_get? hu.node hv.children (by simp)⟩
  · exact hv.text_ne hu.type
  · exact ⟨ne_of_get? hu.attributes hv.node (by simp),
      fun he => hne (h.attributesApart u v p q hu.node hq he),
      ne_of_get? hu.attributes hv.children (by simp)⟩
  · exact ⟨ne_of_get? hu.children hv.node (by simp), ne_of_get? hu.children hv.attributes (by simp),
      fun he => hne (h.childrenApart u v p q hu.node hq he)⟩
  · exact hv.position_ne hu.position

theorem text_apart (h : Sound s) {t : Value} (ht : s.isText t = true) : ¬s.Belongs v t := by
  rintro ⟨q, hq, hb⟩
  obtain ⟨d, items, hv⟩ := h.proper v q hq
  exact hv.not_belongs (hv.text_ne ht) ⟨q, hq, hb⟩

-- The containers of a node are told apart by what they are and whose they are.
theorem of_nodes {s' : Store} (h : Sound s)
    (hproper : ∀ v p, s'.get? v = some (.node p) → ∃ d items, Proper s' v p d items)
    (hold : ∀ v p', s'.get? v = some (.node p') → ∃ p, s.get? v = some (.node p) ∧
      p'.attributes = p.attributes ∧ p'.children = p.children) : Sound s' where
  proper := hproper
  attributesApart := by
    intro u v p' q' hu hv he
    obtain ⟨p, hp, hpa, -⟩ := hold u p' hu
    obtain ⟨q, hq, hqa, -⟩ := hold v q' hv
    exact h.attributesApart u v p q hp hq (hpa.symm.trans (he.trans hqa))
  childrenApart := by
    intro u v p' q' hu hv he
    obtain ⟨p, hp, -, hpc⟩ := hold u p' hu
    obtain ⟨q, hq, -, hqc⟩ := hold v q' hv
    exact h.childrenApart u v p q hp hq (hpc.symm.trans (he.trans hqc))

end Sound

namespace Later

variable {s s' s'' : Store}

theorem refl (s : Store) : Later s s where
  known _ h := h
  kept _ p h := ⟨p, h, rfl, rfl⟩
  taken _ _ p' _ h _ := ⟨p', h, rfl, rfl⟩

theorem trans (h : Later s s') (h' : Later s' s'') : Later s s'' where
  known x hx := h'.known x (h.known x hx)
  kept v p hp := by
    obtain ⟨p', hp', ha, hc⟩ := h.kept v p hp
    obtain ⟨p'', hp'', ha', hc'⟩ := h'.kept v p' hp'
    exact ⟨p'', hp'', ha'.trans ha, hc'.trans hc⟩
  taken x v p'' hx hp'' he := by
    obtain ⟨p', hp', ha', hc'⟩ := h'.taken x v p'' (h.known x hx) hp'' he
    obtain ⟨p, hp, ha, hc⟩ := h.taken x v p' hx hp' (by rwa [← ha', ← hc'])
    exact ⟨p, hp, ha'.trans ha, hc'.trans hc⟩

end Later

end ParseKit.Store
