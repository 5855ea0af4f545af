import ParseKit.Node.Children
import ParseKit.Proofs.Store.Extends

namespace ParseKit.Store

-- A node with parts that are all of the right kinds: a text, a dictionary, a list and a position.
structure WellFormed (s : Store) (v : Value) : Prop where
  parts : ∃ p t d items line column offset,
    s.get? v = some (.node p) ∧ s.text? p.type = some t ∧
    s.get? p.attributes = some (.dict d) ∧ s.get? p.children = some (.list items) ∧
    s.get? p.position = some (.position line column offset)

theorem isWellFormedNode_iff {s : Store} {v : Value} :
    s.isWellFormedNode v = true ↔ s.WellFormed v := by
  unfold isWellFormedNode
  constructor
  · intro h
    split at h
    · next p hnode =>
      simp only [isText, dict?, list?, isPosition, Bool.and_eq_true, Option.isSome_iff_exists] at h
      obtain ⟨⟨⟨⟨t, ht⟩, entries, hd⟩, items, hl⟩, hp⟩ := h
      split at hd <;> try cases hd
      split at hl <;> try cases hl
      split at hp <;> try cases hp
      exact ⟨p, t, _, _, _, _, _, node?_eq_some_iff.mp hnode, ht, ‹_›, ‹_›, ‹_›⟩
    · cases h
  · rintro ⟨p, t, d, items, line, column, offset, hnode, ht, hd, hl, hp⟩
    simp [node?_eq_some_iff.mpr hnode, isText, ht, dict?, hd, list?, hl, isPosition, hp]

instance (s : Store) (v : Value) : Decidable (s.WellFormed v) :=
  decidable_of_iff _ isWellFormedNode_iff

theorem isWellFormedNode_eq_false_iff {s : Store} {v : Value} :
    s.isWellFormedNode v = false ↔ ¬s.WellFormed v := by
  rw [← isWellFormedNode_iff, Bool.not_eq_true]

theorem WellFormed.get?_ne_none {s : Store} {v : Value} (h : s.WellFormed v) :
    s.get? v ≠ none := by
  obtain ⟨p, -, -, -, -, -, -, hnode, -⟩ := h
  rw [hnode]
  simp

theorem Extends.wellFormed {s s' : Store} (h : Extends s s') {v : Value} (hv : s.WellFormed v) :
    s'.WellFormed v := by
  obtain ⟨p, t, d, items, line, column, offset, hnode, ht, hd, hl, hp⟩ := hv
  exact ⟨p, t, d, items, line, column, offset, h _ _ hnode, h.text? ht, h _ _ hd, h _ _ hl,
    h _ _ hp⟩

-- An object that is neither a node nor a token.
def Strange (s : Store) (v : Value) : Prop :=
  ∃ o, s.get? v = some o ∧ o.isNode = false ∧ o.isToken = false

theorem Extends.strange {s s' : Store} (h : Extends s s') {v : Value} (hv : s.Strange v) :
    s'.Strange v := by
  obtain ⟨o, ho, hkind⟩ := hv
  exact ⟨o, h _ _ ho, hkind⟩

theorem Strange.node?_eq_none {s : Store} {v : Value} (h : s.Strange v) : s.node? v = none := by
  obtain ⟨o, ho, hnode, -⟩ := h
  unfold node?
  rw [ho]
  cases o <;> first | rfl | cases hnode

theorem Strange.not_wellFormed {s : Store} {v : Value} (h : s.Strange v) : ¬s.WellFormed v := by
  rintro ⟨p, -, -, -, -, -, -, hnode, -⟩
  cases h.node?_eq_none.symm.trans (node?_eq_some_iff.mpr hnode)

end ParseKit.Store
