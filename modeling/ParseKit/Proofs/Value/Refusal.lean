import ParseKit.Proofs.Run.Basic
import ParseKit.Proofs.Store.Extends
import ParseKit.Proofs.Value.Inspect
import ParseKit.Value.Sequence

namespace ParseKit

namespace Store

-- The failure with which a value is refused: one of a class that says so, or the failure to show
-- the value.
def refusal (s : Store) (c : ErrorClass) (say : String → String) (v : Value) : Failure :=
  match s.inspect v with
  | .ok text => .message c (say text)
  | .error f => f

theorem refusal_cases {s : Store} (h : s.WholeNodes) (c : ErrorClass) (say : String → String)
    (v : Value) :
    (∃ text, s.refusal c say v = .message c (say text)) ∨ s.refusal c say v = tooDeep := by
  cases hshown : s.inspect v with
  | ok text => exact Or.inl ⟨text, by rw [refusal, hshown]⟩
  | error f =>
      have hf : f = tooDeep := inspect_onlyTooDeep h v f hshown
      exact Or.inr (by rw [refusal, hshown, hf])

end Store

theorem Run.refusal_apply {σ α : Type} (c : ErrorClass) (say : String → String) (v : Value)
    (w : World σ) :
    (do let shown ← Run.inspect (·.inspect v); Run.raise c (say shown) : Run σ α) w =
      .error (.raised (w.store.refusal c say v)) w := by
  rw [Run.bind_apply, Run.inspect_apply, Store.refusal]
  cases w.store.inspect v <;> rfl

theorem Run.refusal_bind_apply {σ α β : Type} (c : ErrorClass) (say : String → String) (v : Value)
    (f : α → Run σ β) (w : World σ) :
    (do let shown ← Run.inspect (·.inspect v); let a ← Run.raise c (say shown); f a : Run σ β) w =
      .error (.raised (w.store.refusal c say v)) w := by
  rw [← bind_assoc, Run.bind_apply, Run.refusal_apply]

namespace Object

-- Lists and dictionaries.
def isContainer : Object → Bool
  | list _ | dict _ => true
  | _ => false

end Object

namespace Store

variable {s : Store} {x : Value} {old new : Object}

theorem length_container {o : Object} (h : s.get? x = some o) (ho : o.isContainer = true) :
    ∃ n, s.length x = .ok n := by
  cases x with
  | ref id =>
      cases o with
      | list items => exact ⟨items.length, by simp [length, elements?, h]⟩
      | dict d => exact ⟨d.entries.length, by simp [length, elements?, h]⟩
      | _ => cases ho
  | _ => cases h

theorem part?_container {o : Object} (h : s.get? x = some o) (ho : o.isContainer = true)
    (name : String) : s.part? x name = none := by
  unfold part?
  rw [h]
  cases o <;> first | rfl | cases ho

-- What nodes are shown by stays when the only new node is one that can be shown.
theorem WholeNodes.grow {s' : Store} {v : Value} {p : NodeParts} {items : List Value}
    {line column offset : Value} (h : s.WholeNodes) (hext : s.Extends s')
    (hnodes : ∀ u q, s'.get? u = some (.node q) → u = v ∨ s.get? u = some (.node q))
    (hnode : s'.get? v = some (.node p)) (hchildren : s'.get? p.children = some (.list items))
    (hposition : s'.get? p.position = some (.position line column offset)) :
    s'.WholeNodes := by
  have hnew : ∀ u q, s'.get? u = some (.node q) → q = p ∨ s.get? u = some (.node q) := by
    intro u q hu
    rcases hnodes u q hu with rfl | hold
    · exact .inl (Object.node.inj (Option.some.inj (hu.symm.trans hnode)))
    · exact .inr hold
  constructor
  · intro u q hu
    rcases hnew u q hu with rfl | hold
    · exact length_container hchildren rfl
    · exact (h.children u q hold).imp fun n hn => hext.length hn
  · intro u q hu
    rcases hnew u q hu with rfl | hold
    · exact ⟨line, by simp [requirePart, part?, hposition]⟩
    · exact (h.line u q hold).imp fun l hl => hext.requirePart hl
  · intro u q hu
    rcases hnew u q hu with rfl | hold
    · exact ⟨column, by simp [requirePart, part?, hposition]⟩
    · exact (h.column u q hold).imp fun c hc => hext.requirePart hc

-- What nodes are shown by stays when a list or a dictionary gets another content.
theorem WholeNodes.put (h : s.WholeNodes) (hx : s.get? x = some old)
    (hold : old.isContainer = true) (hnew : new.isContainer = true) :
    (s.put x new).WholeNodes := by
  have hnode : ∀ v p, (s.put x new).get? v = some (.node p) → s.get? v = some (.node p) := by
    intro v p hv
    rw [get?_put new hx] at hv
    split at hv
    · cases hv
      cases hnew
    · exact hv
  have hplace : ∀ v p name l, s.get? v = some (.node p) → s.requirePart p.position name = .ok l →
      (s.put x new).requirePart p.position name = .ok l := by
    intro v p name l hv hl
    have hne : p.position ≠ x := by
      intro he
      rw [he, requirePart, part?_container hx hold] at hl
      cases hl
    have hpart : (s.put x new).part? p.position name = s.part? p.position name := by
      simp only [part?, get?_put_elsewhere s new hne]
    simp only [requirePart, hpart] at hl ⊢
    split at hl
    · exact hl
    · cases hl
  constructor
  · intro v p hv
    by_cases he : p.children = x
    · rw [he]
      exact length_container (get?_put_here new hx) hnew
    · obtain ⟨n, hn⟩ := h.children v p (hnode v p hv)
      refine ⟨n, ?_⟩
      have helements : (s.put x new).elements? p.children = s.elements? p.children := by
        cases hc : p.children with
        | ref id => simp only [elements?, get?_put_elsewhere s new (hc ▸ he)]
        | _ => rfl
      simp only [length, helements] at hn ⊢
      split at hn
      · exact hn
      · cases hn
  · intro v p hv
    exact (h.line v p (hnode v p hv)).imp fun l hl => hplace v p "line" l (hnode v p hv) hl
  · intro v p hv
    exact (h.column v p (hnode v p hv)).imp fun l hl => hplace v p "column" l (hnode v p hv) hl

end Store

end ParseKit
