import ParseKit.Value.Sequence

namespace ParseKit

namespace Object

def isNode : Object → Bool
  | node _ => true
  | _ => false

def isToken : Object → Bool
  | token .. => true
  | _ => false

end Object

namespace Store

theorem node?_eq_some_iff {s : Store} {v : Value} {p : NodeParts} :
    s.node? v = some p ↔ s.get? v = some (.node p) := by
  unfold node?
  split <;> simp_all

theorem list?_eq_some_iff {s : Store} {v : Value} {items : List Value} :
    s.list? v = some items ↔ s.get? v = some (.list items) := by
  unfold list?
  split <;> simp_all

theorem elements?_of_items? {s : Store} {v : Value} {items : List Value}
    (h : s.items? v = some items) : s.elements? v = some items := by
  unfold Store.items? at h
  split at h <;> cases h
  all_goals
    next heq =>
    cases v with
    | ref id => simp [Store.elements?, heq]
    | _ => cases heq

theorem ne_of_get? {s : Store} {v w : Value} {o o' : Object} (hv : s.get? v = some o)
    (hw : s.get? w = some o') (h : o ≠ o') : v ≠ w := by
  rintro rfl
  exact h (Option.some.inj (hv.symm.trans hw))

-- A change of one object is seen there and nowhere else.
theorem get?_put {s : Store} {v : Value} {old : Object} (o : Object) (h : s.get? v = some old)
    (u : Value) : (s.put v o).get? u = if u = v then some o else s.get? u := by
  by_cases hu : u = v
  · rw [hu, get?_put_here o h, if_pos rfl]
  · rw [get?_put_elsewhere s o hu, if_neg hu]

theorem put_put (s : Store) (v : Value) (o o' : Object) : (s.put v o).put v o' = s.put v o' := by
  cases v with
  | ref id => simp [put]
  | _ => rfl

theorem put_self {s : Store} {v : Value} {o : Object} (h : s.get? v = some o) : s.put v o = s := by
  cases v with
  | ref id =>
      obtain ⟨hlt, hget⟩ := Array.getElem?_eq_some_iff.mp h
      simp [put, Array.setIfInBounds, hlt, ← hget]
  | _ => cases h

theorem size_alloc (s : Store) (o : Object) : (s.alloc o).2.size = s.size + 1 := by
  simp [alloc, size]

theorem get?_alloc (s : Store) (o : Object) (u : Value) :
    (s.alloc o).2.get? u = if u = (s.alloc o).1 then some o else s.get? u := by
  by_cases hu : u = (s.alloc o).1
  · rw [hu, get?_alloc_here, if_pos rfl]
  · rw [if_neg hu]
    cases u with
    | ref id =>
        have hne : id ≠ s.objects.size := fun h => hu (by rw [h]; rfl)
        simp [alloc, get?, Array.getElem?_push, hne]
    | _ => rfl

-- A new object that is no node leaves the nodes that there are.
theorem nodes_alloc {s : Store} {o : Object} (ho : o.isNode = false) {u : Value} {q : NodeParts}
    (hu : (s.alloc o).2.get? u = some (.node q)) : s.get? u = some (.node q) := by
  rw [get?_alloc] at hu
  split at hu
  · cases hu
    cases ho
  · exact hu

theorem text?_of_get? {s : Store} {v : Value} {o : Object} (h : s.get? v = some o)
    (ho : o.isToken = false) : s.text? v = none := by
  cases v with
  | ref id =>
      simp only [text?, h]
      split
      · next heq =>
        cases heq
        cases ho
      · rfl
  | _ => cases h

-- Texts are not changed by a change of something else.
theorem text?_put {s : Store} {v : Value} {old : Object} (o : Object) (h : s.get? v = some old)
    (hold : old.isToken = false) (ho : o.isToken = false) (u : Value) :
    (s.put v o).text? u = s.text? u := by
  by_cases hu : u = v
  · rw [hu, text?_of_get? h hold, text?_of_get? (get?_put_here o h) ho]
  · cases u with
    | text t => rfl
    | ref id => simp only [text?, get?_put_elsewhere s o hu]
    | _ => rfl

theorem isText_put {s : Store} {v : Value} {old : Object} (o : Object) (h : s.get? v = some old)
    (hold : old.isToken = false) (ho : o.isToken = false) (u : Value) :
    (s.put v o).isText u = s.isText u := by
  rw [isText, text?_put o h hold ho u, isText]

theorem ne_of_isText {s : Store} {u v : Value} {o : Object} (hu : s.isText u = true)
    (hv : s.get? v = some o) (ho : o.isToken = false) : u ≠ v := by
  rintro rfl
  rw [isText, text?_of_get? hv ho] at hu
  cases hu

theorem length_le_size {s : Store} {vs : List Value} (hdistinct : vs.Nodup)
    (hthere : ∀ v ∈ vs, s.get? v ≠ none) : vs.length ≤ s.size := by
  have hsubset : vs ⊆ (List.range s.size).map .ref := by
    intro v hv
    have hget := hthere v hv
    cases v with
    | ref id =>
        have hlt : id < s.size :=
          Nat.lt_of_not_le fun hge => hget (Array.getElem?_eq_none hge)
        exact List.mem_map.mpr ⟨id, List.mem_range.mpr hlt, rfl⟩
    | _ => exact absurd rfl hget
  simpa using List.Nodup.length_le_of_subset hdistinct hsubset

end Store

end ParseKit
