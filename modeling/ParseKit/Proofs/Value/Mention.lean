import Mathlib.Logic.Relation
import ParseKit.Proofs.Run.Except
import ParseKit.Proofs.Store.Basic
import ParseKit.Proofs.Value.Inspect
import ParseKit.Value.Json

namespace ParseKit

-- The values that the text of an object is made of. A node only shows how many children it has, and
-- its attributes not at all.
def Object.written : Object → List Value
  | lone atom => [atom]
  | list items | tuple items | set items | frozenset items => items
  | dict d => d.entries.flatMap fun e => [e.1, e.2]
  | mapping entries => entries.flatMap fun e => [e.1, e.2]
  | record fields => fields.map (·.2)
  | node p => [p.type, p.children, p.position]
  | position line column offset => [line, column, offset]
  | span start stop => [start, stop]
  | tree data children _ => data :: children
  | failure e => e.args
  | _ => []

namespace Store

-- The text of a value is made of another value.
inductive Mentions (s : Store) (v u : Value) : Prop where
  | written {o : Object} (object : s.get? v = some o) (member : u ∈ o.written) : Mentions s v u
  | place {p : NodeParts} {name : String} (object : s.get? v = some (.node p))
      (part : s.part? p.position name = some u) : Mentions s v u

-- Two stores are alike where some values are concerned: the objects of these values are the same,
-- and their texts are made of such values alone. The size of the store matters to a text because it
-- bounds how deep the text goes.
structure Alike (s s' : Store) (known : Value → Prop) : Prop where
  size : s'.size = s.size
  same : ∀ v, known v → s'.get? v = s.get? v
  closed : ∀ v u, known v → s.Mentions v u → known u

namespace Alike

variable {s s' : Store} {known : Value → Prop} {u v : Value}

theorem text?_eq (h : Alike s s' known) (hv : known v) : s'.text? v = s.text? v := by
  cases v with
  | ref id => simp only [text?, h.same _ hv]
  | _ => rfl

theorem className_eq (h : Alike s s' known) (hv : known v) : s'.className v = s.className v := by
  simp only [className, h.same v hv]

theorem length_eq (h : Alike s s' known) (hv : known v) : s'.length v = s.length v := by
  have helements : s'.elements? v = s.elements? v := by
    cases v with
    | ref id => simp only [elements?, h.same _ hv]
    | _ => rfl
  simp only [length, kindName, className, helements, h.same v hv]

theorem requirePart_eq (h : Alike s s' known) (hv : known v) (name : String) :
    s'.requirePart v name = s.requirePart v name := by
  simp only [requirePart, part?, missingPart, kindName, className, h.same v hv]

theorem known_of_requirePart (h : Alike s s' known) (hv : known v) {p : NodeParts} {name : String}
    (hnode : s.get? v = some (.node p)) (hpart : s.requirePart p.position name = .ok u) :
    known u := by
  cases hsome : s.part? p.position name with
  | none => simp [requirePart, hsome] at hpart
  | some x =>
      simp only [requirePart, hsome, Except.ok.injEq] at hpart
      exact h.closed v u hv (.place hnode (hpart ▸ hsome))

theorem known_of_entries {entries : List (Value × Value)}
    (h : ∀ u ∈ entries.flatMap fun e => [e.1, e.2], known u) :
    ∀ e ∈ entries, known e.1 ∧ known e.2 := fun e he =>
  ⟨h _ (List.mem_flatMap.mpr ⟨e, he, by simp⟩), h _ (List.mem_flatMap.mpr ⟨e, he, by simp⟩)⟩

section

variable {inner inner' : List Value → TextStyle → Value → Except Failure String} {path : List Value}
  (hinner : ∀ path style u, known u → inner' path style u = inner path style u)
include hinner

theorem itemsText_eq (items : List Value) (hitems : ∀ u ∈ items, known u) :
    itemsText inner' path items = itemsText inner path items := by
  rw [itemsText, itemsText, mapM_congr fun u hu => hinner path .inspect u (hitems u hu)]

theorem tupleText_eq {items : List Value} (hitems : ∀ u ∈ items, known u) :
    tupleText inner' path v items = tupleText inner path v items := by
  unfold tupleText
  refine congrArg _ (funext fun path => ?_)
  rcases items with _ | ⟨one, _ | ⟨two, items⟩⟩ <;> dsimp only
  · rw [itemsText_eq hinner _ hitems]
  · rw [hinner _ _ one (hitems one (by simp))]
  · rw [itemsText_eq hinner _ hitems]

theorem entriesText_eq {entries : List (Value × Value)}
    (hentries : ∀ e ∈ entries, known e.1 ∧ known e.2) :
    entriesText inner' path v entries = entriesText inner path v entries := by
  unfold entriesText
  refine congrArg _ (funext fun path => ?_)
  rw [mapM_congr fun e he => by
    rw [hinner path .inspect e.1 (hentries e he).1, hinner path .inspect e.2 (hentries e he).2]]

theorem fieldsText_eq {mark name : String} {fields : List (String × Value)}
    (hfields : ∀ f ∈ fields, known f.2) :
    fieldsText inner' path v mark name fields = fieldsText inner path v mark name fields := by
  unfold fieldsText
  refine congrArg _ (funext fun path => ?_)
  rw [mapM_congr fun f hf => by rw [hinner path .inspect f.2 (hfields f hf)]]

theorem nodeText_eq (h : Alike s s' known) (hv : known v) {p : NodeParts}
    (hnode : s.get? v = some (.node p)) : s'.nodeText inner' path p = s.nodeText inner path p := by
  have hin : ∀ u ∈ (Object.node p).written, known u := fun u hu => h.closed v u hv (.written hnode hu)
  have hposition : known p.position := hin _ (by simp [Object.written])
  unfold nodeText
  rw [hinner _ _ _ (hin p.type (by simp [Object.written])),
    h.length_eq (hin p.children (by simp [Object.written])), h.requirePart_eq hposition,
    h.requirePart_eq hposition]
  refine bind_congr fun type => bind_congr fun count => bind_congr_ok fun l hl => ?_
  rw [hinner _ _ _ (h.known_of_requirePart hv hnode hl)]
  refine bind_congr fun line => bind_congr_ok fun c hc => ?_
  rw [hinner _ _ _ (h.known_of_requirePart hv hnode hc)]

theorem treeText_eq {data : Value} {children : List Value} (hdata : known data)
    (hchildren : ∀ u ∈ children, known u) :
    treeText inner' path v data children = treeText inner path v data children := by
  unfold treeText
  rw [hinner _ _ _ hdata]
  refine bind_congr fun name => ?_
  simp only [itemsText_eq hinner children hchildren]

theorem errorText_eq {style : TextStyle} {e : Failure} (hargs : ∀ u ∈ e.args, known u) :
    errorText inner' path style v e = errorText inner path style v e := by
  obtain ⟨errorClass, args, fields, details⟩ := e
  unfold errorText
  cases style <;> rcases args with _ | ⟨one, _ | ⟨two, args⟩⟩ <;> dsimp only
  · exact hinner _ _ _ (hargs one (by simp))
  · exact tupleText_eq hinner hargs
  · rw [tupleText_eq hinner hargs]
  · rw [hinner _ _ _ (hargs one (by simp))]
  · rw [tupleText_eq hinner hargs]

theorem objectText_eq (h : Alike s s' known) (hv : known v) {o : Object}
    (hobject : s.get? v = some o) (style : TextStyle) :
    s'.objectText inner' path style v o = s.objectText inner path style v o := by
  have hin : ∀ u ∈ o.written, known u := fun u hu => h.closed v u hv (.written hobject hu)
  cases o with
  | lone atom => exact hinner _ _ _ (hin atom (by simp [Object.written]))
  | list items => simp only [objectText, itemsText_eq hinner items hin]
  | tuple items => exact tupleText_eq hinner hin
  | dict d => exact entriesText_eq hinner (known_of_entries hin)
  | mapping entries => simp only [objectText, entriesText_eq hinner (known_of_entries hin)]
  | set items | frozenset items =>
      cases items with
      | nil => rfl
      | cons first rest => simp only [objectText, itemsText_eq hinner (first :: rest) hin]
  | record fields => exact fieldsText_eq hinner fun f hf => hin _ (List.mem_map_of_mem hf)
  | node p => exact nodeText_eq hinner h hv hobject
  | position | span => exact fieldsText_eq hinner (by simpa [Object.written] using hin)
  | tree data children place =>
      exact treeText_eq hinner (hin data (by simp [Object.written]))
        fun u hu => hin u (by simp [Object.written, hu])
  | failure e => exact errorText_eq hinner hin
  | place | builder | helpers | function => simp only [objectText, h.className_eq hv]
  | notANumber | bytes | pattern | foreign | token => rfl

end

-- By induction on the depth.
theorem textAt_eq (h : Alike s s' known) (hv : known v) (depth : Nat) (path : List Value)
    (style : TextStyle) : s'.textAt depth path style v = s.textAt depth path style v := by
  induction depth generalizing path style v with
  | zero => rfl
  | succ depth ih =>
      have hinner : ∀ path style u, known u →
          s'.textAt depth path style u = s.textAt depth path style u :=
        fun path style u hu => ih hu path style
      cases hget : s.get? v with
      | some o =>
          rw [textAt_object hget, textAt_object ((h.same v hv).trans hget)]
          exact objectText_eq hinner h hv hget style
      | none =>
          cases v with
          | ref id => rw [textAt, textAt, h.same _ hv, hget]
          | _ => rfl

theorem display_eq (h : Alike s s' known) (hv : known v) : s'.display v = s.display v := by
  have hlevels : s'.textLevels = s.textLevels := by rw [textLevels, textLevels, h.size]
  rw [display, display, hlevels, h.textAt_eq hv]

theorem jsonKey_eq (h : Alike s s' known) (hv : known v) : s'.jsonKey v = s.jsonKey v := by
  cases v with
  | ref id => simp only [jsonKey, h.text?_eq hv, h.same _ hv]
  | _ => rfl

theorem jsonAt_eq (h : Alike s s' known) (hv : known v) (depth : Nat) (path : List Value) :
    s'.jsonAt depth path v = s.jsonAt depth path v := by
  induction depth generalizing path v with
  | zero => rfl
  | succ depth ih =>
      have hitems : ∀ (path items : List Value), (∀ u ∈ items, known u) →
          (items.mapM fun u => s'.jsonAt depth path u) = items.mapM fun u => s.jsonAt depth path u :=
        fun path items hitems => mapM_congr fun u hu => ih (hitems u hu) path
      have hentries : ∀ (path : List Value) (entries : List (Value × Value)),
          (∀ e ∈ entries, known e.1 ∧ known e.2) →
          (entries.mapM fun e => do
            let key ← s'.jsonKey e.1
            return Text.jsonString key ++ ":" ++ (← s'.jsonAt depth path e.2)) =
            entries.mapM fun e => do
              let key ← s.jsonKey e.1
              return Text.jsonString key ++ ":" ++ (← s.jsonAt depth path e.2) :=
        fun path entries hentries => mapM_congr fun e he => by
          rw [h.jsonKey_eq (hentries e he).1, ih (hentries e he).2]
      have hdisplay := h.display_eq hv
      unfold jsonAt
      rw [h.text?_eq hv]
      cases s.text? v with
      | some t => dsimp only
      | none =>
          cases v with
          | ref id =>
              dsimp only
              rw [h.same _ hv]
              cases hget : s.get? (.ref id) with
              | none => rw [hdisplay]
              | some o =>
                  have hin : ∀ u ∈ o.written, known u := fun u hu =>
                    h.closed _ u hv (.written hget hu)
                  cases o with
                  | notANumber => dsimp only
                  | list items | tuple items =>
                      dsimp only
                      rw [hitems _ items hin]
                  | dict d =>
                      dsimp only
                      rw [hentries _ d.entries (known_of_entries hin)]
                  | _ =>
                      dsimp only
                      rw [hdisplay]
          | text _ | errorClass _ =>
              simp only [get?]
              rw [hdisplay]
          | _ => dsimp only

theorem json_eq (h : Alike s s' known) (hv : known v) : s'.json v = s.json v := by
  rw [json, json, h.size, h.jsonAt_eq hv]

end Alike

end Store

end ParseKit
