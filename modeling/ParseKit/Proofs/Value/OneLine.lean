import Mathlib.Logic.Relation
import ParseKit.Proofs.Text.LineEnds
import ParseKit.Proofs.Value.Datum
import ParseKit.Proofs.Value.Inspect

namespace ParseKit.Store

open Text (lineEnds)

-- Texts, numbers, truth values, null and expressions over characters, and lists and dictionaries
-- with texts as keys that are made of such values.
inductive Ordinary (s : Store) : Value → Prop where
  | text {v : Value} {t : String} (content : s.text? v = some t) : Ordinary s v
  | null : Ordinary s .null
  | bool (b : Bool) : Ordinary s (.bool b)
  | int (i : Int) : Ordinary s (.int i)
  | float (bits : UInt64) : Ordinary s (.float bits)
  | notANumber {v : Value} (object : s.get? v = some .notANumber) : Ordinary s v
  | pattern {v : Value} {source : List Char}
      (object : s.get? v = some (.pattern ⟨.characters, source⟩)) : Ordinary s v
  | list {v : Value} {items : List Value} (object : s.get? v = some (.list items))
      (inner : ∀ u ∈ items, Ordinary s u) : Ordinary s v
  | dict {v : Value} {d : Dictionary} (object : s.get? v = some (.dict d))
      (keys : ∀ e ∈ d.entries, ∃ t, s.text? e.1 = some t)
      (inner : ∀ e ∈ d.entries, Ordinary s e.2) : Ordinary s v

-- A value stands directly in another one.
inductive Inside (s : Store) : Value → Value → Prop where
  | list {u v : Value} {items : List Value} (object : s.get? v = some (.list items))
      (member : u ∈ items) : Inside s u v
  | dict {v : Value} {d : Dictionary} {e : Value × Value} (object : s.get? v = some (.dict d))
      (member : e ∈ d.entries) : Inside s e.2 v

variable {s : Store} {v : Value}

theorem Inside.eq_list_or_dict {u : Value} (h : s.Inside u v) :
    (∃ items, s.get? v = some (.list items) ∧ u ∈ items) ∨
      ∃ d e, s.get? v = some (.dict d) ∧ e ∈ d.entries ∧ u = e.2 := by
  cases h with
  | list object member => exact .inl ⟨_, object, member⟩
  | dict object member => exact .inr ⟨_, _, object, member, rfl⟩

-- There is an end to what stands inside an ordinary value.
theorem Ordinary.acc (h : s.Ordinary v) : Acc s.Inside v := by
  have hbare : ∀ {v : Value}, (∀ items, s.get? v ≠ some (.list items)) →
      (∀ d, s.get? v ≠ some (.dict d)) → Acc s.Inside v := by
    intro v hlist hdict
    refine .intro v fun u hu => ?_
    rcases hu.eq_list_or_dict with ⟨items, object, -⟩ | ⟨d, e, object, -, -⟩
    · exact absurd object (hlist items)
    · exact absurd object (hdict d)
  induction h with
  | text content =>
      refine hbare (fun items object => ?_) fun d object => ?_ <;>
        cases (Store.text?_of_get? object rfl).symm.trans content
  | notANumber object | pattern object => exact hbare (by simp [object]) (by simp [object])
  | list object _ ih =>
      refine .intro _ fun u hu => ?_
      rcases hu.eq_list_or_dict with ⟨items, object', hmem⟩ | ⟨d, e, object', -, -⟩
      · cases object.symm.trans object'
        exact ih u hmem
      · cases object.symm.trans object'
  | dict object _ _ ih =>
      refine .intro _ fun u hu => ?_
      rcases hu.eq_list_or_dict with ⟨items, object', -⟩ | ⟨d, e, object', hmem, rfl⟩
      · cases object.symm.trans object'
      · cases object.symm.trans object'
        exact ih e hmem
  | _ => exact hbare (by simp [get?]) (by simp [get?])

theorem Ordinary.not_around_itself (h : s.Ordinary v) : ¬ Relation.TransGen s.Inside v v := by
  have hacc : Acc (Relation.TransGen s.Inside) v := acc_transGen_iff.mpr h.acc
  induction hacc with
  | intro v _ ih => exact fun hv => ih v hv h hv

-- Objects that a value stands in, one inside the other.
structure Around (s : Store) (v : Value) (path : List Value) : Prop where
  distinct : path.Nodup
  there : ∀ u ∈ path, s.get? u ≠ none
  outside : ∀ u ∈ path, Relation.TransGen s.Inside v u

theorem Around.not_mem {path : List Value} (h : s.Around v path) (hv : s.Ordinary v) : v ∉ path :=
  fun hmem => hv.not_around_itself (h.outside v hmem)

theorem Around.enter {u : Value} {path : List Value} (h : s.Around v path) (hv : s.Ordinary v)
    (hu : s.Inside u v) : s.Around u (v :: path) := by
  have hthere : s.get? v ≠ none := by
    rcases hu.eq_list_or_dict with ⟨items, object, -⟩ | ⟨d, e, object, -, -⟩ <;> simp [object]
  refine ⟨List.nodup_cons.mpr ⟨h.not_mem hv, h.distinct⟩, fun x hx => ?_, fun x hx => ?_⟩
  · rcases List.mem_cons.mp hx with rfl | hx
    · exact hthere
    · exact h.there x hx
  · rcases List.mem_cons.mp hx with rfl | hx
    · exact .single hu
    · exact .head hu (h.outside x hx)

theorem Around.exists_depth {path : List Value} {depth : Nat} (h : s.Around v path)
    (hdepth : s.size + 2 ≤ depth + path.length) : ∃ n, depth = n + 1 := by
  have := length_le_size h.distinct h.there
  exact ⟨depth - 1, by omega⟩

-- A literal of one line.
def OneLine (x : Except LiteralFault String) : Prop := ∃ t, x = .ok t ∧ lineEnds t = 0

theorem lineEnds_punctuation : ∀ t ∈ [",", ":", "[", "]", "\x7b", "\x7d"], lineEnds t = 0 := by
  decide

theorem OneLine.mapM {α : Type} {f : α → Except LiteralFault String} {items : List α}
    (h : ∀ a ∈ items, OneLine (f a)) :
    ∃ ts, items.mapM f = .ok ts ∧ (ts.map lineEnds).sum = 0 := by
  induction items with
  | nil => exact ⟨[], rfl, rfl⟩
  | cons a rest ih =>
      obtain ⟨t, ht, hline⟩ := h a (by simp)
      obtain ⟨ts, hts, hlines⟩ := ih fun b hb => h b (by simp [hb])
      refine ⟨t :: ts, ?_, by simp [hline, hlines]⟩
      rw [List.mapM_cons, ht, hts]
      rfl

theorem display_pattern {source : Regex.Source} (h : s.get? v = some (.pattern source)) :
    s.display v = .ok (patternText source) := textAt_object h _ _ _

-- By induction on what the value is made of. It does not stand inside itself, so that the literal
-- is neither circular nor nested deeper than there are objects.
theorem Ordinary.jsonAt (h : s.Ordinary v) {depth : Nat} {path : List Value}
    (hpath : s.Around v path) (hdepth : s.size + 2 ≤ depth + path.length) :
    OneLine (s.jsonAt depth path v) := by
  have hcomma : lineEnds "," = 0 := by decide
  obtain ⟨depth, rfl⟩ := hpath.exists_depth hdepth
  induction h generalizing depth path with
  | text content => exact ⟨_, jsonAt_text content depth path, Text.lineEnds_jsonString _⟩
  | null => exact ⟨_, rfl, by decide⟩
  | bool b => exact ⟨_, rfl, by cases b <;> decide⟩
  | int i => exact ⟨_, rfl, Text.lineEnds_toString_int i⟩
  | float bits => exact ⟨_, rfl, lineEnds_jsonNumber bits⟩
  | @notANumber v object =>
      refine ⟨notANumberLiteral, ?_, by decide⟩
      have htext := text?_of_get? object rfl
      cases v with
      | ref id => simp [Store.jsonAt, htext, object]
      | _ => cases object
  | @pattern v source object =>
      refine ⟨_, ?_, Text.lineEnds_jsonString (patternText ⟨.characters, source⟩)⟩
      have htext := text?_of_get? object rfl
      have hdisplay := display_pattern object
      cases v with
      | ref id => simp [Store.jsonAt, htext, object, hdisplay]
      | _ => cases object
  | @list v items object inner ih =>
      have hv : s.Ordinary v := .list object inner
      have hitems : ∀ u ∈ items, OneLine (s.jsonAt depth (v :: path) u) := by
        intro u hu
        have hinside := hpath.enter hv (.list object hu)
        have hdeep : s.size + 2 ≤ depth + (v :: path).length := by
          simp only [List.length_cons]
          omega
        obtain ⟨depth, rfl⟩ := hinside.exists_depth hdeep
        exact ih u hu hinside depth hdeep
      obtain ⟨ts, hts, hlines⟩ := OneLine.mapM hitems
      refine ⟨_, jsonAt_list object (hpath.not_mem hv) hts, ?_⟩
      simp [Text.lineEnds_intercalate hcomma, hlines, lineEnds_punctuation]
  | @dict v d object keys inner ih =>
      have hv : s.Ordinary v := .dict object keys inner
      have hentries : ∀ e ∈ d.entries, OneLine (do
          let key ← s.jsonKey e.1
          return Text.jsonString key ++ ":" ++ (← s.jsonAt depth (v :: path) e.2)) := by
        intro e he
        obtain ⟨name, hname⟩ := keys e he
        have hinside := hpath.enter hv (.dict object he)
        have hdeep : s.size + 2 ≤ depth + (v :: path).length := by
          simp only [List.length_cons]
          omega
        obtain ⟨depth, rfl⟩ := hinside.exists_depth hdeep
        obtain ⟨t, ht, hline⟩ := ih e he hinside depth hdeep
        have hkey : s.jsonKey e.1 = .ok name := by simp [jsonKey, hname]
        refine ⟨Text.jsonString name ++ ":" ++ t, by rw [hkey, ht]; rfl, ?_⟩
        simp [Text.lineEnds_jsonString, hline, lineEnds_punctuation]
      obtain ⟨ts, hts, hlines⟩ := OneLine.mapM hentries
      refine ⟨_, jsonAt_dict object (hpath.not_mem hv) hts, ?_⟩
      simp [Text.lineEnds_intercalate hcomma, hlines, lineEnds_punctuation]

theorem Ordinary.json (h : s.Ordinary v) : OneLine (s.json v) :=
  h.jsonAt ⟨List.nodup_nil, by simp, by simp⟩ (Nat.le_refl _)

end ParseKit.Store
