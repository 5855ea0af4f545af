import ParseKit.Proofs.Text.Escape
import ParseKit.Proofs.Value.Json

namespace ParseKit

namespace Store

variable {s : Store} {u v : Value} {t : String} {source : List Char} {f : Failure}

def isBytesPattern (s : Store) (v : Value) : Bool :=
  match s.get? v with
  | some (.pattern ⟨.bytes, _⟩) => true
  | _ => false

-- The failure to put slashes around the source of an expression over bytes.
def bytesRefusal : Failure := .message .typeError "a bytes-like object is required, not 'str'"

-- The text that an attribute value has in a dump: in quotes, between slashes, as its literal, or,
-- if it has no literal, as it is displayed.
inductive Rendered (s : Store) (v : Value) : String → Prop where
  | quoted {t : String} (content : s.text? v = some t) : Rendered s v (doubleQuoted t)
  | slashed {source : List Char} (object : s.get? v = some (.pattern ⟨.characters, source⟩)) :
      Rendered s v (ParseKit.slashed source)
  | literal {t : String} (content : s.text? v = none)
      (object : ∀ source, s.get? v ≠ some (.pattern source)) (literal : ¬s.Unliteral v)
      (json : s.json v = .ok t) : Rendered s v t
  | displayed {t : String} (unliteral : s.Unliteral v) (display : s.display v = .ok t) :
      Rendered s v t

theorem formatValue_text (h : s.text? v = some t) : s.formatValue v = .ok (doubleQuoted t) := by
  rw [formatValue, h, doubleQuoted, flatMap_quoteChar]
  rfl

theorem formatValue_pattern (h : s.get? v = some (.pattern ⟨.characters, source⟩)) :
    s.formatValue v = .ok (slashed source) := by
  simp only [formatValue, text?_of_get? h rfl, h]
  rfl

-- What is none of the values with a form of their own is written as a literal, if it has one.
theorem formatValue_other (htext : s.text? v = none)
    (hpattern : ∀ source, s.get? v ≠ some (.pattern source)) :
    s.formatValue v = match s.json v with
      | .ok t => .ok t
      | .error (.raised e) =>
        if e.isA .typeError || e.isA .valueError then s.display v else .error e
      | .error _ => s.display v := by
  unfold formatValue
  rw [htext]
  dsimp only
  split
  · next object => exact absurd object (hpattern _)
  · next object => exact absurd object (hpattern _)
  · rfl

theorem formatValue_bytes (h : s.isBytesPattern v = true) :
    s.formatValue v = .error bytesRefusal := by
  unfold isBytesPattern at h
  split at h
  · next source object =>
    rw [formatValue, text?_of_get? object rfl]
    simp only [object]
    rfl
  · cases h

theorem formatValue_json (htext : s.text? v = none)
    (hpattern : ∀ source, s.get? v ≠ some (.pattern source)) (hjson : s.json v = .ok t) :
    s.formatValue v = .ok t := by
  rw [formatValue_other htext hpattern, hjson]

-- The kinds of values that are told apart.
inductive Shape (s : Store) (v : Value) : Prop where
  | text {t : String} (content : s.text? v = some t)
  | pattern {source : List Char} (object : s.get? v = some (.pattern ⟨.characters, source⟩))
  | bytes (refused : s.isBytesPattern v = true)
  | other (content : s.text? v = none) (object : ∀ source, s.get? v ≠ some (.pattern source))

theorem shape (s : Store) (v : Value) : Shape s v := by
  cases htext : s.text? v with
  | some t => exact .text htext
  | none =>
      by_cases hpattern : ∃ source, s.get? v = some (.pattern source)
      · obtain ⟨⟨_ | _, source⟩, object⟩ := hpattern
        · exact .pattern object
        · exact .bytes (by simp [isBytesPattern, object])
      · exact .other htext fun source object => hpattern ⟨source, object⟩

-- An attribute value that is no expression over bytes has a text if all that its literal comes to
-- has one.
theorem exists_formatValue (hbytes : s.isBytesPattern v = false)
    (hdisplay : ∀ u, s.Reached v u → ∃ t, s.display u = .ok t) :
    ∃ t, s.formatValue v = .ok t ∧ s.Rendered v t := by
  cases s.shape v with
  | text content => exact ⟨_, formatValue_text content, .quoted content⟩
  | pattern object => exact ⟨_, formatValue_pattern object, .slashed object⟩
  | bytes refused => cases hbytes.symm.trans refused
  | other content object =>
      rw [formatValue_other content object]
      by_cases hunliteral : s.Unliteral v
      · obtain ⟨t, ht⟩ := hdisplay v .refl
        refine ⟨t, ?_, .displayed hunliteral ht⟩
        cases hjson : s.json v with
        | ok _ => exact absurd hunliteral (exists_json_iff.mp ⟨_, hjson⟩).1
        | error fault =>
            cases fault with
            | raised e =>
                obtain ⟨u, hu, -, hfail⟩ := raised_of_jsonAt hjson
                obtain ⟨_, hshown⟩ := hdisplay u hu
                cases hshown.symm.trans hfail
            | _ => exact ht
      · obtain ⟨t, ht⟩ := exists_json_iff.mpr ⟨hunliteral, fun u hu _ => hdisplay u hu⟩
        exact ⟨t, by rw [ht], .literal content object hunliteral ht⟩

-- An attribute value without a text is an expression over bytes, or its literal comes to something
-- that cannot be shown.
theorem formatValue_error (h : s.formatValue v = .error f) :
    (f = bytesRefusal ∧ s.isBytesPattern v = true) ∨ ∃ u, s.Reached v u ∧ s.display u = .error f := by
  cases s.shape v with
  | text content => cases (formatValue_text content).symm.trans h
  | pattern object => cases (formatValue_pattern object).symm.trans h
  | bytes refused =>
      cases (formatValue_bytes refused).symm.trans h
      exact .inl ⟨rfl, refused⟩
  | other content object =>
      right
      rw [formatValue_other content object] at h
      cases hjson : s.json v with
      | ok t =>
          rw [hjson] at h
          cases h
      | error fault =>
          rw [hjson] at h
          cases fault with
          | raised e =>
              simp only at h
              split at h
              · exact ⟨v, .refl, h⟩
              · cases h
                obtain ⟨u, hu, -, hfail⟩ := raised_of_jsonAt hjson
                exact ⟨u, hu, hfail⟩
          | _ => exact ⟨v, .refl, h⟩

end Store

end ParseKit
