import ParseKit.Proofs.Outcome.Caret

namespace ParseKit

variable {σ : Type}

-- An error that says itself where it is, what was found and what was expected.
structure Failure.Located (e : Failure) (message found expected : String)
    (line column offset : Nat) : Prop where
  message : e.field? "message" = some (.text message)
  found : e.field? "found" = some (.text found)
  expected : e.field? "expected" = some (.text expected)
  line : e.field? "line" = some (.int line)
  column : e.field? "column" = some (.int column)
  offset : e.field? "offset" = some (.int offset)
  location : e.field? "location" = none

-- An error that says all this, whatever the values are by which it says where it is.
structure Failure.Placed (e : Failure) (message found expected : String)
    (line column offset : Value) : Prop where
  message : e.field? "message" = some (.text message)
  found : e.field? "found" = some (.text found)
  expected : e.field? "expected" = some (.text expected)
  line : Details.field e "line" = line
  column : Details.field e "column" = column
  offset : Details.firstOf (Details.field e "offset") (Details.field e "pos_in_stream") = offset
  location : e.field? "location" = none

theorem Failure.Located.placed {e : Failure} {message found expected : String}
    {line column offset : Nat} (h : e.Located message found expected line column offset) :
    e.Placed message found expected (.int line) (.int column) (.int offset) where
  message := h.message
  found := h.found
  expected := h.expected
  line := by simp [Details.field, h.line]
  column := by simp [Details.field, h.column]
  offset := by simp [Details.firstOf, Details.field, h.offset]
  location := h.location

theorem Details.ofFailure_placed {e : Failure} {message found expected : String}
    {line column offset : Value} (s : Store)
    (h : e.Placed message found expected line column offset) :
    Details.ofFailure s e =
      .ok ⟨.text message, positionOrZero line, positionOrZero column, positionOrZero offset,
        .text found, .text expected⟩ := by
  have hposition : ∀ name, positionField s e name = field e name := by
    intro name
    simp [positionField, field, h.location, Store.part, Store.part?, Store.get?]
  have htext : ∀ t, textOf s (.text t) = .ok (.text t) := fun t => rfl
  have hmessage : ∀ t, messageOf s e t = .ok (.text message) := by
    intro t
    simp [messageOf, field, h.message, Store.isText, Store.text?]
  have hfound : foundOf s e = .ok (.text found) := by simp [foundOf, field, h.found]
  have hexpected : firstOf (field e "expected") (field e "allowed") = .text expected := by
    simp [firstOf, field, h.expected]
  simp only [ofFailure, hposition, hfound, hexpected, h.line, h.column, h.offset, hmessage, htext]
  rfl

theorem Details.ofFailure_located {e : Failure} {message found expected : String}
    {line column offset : Nat} (s : Store)
    (h : e.Located message found expected line column offset) :
    Details.ofFailure s e =
      .ok ⟨.text message, line, column, offset, .text found, .text expected⟩ :=
  ofFailure_placed s h.placed

namespace Outcome

-- What a parse of a text with a grammar engine makes of an error.
structure Reports (source : String) (e : Failure) (w : World σ)
    (parsed : EStateM.Result Fault (World σ) ParseResult) : Prop where
  misuse : e.isA .invalidArgument = true ∨ e.isA .notFound = true → parsed = .error (.raised e) w
  syntaxError : ¬(e.isA .invalidArgument = true ∨ e.isA .notFound = true) →
    e.isA .grammarError = true ∨ e.isA .unexpectedInput = true →
    ∀ d, Details.ofFailure w.store e = .ok d →
      Details.Normal w.store e source (d.diagnostic source) ∧
      ∃ note, parsed = .ok ⟨.null, some (d.diagnostic source)⟩ { w with log := note :: w.log }
  located : e.isA .grammarError = true →
    ¬(e.isA .invalidArgument = true ∨ e.isA .notFound = true) →
    ∀ message found expected (line column offset : Nat),
      e.Located message found expected line column offset →
      ∃ note, parsed = .ok ⟨.null, some ⟨.text message, .int line, .int column, .int offset,
        .text found, .text expected, Excerpt.around source offset⟩⟩
          { w with log := note :: w.log }
  other : ¬(e.isA .invalidArgument = true ∨ e.isA .notFound = true) →
    ¬(e.isA .grammarError = true ∨ e.isA .unexpectedInput = true) → e.isA .exception = true →
    ∀ m, w.store.failureText e = .ok m →
      ∃ note, parsed = .ok ⟨.null, some { message := .text m }⟩ { w with log := note :: w.log }
  unordinary : ¬(e.isA .grammarError = true ∨ e.isA .unexpectedInput = true) →
    e.isA .exception = false → parsed = .error (.raised e) w

theorem reports_ofFailure (source : String) (e : Failure) (w : World σ) :
    Reports source e w ((result source <$>
      ofFailure (([.grammarError, .unexpectedInput] : List ErrorClass).map .errorClass) e) w) := by
  have hany : ([.grammarError, .unexpectedInput] : List ErrorClass).any e.isA =
      (e.isA .grammarError || e.isA .unexpectedInput) := by simp
  have hsyntax : ∀ d, ¬(e.isA .invalidArgument = true ∨ e.isA .notFound = true) →
      e.isA .grammarError = true ∨ e.isA .unexpectedInput = true →
      Details.ofFailure w.store e = .ok d → ∃ note, (result source <$>
        ofFailure (([.grammarError, .unexpectedInput] : List ErrorClass).map .errorClass) e) w =
        .ok ⟨.null, some (d.diagnostic source)⟩ { w with log := note :: w.log } := by
    intro d hmisuse hknown hd
    have hclass : ([.grammarError, .unexpectedInput] : List ErrorClass).any e.isA = true := by
      rw [hany, Bool.or_eq_true]
      exact hknown
    obtain ⟨note, hrun⟩ := (ofFailure_recognised w hmisuse hclass).1 d hd
    exact ⟨note, by rw [Run.map_apply, hrun]; rfl⟩
  have hnone : ¬(e.isA .grammarError = true ∨ e.isA .unexpectedInput = true) →
      ([.grammarError, .unexpectedInput] : List ErrorClass).any e.isA = false := by
    intro hknown
    rw [hany, Bool.or_eq_false_iff]
    simpa using hknown
  refine ⟨fun hmisuse => ?_, fun hmisuse hknown d hd =>
    ⟨Details.normal_ofFailure source hd, hsyntax d hmisuse hknown hd⟩, ?_, ?_, ?_⟩
  · rw [Run.map_apply, ofFailure_misuse w hmisuse]
  · intro hgrammar hmisuse message found expected line column offset hlocated
    exact hsyntax _ hmisuse (.inl hgrammar) (Details.ofFailure_located w.store hlocated)
  · intro hmisuse hknown hexception m hm
    obtain ⟨note, hrun⟩ := (ofFailure_other w hmisuse (hnone hknown) hexception).1 m hm
    exact ⟨note, by rw [Run.map_apply, hrun]; rfl⟩
  · intro hknown hexception
    rw [Run.map_apply, ofFailure_unordinary w (hnone hknown) hexception]

-- Whatever the error is, a diagnostic that becomes of it can be shown.
theorem renders_ofFailure {source : String} {classes : List ErrorClass} {e : Failure}
    {r : ParseResult} {w w' : World σ}
    (h : (result source <$> ofFailure (classes.map .errorClass) e) w = .ok r w') :
    ∃ d message, r.error = some d ∧ d.render w'.store true = .ok message := by
  rw [Run.map_apply] at h
  by_cases hmisuse : e.isA .invalidArgument = true ∨ e.isA .notFound = true
  · rw [ofFailure_misuse w hmisuse] at h
    cases h
  by_cases hclass : classes.any e.isA = true
  · obtain ⟨hlegible, hillegible⟩ := ofFailure_recognised w hmisuse hclass
    cases hd : Details.ofFailure w.store e with
    | error f =>
        rw [hillegible f hd] at h
        cases h
    | ok d =>
        obtain ⟨note, hrun⟩ := hlegible d hd
        rw [hrun] at h
        cases h
        obtain ⟨message, hmessage⟩ := Option.isSome_iff_exists.mp (Details.isText_message hd)
        exact ⟨d.diagnostic source, _, rfl, Diagnostic.render_eq rfl rfl hmessage true⟩
  have hclass' := Bool.eq_false_iff.mpr hclass
  by_cases hexception : e.isA .exception = true
  · obtain ⟨htext, hnone⟩ := ofFailure_other w hmisuse hclass' hexception
    cases hm : w.store.failureText e with
    | error f =>
        rw [hnone f hm] at h
        cases h
    | ok m =>
        obtain ⟨note, hrun⟩ := htext m hm
        rw [hrun] at h
        cases h
        exact ⟨{ message := .text m }, _, rfl, @Diagnostic.render_eq _ _ 0 0 m rfl rfl rfl true⟩
  · rw [ofFailure_unordinary w hclass' (Bool.eq_false_iff.mpr hexception)] at h
    cases h

end Outcome

-- An error that a parse can report: an ordinary one, no misuse of this library, and with all the
-- texts of which a diagnostic may be made.
structure Failure.Reportable (s : Store) (e : Failure) : Prop where
  ordinary : e.isA .exception = true
  proper : ¬(e.isA .invalidArgument = true ∨ e.isA .notFound = true)
  legible : Details.Legible s e
  text : ∃ t, s.failureText e = .ok t

theorem Outcome.reported (source : String) {classes : List ErrorClass} {e : Failure} {w : World σ}
    (h : e.Reportable w.store) : ∃ d note,
      (result source <$> ofFailure (classes.map .errorClass) e) w =
        .ok ⟨.null, some d⟩ { w with log := note :: w.log } := by
  rw [Run.map_apply]
  by_cases hclass : classes.any e.isA = true
  · obtain ⟨d, hd⟩ := Details.ofFailure_ok_iff.mpr h.legible
    obtain ⟨note, hrun⟩ := (ofFailure_recognised w h.proper hclass).1 d hd
    exact ⟨d.diagnostic source, note, by rw [hrun]; rfl⟩
  · obtain ⟨t, ht⟩ := h.text
    obtain ⟨note, hrun⟩ :=
      (ofFailure_other w h.proper (Bool.eq_false_iff.mpr hclass) h.ordinary).1 t ht
    exact ⟨{ message := .text t }, note, by rw [hrun]; rfl⟩

end ParseKit
