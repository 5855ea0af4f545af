import ParseKit.Proofs.Outcome.Normalised

namespace ParseKit

variable {σ : Type}

open Run (Gives)

-- A parser is asked for a text under options that are accepted. What it ends with is a recognised
-- error, and no misuse of this library.
structure Parser.Refuses (p : Parser σ) (text options : Value) (source : String) (e : Failure)
    (w w₂ : World σ) : Prop where
  readable : w.store.text? text = some source
  valid : ∃ given, Options.Valid w.store options given
  asked : ∃ prepared s₁, Gives (Options.prepare options : Run σ Value) w.store prepared s₁ ∧
    p.run text prepared
        { w with store := s₁, log := Outcome.announcement s₁ text prepared :: w.log } =
      .error (.raised e) w₂
  proper : ¬(e.isA .invalidArgument = true ∨ e.isA .notFound = true)
  recognised : ∃ classes, Outcome.Advertises w.store p.syntaxError classes ∧
    ∃ c ∈ ErrorClass.grammarError :: classes, e.isA c = true

namespace Parser.Refuses

variable {p : Parser σ} {text options : Value} {source : String} {e : Failure} {w w₂ : World σ}

private theorem parse_eq (h : p.Refuses text options source e w w₂) :
    ∃ classes : List ErrorClass, (∃ c ∈ classes, e.isA c = true) ∧
      parse (.parser p) text options w = (Outcome.result source <$>
        Outcome.ofFailure (classes.map .errorClass) e : Run σ ParseResult) w₂ := by
  obtain ⟨given, hvalid⟩ := h.valid
  obtain ⟨prepared, s₁, hprepare, hasked⟩ := h.asked
  obtain ⟨classes, hclasses, hrecognised⟩ := h.recognised
  obtain ⟨prepared', s₁', hprepare', hext⟩ := Options.prepare_gives (σ := σ) hvalid
  obtain ⟨rfl, rfl⟩ : prepared' = prepared ∧ s₁' = s₁ := by
    simpa using (hprepare' w rfl).symm.trans (hprepare w rfl)
  exact ⟨_, hrecognised, (parse_prepared h.readable hprepare hext hclasses).2 e w₂ hasked⟩

-- The diagnostic has the details of the error.
theorem parse_ok (h : p.Refuses text options source e w w₂) {r : ParseResult} {w₃ : World σ}
    (hr : parse (.parser p) text options w = .ok r w₃) : w₃.store = w₂.store ∧
      ∃ d, Details.ofFailure w₂.store e = .ok d ∧ r = ⟨.null, some (d.diagnostic source)⟩ := by
  obtain ⟨classes, hrecognised, hparsed⟩ := h.parse_eq
  exact (Outcome.result_recognised source w₂ h.proper hrecognised).2 r w₃ (hparsed ▸ hr)

theorem legible_iff (h : p.Refuses text options source e w w₂) :
    Details.Legible w₂.store e ↔ ∃ r w₃, parse (.parser p) text options w = .ok r w₃ := by
  obtain ⟨classes, hrecognised, hparsed⟩ := h.parse_eq
  rw [hparsed]
  exact (Outcome.result_recognised source w₂ h.proper hrecognised).1

theorem parse_ok_iff (h : p.Refuses text options source e w w₂) (r : ParseResult) :
    (∃ w₃, parse (.parser p) text options w = .ok r w₃) ↔
      ∃ d, Details.ofFailure w₂.store e = .ok d ∧ r = ⟨.null, some (d.diagnostic source)⟩ := by
  constructor
  · rintro ⟨w₃, hr⟩
    exact (h.parse_ok hr).2
  · rintro ⟨d, hd, rfl⟩
    obtain ⟨r, w₃, hr⟩ := h.legible_iff.mp (Details.ofFailure_ok_iff.mp ⟨d, hd⟩)
    obtain ⟨-, d', hd', rfl⟩ := h.parse_ok hr
    cases hd.symm.trans hd'
    exact ⟨w₃, hr⟩

end Parser.Refuses

end ParseKit
