import ParseKit.Proofs.Outcome.Classification

namespace ParseKit

variable {σ : Type}

open Run (Gives)

-- A recognised error has a result exactly if it is legible, and the store stays as it is.
theorem Outcome.result_recognised {classes : List ErrorClass} {e : Failure} (source : String)
    (w : World σ) (hmisuse : ¬(e.isA .invalidArgument = true ∨ e.isA .notFound = true))
    (hrecognised : ∃ c ∈ classes, e.isA c = true) :
    let ended := (result source <$> ofFailure (classes.map .errorClass) e : Run σ ParseResult) w
    (Details.Legible w.store e ↔ ∃ r w', ended = .ok r w') ∧
    ∀ r w', ended = .ok r w' → w'.store = w.store ∧ ∃ d, Details.ofFailure w.store e = .ok d ∧
      r = ⟨.null, some (d.diagnostic source)⟩ := by
  intro ended
  have hended : ended = _ := Run.map_apply _ _ _
  have hclass : classes.any e.isA = true := List.any_eq_true.mpr hrecognised
  obtain ⟨hlegible, hillegible⟩ := ofFailure_recognised w hmisuse hclass
  rw [← Details.ofFailure_ok_iff, hended]
  cases hd : Details.ofFailure w.store e with
  | ok d =>
      obtain ⟨note, hrun⟩ := hlegible d hd
      rw [hrun]
      refine ⟨⟨fun _ => ⟨_, _, rfl⟩, fun _ => ⟨d, rfl⟩⟩, ?_⟩
      rintro r w' ⟨⟩
      exact ⟨rfl, d, rfl, rfl⟩
  | error f =>
      rw [hillegible f hd]
      simp

end ParseKit
