import ParseKit.Proofs.Build.Factory
import ParseKit.Proofs.Value.Refusal

namespace ParseKit

variable {σ : Type}

open Run (Gives)

namespace Store

variable {s s' : Store} {option builder : Value}

-- Options for builders: nothing, what builds by itself, and everything else that can be called.
def AcceptsBuilder (s : Store) (option : Value) : Prop :=
  option = .null ∨ s.isBuilder option = true ∨ s.callable option = true

instance (s : Store) (option : Value) : Decidable (s.AcceptsBuilder option) :=
  inferInstanceAs (Decidable (_ ∨ _ ∨ _))

-- The builder that an option stands for, and the store with it. What builds by itself stands for
-- itself, even if it can be called as well.
inductive StandsFor (s : Store) : Value → Value → Store → Prop where
  | standard : StandsFor s .null (s.alloc (.builder .standard)).1 (s.alloc (.builder .standard)).2
  | itself {option : Value} (builds : s.isBuilder option = true) : StandsFor s option option s
  | callback {option : Value} (noBuilder : s.isBuilder option = false)
      (callable : s.callable option = true) :
      StandsFor s option (s.alloc (.builder (.callback option))).1
        (s.alloc (.builder (.callback option))).2

theorem ne_null_of_callable (h : s.callable option = true) : option ≠ .null := by
  rintro rfl
  simp [callable, get?] at h

theorem exists_standsFor (h : s.AcceptsBuilder option) :
    ∃ builder s', s.StandsFor option builder s' := by
  cases hbuilds : s.isBuilder option with
  | true => exact ⟨_, _, .itself hbuilds⟩
  | false =>
      rcases h with rfl | h | h
      · exact ⟨_, _, .standard⟩
      · rw [h] at hbuilds
        cases hbuilds
      · exact ⟨_, _, .callback hbuilds h⟩

namespace StandsFor

theorem accepts (h : s.StandsFor option builder s') : s.AcceptsBuilder option := by
  cases h with
  | standard => exact .inl rfl
  | itself builds => exact .inr (.inl builds)
  | callback _ callable => exact .inr (.inr callable)

theorem isBuilder (h : s.StandsFor option builder s') : s'.isBuilder builder = true := by
  cases h with
  | standard => rw [Store.isBuilder, get?_alloc_here]
  | itself builds => exact builds
  | callback => rw [Store.isBuilder, get?_alloc_here]

theorem grows (h : s.StandsFor option builder s') : s.Extends s' := by
  cases h with
  | standard => exact .alloc s _
  | itself => exact .refl s
  | callback => exact .alloc s _

end StandsFor

theorem Extends.callable (h : s.Extends s') {v : Value} (hv : s.callable v = true) :
    s'.callable v = true := by
  cases v with
  | ref id =>
      cases hget : s.get? (.ref id) with
      | none => simp [Store.callable, hget] at hv
      | some o => simpa [Store.callable, hget, h _ _ hget] using hv
  | _ => exact hv

theorem Extends.isBuilder (h : s.Extends s') (hbuilder : s.isBuilder builder = true) :
    s'.isBuilder builder = true := by
  unfold Store.isBuilder at hbuilder ⊢
  cases hget : s.get? builder with
  | none => simp [hget] at hbuilder
  | some o =>
      rw [hget] at hbuilder
      rw [h _ _ hget]
      cases o with
      | record fields =>
          simp only [Store.part?, hget, h _ _ hget] at hbuilder ⊢
          generalize (fields.reverse.find? _).map _ = part at hbuilder ⊢
          cases part with
          | none => cases hbuilder
          | some v => exact h.callable hbuilder
      | _ => exact hbuilder

end Store

theorem asBuilder_standsFor {s s' : Store} {option builder : Value}
    (h : s.StandsFor option builder s') : Gives (asBuilder option : Run σ Value) s builder s' := by
  cases h with
  | standard => exact .alloc _ s
  | itself builds => exact asBuilder_gives builds
  | callback noBuilder callable =>
      unfold asBuilder
      rw [if_neg (Store.ne_null_of_callable callable)]
      refine (Gives.store s).bind ?_
      rw [if_neg (by simp [noBuilder]), if_pos callable]
      exact .alloc _ s

-- Every other option is refused with what it is shown as, and nothing is made.
theorem asBuilder_refuses {option : Value} {w : World σ} (h : ¬w.store.AcceptsBuilder option) :
    (asBuilder option : Run σ Value) w = .error (.raised
      (w.store.refusal .invalidArgument ("Invalid node builder: " ++ ·) option)) w := by
  unfold Store.AcceptsBuilder at h
  rw [not_or, not_or] at h
  unfold asBuilder
  rw [if_neg h.1, Run.bind_apply, Run.store_apply]
  dsimp only
  rw [if_neg h.2.1, if_neg h.2.2]
  exact Run.refusal_apply _ _ option w

-- A builder that an option stands for stands for itself, then and later.
theorem asBuilder_again {s s' s'' : Store} {option builder : Value}
    (h : s.StandsFor option builder s') (hext : s'.Extends s'') :
    Gives (asBuilder builder : Run σ Value) s'' builder s'' :=
  asBuilder_gives (hext.isBuilder h.isBuilder)

end ParseKit
