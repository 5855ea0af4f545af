import ParseKit.Proofs.Run.Basic
import ParseKit.Proofs.Value.MatchedText

namespace ParseKit

-- When the states of a client are the same, given which objects are taken for each other.
structure Likeness (σ : Type) where
  same : Matching → σ → σ → Prop
  mono : ∀ {m m' : Matching} {c c' : σ}, m.Grows m' → same m c c' → same m' c c'

variable {σ α β γ δ : Type}

-- How a run ends that has come too deep, or that has no steps left.
inductive Exhausted : EStateM.Result Fault (World σ) α → Prop where
  | steps (w : World σ) : Exhausted (.error .outOfFuel w)
  | depth (w : World σ) : Exhausted (.error (.raised Store.tooDeep) w)

namespace Matching

variable {m m' : Matching} {like : Likeness σ}

structure Worlds (like : Likeness σ) (m : Matching) (w w' : World σ) : Prop where
  stores : m.Stores w.store w'.store
  clients : like.same m w.client w'.client

-- Runs that end alike, in worlds that match as the ones before and in which new objects may have
-- been matched as well. If the first run was exhausted, nothing is said of the second one.
inductive Outcomes (like : Likeness σ) (m : Matching) (Q : Matching → α → β → Prop) :
    EStateM.Result Fault (World σ) α → EStateM.Result Fault (World σ) β → Prop where
  | ok {m' : Matching} {a : α} {b : β} {w w' : World σ} (grows : m.Grows m')
      (worlds : m'.Worlds like w w') (h : Q m' a b) : Outcomes like m Q (.ok a w) (.ok b w')
  | raised {m' : Matching} {e e' : Failure} {w w' : World σ} (grows : m.Grows m')
      (worlds : m'.Worlds like w w') (h : m'.Failures e e') :
      Outcomes like m Q (.error (.raised e) w) (.error (.raised e') w')
  | exhausted {r : EStateM.Result Fault (World σ) α} (r' : EStateM.Result Fault (World σ) β)
      (h : Exhausted r) : Outcomes like m Q r r'

theorem Outcomes.weaken {Q : Matching → α → β → Prop} {r : EStateM.Result Fault (World σ) α}
    {r' : EStateM.Result Fault (World σ) β} (hgrows : m.Grows m')
    (h : m'.Outcomes like Q r r') : m.Outcomes like Q r r' := by
  cases h with
  | ok grows worlds h => exact .ok (hgrows.trans grows) worlds h
  | raised grows worlds h => exact .raised (hgrows.trans grows) worlds h
  | exhausted _ h => exact .exhausted _ h

theorem Outcomes.bind {Q : Matching → α → β → Prop} {R : Matching → γ → δ → Prop} {x : Run σ α}
    {y : Run σ β} {f : α → Run σ γ} {g : β → Run σ δ} {w w' : World σ}
    (h : m.Outcomes like Q (x w) (y w'))
    (hfg : ∀ m' a b w w', m.Grows m' → m'.Worlds like w w' → Q m' a b →
      m'.Outcomes like R (f a w) (g b w')) :
    m.Outcomes like R ((x >>= f) w) ((y >>= g) w') := by
  rw [Run.bind_apply, Run.bind_apply]
  generalize x w = r at h
  generalize y w' = r' at h
  cases h with
  | ok grows worlds hab => exact (hfg _ _ _ _ _ grows worlds hab).weaken grows
  | raised grows worlds he => exact .raised grows worlds he
  | exhausted _ h =>
      cases h with
      | steps w => exact .exhausted _ (.steps w)
      | depth w => exact .exhausted _ (.depth w)

-- Two runs that end alike in all worlds that match.
def Agree (like : Likeness σ) (m : Matching) (x : Run σ α) (y : Run σ β)
    (Q : Matching → α → β → Prop) : Prop :=
  ∀ w w', m.Worlds like w w' → m.Outcomes like Q (x w) (y w')

namespace Agree

variable {x : Run σ α} {y : Run σ β} {Q : Matching → α → β → Prop}
  {R : Matching → γ → δ → Prop} {v v' : Value} {o o' : Object}

theorem bind {f : α → Run σ γ} {g : β → Run σ δ} (hxy : m.Agree like x y Q)
    (hfg : ∀ m' a b, m.Grows m' → Q m' a b → m'.Agree like (f a) (g b) R) :
    m.Agree like (x >>= f) (y >>= g) R :=
  fun w w' hw => (hxy w w' hw).bind fun m' a b _ _ grows worlds hab =>
    hfg m' a b grows hab _ _ worlds

theorem pure {a : α} {b : β} (h : Q m a b) :
    m.Agree like (Pure.pure a : Run σ α) (Pure.pure b : Run σ β) Q :=
  fun _ _ hw => .ok (.refl m) hw h

theorem fail {e e' : Failure} (h : m.Failures e e') :
    m.Agree like (Run.fail e : Run σ α) (Run.fail e' : Run σ β) Q :=
  fun _ _ hw => .raised (.refl m) hw h

theorem raise (c : ErrorClass) (text : String) :
    m.Agree like (Run.raise c text : Run σ α) (Run.raise c text : Run σ β) Q :=
  fail (.message c text)

theorem store : m.Agree like (Run.store : Run σ Store) (Run.store : Run σ Store) Stores :=
  fun _ _ hw => .ok (.refl m) hw hw.stores

theorem object? (hv : m.Values v v') : m.Agree like (Run.object? v : Run σ (Option Object))
    (Run.object? v' : Run σ (Option Object)) fun m => Option.Rel m.Objects :=
  fun _ _ hw => .ok (.refl m) hw (hw.stores.get? hv)

theorem alloc (ho : m.Objects o o') :
    m.Agree like (Run.alloc o : Run σ Value) (Run.alloc o' : Run σ Value) Values :=
  fun w w' hw => .ok (m.grows_add w.store.size w'.store.size)
    ⟨hw.stores.alloc ho, like.mono (m.grows_add _ _) hw.clients⟩ (.ref (.inr ⟨rfl, rfl⟩))

theorem put (hv : m.Values v v') (ho : m.Objects o o') :
    m.Agree like (Run.put v o : Run σ Unit) (Run.put v' o' : Run σ Unit) fun _ => Eq :=
  fun _ _ hw => .ok (.refl m) ⟨hw.stores.put hv ho, hw.clients⟩ rfl

theorem ofExcept {r : Except Failure α} {r' : Except Failure β} (h : m.Results (Q m) r r') :
    m.Agree like (Run.ofExcept r : Run σ α) (Run.ofExcept r' : Run σ β) Q := by
  intro w w' hw
  cases h with
  | ok hab => exact .ok (.refl m) hw hab
  | error he => exact .raised (.refl m) hw he
  | tooDeep => exact .exhausted _ (.depth w)

theorem inspect {g : Store → Except Failure α} {g' : Store → Except Failure β}
    (h : ∀ s s', m.Stores s s' → m.Results (Q m) (g s) (g' s')) :
    m.Agree like (Run.inspect g : Run σ α) (Run.inspect g' : Run σ β) Q :=
  fun w w' hw => ofExcept (h _ _ hw.stores) w w' hw

-- Both values are refused, with the same words.
theorem refusal (c : ErrorClass) (say : String → String) (hv : m.Values v v') :
    m.Agree like (do Run.raise c (say (← Run.inspect (·.inspect v))) : Run σ α)
      (do Run.raise c (say (← Run.inspect (·.inspect v'))) : Run σ β) Q :=
  (inspect (Q := fun _ => Eq) fun _ _ hs => hs.inspect hv).bind fun _ _ _ _ hab => by
    cases hab
    exact raise c _

end Agree

end Matching

end ParseKit
