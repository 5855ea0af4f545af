import Mathlib.Order.Defs.Unbundled
import ParseKit.World

namespace ParseKit.Run

variable {σ α β : Type}

theorem bind_apply (x : Run σ α) (f : α → Run σ β) (w : World σ) :
    (x >>= f) w = match x w with
      | .ok a w' => f a w'
      | .error fault w' => .error fault w' := by
  simp only [bind, EStateM.bind]
  cases x w <;> rfl

theorem map_apply (f : α → β) (x : Run σ α) (w : World σ) :
    (f <$> x) w = match x w with
      | .ok a w' => .ok (f a) w'
      | .error fault w' => .error fault w' := by
  simp only [Functor.map, EStateM.map]
  cases x w <;> rfl

@[simp] theorem pure_apply (a : α) (w : World σ) : (pure a : Run σ α) w = .ok a w := rfl

@[simp] theorem throw_apply (fault : Fault) (w : World σ) :
    (throw fault : Run σ α) w = .error fault w := rfl

@[simp] theorem get_apply (w : World σ) : (get : Run σ (World σ)) w = .ok w w := rfl

@[simp] theorem fail_apply (e : Failure) (w : World σ) :
    (fail e : Run σ α) w = .error (.raised e) w := rfl

@[simp] theorem raise_apply (c : ErrorClass) (text : String) (w : World σ) :
    (raise c text : Run σ α) w = .error (.raised (.message c text)) w := rfl

@[simp] theorem ofExcept_ok (a : α) : (ofExcept (.ok a) : Run σ α) = pure a := rfl

@[simp] theorem ofExcept_error (e : Failure) : (ofExcept (.error e) : Run σ α) = fail e := rfl

@[simp] theorem store_apply (w : World σ) : (store : Run σ Store) w = .ok w.store w := rfl

@[simp] theorem object?_apply (v : Value) (w : World σ) :
    (object? v : Run σ (Option Object)) w = .ok (w.store.get? v) w := rfl

@[simp] theorem alloc_apply (o : Object) (w : World σ) :
    (alloc o : Run σ Value) w =
      .ok (w.store.alloc o).1 { w with store := (w.store.alloc o).2 } := rfl

@[simp] theorem put_apply (v : Value) (o : Object) (w : World σ) :
    (put v o : Run σ Unit) w = .ok () { w with store := w.store.put v o } := rfl

@[simp] theorem note_apply (entry : LogEntry) (w : World σ) :
    (note entry : Run σ Unit) w = .ok () { w with log := entry :: w.log } := rfl

theorem inspect_apply (f : Store → Except Failure α) (w : World σ) :
    (inspect f : Run σ α) w = ofExcept (f w.store) w := rfl

theorem inspect_ok {f : Store → Except Failure α} {w : World σ} {a : α}
    (h : f w.store = .ok a) : (inspect f : Run σ α) w = .ok a w := by
  rw [inspect_apply, h]
  rfl

-- Looking into the store twice is looking into it once.
theorem inspect_bind {g : Store → Except Failure α} {f : α → Run σ β}
    {k : α → Store → Except Failure β} (h : ∀ a, f a = inspect (k a)) :
    (inspect g : Run σ α) >>= f = inspect fun s => g s >>= fun a => k a s := by
  funext w
  rw [bind_apply, inspect_apply, inspect_apply]
  cases g w.store with
  | ok a => exact congrFun (h a) w
  | error e => rfl

theorem tryCatch_apply (x : Run σ α) (handle : Fault → Run σ α) (w : World σ) :
    (tryCatch x handle) w = match x w with
      | .ok a w' => .ok a w'
      | .error fault w' => handle fault w' := by
  change EStateM.tryCatch x handle w = _
  delta EStateM.tryCatch
  dsimp only
  cases x w <;> rfl

-- An attempt turns a failure into a value, and keeps the changes that were made before it.
theorem attempt_apply (x : Run σ α) (w : World σ) :
    attempt x w = match x w with
      | .ok a w' => .ok (.ok a) w'
      | .error (.raised e) w' => .ok (.error e) w'
      | .error .outOfFuel w' => .error .outOfFuel w' := by
  rw [attempt, tryCatch_apply, map_apply]
  cases x w with
  | ok a w' => rfl
  | error fault w' => cases fault <;> rfl

-- Two runs go the same way if their first steps do, and if they do after every result that
-- the first step can have here.
theorem bind_congr {x y : Run σ α} {f g : α → Run σ β} {w : World σ} (hx : x w = y w)
    (hf : ∀ a w', y w = .ok a w' → f a w' = g a w') : (x >>= f) w = (y >>= g) w := by
  simp only [bind_apply, hx]
  cases h : y w with
  | ok a w' => exact hf a w' h
  | error fault w' => rfl

theorem ok_of_bind {x : Run σ α} {f : α → Run σ β} {w w'' : World σ} {b : β}
    (h : (x >>= f) w = .ok b w'') : ∃ a w', x w = .ok a w' ∧ f a w' = .ok b w'' := by
  rw [bind_apply] at h
  cases hx : x w with
  | ok a w' => exact ⟨a, w', rfl, by rwa [hx] at h⟩
  | error fault w' => rw [hx] at h; cases h

theorem ok_of_inspect {f : Store → Except Failure α} {w w' : World σ} {a : α}
    (h : (inspect f : Run σ α) w = .ok a w') : f w.store = .ok a ∧ w' = w := by
  rw [inspect_apply] at h
  cases hf : f w.store with
  | error e =>
      rw [hf] at h
      cases h
  | ok b =>
      rw [hf] at h
      cases h
      exact ⟨rfl, rfl⟩

theorem ok_of_mapM_cons {ι : Type} {f : ι → Run σ α} {i : ι} {is : List ι} {as : List α}
    {w w'' : World σ} (h : (i :: is).mapM f w = .ok as w'') :
    ∃ a rest w', as = a :: rest ∧ f i w = .ok a w' ∧ is.mapM f w' = .ok rest w'' := by
  rw [List.mapM_cons] at h
  obtain ⟨a, w', hfirst, h⟩ := ok_of_bind h
  obtain ⟨rest, _, hrest, h⟩ := ok_of_bind h
  cases h
  exact ⟨a, rest, w', rfl, hfirst, hrest⟩

theorem length_of_mapM {ι : Type} {f : ι → Run σ α} {is : List ι} {as : List α}
    {w w' : World σ} (h : is.mapM f w = .ok as w') : as.length = is.length := by
  induction is generalizing as w with
  | nil => cases h; rfl
  | cons i is ih =>
      obtain ⟨a, rest, _, rfl, -, hrest⟩ := ok_of_mapM_cons h
      simp [ih hrest]

-- From one store a run gives a result and ends with another one, whatever the log and the client
-- are, and leaves these as they are.
def Gives (x : Run σ α) (s : Store) (a : α) (s' : Store) : Prop :=
  ∀ w : World σ, w.store = s → x w = .ok a { w with store := s' }

namespace Gives

variable {x : Run σ α} {f : α → Run σ β} {s s' s'' : Store} {a : α} {b : β}

theorem bind (hx : Gives x s a s') (hf : Gives (f a) s' b s'') : Gives (x >>= f) s b s'' := by
  intro w hw
  rw [bind_apply, hx w hw]
  exact hf _ rfl

theorem pure (a : α) (s : Store) : Gives (Pure.pure a : Run σ α) s a s := by
  rintro w rfl
  rfl

theorem store (s : Store) : Gives (Run.store : Run σ Store) s s s := by
  rintro w rfl
  rfl

theorem object? (v : Value) (s : Store) : Gives (Run.object? v : Run σ (Option Object)) s
    (s.get? v) s := by
  rintro w rfl
  rfl

theorem alloc (o : Object) (s : Store) : Gives (Run.alloc o : Run σ Value) s (s.alloc o).1
    (s.alloc o).2 := by
  rintro w rfl
  rfl

theorem put (v : Value) (o : Object) (s : Store) : Gives (Run.put v o : Run σ Unit) s ()
    (s.put v o) := by
  rintro w rfl
  rfl

theorem inspect {g : Store → Except Failure α} (h : g s = .ok a) :
    Gives (Run.inspect g : Run σ α) s a s := by
  rintro w rfl
  exact inspect_ok h

theorem mapM_cons {ι : Type} {g : ι → Run σ α} {i : ι} {is : List ι} {as : List α}
    (hfirst : Gives (g i) s a s') (hrest : Gives (is.mapM g) s' as s'') :
    Gives ((i :: is).mapM g) s (a :: as) s'' := by
  rw [List.mapM_cons]
  exact hfirst.bind (hrest.bind (.pure _ _))

end Gives

-- From one store a run ends with an error, whatever the log and the client are.
def Fails (x : Run σ α) (s : Store) : Prop :=
  ∀ w : World σ, w.store = s → ∃ e w', x w = .error (.raised e) w'

namespace Fails

variable {x : Run σ α} {s : Store}

theorem fail (e : Failure) (s : Store) : Fails (Run.fail e : Run σ α) s :=
  fun w _ => ⟨e, w, rfl⟩

theorem bind (hx : Fails x s) (f : α → Run σ β) : Fails (x >>= f) s := by
  intro w hw
  obtain ⟨e, w', h⟩ := hx w hw
  exact ⟨e, w', by rw [bind_apply, h]⟩

end Fails

theorem Gives.bind_fails {x : Run σ α} {f : α → Run σ β} {s s' : Store} {a : α}
    (hx : Gives x s a s') (hf : Fails (f a) s') : Fails (x >>= f) s := by
  intro w hw
  obtain ⟨e, w', h⟩ := hf { w with store := s' } rfl
  exact ⟨e, w', by rw [bind_apply, hx w hw]; exact h⟩

-- From one store a run goes on as another run does from a store that it has come to.
def Continues (x : Run σ α) (s : Store) (y : Run σ α) (s' : Store) : Prop :=
  ∀ w : World σ, w.store = s → x w = y { w with store := s' }

namespace Continues

variable {x y z : Run σ α} {s s' s'' : Store} {a : α}

theorem refl (x : Run σ α) (s : Store) : Continues x s x s := by
  rintro w rfl
  rfl

theorem trans (h : Continues x s y s') (h' : Continues y s' z s'') : Continues x s z s'' :=
  fun w hw => (h w hw).trans (h' { w with store := s' } rfl)

theorem gives (h : Continues x s y s') (hy : Gives y s' a s'') : Gives x s a s'' :=
  fun w hw => (h w hw).trans (hy { w with store := s' } rfl)

theorem fails (h : Continues x s y s') (hy : Fails y s') : Fails x s := by
  intro w hw
  rw [h w hw]
  exact hy { w with store := s' } rfl

end Continues

theorem Gives.continues {x : Run σ α} {s s' : Store} {a : α} (hx : Gives x s a s')
    (f : α → Run σ β) : Continues (x >>= f) s (f a) s' := by
  intro w hw
  rw [bind_apply, hx w hw]

-- From one store a run fails, or gives a result of which something is known.
def Ends (x : Run σ α) (s : Store) (P : α → Store → Prop) : Prop :=
  Fails x s ∨ ∃ a s', Gives x s a s' ∧ P a s'

namespace Ends

variable {x y : Run σ α} {f : α → Run σ β} {s s' : Store} {P : α → Store → Prop}
  {Q : β → Store → Prop}

theorem bind (hx : Ends x s P) (hf : ∀ a s', P a s' → Ends (f a) s' Q) : Ends (x >>= f) s Q := by
  rcases hx with hx | ⟨a, s', hx, ha⟩
  · exact .inl (hx.bind f)
  · rcases hf a s' ha with hfails | ⟨b, s'', hgives, hb⟩
    · exact .inl (hx.bind_fails hfails)
    · exact .inr ⟨b, s'', hx.bind hgives, hb⟩

theorem continues (h : Continues x s y s') (hy : Ends y s' P) : Ends x s P :=
  hy.imp h.fails fun ⟨a, s'', hgives, ha⟩ => ⟨a, s'', h.gives hgives, ha⟩

theorem mapM_cons {ι : Type} {g : ι → Run σ α} {i : ι} {is : List ι}
    {R : List α → Store → Prop} (hfirst : Ends (g i) s P)
    (hrest : ∀ a s', P a s' → Ends (is.mapM g) s' fun rest s'' => R (a :: rest) s'') :
    Ends ((i :: is).mapM g) s R := by
  rw [List.mapM_cons]
  exact hfirst.bind fun a s' ha => (hrest a s' ha).bind fun rest s'' h => .inr ⟨_, _, .pure _ _, h⟩

theorem weaken {P' : α → Store → Prop} (hx : Ends x s P) (h : ∀ a s', P a s' → P' a s') :
    Ends x s P' :=
  hx.imp id fun ⟨a, s', hgives, ha⟩ => ⟨a, s', hgives, h a s' ha⟩

end Ends

-- The world in which a run ends, be it with a result or with a failure.
def after (x : Run σ α) (w : World σ) : World σ :=
  match x w with
  | .ok _ w' => w'
  | .error _ w' => w'

theorem after_ok {x : Run σ α} {w w' : World σ} {a : α} (h : x w = .ok a w') : x.after w = w' := by
  rw [after, h]

theorem after_error {x : Run σ α} {w w' : World σ} {fault : Fault} (h : x w = .error fault w') :
    x.after w = w' := by
  rw [after, h]

-- A run ends with a failure of its first step, or as the rest of it ends.
theorem after_bind (x : Run σ α) (f : α → Run σ β) (w : World σ) :
    (x >>= f).after w = x.after w ∨
      ∃ a, x w = .ok a (x.after w) ∧ (x >>= f).after w = (f a).after (x.after w) := by
  simp only [after, bind_apply]
  cases x w with
  | ok a w' => exact Or.inr ⟨a, rfl, rfl⟩
  | error fault w' => exact Or.inl rfl

-- Whatever becomes of a run, the world that it leaves is related to the one before it.
def Relates (R : World σ → World σ → Prop) (x : Run σ α) : Prop := ∀ w, R w (x.after w)

namespace Relates

variable {R : World σ → World σ → Prop} [IsPreorder (World σ) R] {x : Run σ α} {f : α → Run σ β}

theorem pure (a : α) : Relates R (Pure.pure a : Run σ α) := fun w => refl w

theorem fail (e : Failure) : Relates R (Run.fail e : Run σ α) := fun w => refl w

theorem store : Relates R (Run.store : Run σ Store) := fun w => refl w

theorem ofExcept (r : Except Failure α) : Relates R (Run.ofExcept r : Run σ α) := by
  intro w
  cases r <;> exact refl w

theorem inspect (g : Store → Except Failure α) : Relates R (Run.inspect g : Run σ α) :=
  fun w => ofExcept (g w.store) w

-- What comes behind a step is related to what the step has left.
theorem after_bind (hf : ∀ a, Relates R (f a)) (w : World σ) :
    R (x.after w) ((x >>= f).after w) := by
  rcases Run.after_bind x f w with h | ⟨a, -, h⟩
  · rw [h]
    exact refl _
  · rw [h]
    exact hf a _

theorem bind (hx : Relates R x) (hf : ∀ a, Relates R (f a)) : Relates R (x >>= f) :=
  fun w => IsTrans.trans _ _ _ (hx w) (after_bind hf w)

omit [IsPreorder (World σ) R] in
theorem map (g : α → β) (hx : Relates R x) : Relates R (g <$> x) := by
  intro w
  have hafter : (g <$> x).after w = x.after w := by
    rw [after, after, map_apply]
    cases x w <;> rfl
  rw [hafter]
  exact hx w

end Relates

-- A run that changes nothing, and of whose results something is known.
def Reads (x : Run σ α) (P : α → Store → Prop) : Prop :=
  ∀ w, (∃ fault, x w = .error fault w) ∨ ∃ a, P a w.store ∧ x w = .ok a w

namespace Reads

variable {x : Run σ α} {f : α → Run σ β} {P : α → Store → Prop} {Q : β → Store → Prop}

theorem bind {R : α → β → Store → Prop} (hx : Reads x P) (hf : ∀ a, Reads (f a) (R a)) :
    Reads (x >>= f) fun b s => ∃ a, P a s ∧ R a b s := by
  intro w
  rcases hx w with ⟨fault, h⟩ | ⟨a, ha, h⟩
  · exact Or.inl ⟨fault, by rw [bind_apply, h]⟩
  · simp only [bind_apply, h]
    exact (hf a w).imp id fun ⟨b, hb, h'⟩ => ⟨b, ⟨a, ha, hb⟩, h'⟩

theorem weaken {P' : α → Store → Prop} (hx : Reads x P) (h : ∀ a s, P a s → P' a s) :
    Reads x P' :=
  fun w => (hx w).imp id fun ⟨a, ha, hw⟩ => ⟨a, h a w.store ha, hw⟩

theorem pure (a : α) : Reads (Pure.pure a : Run σ α) fun b _ => b = a :=
  fun _ => Or.inr ⟨a, rfl, rfl⟩

theorem store : Reads (Run.store : Run σ Store) fun a s => a = s :=
  fun w => Or.inr ⟨w.store, rfl, rfl⟩

theorem fail (e : Failure) (P : α → Store → Prop) : Reads (Run.fail e : Run σ α) P :=
  fun _ => Or.inl ⟨_, rfl⟩

theorem inspect (g : Store → Except Failure α) :
    Reads (Run.inspect g : Run σ α) fun a s => g s = .ok a := by
  intro w
  rw [inspect_apply]
  cases h : g w.store with
  | ok a => exact Or.inr ⟨a, h, rfl⟩
  | error e => exact Or.inl ⟨_, rfl⟩

-- A failure whose message shows a value.
theorem refusal (g : Store → Except Failure String) (c : ErrorClass) (say : String → String)
    (P : α → Store → Prop) :
    Reads (do let shown ← Run.inspect g; Run.raise c (say shown) : Run σ α) P :=
  ((inspect g).bind fun _ => fail _ fun _ _ => False).weaken fun _ _ ⟨_, _, h⟩ => h.elim

-- A check of the store that is followed by a failure unless it succeeds.
theorem guard {x : Store → Run σ Unit} (c : Store → Bool)
    (hx : ∀ s, Reads (x s) fun _ _ => False) :
    Reads (do
      let s ← Run.store
      if c s = true then Pure.pure () else x s) fun _ s => c s = true := by
  intro w
  cases h : c w.store with
  | true => exact Or.inr ⟨(), h, by simp [bind_apply, h]⟩
  | false =>
      rcases hx w.store w with ⟨fault, hw⟩ | ⟨_, hfalse, -⟩
      · exact Or.inl ⟨fault, by simp [bind_apply, h, hw]⟩
      · exact hfalse.elim

end Reads

end ParseKit.Run
