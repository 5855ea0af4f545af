import ParseKit.Proofs.Run.Basic
import ParseKit.Proofs.Run.Except
import ParseKit.Proofs.Store.Extends
import ParseKit.Build.Call

namespace ParseKit

variable {σ α β : Type}

namespace Run

-- The client is in the same state in both worlds.
def SameClient (w w' : World σ) : Prop := w'.client = w.client

instance : IsPreorder (World σ) SameClient where
  refl _ := rfl
  trans _ _ _ h h' := Eq.trans h' h

-- Whatever becomes of a run, the client's state stays as it is.
abbrev KeepsClient (x : Run σ α) : Prop := Relates SameClient x

theorem KeepsClient.alloc (o : Object) : KeepsClient (Run.alloc o : Run σ Value) := fun _ => rfl

theorem KeepsClient.put (v : Value) (o : Object) : KeepsClient (Run.put v o : Run σ Unit) :=
  fun _ => rfl

end Run

open Run (KeepsClient)

-- A run gives a span, which starts at such a point in the world after it.
structure Run.StartsAt (location : Run σ Value) (w : World σ) (p : Point) (w' : World σ) : Prop where
  span : ∃ span first last, location w = .ok span w' ∧
    w'.store.get? span = some (.span first last) ∧
    w'.store.get? first = some (.position p.line p.column p.offset)

-- A value has a start with such parts, be it a span or not.
def Store.Begins (s : Store) (v : Value) (p : Point) : Prop :=
  ∃ first, s.part? v "start" = some first ∧ s.part? first "line" = some p.line ∧
    s.part? first "column" = some p.column ∧ s.part? first "offset" = some p.offset

-- The start of a value, if it has one with all its parts.
def Store.start (s : Store) (v : Value) : Except Failure Point := do
  let first ← s.requirePart v "start"
  return ⟨← s.requirePart first "line", ← s.requirePart first "column",
    ← s.requirePart first "offset"⟩

theorem Store.requirePart_eq_ok_iff {s : Store} {v part : Value} {name : String} :
    s.requirePart v name = .ok part ↔ s.part? v name = some part := by
  unfold requirePart
  cases s.part? v name <;> simp

theorem Store.start_eq_ok_iff {s : Store} {v : Value} {p : Point} :
    s.start v = .ok p ↔ s.Begins v p := by
  simp only [start, Begins, bind_eq_ok_iff, requirePart_eq_ok_iff, pure, Except.pure,
    Except.ok.injEq]
  constructor
  · rintro ⟨first, hfirst, line, hline, column, hcolumn, offset, hoffset, rfl⟩
    exact ⟨first, hfirst, hline, hcolumn, hoffset⟩
  · rintro ⟨first, hfirst, hline, hcolumn, hoffset⟩
    exact ⟨first, hfirst, _, hline, _, hcolumn, _, hoffset, rfl⟩

theorem startOf_of_ok {location : Run σ Value} {w w' : World σ} {span : Value}
    (h : location w = .ok span w') :
    startOf location w = (Run.inspect (·.start span) : Run σ Point) w' := by
  have hstart : startOf location = location >>= fun span => Run.inspect (·.start span) :=
    congrArg (location >>= ·) (funext fun _ => Run.inspect_bind fun _ => Run.inspect_bind fun _ =>
      Run.inspect_bind fun _ => Run.inspect_bind fun _ => rfl)
  rw [hstart, Run.bind_apply, h]

theorem startOf_begins {location : Run σ Value} {w w' : World σ} {span : Value} {p : Point}
    (h : location w = .ok span w') (hp : w'.store.Begins span p) :
    startOf location w = .ok p w' := by
  rw [startOf_of_ok h, Run.inspect_ok (Store.start_eq_ok_iff.mpr hp)]

-- Without a start there is none to go on with.
theorem startOf_astray {location : Run σ Value} {w w' : World σ} {span : Value}
    (h : location w = .ok span w') (hnone : ∀ p, ¬w'.store.Begins span p) :
    ∃ f, startOf location w = .error (.raised f) w' := by
  rw [startOf_of_ok h, Run.inspect_apply]
  cases hstart : w'.store.start span with
  | ok p => exact absurd (Store.start_eq_ok_iff.mp hstart) (hnone p)
  | error f => exact ⟨f, rfl⟩

theorem Store.begins_of_span {s : Store} {v first last : Value} {p : Point}
    (hspan : s.get? v = some (.span first last))
    (hfirst : s.get? first = some (.position p.line p.column p.offset)) : s.Begins v p :=
  ⟨first, by simp [Store.part?, hspan], by simp [Store.part?, hfirst],
    by simp [Store.part?, hfirst], by simp [Store.part?, hfirst]⟩

theorem Run.StartsAt.startOf_eq {location : Run σ Value} {w w' : World σ} {p : Point}
    (h : location.StartsAt w p w') : startOf location w = .ok p w' := by
  obtain ⟨span, first, last, hlocation, hspan, hfirst⟩ := h.span
  exact startOf_begins hlocation (Store.begins_of_span hspan hfirst)

theorem startOf_error {location : Run σ Value} {w w' : World σ} {fault : Fault}
    (h : location w = .error fault w') : startOf location w = .error fault w' := by
  rw [startOf, Run.bind_apply, h]

variable {host : Host σ} {w w' : World σ} {f : Value} {location : Location} {args : List Value}

theorem call_factory {builder : Value}
    (h : w.store.get? f = some (.function (.factory location builder))) :
    call host f args w =
      produce (locate host location) (buildWithin host (callBound w.store - 1) builder) args w := by
  cases f with
  | ref id =>
      rw [call, Run.bind_apply, Run.store_apply]
      dsimp only
      unfold callBound callWithin
      rw [Run.bind_apply, Run.object?_apply, h]
      rfl
  | _ => cases h

-- The arguments that an unroller takes: the first item, the repetitions, and what to take of these,
-- which may be left out.
inductive Unrolls : List Value → Value → Value → Value → Prop where
  | whole (first items : Value) : Unrolls [first, items] first items .null
  | taking (first items take : Value) : Unrolls [first, items, take] first items take

theorem Unrolls.arguments_eq {first items take : Value} (h : Unrolls args first items take) :
    unrollArguments args = .ok (first, items, take) := by
  cases h <;> rfl

theorem call_unroller (host : Host σ) {errorClass first items take : Value}
    (h : w.store.get? f = some (.function (.unroller location errorClass)))
    (hargs : Unrolls args first items take) :
    call host f args w = unroll (locate host location) errorClass first items take w := by
  cases f with
  | ref id =>
      rw [call, Run.bind_apply, Run.store_apply]
      dsimp only
      unfold callBound callWithin
      rw [Run.bind_apply, Run.object?_apply, h]
      dsimp only
      rw [Run.bind_apply, hargs.arguments_eq]
      rfl
  | _ => cases h

variable {id : Nat} {asked : σ → Nat} {answers : Nat → Except Failure Point}

-- What a builder is called by, if it is no object that builds by itself.
def Store.callee? (s : Store) (builder : Value) : Option Value :=
  match s.get? builder with
  | some (.builder (.callback f)) => some f
  | some (.record _) => some (s.part builder "build_node")
  | _ => none

-- A builder is given the three parts of a start, and the arguments of an action as they are.
structure Handed (host : Host σ) (builder : Value) (start : Point) (args : List Value) (w : World σ)
    (result : EStateM.Result Fault (World σ) Value) : Prop where
  run : ∃ fuel, result = buildWithin host fuel builder start args w
  standard : w.store.get? builder = some (.builder .standard) →
    result = buildStandard start args w
  object : ∀ o, w.store.get? builder = some (.foreign o) → result = host.build o start args w
  callback : ∀ f o, w.store.callee? builder = some f → w.store.get? f = some (.foreign o) →
    o.callable = true → ∃ packed s, w.store.Extends s ∧ s.get? packed = some (.tuple args) ∧
      result = host.call o [start.line, start.column, start.offset, packed] { w with store := s }

theorem callWithin_foreign {o : Foreign} (h : w.store.get? f = some (.foreign o))
    (ho : o.callable = true) (fuel : Nat) :
    callWithin host (fuel + 1) f args w = host.call o args w := by
  cases f with
  | ref id =>
      unfold callWithin
      rw [Run.bind_apply, Run.object?_apply, h]
      simp only [ho, if_true]
  | _ => cases h

theorem handed_buildWithin (host : Host σ) (builder : Value) (start : Point) (args : List Value)
    (w : World σ) (fuel : Nat) :
    Handed host builder start args w (buildWithin host (fuel + 2) builder start args w) where
  run := ⟨_, rfl⟩
  standard h := by
    unfold buildWithin
    rw [Run.bind_apply, Run.object?_apply, h]
  object o h := by
    unfold buildWithin
    rw [Run.bind_apply, Run.object?_apply, h]
  callback f o hcallee hf ho := by
    have hext := Store.Extends.alloc w.store (.tuple args)
    refine ⟨(w.store.alloc (.tuple args)).1, _, hext, Store.get?_alloc_here _ _, ?_⟩
    unfold Store.callee? at hcallee
    unfold buildWithin
    rw [Run.bind_apply, Run.object?_apply]
    split at hcallee <;> cases hcallee
    · next hbuilder =>
      rw [hbuilder]
      exact callWithin_foreign (hext _ _ hf) ho fuel
    · next hbuilder =>
      rw [hbuilder]
      exact callWithin_foreign (hext _ _ hf) ho fuel

section

variable {errorClass first items take : Value}

theorem unroll_noList {location : Run σ Value} (h : w.store.list? items = none) :
    unroll location errorClass first items take w = (do
      let start ← startOf location
      let e ← makeError errorClass [.text "invalid list argument for unrolling"]
        (unrollKeywords (w.store.className items) start)
      Run.fail e : Run σ Value) w := by
  rw [unroll, Run.bind_apply, Run.store_apply]
  dsimp only
  rw [h]

end

-- The error over something that cannot be unrolled, by its kind and by the start of the match.
def unrollFailure (c : ErrorClass) (kind : String) (p : Point) : Failure where
  errorClass := c
  args := [.text "invalid list argument for unrolling"]
  fields := [("message", .text "invalid list argument for unrolling"), ("found", .text kind),
    ("expected", .text "list"), ("line", p.line), ("column", p.column), ("offset", p.offset)]

-- A class of errors is told what was found instead of a list, and where. A class of syntax errors
-- makes an error with these as its fields, and one that keeps what it is given keeps them.
structure Told (errorClass : Value) (kind : String) (p : Point) (w : World σ)
    (result : EStateM.Result Fault (World σ) Value) : Prop where
  run : result = (do
    let e ← makeError errorClass [.text "invalid list argument for unrolling"]
      [("found", .text kind), ("expected", .text "list"), ("line", p.line), ("column", p.column),
        ("offset", p.offset)]
    Run.fail e : Run σ Value) w
  located : ∀ c, errorClass = .errorClass c → c.isA .grammarError = true →
    result = .error (.raised (unrollFailure c kind p)) w
  detailed : ∀ c name, errorClass = .errorClass c → c.isA (.detailed name) = true →
    result = .error (.raised
      { errorClass := c
        args := [.text "invalid list argument for unrolling"]
        details := [("found", .text kind), ("expected", .text "list"), ("line", p.line),
          ("column", p.column), ("offset", p.offset)] }) w

theorem ErrorClass.maker_of_isA_grammarError {c : ErrorClass} (h : c.isA .grammarError = true) :
    c.maker = .located := by
  induction c with
  | derived name base ih =>
      rw [isA_derived] at h
      exact ih (by simpa using h)
  | grammarError => rfl
  | _ => simp [isA, ancestors] at h

theorem ErrorClass.maker_of_isA_detailed {c : ErrorClass} {name : String}
    (h : c.isA (.detailed name) = true) : c.maker = .detailed name := by
  induction c with
  | derived name' base ih =>
      rw [isA_derived] at h
      exact ih (by simpa using h)
  | detailed name' =>
      obtain rfl : name = name' := by simpa [isA, ancestors] using h
      rfl
  | _ => simp [isA, ancestors] at h

theorem told_unroll (errorClass : Value) (kind : String) (p : Point) (w : World σ) :
    Told errorClass kind p w ((do
      let e ← makeError errorClass [.text "invalid list argument for unrolling"]
        (unrollKeywords kind p)
      Run.fail e : Run σ Value) w) where
  run := rfl
  located c hc hclass := by
    subst hc
    simp only [makeError, ErrorClass.construct, ErrorClass.maker_of_isA_grammarError hclass]
    rfl
  detailed c name hc hclass := by
    subst hc
    simp only [makeError, ErrorClass.construct, ErrorClass.maker_of_isA_detailed hclass]
    rfl

private def lines (n : Nat) : Except Failure Point :=
  if n = 1 then .error (.message .runtimeError "lost") else .ok ⟨.int n, .int 1, .int 0⟩

end ParseKit
