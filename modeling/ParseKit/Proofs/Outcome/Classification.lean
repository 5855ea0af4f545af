import ParseKit.Outcome.Parse
import ParseKit.Proofs.Build.Factory
import ParseKit.Proofs.Outcome.Normal
import ParseKit.Proofs.Value.Inspect

namespace ParseKit

variable {σ : Type}

open Run (Gives)

namespace Options

-- Options that are accepted, by their entries.
structure Valid (s : Store) (options : Value) (given : List (Value × Value)) : Prop where
  entries : Options.entries s options = .ok given
  startRule : get s given "start_rule" = .null ∨ s.isText (get s given "start_rule") = true
  builder : get s given "make_ast" = .null ∨ s.isBuilder (get s given "make_ast") = true ∨
    s.callable (get s given "make_ast") = true

end Options

theorem Options.prepare_gives {s : Store} {options : Value} {given : List (Value × Value)}
    (h : Valid s options given) :
    ∃ prepared s', Gives (prepare options : Run σ Value) s prepared s' ∧ s.Extends s' := by
  obtain ⟨builder, s₁, hbuilder, h₁⟩ := asBuilder_extends (σ := σ) h.builder
  have hrule : checkStartRule s given = .ok () := if_pos h.startRule
  let made : Object := .helpers builder (.errorClass .grammarError)
  let s₂ := (s₁.alloc made).2
  let merged : Object := .dict (.ofEntries (s₂.insert given (.text "util") (s₁.alloc made).1))
  have hhelpers : Gives (Helpers.create (get s given "make_ast") : Run σ Value) s
      (s₁.alloc made).1 s₂ := hbuilder.bind (.alloc made s₁)
  refine ⟨(s₂.alloc merged).1, (s₂.alloc merged).2, (Gives.inspect h.entries).bind
    ((Gives.inspect hrule).bind ((Gives.store s).bind (hhelpers.bind ((Gives.store s₂).bind
      (.alloc merged s₂))))), ?_⟩
  exact h₁.trans ((Store.Extends.alloc s₁ made).trans (.alloc s₂ merged))

namespace Outcome

-- The classes by which a parser says that it reports syntax errors.
inductive Advertises (s : Store) : Value → List ErrorClass → Prop where
  | nothing : Advertises s .null []
  | one (c : ErrorClass) : Advertises s (.errorClass c) [c]
  | several {v : Value} {classes : List ErrorClass}
      (items : s.items? v = some (classes.map .errorClass)) : Advertises s v classes

theorem Advertises.recognised {s s' : Store} {v : Value} {classes : List ErrorClass}
    (h : Advertises s v classes) (hext : s.Extends s') :
    recognised s' v = .ok ((ErrorClass.grammarError :: classes).map .errorClass) := by
  cases h with
  | nothing => rfl
  | one c => rfl
  | several items =>
      have helements := Store.elements?_of_items? (hext.items? items)
      cases v with
      | ref id => simp [Outcome.recognised, helements]
      | _ => simp [Store.items?, Store.get?] at items

theorem classes?_map (classes : List ErrorClass) :
    classes? (classes.map .errorClass) = some classes := by
  induction classes with
  | nil => rfl
  | cons c rest ih => simp [classes?, ih]

theorem recognises_map (classes : List ErrorClass) (e : Failure) :
    recognises (classes.map .errorClass) e = .ok (classes.any e.isA) := by
  simp [recognises, classes?_map]

theorem ofFailure_misuse {known : List Value} {e : Failure} (w : World σ)
    (h : e.isA .invalidArgument = true ∨ e.isA .notFound = true) :
    (ofFailure known e : Run σ Outcome) w = .error (.raised e) w := by
  unfold ofFailure
  rw [if_pos (by simpa using h)]
  rfl

-- An error that is recognised becomes a diagnostic if it is legible. Otherwise the failure to read
-- it takes its place.
theorem ofFailure_recognised {classes : List ErrorClass} {e : Failure} (w : World σ)
    (hmisuse : ¬(e.isA .invalidArgument = true ∨ e.isA .notFound = true))
    (hclass : classes.any e.isA = true) :
    (∀ d, Details.ofFailure w.store e = .ok d → ∃ note,
      (ofFailure (classes.map .errorClass) e : Run σ Outcome) w =
        .ok (.grammarFailure d) { w with log := note :: w.log }) ∧
    (∀ f, Details.ofFailure w.store e = .error f →
      (ofFailure (classes.map .errorClass) e : Run σ Outcome) w = .error (.raised f) w) := by
  have hstart : (ofFailure (classes.map .errorClass) e : Run σ Outcome) w = (do
      let details ← Run.inspect (Details.ofFailure · e)
      let message ← Run.inspect (·.display details.message)
      Run.note (.grammarFailure (toString details.line) (toString details.column) message)
      return .grammarFailure details : Run σ Outcome) w := by
    unfold ofFailure
    rw [if_neg (by simpa using hmisuse), recognises_map, hclass]
    rfl
  rw [hstart]
  constructor
  · intro d hd
    obtain ⟨t, ht⟩ := Store.exists_display_of_isText (Details.isText_message hd)
    refine ⟨.grammarFailure (toString d.line) (toString d.column) t, ?_⟩
    rw [Run.bind_apply, Run.inspect_ok hd]
    dsimp only
    rw [Run.bind_apply, Run.inspect_ok ht]
    rfl
  · intro f hf
    rw [Run.bind_apply, Run.inspect_apply, hf]
    rfl

theorem ofFailure_other {classes : List ErrorClass} {e : Failure} (w : World σ)
    (hmisuse : ¬(e.isA .invalidArgument = true ∨ e.isA .notFound = true))
    (hclass : classes.any e.isA = false) (hexception : e.isA .exception = true) :
    (∀ m, w.store.failureText e = .ok m → ∃ note,
      (ofFailure (classes.map .errorClass) e : Run σ Outcome) w =
        .ok (.otherFailure m) { w with log := note :: w.log }) ∧
    (∀ f, w.store.failureText e = .error f →
      (ofFailure (classes.map .errorClass) e : Run σ Outcome) w = .error (.raised f) w) := by
  have hstart : (ofFailure (classes.map .errorClass) e : Run σ Outcome) w = (do
      let message ← Run.inspect (·.failureText e)
      Run.note (.unexpectedFailure message)
      return .otherFailure message : Run σ Outcome) w := by
    unfold ofFailure
    rw [if_neg (by simpa using hmisuse), recognises_map, hclass, hexception]
    rfl
  rw [hstart]
  constructor
  · intro m hm
    refine ⟨.unexpectedFailure m, ?_⟩
    rw [Run.bind_apply, Run.inspect_ok hm]
    rfl
  · intro f hf
    rw [Run.bind_apply, Run.inspect_apply, hf]
    rfl

theorem ofFailure_unordinary {classes : List ErrorClass} {e : Failure} (w : World σ)
    (hclass : classes.any e.isA = false) (hexception : e.isA .exception = false) :
    (ofFailure (classes.map .errorClass) e : Run σ Outcome) w = .error (.raised e) w := by
  unfold ofFailure
  rw [recognises_map, hclass, hexception]
  split <;> rfl

-- What a verbose caller is told ahead of the call of the parser.
def announcement (s : Store) (text options : Value) : LogEntry :=
  let startRule := (((s.entries? options).bind (s.lookup? · (.text "start_rule"))).getD .null)
  .parsing ((s.text? text).getD "").length ((s.display startRule).toOption.getD "")

-- The parser is asked once, and only an error has to be classified.
theorem attempt_asked {p : Parser σ} {known : List Value} (text options : Value)
    (w : World σ) (hknown : recognised w.store p.syntaxError = .ok known) :
    attempt p text options w =
      match p.run text options { w with log := announcement w.store text options :: w.log } with
      | .ok v w₂ => .ok (.success v) w₂
      | .error (.raised e) w₂ => ofFailure known e w₂
      | .error .outOfFuel w₂ => .error .outOfFuel w₂ := by
  rw [attempt, Run.bind_apply, Run.inspect_ok hknown]
  dsimp only
  rw [Run.bind_apply, Run.store_apply]
  dsimp only
  rw [Run.bind_apply, Run.note_apply]
  dsimp only
  rw [Run.bind_apply, Run.attempt_apply]
  unfold announcement
  cases p.run text options _ with
  | ok v w₂ => rfl
  | error fault w₂ => cases fault <;> rfl

end Outcome

-- With arguments that are accepted the parser is asked once, for the text and for new options, and
-- everything else rests on what it does.
theorem parse_run {p : Parser σ} {text options prepared : Value} {source : String}
    {known : List Value} {s₁ : Store} {w : World σ} (htext : w.store.text? text = some source)
    (hprepare : Gives (Options.prepare options : Run σ Value) w.store prepared s₁)
    (hknown : Outcome.recognised s₁ p.syntaxError = .ok known) :
    parse (.parser p) text options w =
      match p.run text prepared
        { w with store := s₁, log := Outcome.announcement s₁ text prepared :: w.log } with
      | .ok v w₂ => .ok ⟨v, none⟩ w₂
      | .error (.raised e) w₂ => (Outcome.result source <$> Outcome.ofFailure known e) w₂
      | .error .outOfFuel w₂ => .error .outOfFuel w₂ := by
  have hsource : textArgument w.store text = .ok source := by simp [textArgument, htext]
  have hstart : parse (.parser p) text options w =
      (Outcome.result source <$> Outcome.attempt p text prepared) { w with store := s₁ } := by
    rw [parse, Run.bind_apply, Run.inspect_ok hsource]
    dsimp only
    rw [Run.bind_apply, hprepare w rfl]
    rfl
  rw [hstart, Run.map_apply, Outcome.attempt_asked text prepared { w with store := s₁ } hknown]
  cases p.run text prepared _ with
  | ok v w₂ => rfl
  | error fault w₂ =>
      cases fault with
      | raised e => exact (Run.map_apply _ _ _).symm
      | outOfFuel => rfl

theorem parse_asked {p : Parser σ} {text options prepared : Value} {source : String}
    {classes : List ErrorClass} {s₁ : Store} {w : World σ}
    (htext : w.store.text? text = some source)
    (hprepare : Gives (Options.prepare options : Run σ Value) w.store prepared s₁)
    (hext : w.store.Extends s₁) (hclasses : Outcome.Advertises w.store p.syntaxError classes) :
    parse (.parser p) text options w =
      match p.run text prepared
        { w with store := s₁, log := Outcome.announcement s₁ text prepared :: w.log } with
      | .ok v w₂ => .ok ⟨v, none⟩ w₂
      | .error (.raised e) w₂ => (Outcome.result source <$>
          Outcome.ofFailure ((ErrorClass.grammarError :: classes).map .errorClass) e) w₂
      | .error .outOfFuel w₂ => .error .outOfFuel w₂ :=
  parse_run htext hprepare (hclasses.recognised hext)

theorem parse_prepared {p : Parser σ} {text options prepared : Value} {source : String}
    {classes : List ErrorClass} {s₁ : Store} {w : World σ}
    (htext : w.store.text? text = some source)
    (hprepare : Gives (Options.prepare options : Run σ Value) w.store prepared s₁)
    (hext : w.store.Extends s₁) (hclasses : Outcome.Advertises w.store p.syntaxError classes) :
    let asked := p.run text prepared
      { w with store := s₁, log := Outcome.announcement s₁ text prepared :: w.log }
    (∀ v w₂, asked = .ok v w₂ → parse (.parser p) text options w = .ok ⟨v, none⟩ w₂) ∧
    ∀ e w₂, asked = .error (.raised e) w₂ → parse (.parser p) text options w =
      (Outcome.result source <$>
        Outcome.ofFailure ((ErrorClass.grammarError :: classes).map .errorClass) e) w₂ := by
  intro asked
  have hparse := parse_asked htext hprepare hext hclasses
  refine ⟨fun v w₂ hasked => ?_, fun e w₂ hasked => ?_⟩
  · simp only [asked] at hasked
    rw [hparse, hasked]
  · simp only [asked] at hasked
    rw [hparse, hasked]

theorem parse_outcome {p : Parser σ} {text options : Value} {source : String}
    {given : List (Value × Value)} {classes : List ErrorClass} {w : World σ}
    (htext : w.store.text? text = some source) (hoptions : Options.Valid w.store options given)
    (hclasses : Outcome.Advertises w.store p.syntaxError classes) :
    ∃ prepared s₁ entry, Gives (Options.prepare options : Run σ Value) w.store prepared s₁ ∧
      w.store.Extends s₁ ∧
      let asked := p.run text prepared { w with store := s₁, log := entry :: w.log }
      (∀ v w₂, asked = .ok v w₂ → parse (.parser p) text options w = .ok ⟨v, none⟩ w₂) ∧
      ∀ e w₂, asked = .error (.raised e) w₂ → parse (.parser p) text options w =
        (Outcome.result source <$>
          Outcome.ofFailure ((ErrorClass.grammarError :: classes).map .errorClass) e) w₂ := by
  obtain ⟨prepared, s₁, hprepare, hext⟩ := Options.prepare_gives (σ := σ) hoptions
  exact ⟨prepared, s₁, _, hprepare, hext, parse_prepared htext hprepare hext hclasses⟩

-- A parse classifies what its parser does. A value is the result, misuse of this library goes on to
-- the caller ahead of everything else, and an error of a recognised class becomes a diagnostic that
-- says what the error says itself. Any other ordinary error becomes one with nothing but a message,
-- and what is no ordinary error goes on. A diagnostic takes that the texts which go into it are
-- there: the failure to make one of them goes on to the caller instead, and unless a node has lost
-- its parts, that is the failure of a text that is nested too deep.
theorem parse_classifies {p : Parser σ} {text options : Value} {source : String}
    {given : List (Value × Value)} {classes : List ErrorClass} {w : World σ}
    (htext : w.store.text? text = some source) (hoptions : Options.Valid w.store options given)
    (hclasses : Outcome.Advertises w.store p.syntaxError classes) :
    ∃ prepared s₁ entry, Gives (Options.prepare options : Run σ Value) w.store prepared s₁ ∧
      w.store.Extends s₁ ∧
      let asked := p.run text prepared { w with store := s₁, log := entry :: w.log }
      let parsed := parse (.parser p) text options w
      (∀ v w₂, asked = .ok v w₂ → parsed = .ok ⟨v, none⟩ w₂) ∧
      ∀ e w₂, asked = .error (.raised e) w₂ →
        let misuse := e.isA .invalidArgument = true ∨ e.isA .notFound = true
        let recognised := ∃ c ∈ ErrorClass.grammarError :: classes, e.isA c = true
        (misuse → parsed = .error (.raised e) w₂) ∧
        (¬misuse → recognised → Details.Legible w₂.store e → ∃ d note,
          Details.ofFailure w₂.store e = .ok d ∧
          Details.Normal w₂.store e source (d.diagnostic source) ∧
          parsed = .ok ⟨.null, some (d.diagnostic source)⟩ { w₂ with log := note :: w₂.log }) ∧
        (¬misuse → recognised → ¬Details.Legible w₂.store e → ∃ f,
          parsed = .error (.raised f) w₂ ∧ (w₂.store.WholeNodes → f = Store.tooDeep)) ∧
        (¬misuse → ¬recognised → e.isA .exception = true → ∀ m, w₂.store.failureText e = .ok m →
          ∃ note, parsed = .ok ⟨.null, some ⟨.text m, .int 0, .int 0, .int 0, .text "", .text "",
            ⟨"", "", ""⟩⟩⟩ { w₂ with log := note :: w₂.log }) ∧
        (¬misuse → ¬recognised → e.isA .exception = true →
          (¬∃ m, w₂.store.failureText e = .ok m) → ∃ f,
          parsed = .error (.raised f) w₂ ∧ (w₂.store.WholeNodes → f = Store.tooDeep)) ∧
        (¬recognised → e.isA .exception = false → parsed = .error (.raised e) w₂) := by
  obtain ⟨prepared, s₁, entry, hprepare, hext, hok, herror⟩ :=
    parse_outcome htext hoptions hclasses
  refine ⟨prepared, s₁, entry, hprepare, hext, ?_⟩
  intro asked parsed
  refine ⟨hok, ?_⟩
  intro e w₂ hasked misuse recognised
  have hparsed : parsed = _ := herror e w₂ hasked
  have hclass : recognised ↔ (ErrorClass.grammarError :: classes).any e.isA = true := by
    simp only [recognised, List.any_eq_true]
  have hclass' : ¬recognised → (ErrorClass.grammarError :: classes).any e.isA = false := by
    intro h
    simpa only [hclass, Bool.not_eq_true] using h
  rw [hparsed, Run.map_apply]
  refine ⟨?_, ?_, ?_, ?_, ?_, ?_⟩
  · intro hmisuse
    rw [Outcome.ofFailure_misuse w₂ hmisuse]
  · intro hmisuse hrecognised hlegible
    obtain ⟨d, hd⟩ := Details.ofFailure_ok_iff.mpr hlegible
    obtain ⟨note, hrun⟩ :=
      (Outcome.ofFailure_recognised w₂ hmisuse (hclass.mp hrecognised)).1 d hd
    exact ⟨d, note, hd, Details.normal_ofFailure source hd, by rw [hrun]; rfl⟩
  · intro hmisuse hrecognised hlegible
    cases hd : Details.ofFailure w₂.store e with
    | ok d => exact absurd (Details.ofFailure_ok_iff.mp ⟨d, hd⟩) hlegible
    | error f =>
        have hrun := (Outcome.ofFailure_recognised w₂ hmisuse (hclass.mp hrecognised)).2 f hd
        exact ⟨f, by rw [hrun], fun hwhole => Details.ofFailure_onlyTooDeep hwhole e f hd⟩
  · intro hmisuse hrecognised hexception m hm
    obtain ⟨note, hrun⟩ :=
      (Outcome.ofFailure_other w₂ hmisuse (hclass' hrecognised) hexception).1 m hm
    exact ⟨note, by rw [hrun]; rfl⟩
  · intro hmisuse hrecognised hexception hillegible
    cases hf : w₂.store.failureText e with
    | ok m => exact absurd ⟨m, hf⟩ hillegible
    | error f =>
        have hrun := (Outcome.ofFailure_other w₂ hmisuse (hclass' hrecognised) hexception).2 f hf
        exact ⟨f, by rw [hrun], fun hwhole => Store.failureText_onlyTooDeep hwhole e f hf⟩
  · intro hrecognised hexception
    rw [Outcome.ofFailure_unordinary w₂ (hclass' hrecognised) hexception]

-- A node that has lost its position.
private def lostPosition : World Unit where
  store := ⟨#[.node ⟨.text "a", .ref 1, .ref 2, .null⟩, .dict {}, .list []]⟩
  log := []
  client := ()

private def strayNode : Failure where
  errorClass := .grammarError
  args := [.text "stray token"]
  fields := [("message", .text "stray token"), ("found", .ref 0)]

-- The syntax error of a parser that finds such a node is lost, because the node has no text.
theorem parse_classifies_strayNode :
    ∃ f w', parse (.parser { run := fun _ _ => Run.fail strayNode }) (.text "abc") .null
      lostPosition = .error (.raised f) w' := by
  have htext : lostPosition.store.text? (.text "abc") = some "abc" := rfl
  have hoptions : Options.Valid lostPosition.store .null [] := ⟨rfl, .inl rfl, .inl rfl⟩
  obtain ⟨prepared, s₁, entry, -, hext, -, hfails⟩ :=
    parse_classifies (p := { run := fun _ _ => Run.fail strayNode }) htext hoptions .nothing
  obtain ⟨-, -, hescapes, -⟩ := hfails strayNode _ rfl
  have hnode : s₁.get? (.ref 0) = some (.node ⟨.text "a", .ref 1, .ref 2, .null⟩) :=
    hext _ _ rfl
  have hshown : Details.shownFound s₁ strayNode = [.ref 0] := by
    have hfound : Details.field strayNode "found" = .ref 0 := rfl
    simp [Details.shownFound, hfound, Details.shown, Details.collection?, Store.isText,
      Store.text?, hnode]
  have hillegible : ¬Details.Legible s₁ strayNode := fun h =>
    Details.not_hasText_of_position hnode rfl (h.found (.ref 0) (by simp [hshown]))
  obtain ⟨f, hf, -⟩ := hescapes (by decide) ⟨.grammarError, by simp, rfl⟩ hillegible
  exact ⟨f, _, hf⟩

end ParseKit
