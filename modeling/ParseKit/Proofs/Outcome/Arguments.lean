import ParseKit.Proofs.Build.Accessor
import ParseKit.Proofs.Build.Option
import ParseKit.Proofs.Outcome.Classification
import ParseKit.Proofs.Store.Puts

namespace ParseKit

variable {σ : Type}

open Run (Gives)

namespace Run

-- The worlds differ in nothing but what has been noted.
def OnlyLog (w w' : World σ) : Prop := ∃ log, w' = { w with log := log }

instance : IsPreorder (World σ) OnlyLog where
  refl w := ⟨w.log, rfl⟩
  trans := by
    rintro w w' w'' ⟨log, rfl⟩ ⟨log', rfl⟩
    exact ⟨log', rfl⟩

-- Whatever becomes of a run, it does no more to the world than to take note of something.
abbrev OnlyNotes {α : Type} (x : Run σ α) : Prop := Relates OnlyLog x

theorem OnlyNotes.note (entry : LogEntry) : OnlyNotes (Run.note entry : Run σ Unit) :=
  fun w => ⟨entry :: w.log, rfl⟩

end Run

-- The first thing that is wrong with the arguments of a parse, by the failure that says so.
inductive Malformed (s : Store) : Candidate σ → Value → Value → Failure → Prop where
  | noObject {text options : Value} : Malformed s .absent text options
      (.message .invalidArgument "invalid parser object (not an object)")
  | noParser {text options : Value} : Malformed s .unusable text options
      (.message .invalidArgument "invalid parser object (no \"parse\" function)")
  | noText {p : Parser σ} {text options : Value} (unreadable : s.text? text = none) :
      Malformed s (.parser p) text options
        (.message .invalidArgument "invalid input text (not a string)")
  | noMapping {p : Parser σ} {text options : Value} {source : String}
      (readable : s.text? text = some source) (given : options ≠ .null)
      (noEntries : s.entries? options = none) : Malformed s (.parser p) text options
        (.message .invalidArgument "invalid options (not a mapping)")
  | startRule {p : Parser σ} {text options : Value} {source : String}
      {given : List (Value × Value)} (readable : s.text? text = some source)
      (entries : Options.entries s options = .ok given)
      (named : Options.get s given "start_rule" ≠ .null)
      (noText : s.isText (Options.get s given "start_rule") = false) :
      Malformed s (.parser p) text options
        (s.refusal .invalidArgument ("invalid start rule: " ++ ·)
          (Options.get s given "start_rule"))
  | builder {p : Parser σ} {text options : Value} {source : String}
      {given : List (Value × Value)} (readable : s.text? text = some source)
      (entries : Options.entries s options = .ok given)
      (startRule : Options.get s given "start_rule" = .null ∨
        s.isText (Options.get s given "start_rule") = true)
      (refused : ¬s.AcceptsBuilder (Options.get s given "make_ast")) :
      Malformed s (.parser p) text options
        (s.refusal .invalidArgument ("Invalid node builder: " ++ ·)
          (Options.get s given "make_ast"))

-- Arguments with nothing wrong about them.
structure WellFormedArguments (s : Store) (candidate : Candidate σ) (text options : Value)
    (p : Parser σ) (source : String) (given : List (Value × Value)) : Prop where
  parser : candidate = .parser p
  readable : s.text? text = some source
  valid : Options.Valid s options given

theorem Store.StandsFor.insert_eq {s s' : Store} {option builder key : Value} {t : String}
    (h : s.StandsFor option builder s') (entries : List (Value × Value))
    (hkey : s.text? key = some t) (value : Value) :
    s'.insert entries key value = s.insert entries key value := by
  cases h with
  | itself => rfl
  | standard => exact Store.insert_alloc rfl entries hkey value
  | callback => exact Store.insert_alloc rfl entries hkey value

theorem Store.Extends.elements? {s s' : Store} (h : s.Extends s') {v : Value} {items : List Value}
    (hv : s.elements? v = some items) : s'.elements? v = some items := by
  cases v with
  | ref id =>
      cases hget : s.get? (.ref id) with
      | none => simp [Store.elements?, hget] at hv
      | some o =>
          simp only [Store.elements?, hget, h _ _ hget] at hv ⊢
          exact hv
  | _ => exact hv

namespace Options

theorem entries_eq_error {s : Store} {options : Value} (hgiven : options ≠ .null)
    (hnone : s.entries? options = none) : entries s options =
      .error (.message .invalidArgument "invalid options (not a mapping)") := by
  cases options with
  | null => exact absurd rfl hgiven
  | _ => simp only [entries, hnone]

theorem entries_eq_ok {s : Store} {options : Value} {given : List (Value × Value)}
    (h : s.entries? options = some given) : entries s options = .ok given := by
  cases options with
  | null => simp [Store.entries?, Store.get?] at h
  | _ => simp only [entries, h]

theorem prepare_noMapping {options : Value} {w : World σ} {f : Failure}
    (h : entries w.store options = .error f) :
    (prepare options : Run σ Value) w = .error (.raised f) w := by
  rw [prepare, Run.bind_apply, Run.inspect_apply, h]
  rfl

theorem prepare_given {options : Value} {w : World σ} {given : List (Value × Value)}
    (h : entries w.store options = .ok given) :
    (prepare options : Run σ Value) w = (do
      let _ ← Run.inspect (checkStartRule · given)
      let helpers ← Helpers.create (get (← Run.store) given "make_ast")
      let s ← Run.store
      Run.alloc (.dict (.ofEntries (s.insert given (.text "util") helpers))) : Run σ Value) w := by
  rw [prepare, Run.bind_apply, Run.inspect_ok h]

theorem prepare_startRule {options : Value} {w : World σ} {given : List (Value × Value)}
    (h : entries w.store options = .ok given) (hnamed : get w.store given "start_rule" ≠ .null)
    (hnoText : w.store.isText (get w.store given "start_rule") = false) :
    (prepare options : Run σ Value) w = .error (.raised (w.store.refusal .invalidArgument
      ("invalid start rule: " ++ ·) (get w.store given "start_rule"))) w := by
  have hcheck : checkStartRule w.store given = .error (w.store.refusal .invalidArgument
      ("invalid start rule: " ++ ·) (get w.store given "start_rule")) := by
    rw [checkStartRule, if_neg (by simp [hnamed, hnoText]), Store.refusal]
    cases w.store.inspect (get w.store given "start_rule") <;> rfl
  rw [prepare_given h, Run.bind_apply, Run.inspect_apply, hcheck]
  rfl

theorem prepare_noBuilder {options : Value} {w : World σ} {given : List (Value × Value)}
    (h : entries w.store options = .ok given)
    (hrule : get w.store given "start_rule" = .null ∨
      w.store.isText (get w.store given "start_rule") = true)
    (hrefused : ¬w.store.AcceptsBuilder (get w.store given "make_ast")) :
    (prepare options : Run σ Value) w = .error (.raised (w.store.refusal .invalidArgument
      ("Invalid node builder: " ++ ·) (get w.store given "make_ast"))) w := by
  have hcheck : checkStartRule w.store given = .ok () := if_pos hrule
  rw [prepare_given h, Run.bind_apply, Run.inspect_ok hcheck]
  dsimp only
  rw [Run.bind_apply, Run.store_apply]
  dsimp only
  rw [Run.bind_apply, Helpers.create, Run.bind_apply, asBuilder_refuses hrefused]

-- The options that a parser gets: a new dictionary of the caller's entries, with new helpers in it
-- for the builder that the caller's option stands for.
structure Passed (s : Store) (given : List (Value × Value)) (prepared : Value) (s₁ : Store) :
    Prop where
  grown : s.Extends s₁
  new : s.get? prepared = none
  content : ∃ builder helpers s₀ d, s.StandsFor (get s given "make_ast") builder s₀ ∧
    s₀.Extends s₁ ∧ s.get? helpers = none ∧
    s₁.get? helpers = some (.helpers builder (.errorClass .grammarError)) ∧
    s₁.get? prepared = some (.dict d) ∧ s.Puts (.text "util") helpers given d.entries

theorem prepare_passes {s : Store} {options : Value} {given : List (Value × Value)}
    (h : Valid s options given) :
    ∃ prepared s₁, Gives (prepare options : Run σ Value) s prepared s₁ ∧
      Passed s given prepared s₁ := by
  obtain ⟨builder, s₀, hstands⟩ := Store.exists_standsFor h.builder
  have hrule : checkStartRule s given = .ok () := if_pos h.startRule
  let made : Object := .helpers builder (.errorClass .grammarError)
  let s₂ := (s₀.alloc made).2
  let merged := s₂.insert given (.text "util") (s₀.alloc made).1
  have hcreate : Gives (Helpers.create (get s given "make_ast") : Run σ Value) s
      (s₀.alloc made).1 s₂ := (asBuilder_standsFor hstands).bind (.alloc made s₀)
  have hprepare : Gives (prepare options : Run σ Value) s (s₂.alloc (.dict (.ofEntries merged))).1
      (s₂.alloc (.dict (.ofEntries merged))).2 :=
    (Gives.inspect h.entries).bind ((Gives.inspect hrule).bind ((Gives.store s).bind
      (hcreate.bind ((Gives.store s₂).bind (.alloc _ s₂)))))
  have h₀₂ : s₀.Extends s₂ := .alloc s₀ made
  have h₂ : s₂.Extends (s₂.alloc (.dict (.ofEntries merged))).2 := .alloc s₂ _
  have hmerged : merged = s.insert given (.text "util") (s₀.alloc made).1 := by
    exact (Store.insert_alloc rfl given rfl _).trans (hstands.insert_eq given rfl _)
  refine ⟨_, _, hprepare, (hstands.grows.trans h₀₂).trans h₂, ?_, builder, (s₀.alloc made).1, s₀,
    .ofEntries merged, hstands, h₀₂.trans h₂, ?_, ?_, Store.get?_alloc_here s₂ _, ?_⟩
  · exact (hstands.grows.trans h₀₂).get?_eq_none (Store.get?_alloc_fresh s₂ _)
  · exact hstands.grows.get?_eq_none (Store.get?_alloc_fresh s₀ _)
  · exact h₂ _ _ (Store.get?_alloc_here s₀ made)
  · rw [show (Dictionary.ofEntries merged).entries = merged from rfl, hmerged]
    exact Store.puts_insert s given _ _

end Options

theorem exists_malformed_iff (s : Store) (candidate : Candidate σ) (text options : Value) :
    (∃ f, Malformed s candidate text options f) ↔
      ¬∃ p source given, WellFormedArguments s candidate text options p source given := by
  constructor
  · rintro ⟨f, hf⟩ ⟨p, source, given, rfl, hreadable, hvalid⟩
    have hgiven := hvalid.entries
    cases hf with
    | noText unreadable => simp [unreadable] at hreadable
    | noMapping _ given noEntries =>
        rw [Options.entries_eq_error given noEntries] at hgiven
        cases hgiven
    | startRule _ entries named noText =>
        cases hgiven.symm.trans entries
        rcases hvalid.startRule with h | h
        · exact named h
        · simp [noText] at h
    | builder _ entries _ refused =>
        cases hgiven.symm.trans entries
        exact refused hvalid.builder
  · intro h
    cases candidate with
    | absent => exact ⟨_, .noObject⟩
    | unusable => exact ⟨_, .noParser⟩
    | parser p =>
        cases hreadable : s.text? text with
        | none => exact ⟨_, .noText hreadable⟩
        | some source =>
            cases hentries : Options.entries s options with
            | error f =>
                by_cases hnull : options = .null
                · rw [hnull] at hentries
                  cases hentries
                · cases hnone : s.entries? options with
                  | none => exact ⟨_, .noMapping hreadable hnull hnone⟩
                  | some given =>
                      rw [Options.entries_eq_ok hnone] at hentries
                      cases hentries
            | ok given =>
                by_cases hrule : Options.get s given "start_rule" = .null ∨
                    s.isText (Options.get s given "start_rule") = true
                · exact ⟨_, .builder hreadable hentries hrule fun hbuilder =>
                    h ⟨p, source, given, rfl, hreadable, hentries, hrule, hbuilder⟩⟩
                · rw [not_or, Bool.not_eq_true] at hrule
                  exact ⟨_, .startRule hreadable hentries hrule.1 hrule.2⟩

-- What is wrong with the arguments is said before anything else is done.
theorem parse_malformed {candidate : Candidate σ} {text options : Value} {f : Failure}
    {w : World σ} (h : Malformed w.store candidate text options f) :
    parse candidate text options w = .error (.raised f) w := by
  have hprepare : ∀ {p : Parser σ} {source : String}, w.store.text? text = some source →
      (Options.prepare options : Run σ Value) w = .error (.raised f) w →
      parse (.parser p) text options w = .error (.raised f) w := by
    intro p source hreadable hrefused
    rw [parse, Run.bind_apply, Run.inspect_ok (a := source) (by simp [textArgument, hreadable])]
    dsimp only
    rw [Run.bind_apply, hrefused]
  cases h with
  | noObject => rfl
  | noParser => rfl
  | noText unreadable =>
      rw [parse, Run.bind_apply, Run.inspect_apply, textArgument, unreadable]
      rfl
  | noMapping readable given noEntries =>
      exact hprepare readable
        (Options.prepare_noMapping (Options.entries_eq_error given noEntries))
  | startRule readable entries named noText =>
      exact hprepare readable (Options.prepare_startRule entries named noText)
  | builder readable entries startRule refused =>
      exact hprepare readable (Options.prepare_noBuilder entries startRule refused)

theorem Store.refusal_or {s : Store} (c : ErrorClass) (say : String → String) (v : Value) :
    (∃ m, s.refusal c say v = .message c m) ∨
      ∃ u, s.inspect u = .error (s.refusal c say v) ∧
        (s.WholeNodes → s.refusal c say v = Store.tooDeep) := by
  cases hshown : s.inspect v with
  | ok text => exact .inl ⟨_, by rw [Store.refusal, hshown]⟩
  | error f =>
      have hrefusal : s.refusal c say v = f := by rw [Store.refusal, hshown]
      exact .inr ⟨v, hrefusal ▸ hshown, fun h => hrefusal ▸ inspect_onlyTooDeep h v f hshown⟩

namespace Outcome

theorem ofFailure_onlyNotes (known : List Value) (e : Failure) :
    Run.OnlyNotes (ofFailure known e : Run σ Outcome) := by
  unfold ofFailure
  split
  · exact .fail e
  refine .bind (.ofExcept _) fun recognised => ?_
  split
  · exact .bind (.inspect _) fun d => .bind (.inspect _) fun m =>
      .bind (Run.OnlyNotes.note _) fun _ => .pure _
  split
  · exact .bind (.inspect _) fun m => .bind (Run.OnlyNotes.note _) fun _ => .pure _
  · exact .fail e

-- The classes by which a parser says that it reports syntax errors, in a collection of any kind.
def Declares (s : Store) (v : Value) (classes : List ErrorClass) : Prop :=
  Advertises s v classes ∨ s.elements? v = some (classes.map .errorClass)

theorem Declares.recognised {s s' : Store} {v : Value} {classes : List ErrorClass}
    (h : Declares s v classes) (hext : s.Extends s') :
    recognised s' v = .ok ((ErrorClass.grammarError :: classes).map .errorClass) := by
  rcases h with h | h
  · exact h.recognised hext
  · cases v with
    | text t =>
        simp only [Outcome.recognised, hext.elements? h, List.map_cons]
    | ref id =>
        simp only [Outcome.recognised, hext.elements? h, List.map_cons]
    | _ => simp [Store.elements?, Store.get?] at h

end Outcome

-- After the parser there are only notes to take.
theorem parse_run_after {p : Parser σ} {text options prepared : Value} {source : String}
    {known : List Value} {s₁ : Store} {w : World σ} (htext : w.store.text? text = some source)
    (hprepare : Gives (Options.prepare options : Run σ Value) w.store prepared s₁)
    (hknown : Outcome.recognised s₁ p.syntaxError = .ok known) :
    ∃ log, (parse (.parser p) text options).after w = { (p.run text prepared).after
      { w with store := s₁, log := Outcome.announcement s₁ text prepared :: w.log } with
      log := log } := by
  have hrun := parse_run htext hprepare hknown
  cases hasked : p.run text prepared
      { w with store := s₁, log := Outcome.announcement s₁ text prepared :: w.log } with
  | ok v w₂ =>
      rw [hasked] at hrun
      exact ⟨w₂.log, by rw [Run.after_ok hrun, Run.after_ok hasked]⟩
  | error fault w₂ =>
      rw [hasked] at hrun
      rw [Run.after_error hasked]
      cases fault with
      | raised e =>
          obtain ⟨log, hlog⟩ := (Outcome.ofFailure_onlyNotes known e).map (Outcome.result source) w₂
          exact ⟨log, by rw [Run.after, hrun]; exact hlog⟩
      | outOfFuel => exact ⟨w₂.log, Run.after_error hrun⟩

-- Either the arguments of a parse are in order, or it says what is wrong with them first and leaves
-- everything as it is. If they are in order, the parser is asked once, for the text and for new
-- options. All that is done after that rests on what the parser has left.
theorem parse_arguments (candidate : Candidate σ) (text options : Value) (w : World σ)
    (hreports : ∀ p, candidate = .parser p →
      ∃ classes, Outcome.Declares w.store p.syntaxError classes) :
    let parsed := parse candidate text options w
    let after := (parse candidate text options).after w
    ((∃ f, Malformed w.store candidate text options f) ↔
      ¬∃ p source given, WellFormedArguments w.store candidate text options p source given) ∧
    (∀ f, Malformed w.store candidate text options f → parsed = .error (.raised f) w ∧
      ((∃ m, f = .message .invalidArgument m) ∨
        ∃ v, w.store.inspect v = .error f ∧ (w.store.WholeNodes → f = Store.tooDeep))) ∧
    ∀ p source given, WellFormedArguments w.store candidate text options p source given →
      ∃ prepared s₁ entry, Options.Passed w.store given prepared s₁ ∧
        let start := { w with store := s₁, log := entry :: w.log }
        let left := (p.run text prepared).after start
        (∀ v w₂, p.run text prepared start = .ok v w₂ → parsed = .ok ⟨v, none⟩ w₂) ∧
        after.store = left.store ∧ after.client = left.client ∧
        (∀ calls : σ → List (Value × Value),
          (∀ t o w, calls ((p.run t o).after w).client = calls w.client ++ [(t, o)]) →
          calls after.client = calls w.client ++ [(text, prepared)]) ∧
        ((∀ v entries, v ≠ prepared → s₁.entries? v = some entries →
            left.store.entries? v = some entries) →
          Options.entries after.store options = .ok given) := by
  intro parsed after
  refine ⟨exists_malformed_iff w.store candidate text options, fun f hf => ?_, ?_⟩
  · refine ⟨parse_malformed hf, ?_⟩
    cases hf with
    | startRule | builder => exact Store.refusal_or _ _ _
    | _ => exact .inl ⟨_, rfl⟩
  · rintro p source given ⟨rfl, hreadable, hvalid⟩
    obtain ⟨classes, hclasses⟩ := hreports p rfl
    obtain ⟨prepared, s₁, hprepare, hpassed⟩ := Options.prepare_passes (σ := σ) hvalid
    have hknown := hclasses.recognised hpassed.grown
    have hrun : parsed = _ := parse_run hreadable hprepare hknown
    obtain ⟨log, hafter⟩ := parse_run_after hreadable hprepare hknown
    refine ⟨prepared, s₁, Outcome.announcement s₁ text prepared, hpassed, ?_⟩
    intro start left
    have hstore : after.store = left.store := by rw [show after = _ from hafter]
    have hclient : after.client = left.client := by rw [show after = _ from hafter]
    refine ⟨fun v w₂ hasked => ?_, hstore, hclient, fun calls hcalls => ?_, fun hkept => ?_⟩
    · simp only [start] at hasked
      rw [hrun, hasked]
    · rw [hclient, hcalls]
    · rw [hstore]
      by_cases hnull : options = .null
      · have hgiven := hvalid.entries
        rw [hnull] at hgiven ⊢
        exact hgiven
      · cases hmapping : w.store.entries? options with
        | none =>
            have hgiven := hvalid.entries
            rw [Options.entries_eq_error hnull hmapping] at hgiven
            cases hgiven
        | some entries =>
            have hne : options ≠ prepared := by
              rintro rfl
              simp [Store.entries?, hpassed.new] at hmapping
            have hleft := hkept options entries hne (hpassed.grown.entries? hmapping)
            rw [Options.entries_eq_ok hleft, ← Options.entries_eq_ok hmapping, hvalid.entries]

-- A parser that keeps account of its calls, and that empties the options that it is given.
private def bookkeeper : Parser (List (Value × Value)) where
  run text options := do
    modify fun w => { w with client := w.client ++ [(text, options)] }
    Run.put options (.dict {})
    return .int 5

-- Options that name helpers of their own, and options that name a node as the builder that has lost
-- its position.
private def bookkeeping : World (List (Value × Value)) where
  store := ⟨#[.dict (.ofEntries [(.text "util", .int 1), (.text "depth", .int 2)]),
    .node ⟨.text "a", .ref 2, .ref 3, .null⟩, .dict {}, .list [],
    .dict (.ofEntries [(.text "make_ast", .ref 1)])]⟩
  log := []
  client := []

theorem parse_arguments_bookkeeping :
    (∃ prepared w₃,
      parse (.parser bookkeeper) (.text "abc") (.ref 0) bookkeeping = .ok ⟨.int 5, none⟩ w₃ ∧
      w₃.client = [(.text "abc", prepared)] ∧ Options.entries w₃.store (.ref 0) =
        .ok [(.text "util", .int 1), (.text "depth", .int 2)]) ∧
    ∃ f, f.errorClass = .attributeError ∧
      parse (.parser bookkeeper) (.text "abc") (.ref 4) bookkeeping =
        .error (.raised f) bookkeeping := by
  have hreports : ∀ p, Candidate.parser bookkeeper = .parser p →
      ∃ classes, Outcome.Declares bookkeeping.store p.syntaxError classes := by
    rintro p ⟨⟩
    exact ⟨[], .inl .nothing⟩
  constructor
  · have hvalid : Options.Valid bookkeeping.store (.ref 0)
        [(.text "util", .int 1), (.text "depth", .int 2)] :=
      ⟨rfl, .inl (by decide), .inl (by decide)⟩
    obtain ⟨-, -, hasked⟩ :=
      parse_arguments (.parser bookkeeper) (.text "abc") (.ref 0) bookkeeping hreports
    obtain ⟨prepared, s₁, entry, hpassed, hvalue, hstore, hclient, hcalls, hkept⟩ :=
      hasked bookkeeper "abc" _ ⟨rfl, rfl, hvalid⟩
    have hrun := hvalue _ _ rfl
    rw [Run.after_ok hrun] at hstore hclient hcalls hkept
    refine ⟨prepared, _, hrun, hcalls id fun _ _ _ => rfl, hkept fun v entries hv hentries => ?_⟩
    change (s₁.put prepared (.dict {})).entries? v = some entries
    rw [Store.entries?, Store.get?_put_elsewhere s₁ _ hv]
    exact hentries
  · obtain ⟨-, hrefused, -⟩ :=
      parse_arguments (.parser bookkeeper) (.text "abc") (.ref 4) bookkeeping hreports
    have hgiven : Options.entries bookkeeping.store (.ref 4) =
        .ok [(.text "make_ast", .ref 1)] := rfl
    obtain ⟨hrun, -⟩ := hrefused _ (.builder rfl hgiven (.inl (by decide)) (by decide))
    exact ⟨_, rfl, hrun⟩

end ParseKit
