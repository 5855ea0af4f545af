import ParseKit.Actions.Transform
import ParseKit.Proofs.Build.Matched
import ParseKit.Proofs.Build.Span
import ParseKit.Proofs.Outcome.Arguments
import ParseKit.Proofs.Store.Closed

namespace ParseKit

variable {σ : Type}

open Matching (Agree Lists Locations Outcomes Points Values upTo)
open Run (Gives)

-- Where a factory comes from: from the location and the option themselves, from helpers for the
-- option, or from the helpers among the options that a parser is given. Actions use these too.
inductive Way where
  | direct (option : Value)
  | helpers (option : Value)
  | parser (prepared : Value)
  | actions (prepared place : Value)

namespace Way

-- A call of the factory to which a way leads.
def run (host : Host σ) (location : Location) (args : List Value) : Way → Run σ Value
  | direct option => do
    let factory ← makeFactory location option
    call host factory args
  | helpers option => do
    let helpers ← Helpers.create option
    let factory ← Helpers.factory helpers location
    call host factory args
  | parser prepared => do
    let util ← Run.inspect (·.item prepared (.text "util"))
    let factory ← Helpers.factory util location
    call host factory args
  | actions prepared place => do
    let util ← Run.inspect (·.item prepared (.text "util"))
    Actions.node host util place args

-- The location that a way builds at. Actions build at an item.
def location (location : Location) : Way → Location
  | actions _ place => .ofItem place
  | _ => location

-- Before a way asks for the place, it only makes its factory and what leads to it, so that it goes
-- on with another store. Whatever it does then rests on the location and the builder.
def Reaches (way : Way) (host : Host σ) (location : Location) (args : List Value) (builder : Value)
    (s s₁ : Store) : Prop :=
  ∀ w : World σ, w.store = s → way.run host location args w =
    produce (locate host (way.location location))
      (buildWithin host (callBound s₁ - 1) builder) args { w with store := s₁ }

end Way

-- A parse of a text under options asks its parser once, in this world and for these options. What
-- the parser gives is the result, and what it leaves is left.
structure Asks (text options : Value) (w : World σ) (prepared : Value) (start : World σ) :
    Prop where
  value : ∀ (p : Parser σ) classes, Outcome.Declares w.store p.syntaxError classes →
    ∀ v w₂, p.run text prepared start = .ok v w₂ →
      parse (.parser p) text options w = .ok ⟨v, none⟩ w₂
  after : ∀ (p : Parser σ) classes, Outcome.Declares w.store p.syntaxError classes →
    ∃ log, (parse (.parser p) text options).after w =
      { (p.run text prepared).after start with log := log }

-- The location is asked once. The builder builds once where the span starts that it gives, and is
-- given the arguments as they are. What is no span but has a start does as well, and what has none
-- is an error.
structure BuildsOnce (host : Host σ) (location : Location) (builder : Value) (args : List Value)
    (w : World σ) (result : EStateM.Result Fault (World σ) Value) : Prop where
  lost : ∀ fault w', locate host location w = .error fault w' → result = .error fault w'
  built : ∀ start w', (locate host location).StartsAt w start w' →
    Handed host builder start args w' result
  alike : ∀ span start w', locate host location w = .ok span w' → w'.store.Begins span start →
    Handed host builder start args w' result
  astray : ∀ span w', locate host location w = .ok span w' →
    (∀ start, ¬w'.store.Begins span start) → ∃ f, result = .error (.raised f) w'

-- A location that starts where the span of an item starts, unless it is exhausted before.
def SameStart (like : Likeness σ) (m : Matching) (host : Host σ) (location : Location)
    (place : Value) : Prop :=
  ∀ w w', m.Worlds like w w' → Exhausted (locate host location w) ∨
    ∃ m' span start start' v v', m.Grows m' ∧ m'.Worlds like v v' ∧
      locate host location w = .ok span v ∧ v.store.Begins span start ∧
      (spanOf place).StartsAt w' start' v' ∧ m'.Points start start'

-- A way asks its location and builder once, once its factory is made.
def Way.Builds (way : Way) (host : Host σ) (location : Location) (args : List Value)
    (builder : Value) (s₀ : Store) (w : World σ) : Prop :=
  ∃ s₁, s₀.Extends s₁ ∧ BuildsOnce host (way.location location) builder args
    { w with store := s₁ } (way.run host location args w)

-- What comes of all ways for an option and the builder that it stands for. Each builds once, and
-- what comes of it is the same, save for the references to what was made on the way. The way over a
-- parser starts in the world in which a parse asks its parser, under any options that name the
-- option.
structure WaysAgree (like : Likeness σ) (host : Host σ) (location : Location) (args : List Value)
    (w : World σ) (option builder : Value) (s₀ : Store) : Prop where
  direct : (Way.direct option).Builds host location args builder s₀ w
  helpers : (Way.helpers option).Builds host location args builder s₀ w
  helpers_same : (upTo s₀.size).Outcomes like Values
    ((Way.direct option).run host location args w) ((Way.helpers option).run host location args w)
  parser : ∀ text options source given, w.store.text? text = some source →
    Options.Valid w.store options given → Options.get w.store given "make_ast" = option →
    ∃ prepared s₁ entry, Options.Passed w.store given prepared s₁ ∧
      let start := { w with store := s₁, log := entry :: w.log }
      Asks text options w prepared start ∧
      (Way.parser prepared).Builds host location args builder s₀ start ∧
      (upTo s₀.size).Outcomes like Values ((Way.direct option).run host location args w)
        ((Way.parser prepared).run host location args start) ∧
      ∀ place, (Way.actions prepared place).Builds host location args builder s₀ start ∧
        (SameStart like (upTo s₀.size) host location place →
          (upTo s₀.size).Outcomes like Values ((Way.direct option).run host location args w)
            ((Way.actions prepared place).run host location args start))

-- What comes of all ways for an option that is refused. No factory is made, no parser is asked, and
-- everything stays as it is.
structure WaysRefuse (w : World σ) (option : Value) (f : Failure) : Prop where
  direct : ∀ location, (makeFactory location option : Run σ Value) w = .error (.raised f) w
  helpers : (Helpers.create option : Run σ Value) w = .error (.raised f) w
  parser : ∀ (p : Parser σ) text options source given, w.store.text? text = some source →
    Options.entries w.store options = .ok given →
    (Options.get w.store given "start_rule" = .null ∨
      w.store.isText (Options.get w.store given "start_rule") = true) →
    Options.get w.store given "make_ast" = option →
    parse (.parser p) text options w = .error (.raised f) w

section

variable {like : Likeness σ} {host : Host σ} {location : Location} {args : List Value}
  {option builder util errorClass prepared place : Value} {s s₀ s₁ : Store}

namespace Store

theorem values_of_isBuilder (h : s.isBuilder builder = true) :
    (upTo s.size).Values builder builder := by
  cases hget : s.get? builder with
  | none => simp [isBuilder, hget] at h
  | some o => exact values_of_get? hget

theorem values_of_callable (h : s.callable option = true) : (upTo s.size).Values option option := by
  refine values_upTo fun i hi => ?_
  subst hi
  cases hget : s.get? (.ref i) with
  | none => simp [callable, hget] at h
  | some o => exact (Array.getElem?_eq_some_iff.mp hget).1

namespace StandsFor

theorem closed (h : s.StandsFor option builder s₀) (hclosed : s.Closed) : s₀.Closed := by
  cases h with
  | standard => exact hclosed.alloc (.builder .standard)
  | itself => exact hclosed
  | callback _ callable => exact hclosed.alloc (.builder (.callback (values_of_callable callable)))

theorem unique {builder' : Value} {s₀' : Store} (h : s.StandsFor option builder s₀)
    (h' : s.StandsFor option builder' s₀') : builder = builder' ∧ s₀ = s₀' := by
  let w : World Unit := { store := s, log := [], client := () }
  have hsame := (asBuilder_standsFor h w rfl).symm.trans (asBuilder_standsFor h' w rfl)
  cases hsame
  exact ⟨rfl, rfl⟩

end StandsFor

end Store

theorem exists_startsAt_spanOf (place : Value) (w : World σ) :
    ∃ start w', (spanOf place).StartsAt w start w' := by
  obtain ⟨span, s', hspan, -, first, last, hobject, hfirst, -⟩ := spanOf_gives w.store place
  exact ⟨w.store.startPoint place, _, span, first, last, hspan w rfl, hobject, hfirst⟩

-- Of an item nothing has to be asked: it starts where its span starts.
theorem SameStart.ofItem {m : Matching} (h : m.Values place place) :
    SameStart like m host (.ofItem place) place := by
  intro w w' hworlds
  obtain ⟨start, v, hstart⟩ := exists_startsAt_spanOf place w
  obtain ⟨start', v', hstart'⟩ := exists_startsAt_spanOf place w'
  have hagree := startOf_agree (spanOf_agree h) w w' hworlds
  rw [hstart.startOf_eq, hstart'.startOf_eq] at hagree
  obtain ⟨span, first, last, hlocate, hspan, hfirst⟩ := hstart.span
  cases hagree with
  | ok grows worlds hpoints =>
      exact .inr ⟨_, span, start, start', v, v', grows, worlds, hlocate,
        Store.begins_of_span hspan hfirst, hstart', hpoints⟩
  | exhausted _ h => cases h

theorem SameStart.agree {m : Matching} (h : SameStart like m host location place) :
    m.Agree like (startOf (locate host location)) (startOf (spanOf place)) Points := by
  intro w w' hworlds
  rcases h w w' hworlds with hexhausted |
    ⟨m', span, start, start', v, v', grows, worlds, hlocate, hbegins, hstart, hpoints⟩
  · generalize hr : locate host location w = r at hexhausted
    cases hexhausted with
    | steps =>
        rw [startOf_error hr]
        exact .exhausted _ (.steps _)
    | depth =>
        rw [startOf_error hr]
        exact .exhausted _ (.depth _)
  · rw [startOf_begins hlocate hbegins, hstart.startOf_eq]
    exact .ok grows worlds hpoints

theorem Helpers.factory_gives (location : Location)
    (hutil : s.get? util = some (.helpers builder errorClass))
    (hbuilder : s.isBuilder builder = true) :
    Gives (Helpers.factory util location : Run σ Value) s
      (s.alloc (.function (.factory location builder))).1
      (s.alloc (.function (.factory location builder))).2 := by
  have hparts : Gives (Helpers.parts util "make_ast" : Run σ (Value × Value)) s
      (builder, errorClass) s := by
    refine (Gives.object? util s).bind ?_
    rw [hutil]
    exact .pure _ _
  exact hparts.bind (makeFactory_gives location hbuilder)

theorem call_made {make : Run σ Value}
    (h : Gives make s (s₀.alloc (.function (.factory location builder))).1
      (s₀.alloc (.function (.factory location builder))).2) {w : World σ} (hw : w.store = s) :
    (make >>= fun f => call host f args) w = produce (locate host location)
      (buildWithin host (callBound (s₀.alloc (.function (.factory location builder))).2 - 1)
        builder) args { w with store := (s₀.alloc (.function (.factory location builder))).2 } := by
  rw [Run.bind_apply, h w hw]
  exact call_factory (Store.get?_alloc_here s₀ _)

namespace Way

theorem direct_reaches (h : s.StandsFor option builder s₀) :
    (direct option).Reaches host location args builder s
      (s₀.alloc (.function (.factory location builder))).2 :=
  fun _ hw => call_made ((asBuilder_standsFor h).bind (.alloc _ s₀)) hw

theorem helpers_reaches (h : s.StandsFor option builder s₀) :
    (helpers option).Reaches host location args builder s
      ((s₀.alloc (.helpers builder (.errorClass .grammarError))).2.alloc
        (.function (.factory location builder))).2 := by
  intro w hw
  have hcreate : Gives (Helpers.create option : Run σ Value) s _ _ :=
    (asBuilder_standsFor h).bind (.alloc (.helpers builder (.errorClass .grammarError)) s₀)
  have hbuilder := (Store.Extends.alloc s₀ (.helpers builder (.errorClass .grammarError))).isBuilder
    h.isBuilder
  have hfactory := Helpers.factory_gives (σ := σ) location (Store.get?_alloc_here s₀ _) hbuilder
  rw [run, Run.bind_apply, hcreate w hw]
  exact call_made hfactory rfl

theorem parser_reaches (hutil : s.item prepared (.text "util") = .ok util)
    (hget : s.get? util = some (.helpers builder errorClass))
    (hbuilder : s.isBuilder builder = true) :
    (parser prepared).Reaches host location args builder s
      (s.alloc (.function (.factory location builder))).2 := by
  rintro w rfl
  rw [run, Run.bind_apply, Run.inspect_ok hutil]
  exact call_made (Helpers.factory_gives location hget hbuilder) rfl

theorem actions_reaches (hutil : s.item prepared (.text "util") = .ok util)
    (hget : s.get? util = some (.helpers builder errorClass))
    (hbuilder : s.isBuilder builder = true) :
    (actions prepared place).Reaches host location args builder s
      (s.alloc (.function (.factory (.ofItem place) builder))).2 :=
  @parser_reaches σ host (.ofItem place) args builder util errorClass prepared s hutil hget hbuilder

variable {way way' : Way}

theorem Reaches.buildsOnce (h : way.Reaches host location args builder s s₁) (hsize : 0 < s₁.size)
    {w : World σ} (hw : w.store = s) : BuildsOnce host (way.location location) builder args
      { w with store := s₁ } (way.run host location args w) := by
  obtain ⟨fuel, hfuel⟩ : ∃ fuel, callBound s₁ - 1 = fuel + 2 :=
    ⟨callBound s₁ - 3, by unfold callBound; omega⟩
  rw [h w hw, hfuel]
  have hbuilt : ∀ start w', startOf (locate host (way.location location))
      { w with store := s₁ } = .ok start w' → Handed host builder start args w'
        (produce (locate host (way.location location)) (buildWithin host (fuel + 2) builder) args
          { w with store := s₁ }) := by
    intro start w' hstart
    rw [produce, Run.bind_apply, hstart]
    exact handed_buildWithin host builder start args w' fuel
  constructor
  case lost =>
    intro fault w' hfault
    rw [produce, Run.bind_apply, startOf_error hfault]
  case built => exact fun start w' hstart => hbuilt start w' hstart.startOf_eq
  case alike =>
    exact fun span start w' hlocate hbegins => hbuilt start w' (startOf_begins hlocate hbegins)
  case astray =>
    intro span w' hlocate hnone
    obtain ⟨f, hf⟩ := startOf_astray hlocate hnone
    exact ⟨f, by rw [produce, Run.bind_apply, hf]⟩

-- Two ways that start at the same place and with the same builder have the same outcome.
theorem Reaches.outcomes {m : Matching} {s' s₁' : Store} (hhost : host.Uniform like)
    (h : way.Reaches host location args builder s s₁)
    (h' : way'.Reaches host location args builder s' s₁') {w w' : World σ} (hw : w.store = s)
    (hw' : w'.store = s') (hstores : m.Stores s₁ s₁')
    (hclients : like.same m w.client w'.client) (hbuilder : m.Values builder builder)
    (hargs : m.Lists args args)
    (hstart : m.Agree like (startOf (locate host (way.location location)))
      (startOf (locate host (way'.location location))) Points) :
    m.Outcomes like Values (way.run host location args w) (way'.run host location args w') := by
  rw [h w hw, h' w' hw']
  have hfuel : callBound s₁ - 1 ≤ callBound s₁' - 1 := by
    have hsize := hstores.size_le
    unfold callBound
    omega
  refine produce_agree hstart (fun _ _ _ hm hpoint => ?_) _ _ ⟨hstores, hclients⟩
  exact (buildsAlike_and_callsAlike hhost hfuel).1 (hbuilder.mono hm) hpoint (Lists.mono hm hargs)

end Way

theorem asks_prepared {text options : Value} {source : String} {w : World σ}
    (hreadable : w.store.text? text = some source)
    (hprepare : Gives (Options.prepare options : Run σ Value) w.store prepared s₁)
    (hext : w.store.Extends s₁) : Asks text options w prepared
      { w with store := s₁, log := Outcome.announcement s₁ text prepared :: w.log } where
  value p classes hreports v w₂ hasked := by
    rw [parse_run hreadable hprepare (hreports.recognised hext), hasked]
  after p classes hreports :=
    parse_run_after hreadable hprepare (hreports.recognised hext)

theorem Store.Closed.keys_of_entries {options : Value} {given : List (Value × Value)}
    (h : s.Closed) (hgiven : Options.entries s options = .ok given) :
    ∀ e ∈ given, (upTo s.size).Values e.1 e.1 := by
  cases hentries : s.entries? options with
  | none =>
      by_cases hnull : options = .null
      · rw [hnull] at hgiven
        cases hgiven
        exact List.forall_mem_nil _
      · rw [Options.entries_eq_error hnull hentries] at hgiven
        cases hgiven
  | some entries =>
      rw [Options.entries_eq_ok hentries] at hgiven
      cases hgiven
      cases hget : s.get? options with
      | none => simp [Store.entries?, hget] at hentries
      | some o =>
          have hmatched := h.entries? (Store.values_of_get? hget)
          rw [hentries] at hmatched
          cases hmatched with
          | some hes => exact fun e he => (List.forall₂_same.mp hes e he).1

-- The helpers that a parser finds under their name among its options.
theorem Options.Passed.item_util {options : Value} {given : List (Value × Value)}
    (hclosed : s.Closed) (hgiven : Options.entries s options = .ok given)
    (h : Options.Passed s given prepared s₁) :
    ∃ builder helpers s₀, s.StandsFor (Options.get s given "make_ast") builder s₀ ∧
      s₀.Extends s₁ ∧ s₁.get? helpers = some (.helpers builder (.errorClass .grammarError)) ∧
      s₁.item prepared (.text "util") = .ok helpers := by
  obtain ⟨builder, helpers, s₀, d, hstands, hext, -, hhelpers, hprepared, hputs⟩ := h.content
  refine ⟨builder, helpers, s₀, hstands, hext, hhelpers, ?_⟩
  have hstores := hclosed.stores (.refl s) h.grown h.grown.size_le
  have hkeys := hclosed.keys_of_entries hgiven
  have hsame : ∀ e ∈ given, s₁.same e.1 (.text "util") = s.same e.1 (.text "util") :=
    fun e he => hstores.same_eq (hkeys e he) (.text "util") rfl
  have hlookup := hputs.lookup?_eq hsame
  have hkey : s₁.requireKey (.text "util") = .ok () := Node.requireKey_of_text? rfl
  cases prepared with
  | ref id =>
      simp only [Store.item, hprepared, Store.pickKey, hkey, hlookup]
      rfl
  | _ => cases hprepared

theorem ways_agree (hhost : host.Uniform like) {w : World σ} (hclosed : w.store.Closed)
    (hclient : like.same (upTo w.store.size) w.client w.client)
    (hlocation : (upTo w.store.size).Locations location location)
    (hargs : (upTo w.store.size).Lists args args) (h : w.store.StandsFor option builder s₀) :
    WaysAgree like host location args w option builder s₀ := by
  have hgrows := Store.grows_upTo h.grows.size_le
  have hclosed₀ := h.closed hclosed
  have hbuilder := Store.values_of_isBuilder h.isBuilder
  have hclient₀ := like.mono hgrows hclient
  have hargs₀ := Lists.mono hgrows hargs
  have hstart := startOf_agree (locate_agree hhost (hlocation.mono hgrows))
  have hdirect : (Way.direct option).Reaches host location args builder w.store _ :=
    Way.direct_reaches h
  -- a way that makes as much as the direct one before it goes on, or more
  have hway : ∀ {way : Way} {s' s₁ : Store} (w' : World σ),
      way.Reaches host location args builder s' s₁ → s₀.Extends s₁ → s₀.size + 1 ≤ s₁.size →
      w'.store = s' → w'.client = w.client →
      way.Builds host location args builder s₀ w' ∧
        ((upTo s₀.size).Agree like (startOf (locate host location))
            (startOf (locate host (way.location location))) Points →
          (upTo s₀.size).Outcomes like Values ((Way.direct option).run host location args w)
            (way.run host location args w')) := by
    intro way s' s₁ w' hreaches hext hsize hw' hsame
    refine ⟨⟨s₁, hext, hreaches.buildsOnce (by omega) hw'⟩, fun hplace => ?_⟩
    refine hdirect.outcomes hhost hreaches rfl hw' ?_ (hsame ▸ hclient₀) hbuilder hargs₀ hplace
    exact hclosed₀.stores (.alloc s₀ _) hext (by rwa [Store.size_alloc])
  have hfirst := hway w hdirect (.alloc s₀ _) (Nat.le_of_eq (Store.size_alloc s₀ _).symm) rfl rfl
  have hhelpers := hway w (Way.helpers_reaches h)
    ((Store.Extends.alloc s₀ _).trans (.alloc _ _)) (by simp only [Store.size_alloc]; omega) rfl rfl
  refine ⟨hfirst.1, hhelpers.1, hhelpers.2 hstart, ?_⟩
  intro text options source given hreadable hvalid hoption
  obtain ⟨prepared, s₁, hprepare, hpassed⟩ := Options.prepare_passes (σ := σ) hvalid
  obtain ⟨_, util, _, hstands, hext, hutil, hitem⟩ := hpassed.item_util hclosed hvalid.entries
  obtain ⟨rfl, rfl⟩ := (hoption ▸ h).unique hstands
  have hlater := hext.isBuilder h.isBuilder
  have hsize : ∀ o : Object, s₀.size + 1 ≤ (s₁.alloc o).2.size := fun o => by
    rw [Store.size_alloc]
    exact Nat.succ_le_succ hext.size_le
  refine ⟨prepared, s₁, Outcome.announcement s₁ text prepared, hpassed, ?_⟩
  intro start
  have hparser := hway start (Way.parser_reaches hitem hutil hlater)
    (hext.trans (.alloc s₁ _)) (hsize _) rfl rfl
  refine ⟨asks_prepared hreadable hprepare hpassed.grown, hparser.1, hparser.2 hstart, ?_⟩
  intro place
  have hreaches : (Way.actions prepared place).Reaches host location args builder s₁ _ :=
    Way.actions_reaches hitem hutil hlater
  have hactions := hway start hreaches (hext.trans (.alloc s₁ _)) (hsize _) rfl rfl
  exact ⟨hactions.1, fun hplace => hactions.2 hplace.agree⟩

theorem ways_refuse {w : World σ} (h : ¬w.store.AcceptsBuilder option) : WaysRefuse w option
    (w.store.refusal .invalidArgument ("Invalid node builder: " ++ ·) option) where
  direct location := by rw [makeFactory, Run.bind_apply, asBuilder_refuses h]
  helpers := by rw [Helpers.create, Run.bind_apply, asBuilder_refuses h]
  parser p text options source given hreadable hentries hrule hoption := by
    subst hoption
    exact parse_malformed (.builder hreadable hentries hrule h)

theorem asBuilder_idempotent {w w' : World σ} {builder : Value}
    (h : asBuilder option w = .ok builder w') {w'' : World σ} (hext : w'.store.Extends w''.store) :
    asBuilder builder w'' = .ok builder w'' := by
  by_cases haccepts : w.store.AcceptsBuilder option
  · obtain ⟨made, s₀, hstands⟩ := Store.exists_standsFor haccepts
    cases h.symm.trans (asBuilder_standsFor hstands w rfl)
    exact asBuilder_again hstands hext w'' rfl
  · cases h.symm.trans (asBuilder_refuses haccepts)

-- An option either stands for one builder, with which all ways to a factory build once and come to
-- the same, or it is refused on all of them before anything else happens, with what it is shown as
-- if it can be shown. What an option stands for stands for itself.
theorem factory_ways (hhost : host.Uniform like) {w : World σ} (hclosed : w.store.Closed)
    (hclient : like.same (upTo w.store.size) w.client w.client)
    (hlocation : (upTo w.store.size).Locations location location)
    (hargs : (upTo w.store.size).Lists args args) (option : Value) :
    (w.store.AcceptsBuilder option ↔ ∃ builder s₀, w.store.StandsFor option builder s₀) ∧
    (∀ builder s₀, w.store.StandsFor option builder s₀ →
      WaysAgree like host location args w option builder s₀) ∧
    (¬w.store.AcceptsBuilder option → ∃ f, WaysRefuse w option f ∧
      ((∃ text, w.store.inspect option = .ok text ∧
          f = .message .invalidArgument ("Invalid node builder: " ++ text)) ∨
        w.store.inspect option = .error f ∧ (w.store.WholeNodes → f = Store.tooDeep))) ∧
    ∀ builder w', asBuilder option w = .ok builder w' →
      ∀ w'' : World σ, w'.store.Extends w''.store → asBuilder builder w'' = .ok builder w'' := by
  refine ⟨⟨Store.exists_standsFor, fun ⟨_, _, h⟩ => h.accepts⟩,
    fun _ _ => ways_agree hhost hclosed hclient hlocation hargs, fun hrefused => ?_,
    fun _ _ h _ => asBuilder_idempotent h⟩
  refine ⟨_, ways_refuse hrefused, ?_⟩
  unfold Store.refusal
  cases hshown : w.store.inspect option with
  | ok text => exact .inl ⟨text, rfl, rfl⟩
  | error f => exact .inr ⟨rfl, fun hwhole => Store.inspect_onlyTooDeep hwhole option f hshown⟩

end

-- A client that keeps count of what it has built, and whose matches are all in one place.
private def tallying : Host Nat where
  call _ _ := pure .null
  build _ start _ := do
    modify fun w => { w with client := w.client + 1 }
    Run.alloc (.position start.line start.column start.offset)
  locate _ := do
    let first ← Run.alloc (.position (.int 3) (.int 1) (.int 8))
    Run.alloc (.span first first)

private def sameTally : Likeness Nat where
  same _ n n' := n = n'
  mono _ h := h

private theorem tallying_uniform : tallying.Uniform sameTally where
  call _ _ _ _ := .pure .null
  build {m} _ _ _ _ _ hstart _ := by
    have hcount : m.Agree sameTally
        (modify fun w => { w with client := w.client + 1 } : Run Nat Unit)
        (modify fun w => { w with client := w.client + 1 } : Run Nat Unit) fun _ => Eq :=
      fun _ _ hw => .ok (.refl m) ⟨hw.stores, congrArg (· + 1) hw.clients⟩ rfl
    refine hcount.bind fun _ _ _ h _ => .alloc ?_
    exact .position (hstart.line.mono h) (hstart.column.mono h) (hstart.offset.mono h)
  locate _ := (Agree.alloc (.position (.int 3) (.int 1) (.int 8))).bind fun _ _ _ _ hfirst =>
    .alloc (.span hfirst hfirst)

-- A builder of the client's, options that name it, and a node that has lost its position.
private def tallied : World Nat where
  store := ⟨#[.foreign ⟨"Builder", "b", "b", "b", false, .callable, false⟩,
    .node ⟨.text "a", .ref 2, .ref 3, .null⟩, .dict {}, .list [],
    .dict (.ofEntries [(.text "make_ast", .ref 0)])]⟩
  log := []
  client := 0

private theorem tallied_closed : tallied.store.Closed := by
  refine Store.closed_of_objects fun i o h => ?_
  match i with
  | 0 =>
      cases h
      exact .foreign _
  | 1 =>
      cases h
      exact .node ⟨.text "a", .ref ⟨rfl, by decide⟩, .ref ⟨rfl, by decide⟩, .null⟩
  | 2 =>
      cases h
      exact .dict _ .nil
  | 3 =>
      cases h
      exact .list .nil
  | 4 =>
      cases h
      exact .dict _ (.cons ⟨.text _, .ref ⟨rfl, by decide⟩⟩ .nil)
  | n + 5 => cases h

theorem factory_ways_tallied :
    (∃ prepared start, Asks (.text "abc") (.ref 4) tallied prepared start ∧
      ∃ v w, (Way.parser prepared).run tallying (.accessor 0) [.text "a"] start = .ok v w ∧
        w.client = 1) ∧
    ∃ f, f.errorClass = .attributeError ∧ WaysRefuse tallied (.ref 1) f := by
  have hargs : (upTo tallied.store.size).Lists [.text "a"] [.text "a"] := .cons (.text "a") .nil
  constructor
  · obtain ⟨-, hagree, -⟩ := factory_ways tallying_uniform tallied_closed
      (show sameTally.same _ 0 0 from rfl) (.accessor 0) hargs (.ref 0)
    have hvalid : Options.Valid tallied.store (.ref 4) [(.text "make_ast", .ref 0)] :=
      ⟨rfl, .inl (by decide), .inr (.inl (by decide))⟩
    obtain ⟨prepared, s₁, entry, -, hasks, -, hsame, -⟩ :=
      (hagree _ _ (.itself (by decide))).parser (.text "abc") (.ref 4) "abc" _ rfl hvalid rfl
    have hdirect : ∃ v w, (Way.direct (.ref 0)).run tallying (.accessor 0) [.text "a"] tallied =
        .ok v w ∧ w.client = 1 := ⟨_, _, rfl, rfl⟩
    obtain ⟨v, w, hrun, hcount⟩ := hdirect
    rw [hrun] at hsame
    refine ⟨prepared, _, hasks, ?_⟩
    generalize (Way.parser prepared).run _ _ _ _ = result at hsame ⊢
    cases hsame with
    | ok _ worlds _ => exact ⟨_, _, rfl, worlds.clients.symm.trans hcount⟩
    | exhausted _ h => cases h
  · obtain ⟨-, -, hrefused, -⟩ := factory_ways tallying_uniform tallied_closed
      (show sameTally.same _ 0 0 from rfl) (.accessor 0) hargs (.ref 1)
    obtain ⟨f, hways, ⟨text, hshown, -⟩ | ⟨hshown, -⟩⟩ := hrefused (by decide)
    · cases hshown
    · cases hshown
      exact ⟨_, rfl, hways⟩

end ParseKit
