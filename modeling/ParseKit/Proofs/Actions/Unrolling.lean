import ParseKit.Proofs.Actions.Accepted
import ParseKit.Proofs.Actions.Order
import ParseKit.Proofs.Build.Accessor

namespace ParseKit

variable {σ α β : Type}

open Run (Gives)

-- A run that comes to a step, which is taken in the given world. On its way out of the step an
-- error is not caught. Only a transformer puts one of its own around it, which is taken off again
-- where the transformer was started. The flag says that there is one around it.
inductive Run.ComesTo (step : Run σ Value) (here : World σ) :
    {α : Type} → Run σ α → World σ → Bool → Prop where
  | here : ComesTo step here step here false
  | first {α β : Type} {x : Run σ α} {w : World σ} {around : Bool} (f : α → Run σ β)
      (inside : ComesTo step here x w around) : ComesTo step here (x >>= f) w around
  | next {α β : Type} {x : Run σ α} {f : α → Run σ β} {a : α} {w w' : World σ} {around : Bool}
      (done : x w = .ok a w') (inside : ComesTo step here (f a) w' around) :
      ComesTo step here (x >>= f) w around
  -- Something that passes errors on, whatever else it does then.
  | passes {α β : Type} {x : Run σ α} {y : Run σ β} {w : World σ}
      (inside : ComesTo step here x w false)
      (on : ∀ e w', x w = .error (.raised e) w' → ∃ w'', y w = .error (.raised e) w'') :
      ComesTo step here y w false
  | guarded {x : Run σ Value} {w : World σ} (inside : ComesTo step here x w false) :
      ComesTo step here (Actions.guarded x) w true
  | unwrapped {x : Run σ Value} {w : World σ} {around : Bool}
      (inside : ComesTo step here x w around) : ComesTo step here (Engine.unwrapped x) w false

-- How a run ends over an error.
inductive Run.Ended (e : Failure) : Bool → EStateM.Result Fault (World σ) α → Prop where
  | bare (w : World σ) : Ended e false (.error (.raised e) w)
  | around {cause : Value} {w : World σ} (object : w.store.get? cause = some (.failure e)) :
      Ended e true (.error (.raised (Actions.visitError cause)) w)

namespace Run

theorem Ended.bind {e : Failure} {around : Bool} {x : Run σ α} {w : World σ}
    (h : Ended e around (x w)) (f : α → Run σ β) : Ended e around ((x >>= f) w) := by
  rw [bind_apply]
  generalize x w = r at h
  cases h with
  | bare w' => exact .bare w'
  | around object => exact .around object

theorem Ended.eq_error {e : Failure} {r : EStateM.Result Fault (World σ) α}
    (h : Ended e false r) : ∃ w, r = .error (.raised e) w := by
  cases h with
  | bare w => exact ⟨w, rfl⟩

-- By induction on the way to the step.
theorem ComesTo.ended {step : Run σ Value} {here here' : World σ} {e : Failure}
    (hstep : step here = .error (.raised e) here') (hwraps : Actions.wraps e = true)
    (hplain : e.isA .visitError = false) {x : Run σ α} {w : World σ} {around : Bool}
    (h : ComesTo step here x w around) :
    Ended e around (x w) := by
  induction h with
  | here =>
      rw [hstep]
      exact .bare here'
  | first f _ ih => exact ih.bind f
  | next done _ ih =>
      rw [bind_apply, done]
      exact ih
  | passes _ on ih =>
      obtain ⟨w', hx⟩ := ih.eq_error
      obtain ⟨w'', hy⟩ := on e w' hx
      rw [hy]
      exact .bare w''
  | guarded _ ih =>
      obtain ⟨w', hx⟩ := ih.eq_error
      rw [Actions.guarded, bind_apply, attempt_apply, hx]
      simp only [hwraps, if_true]
      exact .around (Store.get?_alloc_here w'.store (.failure e))
  | @unwrapped x w _ _ ih =>
      generalize hx : x w = r at ih
      rw [Engine.unwrapped, bind_apply, attempt_apply, hx]
      cases ih with
      | bare w' =>
          simp only [hplain]
          exact .bare w'
      | @around cause w' object =>
          have hclass : (Actions.visitError cause).isA .visitError = true := rfl
          have hcause : Engine.causeOf w'.store (Actions.visitError cause) = e := by
            have hfield : (Actions.visitError cause).field? "orig_exc" = some cause := rfl
            rw [Engine.causeOf, hfield, Option.getD_some, object]
          dsimp only
          rw [if_pos hclass, bind_apply, store_apply]
          dsimp only
          rw [hcause]
          exact .bare w'

theorem ComesTo.mapM {ι : Type} {step : Run σ Value} {here : World σ} {f : ι → Run σ α}
    {before : List ι} {i : ι} {done : List α} {w w' : World σ} {around : Bool}
    (hdone : before.mapM f w = .ok done w') (h : ComesTo step here (f i) w' around)
    (after : List ι) : ComesTo step here ((before ++ i :: after).mapM f) w around := by
  induction before generalizing done w with
  | nil =>
      cases hdone
      rw [List.nil_append, List.mapM_cons]
      exact h.first _
  | cons j before ih =>
      obtain ⟨_, _, _, -, hfirst, hrest⟩ := ok_of_mapM_cons hdone
      rw [List.cons_append, List.mapM_cons]
      exact .next hfirst ((ih hrest).first _)

end Run

open Run (ComesTo)

section

variable {step : Run σ Value} {here : World σ} {a : Actions σ} {util v data : Value} {place : Place}
  {w w' : World σ} {around : Bool} {depth : Nat}

-- A transformer comes to what the actions for a tree below come to, once those before it are done.
theorem Actions.transformWithin_below {before after done : List Value} {child : Value}
    (hv : w.store.get? v = some (.tree data (before ++ child :: after) place))
    (hdone : before.mapM (transformWithin a util depth) w = .ok done w')
    (h : ComesTo step here (transformWithin a util depth child) w' around) :
    ComesTo step here (transformWithin a util (depth + 1) v) w around := by
  unfold transformWithin
  refine .next (Run.object?_apply v w) ?_
  rw [hv]
  exact (ComesTo.mapM hdone h after).first _

-- It comes to what the method for a rule comes to, once the children are done.
theorem Actions.transformWithin_method {children done : List Value} {rule : String}
    {method : Method σ} (hv : w.store.get? v = some (.tree data children place))
    (hdone : children.mapM (transformWithin a util depth) w = .ok done w')
    (hdata : w'.store.text? data = some rule) (hmethod : a.method? util rule = some method)
    (h : ComesTo step here (method.onTree done v) w' false) :
    ComesTo step here (transformWithin a util (depth + 1) v) w true := by
  have hfound : methodFor a util data w' = .ok (some method) w' := by
    rw [methodFor, Run.bind_apply, Run.store_apply]
    dsimp only
    rw [hdata, ← hmethod]
    rfl
  unfold transformWithin
  refine .next (Run.object?_apply v w) ?_
  rw [hv]
  exact .next hdone (.next hfound (.guarded h))

-- A parser comes to what the actions over the tree of its engine come to.
theorem Engine.parser_comesTo {engine : Engine σ} {text options tree : Value} {children : List Value}
    {w₁ w₂ : World σ}
    (hengine : engine text
      (Options.get w.store ((w.store.entries? options).getD []) "start_rule") w = .ok tree w₁)
    (hutil : helpersOf w₁.store ((w.store.entries? options).getD []) w₁ = .ok util w₂)
    (htree : w₂.store.get? tree = some (.tree data children place))
    (h : ComesTo step here (a.transform util tree)
      { w₂ with
        log := .running a.name ((w₂.store.inspect data).toOption.getD "") :: w₂.log } around) :
    ComesTo step here ((engine.parser (some a)).run text options) w false := by
  have hdata : w₂.store.requirePart tree "data" = .ok data := by
    simp [Store.requirePart, Store.part?, htree]
  exact .next (Run.store_apply w) (.next hengine (.next (Run.store_apply w₁) (.next hutil
    (.next (Run.inspect_ok hdata) (.next (Run.store_apply w₂) (.next rfl (.unwrapped h)))))))

end

-- An action unrolls by the helpers: they make an unroller for a place, and that is called.
def Helpers.unrolled (host : Host σ) (util : Value) (location : Location) (args : List Value) :
    Run σ Value := do
  let unroller ← Helpers.unroller util location
  call host unroller args

theorem unrollFailure_placed (kind : String) (start : Point) :
    (unrollFailure .grammarError kind start).Placed "invalid list argument for unrolling" kind "list"
      start.line start.column start.offset where
  message := rfl
  found := rfl
  expected := rfl
  line := rfl
  column := rfl
  offset := by
    have hoffset : Details.field (unrollFailure .grammarError kind start) "offset" = start.offset := rfl
    have hother : Details.field (unrollFailure .grammarError kind start) "pos_in_stream" = .null := rfl
    rw [hoffset, hother, Details.firstOf]
    split
    · next hnull => exact hnull.symm
    · rfl
  location := rfl

theorem Helpers.unroller_apply {util builder errorClass : Value} {w : World σ}
    (hutil : w.store.get? util = some (.helpers builder errorClass)) (location : Location) :
    (Helpers.unroller util location : Run σ Value) w = makeUnroller location errorClass w := by
  rw [Helpers.unroller, Run.bind_apply, Helpers.parts, Run.bind_apply, Run.object?_apply, hutil]
  rfl

-- The call asks the accessor, and fails in the world that it leaves.
theorem Helpers.unrolled_noList {host : Host σ} {util builder first items take : Value}
    {location : Location} {args : List Value} {start : Point} {called located : World σ}
    (hutil : called.store.get? util = some (.helpers builder (.errorClass .grammarError)))
    (hargs : Unrolls args first items take) :
    let made := (Helpers.unroller util location : Run σ Value).after called
    made.store.list? items = none → (locate host location).StartsAt made start located →
      Helpers.unrolled host util location args called =
        .error (.raised (unrollFailure .grammarError (made.store.className items) start))
          located := by
  intro made hitems hstarts
  let unroller : Object := .function (.unroller location (.errorClass .grammarError))
  have hmake : (Helpers.unroller util location : Run σ Value) called =
      .ok (called.store.alloc unroller).1
        { called with store := (called.store.alloc unroller).2 } := by
    rw [Helpers.unroller_apply hutil]
    rfl
  have hmade : made = { called with store := (called.store.alloc unroller).2 } :=
    Run.after_ok hmake
  have hobject : made.store.get? (called.store.alloc unroller).1 = some unroller := by
    rw [hmade]
    exact Store.get?_alloc_here called.store unroller
  rw [Helpers.unrolled, Run.bind_apply, hmake]
  dsimp only
  rw [← hmade, call_unroller host hobject hargs, unroll_noList hitems, Run.bind_apply,
    hstarts.startOf_eq]
  exact (told_unroll _ _ start located).located .grammarError rfl rfl

-- An action that unrolls what is no list makes the parse fail where the place of the match starts,
-- and nothing else comes of it: the call has changed nothing when it fails.
theorem parse_unrolled {p : Parser σ} {host : Host σ} {text options : Value} {source : String}
    {given : List (Value × Value)} {classes : List ErrorClass} {w : World σ}
    (htext : w.store.text? text = some source) (hoptions : Options.Valid w.store options given)
    (hkeys : ∀ e ∈ given, w.store.Stands e.1)
    (hclasses : Outcome.Advertises w.store p.syntaxError classes) :
    ∃ prepared s₁, Gives (Options.prepare options : Run σ Value) w.store prepared s₁ ∧
      w.store.Extends s₁ ∧
      let asked : World σ :=
        { w with store := s₁, log := Outcome.announcement s₁ text prepared :: w.log }
      let util := Options.get s₁ ((s₁.entries? prepared).getD []) "util"
      let ended := (p.run text prepared).after asked
      ∀ location args first items take start called located,
        Run.ComesTo (Helpers.unrolled host util location args) called (p.run text prepared) asked
          false →
        called.store.get? util = s₁.get? util →
        Unrolls args first items take →
        let made := (Helpers.unroller util location : Run σ Value).after called
        made.store.list? items = none → (locate host location).StartsAt made start located →
        (Helpers.unrolled host util location args).after called = located ∧
        ∃ (line column offset : Nat) (note : LogEntry),
          Details.Measured start.line line ∧ Details.Measured start.column column ∧
          Details.Measured start.offset offset ∧
          parse (.parser p) text options w = .ok ⟨.null, some
            { message := .text "invalid list argument for unrolling"
              line := .int line
              column := .int column
              offset := .int offset
              found := .text (made.store.className items)
              expected := .text "list"
              location := Excerpt.around source offset }⟩
            { ended with log := note :: ended.log } := by
  obtain ⟨builder, s₀, hbuilder, h₀⟩ := asBuilder_extends (σ := σ) hoptions.builder
  obtain ⟨prepared, s₁, util, hprepare, h₁, hutil, hprepared⟩ :=
    Options.prepare_builder hoptions hkeys hbuilder h₀
  refine ⟨prepared, s₁, hprepare, h₀.trans h₁, ?_⟩
  intro asked found ended location args first items take start called located hcomes hkept hargs made
    hitems hstarts
  have hfound : found = util := hprepared.util s₁ (.refl s₁)
  have hhelpers : called.store.get? found = some (.helpers builder (.errorClass .grammarError)) := by
    rw [hkept, hfound, hutil]
  have hcall := Helpers.unrolled_noList hhelpers hargs hitems hstarts
  let e := unrollFailure .grammarError (made.store.className items) start
  have hended : Run.Ended e false (p.run text prepared asked) := hcomes.ended hcall rfl rfl
  refine ⟨Run.after_error hcall, ?_⟩
  obtain ⟨w₂, hasked⟩ := hended.eq_error
  have hafter : ended = w₂ := Run.after_error hasked
  have hdetails := Details.ofFailure_placed w₂.store
    (unrollFailure_placed (made.store.className items) start)
  have hclass : (ErrorClass.grammarError :: classes).any e.isA = true := by
    rw [List.any_cons, Bool.or_eq_true]
    exact .inl rfl
  have hproper : ¬(ErrorClass.grammarError.isA .invalidArgument = true ∨
      ErrorClass.grammarError.isA .notFound = true) := by decide
  obtain ⟨note, hclassified⟩ :=
    (Outcome.ofFailure_recognised (e := e) w₂ hproper hclass).1 _ hdetails
  obtain ⟨-, hparse⟩ := parse_prepared htext hprepare (h₀.trans h₁) hclasses
  refine ⟨_, _, _, note, Details.measured_positionOrZero _, Details.measured_positionOrZero _,
    Details.measured_positionOrZero _, ?_⟩
  rw [hparse e w₂ hasked, Run.map_apply, hclassified, hafter]
  rfl

-- An accessor that gives a line which is no number, a column that is negative, and an offset.
private def astray : Host Unit where
  call := fun _ _ => pure .null
  build := fun _ _ _ => pure .null
  locate := fun _ => do
    let first ← Run.alloc (.position (.bool true) (.int (-3)) (.int 2))
    Run.alloc (.span first first)

-- For a name, what is unrolled is its token.
private def unrollsNames : Actions Unit where
  name := "UnrollsNames"
  method? := fun util rule =>
    if rule = "name" then
      some (.plain fun _ => Helpers.unrolled astray util (.accessor 0) [.text "a", .ref 0])
    else none
  fallback := fun _ _ _ _ => pure .null

private def oneName : World Unit where
  store := ⟨#[.token "NAME" "ab" {}, .tree (.text "name") [.ref 0] {},
    .tree (.text "names") [.null, .ref 1] {}]⟩
  log := []
  client := ()

private def givesNames : Engine Unit := fun _ _ => pure (.ref 2)

private theorem comesTo_name {w : World Unit} (h : oneName.store.Extends w.store) (util : Value)
    (depth : Nat) :
    ComesTo (Helpers.unrolled astray util (.accessor 0) [.text "a", .ref 0])
      { w with store := (w.store.alloc (.list [.ref 0])).2 }
      (unrollsNames.transformWithin util (depth + 3) (.ref 2)) w true := by
  have htoken : ([.ref 0] : List Value).mapM (unrollsNames.transformWithin util (depth + 1)) w =
      .ok [.ref 0] w := by
    have hobject : w.store.get? (.ref 0) = some (.token "NAME" "ab" {}) := h _ _ rfl
    rw [List.mapM_cons, Run.bind_apply, Actions.transformWithin, Run.bind_apply,
      Run.object?_apply, hobject]
    rfl
  have hname : ComesTo (Helpers.unrolled astray util (.accessor 0) [.text "a", .ref 0])
      { w with store := (w.store.alloc (.list [.ref 0])).2 }
      (unrollsNames.transformWithin util (depth + 2) (.ref 1)) w true :=
    Actions.transformWithin_method (h _ _ rfl) htoken rfl rfl (.next rfl .here)
  have habsent : ([.null] : List Value).mapM (unrollsNames.transformWithin util (depth + 2)) w =
      .ok [.null] w := rfl
  exact Actions.transformWithin_below (h _ _ rfl) habsent hname

-- An optional part that is left out comes ahead of the name.
theorem parse_unrolled_name : ∃ w',
    parse (.parser (givesNames.parser (some unrollsNames))) (.text "x ab") .null oneName =
      .ok ⟨.null, some ⟨.text "invalid list argument for unrolling", .int 0, .int 0, .int 2,
        .text "Token", .text "list", Excerpt.around "x ab" 2⟩⟩ w' := by
  have htext : oneName.store.text? (.text "x ab") = some "x ab" := rfl
  have hoptions : Options.Valid oneName.store .null [] := ⟨rfl, .inl rfl, .inl rfl⟩
  obtain ⟨prepared, s₁, hprepare, hext, hparse⟩ :=
    @parse_unrolled Unit (givesNames.parser (some unrollsNames)) astray _ _ _ _ _ _ htext hoptions
      (by simp) (.one _)
  have hconcrete : (Options.prepare .null : Run Unit Value) oneName = .ok _ _ := rfl
  have hprepared := hprepare oneName rfl
  rw [hconcrete] at hprepared
  cases hprepared
  obtain ⟨-, line, column, offset, note, hline, hcolumn, hoffset, hparsed⟩ :=
    hparse (.accessor 0) [.text "a", .ref 0] (.text "a") (.ref 0) .null
      ⟨.bool true, .int (-3), .int 2⟩ _ _
      (Engine.parser_comesTo rfl rfl rfl (.next rfl (comesTo_name hext _ 4)))
      rfl (.whole _ _) rfl ⟨_, _, _, rfl, rfl, rfl⟩
  obtain rfl := hline.positionOrZero_eq
  obtain rfl := hcolumn.positionOrZero_eq
  obtain rfl := hoffset.positionOrZero_eq
  exact ⟨_, hparsed⟩

end ParseKit
