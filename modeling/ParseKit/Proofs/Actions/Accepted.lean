import ParseKit.Proofs.Actions.Engine
import ParseKit.Proofs.Actions.Generic
import ParseKit.Proofs.Outcome.Report
import ParseKit.Proofs.Store.Entries

namespace ParseKit

variable {σ : Type}

open Run (Gives)

namespace Store

-- An atom, or a reference to something that is there.
def Stands (s : Store) (v : Value) : Prop := ∀ id, v = .ref id → s.get? v ≠ none

theorem Extends.text?_eq {s s' : Store} (h : s.Extends s') {v : Value} (hv : s.Stands v) :
    s'.text? v = s.text? v := by
  cases v with
  | ref id =>
      obtain ⟨o, ho⟩ := Option.ne_none_iff_exists'.mp (hv id rfl)
      simp only [Store.text?, ho, h _ _ ho]
  | _ => rfl

-- Keys equal a plain text by their characters alone.
theorem same_text (s : Store) (v : Value) (t : String) :
    s.same v (.text t) = (s.text? v == some t) := by
  have htext : s.isText (.text t) = true := rfl
  rw [same, sameAt, htext, Bool.or_true, if_pos rfl]
  by_cases hv : v = .text t
  · subst hv
    simp [text?]
  · have htype : s.tokenType? (.text t) = none := rfl
    have hchars : s.text? (.text t) = some t := rfl
    simp only [beq_iff_eq, hv, if_false, sameText, htype, hchars, Bool.and_eq_left_iff_imp]
    intro
    split <;> simp_all

theorem Extends.lookup?_insert {s s' : Store} (h : s.Extends s')
    {entries : List (Value × Value)} (hkeys : ∀ e ∈ entries, s.Stands e.1) (key : String)
    (value : Value) :
    s'.lookup? (s.insert entries (.text key) value) (.text key) = some value := by
  induction entries with
  | nil => simp [insert, lookup?, same_refl]
  | cons e rest ih =>
      have hsame : s'.same e.1 (.text key) = s.same e.1 (.text key) := by
        rw [same_text, same_text, h.text?_eq (hkeys e (by simp))]
      have hrest := ih fun e he => hkeys e (by simp [he])
      by_cases hfound : s.same e.1 (.text key) = true
      · rw [insert, if_pos hfound]
        simp [lookup?, hsame, hfound]
      · rw [insert, if_neg hfound]
        simpa [lookup?, hsame, hfound] using hrest

theorem Extends.lookup?_eq {s s' : Store} (h : s.Extends s') {entries : List (Value × Value)}
    (hkeys : ∀ e ∈ entries, s.Stands e.1) (name : String) :
    s'.lookup? entries (.text name) = s.lookup? entries (.text name) := by
  induction entries with
  | nil => rfl
  | cons e rest ih =>
      have hsame : s'.same e.1 (.text name) = s.same e.1 (.text name) := by
        rw [same_text, same_text, h.text?_eq (hkeys e (by simp))]
      have hrest := ih fun e he => hkeys e (by simp [he])
      simp only [lookup?, List.find?_cons, hsame] at hrest ⊢
      cases s.same e.1 (.text name) with
      | true => rfl
      | false => exact hrest

-- An entry under one text is not seen under another one.
theorem lookup?_insert_ne (s : Store) (entries : List (Value × Value)) {key name : String}
    (hne : key ≠ name) (value : Value) :
    s.lookup? (s.insert entries (.text key) value) (.text name) =
      s.lookup? entries (.text name) := by
  have hkey : ∀ u, s.same u (.text key) = true → s.same u (.text name) = false := by
    intro u hu
    rw [same_text, beq_iff_eq] at hu
    simpa [same_text, hu] using hne
  induction entries with
  | nil =>
      have hnew : s.same (.text key) (.text name) = false := hkey _ (s.same_refl _)
      simp [insert, lookup?, hnew]
  | cons e rest ih =>
      by_cases hfound : s.same e.1 (.text key) = true
      · simp [insert, lookup?, hfound, hkey _ hfound]
      · rw [insert, if_neg hfound]
        simp only [lookup?, List.find?_cons] at ih ⊢
        cases s.same e.1 (.text name) with
        | true => rfl
        | false => exact ih

end Store

-- What parsers find in options that have been prepared, as long as they keep what is there: the
-- helpers, and everything else that was given.
structure Options.Prepared (s : Store) (given : List (Value × Value)) (s' : Store)
    (prepared util : Value) : Prop where
  util : ∀ s'', s'.Extends s'' → get s'' ((s'.entries? prepared).getD []) "util" = util
  others : ∀ s'', s'.Extends s'' → ∀ name, name ≠ "util" →
    get s'' ((s'.entries? prepared).getD []) name = get s given name

-- Options are prepared with helpers for the builder that they name.
theorem Options.prepare_builder {s s₀ : Store} {options builder : Value}
    {given : List (Value × Value)} (h : Valid s options given) (hkeys : ∀ e ∈ given, s.Stands e.1)
    (hbuilder : Gives (asBuilder (get s given "make_ast") : Run σ Value) s builder s₀)
    (h₀ : s.Extends s₀) :
    ∃ prepared s' util, Gives (prepare options : Run σ Value) s prepared s' ∧ s₀.Extends s' ∧
      s'.get? util = some (.helpers builder (.errorClass .grammarError)) ∧
      Prepared s given s' prepared util := by
  let made : Object := .helpers builder (.errorClass .grammarError)
  let util := (s₀.alloc made).1
  let s₁ := (s₀.alloc made).2
  let entries := s₁.insert given (.text "util") util
  let merged : Object := .dict (.ofEntries entries)
  let s₂ := (s₁.alloc merged).2
  have h₁ : s₀.Extends s₁ := .alloc s₀ made
  have h₂ : s₁.Extends s₂ := .alloc s₁ merged
  have hrule : checkStartRule s given = .ok () := if_pos h.startRule
  have hhelpers : Gives (Helpers.create (get s given "make_ast") : Run σ Value) s util s₁ :=
    hbuilder.bind (.alloc made s₀)
  have hentries : s₂.entries? (s₁.alloc merged).1 = some entries := by
    unfold Store.entries?
    rw [Store.get?_alloc_here]
    rfl
  have hstand : ∀ e ∈ given, s₁.Stands e.1 := by
    intro e he id hid hnone
    exact hkeys e he id hid ((h₀.trans h₁).get?_eq_none hnone)
  have hmerged : ∀ e ∈ entries, s₁.Stands e.1 := by
    intro e he
    rcases (Store.mem_insert he).1 with hkey | ⟨old, hold, hkey⟩
    · rintro id hid
      rw [hkey] at hid
      cases hid
    · rw [hkey]
      exact hstand old hold
  refine ⟨(s₁.alloc merged).1, s₂, util, (Gives.inspect h.entries).bind ((Gives.inspect hrule).bind
    ((Gives.store s).bind (hhelpers.bind ((Gives.store s₁).bind (.alloc merged s₁))))),
    h₁.trans h₂, h₂ _ _ (Store.get?_alloc_here s₀ made), ?_, ?_⟩
  · intro s'' h''
    rw [hentries, Option.getD_some, get, (h₂.trans h'').lookup?_insert hstand, Option.getD_some]
  · intro s'' h'' name hname
    rw [hentries, Option.getD_some, get, (h₂.trans h'').lookup?_eq hmerged,
      Store.lookup?_insert_ne s₁ given hname.symm, (h₀.trans h₁).lookup?_eq hkeys, ← get]

-- Without a builder of its own, a parse has helpers that use the standard one.
theorem Options.prepare_standard {s : Store} {options : Value} {given : List (Value × Value)}
    (h : Valid s options given) (hbuilder : get s given "make_ast" = .null)
    (hkeys : ∀ e ∈ given, s.Stands e.1) :
    ∃ prepared s' util builder, Gives (prepare options : Run σ Value) s prepared s' ∧
      s.Extends s' ∧ s'.get? util = some (.helpers builder (.errorClass .grammarError)) ∧
      s'.get? builder = some (.builder .standard) ∧ Prepared s given s' prepared util := by
  let standard : Object := .builder .standard
  have hnull : Gives (asBuilder (get s given "make_ast") : Run σ Value) s (s.alloc standard).1
      (s.alloc standard).2 := by
    rw [hbuilder]
    exact .alloc standard s
  have hext : s.Extends (s.alloc standard).2 := .alloc s standard
  obtain ⟨prepared, s', util, hprepare, h', hutil, hprepared⟩ := prepare_builder h hkeys hnull hext
  exact ⟨prepared, s', util, _, hprepare, hext.trans h', hutil,
    h' _ _ (Store.get?_alloc_here s standard), hprepared⟩

namespace Actions

-- Terminals have names without lower case letters, and rules of the grammar have names that stand
-- for nothing else in actions for any grammar.
def Named (host : Host σ) (name : String) : Prop :=
  name.toList.any Char.isLower = false ∨ ∀ util, (generic host).method? util name = none

theorem method?_of_named {host : Host σ} {name : String} (h : Named host name) (util : Value) :
    (generic host).method? util name = none := by
  rcases h with hterminal | hrule
  · change inherited? host "GenericActions" "GenericActions" util name = none
    unfold inherited?
    -- each of the names in the list has a lower case letter
    split <;> first | rfl | exact absurd hterminal (by decide)
  · exact hrule util

-- A tree becomes a node of its type, at its start.
theorem transform_tree (host : Host σ) {util builder errorClass tree data : Value}
    {children : List Value} {place : Place} {outline : Forest Heading} {w : World σ}
    (hutil : w.store.get? util = some (.helpers builder errorClass))
    (hbuilder : w.store.get? builder = some (.builder .standard))
    (htree : w.store.get? tree = some (.tree data children place))
    (houtline : w.store.Outlined (Named host) [tree] outline) :
    ∃ root heading below w', outline = .cons heading below .nil ∧
      transform (generic host) util tree w = .ok root w' ∧
      w'.store.WellFormed root ∧ w'.store.heading? root = some heading := by
  have hallowed := houtline.weaken fun name h => method?_of_named h util
  cases houtline with
  | absent => cases htree
  | token object => cases object.symm.trans htree
  | @tree _ _ _ _ below _ _ _ heading _ _ _ _ _ rest =>
      cases rest
      obtain ⟨root, inner, s', hrun, himages⟩ := transform_images host hutil hbuilder hallowed
      have hheadings := himages.headings
      simp only [Forest.map, Forest.cons.injEq] at hheadings
      exact ⟨root, heading, below, _, rfl, hrun w rfl,
        himages.wellFormed root (by simp [Forest.labels]), hheadings.1⟩

end Actions

-- A text for which the grammar engine gives a tree is parsed to a node. A bare token, which an
-- engine gives where the start rule stands for one terminal, is taken for a tree as well, and the
-- text is reported as one that cannot be parsed.
theorem parse_accepted {engine : Engine σ} {host : Host σ} {text options : Value} {source : String}
    {given : List (Value × Value)} {w : World σ} (htext : w.store.text? text = some source)
    (hoptions : Options.Valid w.store options given)
    (hbuilder : Options.get w.store given "make_ast" = .null)
    (hkeys : ∀ e ∈ given, w.store.Stands e.1) :
    ∃ prepared s₁, Gives (Options.prepare options : Run σ Value) w.store prepared s₁ ∧
      w.store.Extends s₁ ∧
      let asked : World σ :=
        { w with store := s₁, log := Outcome.announcement s₁ text prepared :: w.log }
      let entries := (s₁.entries? prepared).getD []
      let parsed := parse (.parser (engine.parser (some (Actions.generic host)))) text options w
      ∀ v w₁ outline,
        engine text (Options.get s₁ entries "start_rule") asked = .ok v w₁ →
        s₁.Extends w₁.store → w₁.store.Outlined (Actions.Named host) [v] outline →
        (∀ data children place, w₁.store.get? v = some (.tree data children place) →
          ∃ root heading below w₂, outline = .cons heading below .nil ∧
            parsed = .ok ⟨root, none⟩ w₂ ∧ w₂.store.WellFormed root ∧
            w₂.store.heading? root = some heading) ∧
        ∀ type content place, w₁.store.get? v = some (.token type content place) →
          ∃ note, parsed =
            .ok ⟨.null, some { message := .text "'Token' object has no attribute 'data'" }⟩
              { w₁ with log := note :: w₁.log } := by
  obtain ⟨prepared, s₁, util, builder, hprepare, hext, hutil, hstandard, hfound⟩ :=
    Options.prepare_standard (σ := σ) hoptions hbuilder hkeys
  refine ⟨prepared, s₁, hprepare, hext, ?_⟩
  intro asked entries parsed v w₁ outline hengine h₁ houtline
  have hclass : Outcome.Advertises w.store (.errorClass .unexpectedInput) [.unexpectedInput] :=
    .one _
  obtain ⟨hok, herror⟩ := parse_prepared (p := engine.parser (some (Actions.generic host))) htext
    hprepare hext hclass
  have hhelpers : Engine.helpersOf w₁.store entries w₁ = .ok util w₁ :=
    Engine.helpersOf_given (hfound.util _ h₁) (h₁ _ _ hutil) w₁
  constructor
  · intro data children place htree
    have hrun := Engine.parser_run (a := Actions.generic host) hengine hhelpers htree
    let note : LogEntry :=
      .running (Actions.generic host).name ((w₁.store.inspect data).toOption.getD "")
    obtain ⟨root, heading, below, w₂, hshape, hroot, hwell, hheading⟩ :=
      Actions.transform_tree (w := { w₁ with log := note :: w₁.log }) host (h₁ _ _ hutil)
        (h₁ _ _ hstandard) htree houtline
    have hvalue := hrun.trans (Engine.unwrapped_ok hroot)
    exact ⟨root, heading, below, w₂, hshape, hok root w₂ hvalue, hwell, hheading⟩
  · intro type content place htoken
    let e : Failure := .message .attributeError "'Token' object has no attribute 'data'"
    have hdata : w₁.store.requirePart v "data" = .error e := by
      have hnone : w₁.store.part? v "data" = none := by
        simp [Store.part?, htoken, Place.field?]
      rw [Store.requirePart, hnone]
      cases v with
      | ref id => simp [e, Store.missingPart, Store.kindName, Store.className, htoken]
      | _ => cases htoken
    have hrun := Engine.parser_run_headless (a := Actions.generic host) hengine hhelpers hdata
    have hparsed : parsed = _ := herror _ _ hrun
    obtain ⟨note, hnote⟩ := (Outcome.reports_ofFailure source e w₁).other (by decide) (by decide)
      rfl _ (Store.failureText_message w₁.store _ _ rfl)
    exact ⟨note, hparsed.trans hnote⟩

private def still : Host Unit where
  call := fun _ _ => pure .null
  build := fun _ _ _ => pure .null
  locate := fun _ => pure .null

-- A word, on its own and below the rule for words.
private def words : World Unit where
  store := ⟨#[.token "WORD" "abc" {}, .tree (.text "word") [.ref 0] {}]⟩
  log := []
  client := ()

private def givesWord (inlined : Bool) : Engine Unit := fun _ _ =>
  pure (.ref (if inlined then 0 else 1))

-- The engine accepts the word in both cases.
theorem parse_accepted_word :
    (∃ root w', parse (.parser ((givesWord false).parser (some (Actions.generic still))))
      (.text "abc") .null words = .ok ⟨root, none⟩ w' ∧
      w'.store.heading? root = some ⟨"word", 0, 0, 0⟩) ∧
    ∃ w', parse (.parser ((givesWord true).parser (some (Actions.generic still))))
      (.text "abc") .null words =
        .ok ⟨.null, some { message := .text "'Token' object has no attribute 'data'" }⟩ w' := by
  have htext : words.store.text? (.text "abc") = some "abc" := rfl
  have hoptions : Options.Valid words.store .null [] := ⟨rfl, .inl rfl, .inl rfl⟩
  have hnames : Actions.Named still "WORD" := .inl (by decide)
  have hrule : Actions.Named still "word" := .inr fun _ => rfl
  constructor
  · obtain ⟨prepared, s₁, -, hext, hparse⟩ :=
      @parse_accepted Unit (givesWord false) still _ _ _ _ _ htext hoptions rfl (by simp)
    have houtline : s₁.Outlined (Actions.Named still) [.ref 1]
        (.cons ⟨"word", 0, 0, 0⟩ .nil .nil) :=
      .tree (hext _ _ rfl) rfl hrule rfl (.token (hext _ _ rfl) hnames .nil) .nil
    obtain ⟨htree, -⟩ := hparse _ _ _ rfl (.refl s₁) houtline
    obtain ⟨root, heading, below, w', hshape, hparsed, -, hheading⟩ :=
      htree _ _ _ (hext (.ref 1) _ rfl)
    cases hshape
    exact ⟨root, w', hparsed, hheading⟩
  · obtain ⟨prepared, s₁, -, hext, hparse⟩ :=
      @parse_accepted Unit (givesWord true) still _ _ _ _ _ htext hoptions rfl (by simp)
    have houtline : s₁.Outlined (Actions.Named still) [.ref 0] .nil :=
      .token (hext _ _ rfl) hnames .nil
    obtain ⟨-, htoken⟩ := hparse _ _ _ rfl (.refl s₁) houtline
    obtain ⟨note, hparsed⟩ := htoken _ _ _ (hext (.ref 0) _ rfl)
    exact ⟨_, hparsed⟩

end ParseKit
