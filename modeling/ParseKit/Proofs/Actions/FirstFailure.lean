import ParseKit.Proofs.Actions.Engine
import ParseKit.Proofs.Actions.Order
import ParseKit.Proofs.Outcome.Report

namespace ParseKit

variable {σ : Type}

open Run (Gives)

-- The actions of a parse tree are called from the bottom up and from left to right. If all of them
-- succeed, the last result is the result of the parse. Otherwise the parse goes as if the parser
-- had ended with the error of the first action that fails, wherever in the tree that is, and be it
-- that the transformer puts another error around it or not.
theorem parse_firstFailure {engine : Engine σ} {a : Actions σ} {text options : Value}
    {source : String} {given : List (Value × Value)} {w : World σ}
    (htext : w.store.text? text = some source) (hoptions : Options.Valid w.store options given)
    (hkeeps : ∀ util, a.KeepsTrees util) :
    ∃ prepared s₁, Gives (Options.prepare options : Run σ Value) w.store prepared s₁ ∧
      w.store.Extends s₁ ∧
      let asked : World σ :=
        { w with store := s₁, log := Outcome.announcement s₁ text prepared :: w.log }
      let entries := (s₁.entries? prepared).getD []
      let parsed := parse (.parser (engine.parser (some a))) text options w
      ∀ tree data children place w₁ order,
        engine text (Options.get s₁ entries "start_rule") asked = .ok tree w₁ →
        w₁.store.get? tree = some (.tree data children place) →
        w₁.store.BottomUp [tree] order →
        ∃ util w₂ note, Engine.helpersOf w₁.store entries w₁ = .ok util w₂ ∧
          let begun : World σ := { w₂ with log := note :: w₂.log }
          (∀ results w₃, order.foldlM (a.visit util) [] begun = .ok results w₃ →
            ∃ v, results = [v] ∧ parsed = .ok ⟨v, none⟩ w₃) ∧
          ∀ before part after results w₃ e w₄, order = before ++ part :: after →
            before.foldlM (a.visit util) [] begun = .ok results w₃ →
            a.act util (results.take part.arity).reverse part w₃ = .error (.raised e) w₄ →
            e.isA .visitError = false →
            ∃ s₅, w₄.store.Extends s₅ ∧ Outcome.Reports source e { w₄ with store := s₅ } parsed ∧
              ∀ p : Parser σ, p.syntaxError = .errorClass .unexpectedInput →
                p.run text prepared asked = .error (.raised e) { w₄ with store := s₅ } →
                parse (.parser p) text options w = parsed := by
  obtain ⟨prepared, s₁, hprepare, hext⟩ := Options.prepare_gives (σ := σ) hoptions
  refine ⟨prepared, s₁, hprepare, hext, ?_⟩
  intro asked entries parsed tree data children place w₁ order hengine htree horder
  have hclass : Outcome.Advertises w.store (.errorClass .unexpectedInput) [.unexpectedInput] :=
    .one _
  obtain ⟨hok, herror⟩ := parse_prepared (p := engine.parser (some a)) htext hprepare hext hclass
  obtain ⟨util, s₂, hutil, h₂⟩ := Engine.helpersOf_extends w₁.store entries w₁
  have hrun := Engine.parser_run (a := a) hengine hutil (h₂ _ _ htree)
  refine ⟨util, _, .running a.name ((s₂.inspect data).toOption.getD ""), hutil, ?_⟩
  intro begun
  have hmirrors := Actions.transform_mirrors (w := begun) (hkeeps util)
    (horder.keep h₂.keepsTrees)
  obtain ⟨hresult, hfailure⟩ := Engine.unwrapped_of_mirrors hmirrors
  refine ⟨fun results w₃ hresults => ?_, ?_⟩
  · obtain ⟨v, rfl, hv⟩ := hresult results w₃ hresults
    exact ⟨v, rfl, hok v w₃ (hrun.trans hv)⟩
  · rintro before part after results w₃ e w₄ rfl hbefore hact hplain
    have hvisit : a.visit util results part w₃ = .error (.raised e) w₄ := by
      rw [Actions.visit, Run.bind_apply, hact]
    have hall : (before ++ part :: after).foldlM (a.visit util) [] begun =
        .error (.raised e) w₄ := by
      rw [List.foldlM_append, Run.bind_apply, hbefore]
      dsimp only
      rw [List.foldlM_cons, Run.bind_apply, hvisit]
    obtain ⟨s₅, h₅, he⟩ := hfailure e w₄ hall hplain
    have hparsed : parsed = _ := herror e _ (hrun.trans he)
    refine ⟨s₅, h₅, ?_, fun p hp hasked => ?_⟩
    · rw [hparsed]
      exact Outcome.reports_ofFailure source e _
    · have hadvertised : Outcome.Advertises w.store p.syntaxError [.unexpectedInput] := hp ▸ hclass
      rw [(parse_prepared htext hprepare hext hadvertised).2 e _ hasked, hparsed]

private def tooLong : Failure where
  errorClass := .grammarError
  args := [.text "number too long"]
  fields := [("message", .text "number too long"), ("found", .text "1234"),
    ("expected", .text "3 digits"), ("line", .int 1), ("column", .int 3), ("offset", .int 2)]

-- Actions that take neither long numbers nor sums.
private def strict : Actions Unit where
  name := "Strict"
  method? := fun _ rule =>
    if rule = "number" then some (.plain fun _ => Run.fail tooLong)
    else if rule = "sum" then some (.plain fun _ => Run.raise .zeroDivisionError "no sums")
    else none
  fallback := fun _ _ _ _ => pure .null

private theorem strict_method (util : Value) (rule : String) :
    strict.method? util rule = none ∨
      ∃ e, strict.method? util rule = some (.plain fun _ => Run.fail e) := by
  simp only [strict]
  split
  · exact .inr ⟨_, rfl⟩
  split
  · exact .inr ⟨_, rfl⟩
  · exact .inl rfl

private theorem strict_keepsTrees (util : Value) : strict.KeepsTrees util := by
  intro part children w v w' h
  cases part with
  | absent =>
      cases h
      exact .refl _
  | token u type =>
      rw [Actions.act] at h
      rcases strict_method util type with hnone | ⟨e, hsome⟩
      · rw [hnone] at h
        cases h
        exact .refl _
      · rw [hsome] at h
        cases h
  | tree u data arity =>
      rw [Actions.act, Run.bind_apply, Actions.methodFor, Run.bind_apply, Run.store_apply] at h
      dsimp only at h
      cases hdata : w.store.text? data with
      | none => rw [hdata] at h; cases h
      | some rule =>
          rw [hdata] at h
          dsimp only at h
          rw [Run.pure_apply] at h
          rcases strict_method util rule with hnone | ⟨e, hsome⟩
          · rw [hnone] at h
            cases h
            exact .refl _
          · rw [hsome] at h
            cases h

-- A sum of two numbers with a token each, and of an operand that was left out.
private def longSum : World Unit where
  store := ⟨#[.token "NUMBER" "1234" {}, .tree (.text "number") [.ref 0] {},
    .token "NUMBER" "5678" {}, .tree (.text "number") [.ref 2] {},
    .tree (.text "sum") [.ref 1, .null, .ref 3] {}]⟩
  log := []
  client := ()

private def givesLongSum : Engine Unit := fun _ _ => pure (.ref 4)

-- All three rules fail, and the parse reports the first one.
theorem parse_firstFailure_longSum : ∃ w',
    parse (.parser (givesLongSum.parser (some strict))) (.text "a 1234+5678")
      .null longSum =
      .ok ⟨.null, some ⟨.text "number too long", .int 1, .int 3, .int 2, .text "1234",
        .text "3 digits", Excerpt.around "a 1234+5678" 2⟩⟩ w' := by
  have htext : longSum.store.text? (.text "a 1234+5678") = some "a 1234+5678" := rfl
  have hoptions : Options.Valid longSum.store .null [] := ⟨rfl, .inl rfl, .inl rfl⟩
  have hparses := @parse_firstFailure Unit givesLongSum strict _ _ _ _ _ htext hoptions
    strict_keepsTrees
  obtain ⟨prepared, s₁, -, hext, hparse⟩ := hparses
  have horder : s₁.BottomUp [.ref 4] _ :=
    .tree (hext _ _ rfl) (.tree (hext _ _ rfl) (.token (hext _ _ rfl) .nil) (.absent
      (.tree (hext _ _ rfl) (.token (hext _ _ rfl) .nil) .nil))) .nil
  obtain ⟨util, w₂, note, -, -, hfails⟩ := hparse _ _ _ _ _ _ rfl (hext _ _ rfl) horder
  obtain ⟨s₅, -, hreports, -⟩ := hfails [_] _ _ _ _ tooLong _ rfl rfl rfl rfl
  obtain ⟨note, hparsed⟩ := hreports.located rfl (by decide) "number too long" "1234" "3 digits"
    1 3 2 ⟨rfl, rfl, rfl, rfl, rfl, rfl, rfl⟩
  exact ⟨_, hparsed⟩

end ParseKit
