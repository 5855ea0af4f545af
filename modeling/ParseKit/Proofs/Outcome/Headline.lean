import ParseKit.Proofs.Outcome.Caret
import ParseKit.Proofs.Outcome.Refused
import ParseKit.Proofs.Text.Lines

namespace ParseKit

namespace Details

theorem Headline.single {shown line : List Char} (h : Headline shown line) : '\n' ∉ line := by
  obtain ⟨core, first, -, hfirst, hline⟩ := h.cut
  obtain ⟨after, rfl, -⟩ := hline.blanks
  exact fun hmem => hfirst.single (List.mem_append_left _ hmem)

theorem Completed.single {expected message : String} {line : List Char}
    (h : Completed expected line message) (hline : '\n' ∉ line)
    (hexpected : '\n' ∉ expected.toList) : '\n' ∉ message.toList := by
  cases h with
  | plain => simpa using hline
  | announced => simpa [hexpected] using hline
  | unannounced => simpa using fun hmem => hline (List.mem_append_left _ hmem)

end Details

namespace Diagnostic

-- A diagnostic with a message of one line has three lines.
theorem splitOn_render {d : Details} {message : String} (source : String)
    (hmessage : d.message = .text message) (hsingle : '\n' ∉ message.toList) :
    ∃ rendered first second, (∀ s, (d.diagnostic source).render s true = .ok rendered) ∧
      rendered.splitOn "\n" = [first, second, message] := by
  have hpoints := points_around source d.line d.column d.offset
  set start := heading (toString d.line) (toString d.column) ++
    (Excerpt.around source d.offset).prolog with hstart
  set first := start ++
    ((Excerpt.around source d.offset).token ++ (Excerpt.around source d.offset).epilog) with hfirst
  let second := String.ofList (List.replicate start.length '-') ++ "^"
  have hplain : '\n' ∉ (first ++ second).toList := fun hmem =>
    absurd (hpoints.plain '\n' hmem).1 (by decide)
  rw [String.toList_append, List.mem_append, not_or] at hplain
  refine ⟨"\n".intercalate [first, second, message], first, second, fun s => ?_, ?_⟩
  · have htext : s.text? (d.diagnostic source).message = some message := by
      simp [Details.diagnostic, hmessage, Store.text?]
    rw [render_eq rfl rfl htext]
    simp [String.intercalate_cons_cons, first, second, hstart, Details.diagnostic,
      String.append_assoc]
  · refine Text.splitOn_intercalate (fun line hline => ?_) (by simp)
    simp only [List.mem_cons, List.not_mem_nil, or_false] at hline
    rcases hline with rfl | rfl | rfl
    · exact hplain.1
    · exact hplain.2
    · exact hsingle

end Diagnostic

variable {σ : Type}

open Details in
-- An error without a message of its own gets the first line of what it is shown as, completed by
-- what was expected. If that has no line end, neither has the message, and then the diagnostic is
-- shown as three lines of which the message is the last one.
theorem parse_headline {p : Parser σ} {text options : Value} {source : String} {e : Failure}
    {w w₂ : World σ} (h : p.Refuses text options source e w w₂)
    (hown : w₂.store.isText (field e "message") = false) :
    (Legible w₂.store e ↔ ∃ r w₃, parse (.parser p) text options w = .ok r w₃) ∧
    ∀ r w₃, parse (.parser p) text options w = .ok r w₃ →
      ∃ (d : Diagnostic) (shown expected message : String) (line : List Char),
        r = ⟨.null, some d⟩ ∧ w₂.store.failureText e = .ok shown ∧
        w₃.store.text? d.expected = some expected ∧ Headline shown.toList line ∧
        Completed expected line message ∧ d.message = .text message ∧
        ('\n' ∉ expected.toList → '\n' ∉ message.toList ∧
          ∃ rendered first second, d.render w₃.store true = .ok rendered ∧
            rendered.splitOn "\n" = [first, second, message]) := by
  refine ⟨h.legible_iff, fun r w₃ hr => ?_⟩
  obtain ⟨hstore, d, hd, rfl⟩ := h.parse_ok hr
  obtain ⟨found, -, hd⟩ := bind_eq_ok_iff.mp hd
  obtain ⟨expected, hexpected, hd⟩ := bind_eq_ok_iff.mp hd
  obtain ⟨message, hmessage, hd⟩ := bind_eq_ok_iff.mp hd
  obtain ⟨foundText, -, hd⟩ := bind_eq_ok_iff.mp hd
  obtain ⟨hsaid, hlisted⟩ : d.message = message ∧ d.expected = expected := by
    cases hd
    exact ⟨rfl, rfl⟩
  obtain ⟨t, ht⟩ := Option.isSome_iff_exists.mp (isText_of_written (written_textOf hexpected))
  rw [messageOf, if_neg (by simp [hown]), ht] at hmessage
  obtain ⟨shown, hshown, hmessage⟩ := bind_eq_ok_iff.mp hmessage
  cases hmessage
  have hline := headline_firstLine shown
  have hcompleted := completed_complete t (firstLine shown)
  have hexpected : w₃.store.text? (d.diagnostic source).expected = some t := by
    rw [hstore, Details.diagnostic, hlisted, ht]
  refine ⟨_, shown, t, _, _, rfl, hshown, hexpected, hline, hcompleted, hsaid, fun hsingle => ?_⟩
  have hmessage := hcompleted.single hline.single hsingle
  obtain ⟨rendered, first, second, hrender, hlines⟩ :=
    Diagnostic.splitOn_render source hsaid hmessage
  exact ⟨hmessage, rendered, first, second, hrender _, hlines⟩

-- An error that is shown as several lines, with blanks around the first one that are no spaces.
private def listing : Failure where
  errorClass := .grammarError
  args := [.text "\u2003Expected one of:\u00A0\t\n\t* NUMBER\n"]
  fields := [("message", .int 0), ("allowed", .text "NUMBER")]

private def listingStart : World Unit := ⟨⟨#[]⟩, [], ()⟩

theorem parse_headline_listing :
    ∃ d w₃ rendered first second,
      parse (.parser { run := fun _ _ => Run.fail listing }) (.text "abc") .null listingStart =
        .ok ⟨.null, some d⟩ w₃ ∧ d.message = .text "Expected one of: NUMBER" ∧
      d.render w₃.store true = .ok rendered ∧
      rendered.splitOn "\n" = [first, second, "Expected one of: NUMBER"] := by
  have hprepare : Run.Gives (Options.prepare .null : Run Unit Value) listingStart.store (.ref 2)
      ⟨#[.builder .standard, .helpers (.ref 0) (.errorClass .grammarError),
        .dict (.ofEntries [(.text "util", .ref 1)])]⟩ := by
    rintro ⟨s, log, client⟩ rfl
    rfl
  have hrefuses : Parser.Refuses { run := fun _ _ => Run.fail listing } (.text "abc") .null "abc"
      listing listingStart _ :=
    ⟨rfl, ⟨[], rfl, .inl rfl, .inl rfl⟩, ⟨_, _, hprepare, rfl⟩, by decide,
      ⟨_, .nothing, _, List.mem_singleton_self _, by decide⟩⟩
  obtain ⟨-, hshown⟩ := parse_headline hrefuses rfl
  obtain ⟨w₃, hrun⟩ := (hrefuses.parse_ok_iff _).mpr
    ⟨⟨.text "Expected one of: NUMBER", 0, 0, 0, .text "", .text "NUMBER"⟩, rfl, rfl⟩
  obtain ⟨d, shown, expected, message, line, hr, -, hexpected, -, -, hmessage, hlines⟩ :=
    hshown _ _ hrun
  cases hr
  cases hexpected
  cases hmessage
  obtain ⟨-, rendered, first, second, hrender, hlines⟩ := hlines (by decide)
  exact ⟨_, w₃, rendered, first, second, hrun, rfl, hrender, hlines⟩

end ParseKit
