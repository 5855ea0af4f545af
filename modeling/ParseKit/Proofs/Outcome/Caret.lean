import ParseKit.Proofs.Excerpt.Lossless
import ParseKit.Proofs.Outcome.Classification
import ParseKit.Proofs.Text.Code

namespace ParseKit

namespace Diagnostic

-- The two lines above the message of a diagnostic for a text. The caret stands in the given column
-- of the second one, counted from zero.
structure Points (text : List Char) (line column offset caret : Nat) (first second : String) :
    Prop where
  plain : ∀ c ∈ (first ++ second).toList, 0x20 ≤ c.toNat ∧ c.toNat ≤ 0x7F
  pointer : second = String.ofList (List.replicate caret '-') ++ "^"
  ahead : ∃ shown,
    Text.EscapedText (text.extract (offset - 20) (min offset text.length)) shown ∧
      first.toList.take caret =
        ("line " ++ toString line ++ " (column " ++ toString column ++ "): ").toList ++ shown
  inside : ∀ h : offset < text.length, ∃ here behind, Text.Escaped text[offset] here ∧
    Text.EscapedText (text.extract (offset + 1) (min (offset + 21) text.length)) behind ∧
      first.toList.drop caret = here ++ behind
  outside : text.length ≤ offset → first.length = caret

theorem isPlain_toString {n : Nat} {c : Char} (h : c ∈ (toString n).toList) :
    Text.isPlain c = true := by
  have hdigit := Text.isDigit_of_mem_toString h
  simp only [Char.isDigit, Bool.and_eq_true, decide_eq_true_iff, UInt32.le_iff_toNat_le] at hdigit
  simp only [Text.isPlain, Bool.and_eq_true, decide_eq_true_iff]
  change 48 ≤ c.toNat ∧ c.toNat ≤ 57 at hdigit
  omega

theorem isPlain_heading {line column : Nat} {c : Char}
    (h : c ∈ (heading (toString line) (toString column)).toList) : Text.isPlain c = true := by
  have hword : ∀ t ∈ ["line ", " (column ", "): "], ∀ c ∈ t.toList, Text.isPlain c = true := by
    have hall : ["line ", " (column ", "): "].all (·.toList.all Text.isPlain) = true := by decide
    exact fun t ht => List.all_eq_true.mp (List.all_eq_true.mp hall t ht)
  simp only [heading, String.toList_append, List.mem_append] at h
  rcases h with (((h | h) | h) | h) | h
  · exact hword _ (by simp) c h
  · exact isPlain_toString h
  · exact hword _ (by simp) c h
  · exact isPlain_toString h
  · exact hword _ (by simp) c h

-- The parts of a rendered diagnostic, whatever the excerpt in it is.
theorem render_eq {s : Store} {d : Diagnostic} {line column : Nat} {message : String}
    (hline : d.line = .int line) (hcolumn : d.column = .int column)
    (hmessage : s.text? d.message = some message) (noFinalNewline : Bool) :
    let start := heading (toString line) (toString column) ++ d.location.prolog
    d.render s noFinalNewline = .ok (start ++ (d.location.token ++ d.location.epilog) ++ "\n" ++
      (String.ofList (List.replicate start.length '-') ++ "^") ++ "\n" ++ message ++
      if noFinalNewline then "" else "\n") := by
  intro start
  simp only [render, hline, hcolumn, Store.display_natCast, Store.display_of_text? hmessage, bind,
    Except.bind, pure, Except.pure, Except.ok.injEq, ← String.length_append]
  cases noFinalNewline <;> simp [start, String.append_assoc]

-- The excerpt around an offset puts the caret below the character there, or behind the last one if
-- the text ends before it.
theorem points_around (text : String) (line column offset : Nat) :
    let start := heading (toString line) (toString column) ++ (Excerpt.around text offset).prolog
    let first := start ++ ((Excerpt.around text offset).token ++ (Excerpt.around text offset).epilog)
    Points text.toList line column offset start.length first
      (String.ofList (List.replicate start.length '-') ++ "^") := by
  intro start first
  have hstart : start.toList = (heading (toString line) (toString column)).toList ++
      Text.escape (text.toList.extract (offset - 20) (min offset text.toList.length)) := by
    simp [start, Excerpt.around, Excerpt.window_prolog]
  have hfirst : first.toList = start.toList ++ (Text.escape text.toList[offset]?.toList ++
      Text.escape (text.toList.extract (offset + 1) (min (offset + 21) text.toList.length))) := by
    simp [first, Excerpt.around, Excerpt.window_token, Excerpt.window_epilog]
  have hlength : start.length = start.toList.length := String.length_toList.symm
  refine ⟨?_, rfl, ?_, ?_, ?_⟩
  · intro c hc
    suffices h : Text.isPlain c = true by simpa [Text.isPlain] using h
    simp only [String.toList_append, List.mem_append, hfirst, hstart, String.toList_ofList,
      List.mem_replicate] at hc
    rcases hc with ((hc | hc) | hc | hc) | ⟨-, rfl⟩ | hc
    · exact isPlain_heading hc
    · exact Text.isPlain_of_mem_escape hc
    · exact Text.isPlain_of_mem_escape hc
    · exact Text.isPlain_of_mem_escape hc
    · decide
    · rw [List.mem_singleton.mp hc]
      decide
  · refine ⟨_, Text.escapedText_escape _, ?_⟩
    rw [hfirst, hlength, List.take_left, hstart]
    rfl
  · intro hoffset
    refine ⟨_, _, Text.escaped_escapeChar _, Text.escapedText_escape _, ?_⟩
    rw [hfirst, hlength, List.drop_left, List.getElem?_eq_getElem hoffset, Option.toList_some,
      Text.escape_cons, Text.escape_nil, List.append_nil]
  · intro hoffset
    have hempty : text.toList.extract (offset + 1) (min (offset + 21) text.toList.length) = [] := by
      rw [List.extract_eq_take_drop, List.drop_eq_nil_of_le (by omega), List.take_nil]
    rw [← String.length_toList, hfirst, List.getElem?_eq_none hoffset, hempty, hlength]
    simp [Text.escape_nil]

end Diagnostic

variable {σ : Type}

open Run (Gives)

-- Whatever positions a recognised error carries, the diagnostic that a parse makes of it is shown
-- as two lines that point at its offset in the text, and the message below them. That takes no more
-- than that the message is still there to be read. A recognised error that is legible always
-- becomes such a diagnostic.
theorem parse_caret {p : Parser σ} {text options : Value} {source : String}
    {given : List (Value × Value)} {classes : List ErrorClass} {w : World σ}
    (htext : w.store.text? text = some source) (hoptions : Options.Valid w.store options given)
    (hclasses : Outcome.Advertises w.store p.syntaxError classes) :
    ∃ prepared s₁ entry, Gives (Options.prepare options : Run σ Value) w.store prepared s₁ ∧
      let asked := p.run text prepared { w with store := s₁, log := entry :: w.log }
      let parsed := parse (.parser p) text options w
      ∀ e w₂, asked = .error (.raised e) w₂ →
        ¬(e.isA .invalidArgument = true ∨ e.isA .notFound = true) →
        (∃ c ∈ ErrorClass.grammarError :: classes, e.isA c = true) →
        (Details.Legible w₂.store e → ∃ r w₃, parsed = .ok r w₃) ∧
        ∀ r w₃, parsed = .ok r w₃ →
          ∃ (d : Diagnostic) (message : String) (line column offset caret : Nat)
            (first second : String), r = ⟨.null, some d⟩ ∧
            d.line = .int line ∧ d.column = .int column ∧ d.offset = .int offset ∧
            w₃.store.text? d.message = some message ∧
            Diagnostic.Points source.toList line column offset caret first second ∧
            ∀ s flag, s.text? d.message = some message → d.render s (s.truthy flag) =
              .ok (first ++ "\n" ++ second ++ "\n" ++ message ++
                if s.truthy flag then "" else "\n") := by
  obtain ⟨prepared, s₁, entry, hprepare, -, -, hraised⟩ := parse_outcome htext hoptions hclasses
  refine ⟨prepared, s₁, entry, hprepare, ?_⟩
  intro asked parsed e w₂ hasked hmisuse hrecognised
  have hparsed : parsed = _ := hraised e w₂ hasked
  have hany : (ErrorClass.grammarError :: classes).any e.isA = true :=
    List.any_eq_true.mpr hrecognised
  obtain ⟨hlegible, hillegible⟩ := Outcome.ofFailure_recognised w₂ hmisuse hany
  rw [hparsed, Run.map_apply]
  cases hd : Details.ofFailure w₂.store e with
  | error f =>
      rw [hillegible f hd]
      refine ⟨fun h => ?_, fun _ _ h => nomatch h⟩
      obtain ⟨d, hd'⟩ := Details.ofFailure_ok_iff.mpr h
      rw [hd] at hd'
      cases hd'
  | ok d =>
      obtain ⟨note, hrun⟩ := hlegible d hd
      rw [hrun]
      refine ⟨fun _ => ⟨_, _, rfl⟩, ?_⟩
      rintro r w₃ ⟨⟩
      obtain ⟨message, hmessage⟩ := Option.isSome_iff_exists.mp (Details.isText_message hd)
      exact ⟨d.diagnostic source, message, d.line, d.column, d.offset, _, _, _, rfl, rfl, rfl, rfl,
        hmessage, Diagnostic.points_around source d.line d.column d.offset,
        fun s flag h => Diagnostic.render_eq rfl rfl h _⟩

-- The text ends in a character outside the basic plane, and the error is at that character.
private def strayEmoji : Failure where
  errorClass := .grammarError
  args := [.text "no such operator"]
  fields := [("message", .text "no such operator"), ("line", .int 1), ("column", .int 4),
    ("offset", .int 3)]

private def emptyWorld : World Unit where
  store := {}
  log := []
  client := ()

theorem parse_caret_strayEmoji :
    ∃ (d : Diagnostic) (w₃ : World Unit) (caret : Nat) (first second : String),
      parse (.parser { run := fun _ _ => Run.fail strayEmoji }) (.text "x\n\u0001😀") .null
        emptyWorld = .ok ⟨.null, some d⟩ w₃ ∧
      Diagnostic.Points "x\n\u0001😀".toList 1 4 3 caret first second ∧
      d.render w₃.store false =
        .ok (first ++ "\n" ++ second ++ "\n" ++ "no such operator" ++ "\n") := by
  have htext : emptyWorld.store.text? (.text "x\n\u0001😀") = some "x\n\u0001😀" := rfl
  have hoptions : Options.Valid emptyWorld.store .null [] := ⟨rfl, .inl rfl, .inl rfl⟩
  obtain ⟨prepared, s₁, entry, -, hfails⟩ :=
    parse_caret (p := { run := fun _ _ => Run.fail strayEmoji }) htext hoptions .nothing
  obtain ⟨d, message, line, column, offset, caret, first, second, hresult, hline, hcolumn, hoffset,
    hmessage, hpoints, hrender⟩ := (hfails strayEmoji _ rfl (by decide)
      ⟨.grammarError, by decide, by decide⟩).2 _ _ rfl
  cases hresult
  cases hmessage
  obtain rfl : line = 1 := Int.ofNat.inj (Value.int.inj hline.symm)
  obtain rfl : column = 4 := Int.ofNat.inj (Value.int.inj hcolumn.symm)
  obtain rfl : offset = 3 := Int.ofNat.inj (Value.int.inj hoffset.symm)
  exact ⟨_, _, caret, first, second, rfl, hpoints, hrender _ (.bool false) rfl⟩

end ParseKit
