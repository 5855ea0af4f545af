import ParseKit.Excerpt
import ParseKit.Proofs.Text.Unescape

namespace ParseKit.Excerpt

theorem window_prolog (text : List Char) (offset : Nat) :
    (window text offset).1 = text.extract (offset - 20) (min offset text.length) := by
  simp only [window, width, List.extract_eq_take_drop]
  rw [List.take_eq_take_iff, List.length_drop]
  omega

theorem window_token (text : List Char) (offset : Nat) :
    (window text offset).2.1 = text[offset]?.toList := by
  simp only [window]
  by_cases h : offset < text.length
  · rw [List.drop_eq_getElem_cons h, List.getElem?_eq_getElem h]
    rfl
  · have hle := Nat.le_of_not_lt h
    rw [List.drop_eq_nil_of_le hle, List.getElem?_eq_none hle]
    rfl

theorem window_epilog (text : List Char) (offset : Nat) :
    (window text offset).2.2 = text.extract (offset + 1) (min (offset + 21) text.length) := by
  simp only [window, width, List.extract_eq_take_drop]
  rw [List.take_eq_take_iff, List.length_drop]
  omega

theorem window_whole (text : List Char) (offset : Nat) :
    (window text offset).1 ++ (window text offset).2.1 ++ (window text offset).2.2 =
      text.extract (offset - 20) (min (offset + 21) text.length) := by
  rw [window_append]
  simp only [width, List.extract_eq_take_drop]
  rw [List.take_eq_take_iff, List.length_drop]
  omega

theorem length_window {text : List Char} {offset : Nat} (h : offset < text.length) :
    (window text offset).1.length + (window text offset).2.1.length +
      (window text offset).2.2.length = min offset 20 + 1 + min (text.length - offset - 1) 20 := by
  simp only [window, width, List.length_take, List.length_drop]
  omega

-- The pieces of an excerpt are read back as the characters around the offset, and together as the
-- part of the text that they cover. They are written in printable ASCII and DEL alone.
theorem around_lossless (text : String) (offset : Int) :
    let chars := text.toList
    let place := offset.toNat
    let shown := around text offset
    let whole := shown.prolog ++ shown.token ++ shown.epilog
    ∃ before here after,
      Text.unescape shown.prolog.toList = some before ∧
      Text.unescape shown.token.toList = some here ∧
      Text.unescape shown.epilog.toList = some after ∧
      before = chars.extract (place - 20) (min place chars.length) ∧
      here = chars[place]?.toList ∧
      after = chars.extract (place + 1) (min (place + 21) chars.length) ∧
      Text.unescape whole.toList =
        some (chars.extract (place - 20) (min (place + 21) chars.length)) ∧
      (place < chars.length → before.length + here.length + after.length =
        min place 20 + 1 + min (chars.length - place - 1) 20) ∧
      (∀ c ∈ whole.toList, 0x20 ≤ c.toNat ∧ c.toNat ≤ 0x7F) ∧
      Function.Injective Text.escape := by
  intro chars place shown whole
  have hwhole : whole.toList = Text.escape ((window chars place).1 ++ (window chars place).2.1 ++
      (window chars place).2.2) := by
    simp [whole, shown, around, chars, place, Text.escape_append]
  refine ⟨(window chars place).1, (window chars place).2.1, (window chars place).2.2, ?_, ?_, ?_,
    window_prolog chars place, window_token chars place, window_epilog chars place, ?_,
    length_window, ?_, ?_⟩
  · simp [shown, around, chars, place, Text.unescape_escape]
  · simp [shown, around, chars, place, Text.unescape_escape]
  · simp [shown, around, chars, place, Text.unescape_escape]
  · rw [hwhole, Text.unescape_escape, window_whole]
  · intro c hc
    rw [hwhole] at hc
    simpa [Text.isPlain] using Text.isPlain_of_mem_escape hc
  · intro s t h
    have hread := congrArg Text.unescape h
    rw [Text.unescape_escape, Text.unescape_escape] at hread
    exact Option.some.inj hread

end ParseKit.Excerpt
