import Mathlib.Data.List.TakeWhile
import ParseKit.Text.Ranges

namespace ParseKit.Text

-- A text without the blanks at its end.
structure TrimmedRight (t m : List Char) : Prop where
  blanks : ∃ after, t = m ++ after ∧ ∀ c ∈ after, isBlank c = true
  stop : ∀ c ∈ m.getLast?, isBlank c = false

-- A text without the blanks at both ends.
structure Trimmed (t m : List Char) : Prop where
  blanks : ∃ before after, t = before ++ m ++ after ∧ (∀ c ∈ before, isBlank c = true) ∧
    ∀ c ∈ after, isBlank c = true
  start : ∀ c ∈ m.head?, isBlank c = false
  stop : ∀ c ∈ m.getLast?, isBlank c = false

-- What stands ahead of the first line end of a text, or all of it if there is none.
structure FirstLine (t line : List Char) : Prop where
  rest : t = line ∨ ∃ rest, t = line ++ '\n' :: rest
  single : '\n' ∉ line

theorem isBlank_head?_dropWhile {t : List Char} {c : Char} (h : c ∈ (t.dropWhile isBlank).head?) :
    isBlank c = false := by
  have hhead := List.head?_dropWhile_not isBlank t
  rw [Option.mem_def.mp h] at hhead
  simpa using hhead

theorem trimmedRight_trimRight (t : List Char) : TrimmedRight t (trimRight t) where
  blanks := by
    refine ⟨(t.reverse.takeWhile isBlank).reverse, ?_, fun c hc =>
      List.mem_takeWhile_imp (List.mem_reverse.mp hc)⟩
    rw [trimRight, ← List.reverse_append, List.takeWhile_append_dropWhile, List.reverse_reverse]
  stop c hc := by
    rw [trimRight, List.getLast?_reverse] at hc
    exact isBlank_head?_dropWhile hc

theorem trimmed_trim (t : List Char) : Trimmed t (trim t) := by
  obtain ⟨after, hafter, hblank⟩ := (trimmedRight_trimRight (trimLeft t)).blanks
  refine ⟨⟨t.takeWhile isBlank, after, ?_, fun c => List.mem_takeWhile_imp, hblank⟩, ?_,
    (trimmedRight_trimRight (trimLeft t)).stop⟩
  · rw [trim, List.append_assoc, ← hafter, trimLeft, List.takeWhile_append_dropWhile]
  · intro c hc
    rw [trim] at hc
    refine isBlank_head?_dropWhile (t := t) ?_
    have hhead : c ∈ (trimRight (trimLeft t) ++ after).head? := by
      rw [List.head?_append]
      exact Option.mem_def.mpr (by rw [Option.mem_def.mp hc, Option.some_or])
    rwa [← hafter] at hhead

theorem firstLine_takeWhile (t : List Char) : FirstLine t (t.takeWhile (· ≠ '\n')) where
  rest := by
    have hsplit := List.takeWhile_append_dropWhile (p := fun c => decide (c ≠ '\n')) (l := t)
    have hhead := List.head?_dropWhile_not (fun c => decide (c ≠ '\n')) t
    cases hrest : t.dropWhile fun c => decide (c ≠ '\n') with
    | nil =>
        rw [hrest, List.append_nil] at hsplit
        exact .inl hsplit.symm
    | cons c rest =>
        rw [hrest] at hsplit hhead
        obtain rfl : c = '\n' := by simpa using hhead
        exact .inr ⟨rest, hsplit.symm⟩
  single hmem := by
    simpa using List.mem_takeWhile_imp hmem

end ParseKit.Text
