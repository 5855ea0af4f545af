import ParseKit.Text.Escape

namespace ParseKit

-- Escaped source text before, at and after an offset.
structure Excerpt where
  prolog : String := ""
  token : String := ""
  epilog : String := ""
  deriving DecidableEq, Repr, Inhabited

namespace Excerpt

-- How many characters are shown on either side.
def width : Nat := 20

-- The three pieces of a text around an offset, before they are escaped.
def window (text : List Char) (offset : Nat) : List Char × List Char × List Char :=
  let first := offset - width
  ((text.drop first).take (offset - first), (text.drop offset).take 1,
    (text.drop (offset + 1)).take width)

-- The window of a text around an offset. An offset in front of the text points at its start.
def around (text : String) (offset : Int) : Excerpt :=
  let (before, here, after) := window text.toList offset.toNat
  { prolog := String.ofList (Text.escape before)
    token := String.ofList (Text.escape here)
    epilog := String.ofList (Text.escape after) }

-- The pieces of a window follow each other in the text without a gap.
theorem window_append (text : List Char) (offset : Nat) :
    (window text offset).1 ++ (window text offset).2.1 ++ (window text offset).2.2 =
      (text.drop (offset - width)).take (offset + 1 + width - (offset - width)) := by
  simp only [window]
  have h : offset - width + (offset - (offset - width)) = offset := by omega
  have hone : text.drop (offset + 1) = (text.drop offset).drop 1 := by
    rw [List.drop_drop]
  rw [hone, List.append_assoc, ← List.take_add]
  have hoff : text.drop offset = (text.drop (offset - width)).drop (offset - (offset - width)) := by
    rw [List.drop_drop, h]
  rw [hoff, ← List.take_add]
  congr 1
  omega

end Excerpt

end ParseKit
