import ParseKit.Text.Hex

namespace ParseKit.Text

-- The letter that stands for a character behind a backslash.
def shortEscape? : Char → Option Char
  | '\\' => some '\\'
  | '\x08' => some 'b'
  | '\t' => some 't'
  | '\n' => some 'n'
  | '\x0c' => some 'f'
  | '\r' => some 'r'
  | _ => none

-- A code unit of sixteen bits as an escape of six characters.
def unitEscape (unit : Nat) : List Char := '\\' :: 'u' :: hexDigits 'A' 4 unit

def escapeChar (c : Char) : List Char :=
  match shortEscape? c with
  | some letter => ['\\', letter]
  | none =>
    let code := c.toNat
    if code < 0x20 || (0x80 ≤ code && code ≤ 0xFF) then '\\' :: 'x' :: hexDigits 'A' 2 code
    else if code ≤ 0x7F then [c]
    else if code ≤ 0xFFFF then unitEscape code
    else
      let rest := code - 0x10000
      unitEscape (0xD800 + rest / 0x400) ++ unitEscape (0xDC00 + rest % 0x400)

-- A single line notation for source text in ASCII.
def escape (s : List Char) : List Char := s.flatMap escapeChar

theorem escape_nil : escape [] = [] := rfl

theorem escape_cons (c : Char) (s : List Char) : escape (c :: s) = escapeChar c ++ escape s := by
  simp [escape]

theorem escape_append (s t : List Char) : escape (s ++ t) = escape s ++ escape t := by
  simp [escape]

end ParseKit.Text
