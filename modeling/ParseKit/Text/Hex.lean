namespace ParseKit.Text

-- A hexadecimal digit, with letters from `letters` on ('A' or 'a').
def hexDigit (letters : Char) (n : Nat) : Char :=
  if n < 10 then Char.ofNat ('0'.toNat + n) else Char.ofNat (letters.toNat + (n - 10))

-- The last `width` hexadecimal digits of a number, most significant first.
def hexDigits (letters : Char) : Nat → Nat → List Char
  | 0, _ => []
  | width + 1, n => hexDigits letters width (n / 16) ++ [hexDigit letters (n % 16)]

-- The value of a hexadecimal digit of either case.
def hexValue? (c : Char) : Option Nat :=
  if '0' ≤ c ∧ c ≤ '9' then some (c.toNat - '0'.toNat)
  else if 'A' ≤ c ∧ c ≤ 'F' then some (c.toNat - 'A'.toNat + 10)
  else if 'a' ≤ c ∧ c ≤ 'f' then some (c.toNat - 'a'.toNat + 10)
  else none

-- The bytes that pairs of digits spell. Blanks may stand between the pairs. The error is the place
-- of the first character that does not fit, counted from `place`.
def bytesOfPairs (place : Nat) : List Char → Except Nat (List UInt8)
  | [] => .ok []
  | c :: rest =>
    if c = ' ' ∨ ('\t' ≤ c ∧ c ≤ '\r') then bytesOfPairs (place + 1) rest
    else
      match hexValue? c, rest with
      | none, _ => .error place
      | some _, [] => .error (place + 1)
      | some high, d :: rest =>
        match hexValue? d with
        | none => .error (place + 1)
        | some low => (UInt8.ofNat (high * 16 + low) :: ·) <$> bytesOfPairs (place + 2) rest

-- A character outside ASCII does not fit, whatever stands before it.
def bytesOfHex (cs : List Char) : Except Nat (List UInt8) :=
  match cs.findIdx? fun c => 0x80 ≤ c.toNat with
  | some place => .error place
  | none => bytesOfPairs 0 cs

theorem length_hexDigits (letters : Char) (width n : Nat) :
    (hexDigits letters width n).length = width := by
  induction width generalizing n with
  | zero => rfl
  | succ w ih => simp [hexDigits, ih]

end ParseKit.Text
