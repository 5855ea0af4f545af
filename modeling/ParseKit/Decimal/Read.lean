import ParseKit.Text.Ranges

namespace ParseKit.Decimal

-- Blanks that may surround a number: all but the four separators from U+001C on.
def isPadding (c : Char) : Bool := Text.isBlank c && !(0x1C ≤ c.toNat && c.toNat ≤ 0x1F)

def trimPadding (s : List Char) : List Char :=
  ((s.dropWhile isPadding).reverse.dropWhile isPadding).reverse

-- Drops underscores, each of which has to stand between two digits.
def dropUnderscores (afterDigit : Bool) : List Char → Option (List Char)
  | [] => some []
  | '_' :: d :: rest =>
    if afterDigit && d.isDigit then (d :: ·) <$> dropUnderscores true rest else none
  | ['_'] => none
  | c :: rest => (c :: ·) <$> dropUnderscores c.isDigit rest

-- A sign at the front, and what follows it.
def splitSign : List Char → Bool × List Char
  | '-' :: rest => (true, rest)
  | '+' :: rest => (false, rest)
  | rest => (false, rest)

-- The sign of a written number, and what follows it with plain digits and without underscores.
-- Digits may be those of any script.
def numeral? (text : String) : Option (Bool × List Char) :=
  splitSign <$> dropUnderscores false ((trimPadding text.toList).map Text.plainDigit)

-- The value of plain digits, of which there has to be one.
def readDigits? (digits : List Char) : Option Nat :=
  if !digits.isEmpty && digits.all Char.isDigit then
    some (digits.foldl (fun n c => n * 10 + (c.toNat - '0'.toNat)) 0)
  else none

-- Integers of more digits than this are not read.
def longestInteger : Nat := 4300

def readInt? (text : String) : Option Int := do
  let (negative, digits) ← numeral? text
  let n ← readDigits? digits
  if longestInteger < digits.length then none
  else some (if negative then -(n : Int) else n)

-- How many digits a number begins with if these are too many.
def excessiveDigits? (text : String) : Option Nat := do
  let (_, rest) ← numeral? text
  let count := (rest.takeWhile Char.isDigit).length
  if longestInteger < count then some count else none

def excessText (digits : Nat) : String :=
  "Exceeds the limit (" ++ toString longestInteger
    ++ " digits) for integer string conversion: value has " ++ toString digits
    ++ " digits; use sys.set_int_max_str_digits() to increase the limit"

-- The value of an exponent, a sign and plain digits.
def readExponent? (cs : List Char) : Option Int :=
  let (negative, digits) := splitSign cs
  (readDigits? digits).map fun n => if negative then -(n : Int) else n

-- Digits, a fraction and an exponent as an integer times a power of ten.
def readScaled? (cs : List Char) : Option (Nat × Int) := do
  let whole := cs.takeWhile Char.isDigit
  let rest := cs.dropWhile Char.isDigit
  let (fraction, rest) := match rest with
    | '.' :: r => (r.takeWhile Char.isDigit, r.dropWhile Char.isDigit)
    | r => ([], r)
  let exponent ← match rest with
    | [] => some 0
    | c :: r => if c = 'e' then readExponent? r else none
  let digits ← readDigits? (whole ++ fraction)
  return (digits, exponent - fraction.length)

-- The nearest floating point number to `digits * 10 ^ place`.
def nearestFloat (digits : Nat) (place : Int) : Float :=
  if digits = 0 then 0.0
  else if 400 < place then 1.0 / 0.0
  else if place + (toString digits).length < -400 then 0.0
  else Float.ofScientific digits (place < 0) place.natAbs

def readMagnitude? (cs : List Char) : Option Float :=
  if cs = "inf".toList ∨ cs = "infinity".toList then some (1.0 / 0.0)
  else if cs = "nan".toList then some (0.0 / 0.0)
  else (readScaled? cs).map fun n => nearestFloat n.1 n.2

-- The floating point number nearest to a decimal one, or one of the numbers that have names.
def readFloat? (text : String) : Option Float := do
  let (negative, cs) ← numeral? text
  let x ← readMagnitude? (cs.map Char.toLower)
  return if negative then -x else x

end ParseKit.Decimal
