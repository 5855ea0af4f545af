import ParseKit.Decimal.Shortest

namespace ParseKit.Decimal

-- Numbers from `10 ^ lowest` up to, not including, `10 ^ highest` are written positionally.
structure Format where
  lowest : Int
  highest : Int
  notANumber : String
  infinity : String

-- Sign and at least two digits of an exponent.
def exponentText (e : Int) : String :=
  let digits := toString e.natAbs
  (if e < 0 then "-" else "+") ++ (if digits.length < 2 then "0" ++ digits else digits)

-- Digits without the zeros at their end, and how many zeros were dropped.
def dropZeros (digits : List Char) : List Char × Nat :=
  let kept := (digits.reverse.dropWhile (· == '0')).reverse
  (kept, digits.length - kept.length)

-- Digits with a point behind the first `point` of them, filled up with zeros on either side.
def positional (digits : List Char) (point : Int) : String :=
  if point ≤ 0 then
    "0." ++ String.ofList (List.replicate (-point).toNat '0' ++ digits)
  else
    let whole := digits.take point.toNat
    let padded := whole ++ List.replicate (point.toNat - whole.length) '0'
    let rest := digits.drop point.toNat
    String.ofList (padded ++ '.' :: if rest.isEmpty then ['0'] else rest)

def scientific (digits : List Char) (exponent : Int) : String :=
  let mantissa := match digits with
    | [] => []
    | [d] => [d]
    | d :: rest => d :: '.' :: rest
  String.ofList mantissa ++ "e" ++ exponentText exponent

def Format.unsigned (format : Format) (mantissa : Nat) (exponent : Int) : String :=
  if mantissa = 0 then "0.0"
  else
    let (digits, place) := shortest mantissa exponent
    let (kept, dropped) := dropZeros (toString digits).toList
    let point := kept.length + dropped + place
    if format.lowest ≤ point - 1 ∧ point - 1 < format.highest then positional kept point
    else scientific kept (point - 1)

def Format.write (format : Format) : Binary → String
  | .notANumber => format.notANumber
  | .infinite negative => (if negative then "-" else "") ++ format.infinity
  | .finite negative mantissa exponent =>
    (if negative then "-" else "") ++ format.unsigned mantissa exponent

end ParseKit.Decimal
