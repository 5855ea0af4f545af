namespace ParseKit.Decimal

-- A finite number is `mantissa * 2 ^ exponent`, up to its sign.
inductive Binary where
  | notANumber
  | infinite (negative : Bool)
  | finite (negative : Bool) (mantissa : Nat) (exponent : Int)

-- Powers of natural numbers.
def power (base exponent : Nat) : Nat := Nat.pow base exponent

def Binary.ofBits (bits : UInt64) : Binary :=
  let n := bits.toNat
  let negative : Bool := power 2 63 ≤ n
  let scale : Nat := n / power 2 52 % power 2 11
  let fraction : Nat := n % power 2 52
  if scale = 2047 then
    if fraction = 0 then .infinite negative else .notANumber
  else if scale = 0 then .finite negative fraction (-1074)
  else .finite negative (power 2 52 + fraction) ((scale : Int) - 1075)

def Binary.isZero : Binary → Bool
  | .finite _ mantissa _ => mantissa == 0
  | _ => false

-- The integer that a number equals, if there is one.
def Binary.toInt? : Binary → Option Int
  | .finite negative mantissa exponent =>
    let signed (n : Nat) : Int := if negative then -(n : Int) else n
    if 0 ≤ exponent then some (signed (mantissa * power 2 exponent.toNat))
    else
      let unit := power 2 (-exponent).toNat
      if mantissa % unit = 0 then some (signed (mantissa / unit)) else none
  | _ => none

end ParseKit.Decimal
