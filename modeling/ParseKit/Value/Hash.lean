import ParseKit.Value.Equality

namespace ParseKit

namespace Hash

-- Numbers are hashed modulo this prime.
def modulus : Nat := Nat.pow 2 61 - 1

-- The hash with this magnitude and sign. The number -1 is not given out.
def ofSigned (negative : Bool) (magnitude : Nat) : UInt64 :=
  let n := magnitude.toUInt64
  if !negative then n else if n = 1 then -2 else -n

def ofInt (i : Int) : UInt64 := ofSigned (i < 0) (i.natAbs % modulus)

-- A power of two has the inverse of another one, because 2 ^ 61 is one modulo the prime.
def ofBinary? : Decimal.Binary → Option UInt64
  | .notANumber => none
  | .infinite negative => some (ofSigned negative 314159)
  | .finite negative mantissa exponent =>
    let shift := (exponent % 61).toNat
    some (ofSigned negative (mantissa * Decimal.power 2 shift % modulus))

def rotate (n : UInt64) : UInt64 := (n <<< 31) ||| (n >>> 33)

-- The hash of parts whose order counts.
def ofSequence (parts : List UInt64) : UInt64 :=
  let seed : UInt64 := 2870177450012600261
  let mix (sum part : UInt64) := rotate (sum + part * 14029467366897019727) * 11400714785074694791
  let last : UInt64 := parts.length.toUInt64 ^^^ (seed ^^^ (3527539 : UInt64))
  let sum := parts.foldl mix seed + last
  if sum = -1 then 1546275796 else sum

-- The hash of parts whose order does not count.
def ofSet (parts : List UInt64) : UInt64 :=
  let shuffle (n : UInt64) : UInt64 := (n ^^^ (89869747 : UInt64) ^^^ (n <<< 16)) * 3644798167
  let sum := parts.foldl (fun sum part => sum ^^^ shuffle part) 0
  let sum := sum ^^^ ((parts.length.toUInt64 + 1) * 1927868237)
  let sum := (sum ^^^ (sum >>> 11) ^^^ (sum >>> 25)) * 69069 + 907133923
  if sum = -1 then 590923713 else sum

end Hash

namespace Store

-- The hash of a value within `depth` levels of nesting. Other values than numbers, and tuples and
-- sets of such, are hashed differently in every run.
def hashAt? (s : Store) : Nat → Value → Option UInt64
  | 0, _ => none
  | depth + 1, v =>
    match v.toInt?, v with
    | some i, _ => some (Hash.ofInt i)
    | none, .float bits => Hash.ofBinary? (.ofBits bits)
    | none, v =>
      match s.get? v with
      | some (.tuple items) => Hash.ofSequence <$> items.mapM (s.hashAt? depth)
      | some (.frozenset items) => Hash.ofSet <$> items.mapM (s.hashAt? depth)
      | _ => none

def hash? (s : Store) (v : Value) : Option UInt64 := s.hashAt? (s.size + 1) v

end Store

end ParseKit
