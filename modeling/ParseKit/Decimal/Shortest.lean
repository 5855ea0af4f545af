import ParseKit.Decimal.Binary

namespace ParseKit.Decimal

-- The reals that round to `mantissa * 2 ^ exponent`, over a common denominator. The gap below
-- a power of two is half the gap above it. The ends belong to it iff the mantissa is even.
structure Interval where
  low : Nat
  value : Nat
  high : Nat
  denominator : Nat
  closed : Bool

def Interval.around (mantissa : Nat) (exponent : Int) : Interval :=
  let below := if mantissa = power 2 52 ∧ -1074 < exponent then 1 else 2
  let up := power 2 (exponent - 2).toNat
  { low := (4 * mantissa - below) * up
    value := 4 * mantissa * up
    high := (4 * mantissa + 2) * up
    denominator := power 2 (2 - exponent).toNat
    closed := mantissa % 2 == 0 }

-- How many digits a natural number has, zero having none.
def digitCount (n : Nat) : Nat :=
  if n = 0 then 0 else digitCount (n / 10) + 1
termination_by n
decreasing_by omega

-- How often a fraction below one can be multiplied by ten and stay below one, within `fuel`
-- steps.
def leadingZeros (value denominator : Nat) : Nat → Nat
  | 0 => 0
  | fuel + 1 =>
    if value * 10 < denominator then leadingZeros (value * 10) denominator fuel + 1 else 0

-- Where the decimal point of a fraction stands, counted from its first digit.
def pointPlace (value denominator : Nat) : Int :=
  if denominator ≤ value then digitCount (value / denominator)
  else -(leadingZeros value denominator 400 : Int)

-- The point of the grid of step `10 ^ place` that is nearest to the value, among those that
-- lie in the interval. A tie goes to the even digit.
def Interval.nearest? (i : Interval) (place : Int) : Option Nat :=
  let scale := power 10 place.toNat * i.denominator
  let unscale := power 10 (-place).toNat
  let value := i.value * unscale
  let inside (digits : Nat) : Bool :=
    let point := digits * scale
    let low := i.low * unscale
    let high := i.high * unscale
    if i.closed then low ≤ point && point ≤ high else low < point && point < high
  let floor := value / scale
  let below := inside floor && 0 < floor
  let above := inside (floor + 1)
  let left := value - floor * scale
  let right := (floor + 1) * scale - value
  if below && above then
    if left < right || (left = right && floor % 2 = 0) then some floor else some (floor + 1)
  else if below then some floor
  else if above then some (floor + 1)
  else none

-- The first grid, from `count` digits on, that has a point in the interval.
def Interval.search (i : Interval) (point : Int) : Nat → Nat → Nat × Int
  | _, 0 => (0, 0)
  | count, fuel + 1 =>
    let place := point - count
    match i.nearest? place with
    | some digits => (digits, place)
    | none => i.search point (count + 1) fuel

-- Digits and place of their last one: the number is `digits * 10 ^ place`.
def shortest (mantissa : Nat) (exponent : Int) : Nat × Int :=
  let i := Interval.around mantissa exponent
  i.search (pointPlace i.value i.denominator) 1 17

end ParseKit.Decimal
