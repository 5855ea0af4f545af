import ParseKit.Regex.Reader

namespace ParseKit.Regex

-- Bounds have to be less than this.
def boundLimit : Nat := 4294967295

-- How often something is repeated. Without an upper bound it is repeated at will.
structure Bounds where
  least : Nat
  most : Option Nat
  deriving DecidableEq, Repr, Inhabited

namespace Reader

-- A bound that was written as these digits, or `other` if there are none.
def bound (digits : List Char) (other : Option Nat) : Reader (Option Nat) := do
  match Decimal.readDigits? digits with
  | none => return other
  | some n =>
    if Decimal.longestInteger < digits.length then
      throw { reason := .boundTooLong digits.length }
    else if boundLimit ≤ n then throw { reason := .boundTooLarge }
    else return some n

-- Bounds in braces, none if what was opened is no repetition, which gives everything behind the
-- brace back.
def bracedBounds? : Reader (Option Bounds) := do
  let before := (← get).rest
  let start ← place
  let digits := takeWhile before.length Char.isDigit
  if before.head?.any (·.isPlain '\x7d') then return none
  let least ← digits
  let most ← if ← accept ',' then digits else pure least
  if ← accept '\x7d' then
    let lower := (← bound least none).getD 0
    let upper ← bound most none
    if upper.any (· < lower) then refuseAt start .boundsReversed
    return some ⟨lower, upper⟩
  else
    modify fun r => { r with rest := before }
    return none

def boundsOf? (c : Char) : Reader (Option Bounds) :=
  match c with
  | '?' => return some ⟨0, some 1⟩
  | '*' => return some ⟨0, none⟩
  | '+' => return some ⟨1, none⟩
  | _ => bracedBounds?

def greed : Reader Greed := do
  if ← accept '?' then return .reluctant
  else if ← accept '+' then return .possessive
  else return .greedy

-- A repetition whose first character was read at a place. An opening brace that begins none
-- stands for itself.
def repetition (c : Char) (place : Nat) : Reader Unit := do
  match ← boundsOf? c with
  | none => push .single
  | some bounds =>
    match (← get).frame.pieces with
    | [] => refuseAt place .nothingToRepeat
    | item :: before =>
      match item.role with
      | .anchor => refuseAt place .nothingToRepeat
      | .repetition => refuseAt place .repeatedTwice
      | .other =>
        let piece := item.repeated bounds.least bounds.most (← greed)
        modify fun r => { r with frame := { r.frame with pieces := piece :: before } }

end Reader

end ParseKit.Regex
