import ParseKit.Regex.Reader
import ParseKit.Text.Hex

namespace ParseKit.Regex

-- A member of a set, or an end of a range.
inductive Member where
  -- A character, with its code point if that can be told.
  | character (code : Option Nat)
  -- A class of characters.
  | category
  deriving DecidableEq, Repr, Inhabited

def isOctal (c : Char) : Bool := '0' ≤ c && c ≤ '7'

def isHex (c : Char) : Bool := (Text.hexValue? c).isSome

def valueIn (base : Nat) (digits : List Char) : Nat :=
  digits.foldl (fun n c => n * base + (Text.hexValue? c).getD 0) 0

-- Letters that stand for control characters.
def control? : Char → Option Nat
  | 'a' => some 7
  | 'b' => some 8
  | 't' => some 9
  | 'n' => some 10
  | 'v' => some 11
  | 'f' => some 12
  | 'r' => some 13
  | _ => none

def isCategory (c : Char) : Bool := ['d', 'D', 's', 'S', 'w', 'W'].contains c

def isAnchor (c : Char) : Bool := ['A', 'b', 'B', 'Z'].contains c

-- How many hexadecimal digits a letter asks for.
def hexCount? : Alphabet → Char → Option Nat
  | _, 'x' => some 2
  | .characters, 'u' => some 4
  | .characters, 'U' => some 8
  | _, _ => none

-- Names of characters consist of these.
def isNamePart (c : Char) : Bool := c.isAlphanum || c == ' ' || c == '-'

namespace Reader

def written (c : Char) (digits : List Char) : String := String.ofList ('\\' :: c :: digits)

-- Refuses an escape that was just read.
def refuseEscape {α : Type} (reason : String → Reason) (text : String) : Reader α :=
  refuse (reason text) text.length

def hexEscape (c : Char) (count : Nat) : Reader Member := do
  let digits ← takeWhile count isHex
  if digits.length ≠ count then refuseEscape .shortEscape (written c digits)
  else
    let code := valueIn 16 digits
    if 0x7FFFFFFF < code then throw { reason := .codeTooLarge }
    else if 0x10FFFF < code then refuseEscape .badEscape (written c digits)
    else return .character (some code)

-- A character by its name. Whether there is one of that name is not known here.
def namedEscape : Reader Member := do
  unless ← accept '\x7b' do refuse (.missing "\x7b")
  let name ← nameUntil '\x7d' "character name"
  if name.all isNamePart then return .character none
  else refuse (.undefinedCharacter name) (name.length + 4)

def octal (c : Char) (digits : List Char) : Reader Member := do
  let code := valueIn 8 (c :: digits)
  if 0o377 < code then refuseEscape .octalTooLarge (written c digits)
  else return .character (some code)

-- What is the same within sets and outside.
def commonEscape (c : Char) : Reader Member := do
  let alphabet := (← get).alphabet
  match control? c, hexCount? alphabet c with
  | some code, _ => return .character (some code)
  | _, some count => hexEscape c count
  | _, _ =>
    if isCategory c then return .category
    else if c == 'N' && alphabet == .characters then namedEscape
    else if c.isAlphanum then refuseEscape .badEscape (written c [])
    else return .character (some c.toNat)

-- An escape within a set.
def memberEscape (c : Char) : Reader Member := do
  if isOctal c then octal c (← takeWhile 2 isOctal)
  else commonEscape c

-- A reference to a group, for which `digits` were read.
def numberedReference (digits : List Char) : Reader Piece := do
  let group := valueIn 10 digits
  if (← get).groups.length < group then refuse (.unknownGroup group) digits.length
  else
    match ← groupWidth? group with
    | none => refuse .openGroup (digits.length + 1)
    | some width =>
      checkBehind group
      return .reference width

-- Digits are an octal number if they begin with zero or are three octal digits, and the number
-- of a group otherwise.
def digitEscape (c : Char) : Reader Piece := do
  if c == '0' then
    let _ ← takeWhile 2 isOctal
    return .single
  else
    match ← takeWhile 1 Char.isDigit with
    | [d] =>
      let last ← if isOctal c && isOctal d then takeWhile 1 isOctal else pure []
      if last.isEmpty then numberedReference [c, d]
      else
        let _ ← octal c (d :: last)
        return .single
    | _ => numberedReference [c]

-- An escape outside of sets.
def pieceEscape (c : Char) : Reader Piece := do
  if isAnchor c then return .anchor
  else if c.isDigit then digitEscape c
  else
    let _ ← commonEscape c
    return .single

end Reader

end ParseKit.Regex
