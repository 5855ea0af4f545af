import ParseKit.Outcome.Diagnostic
import ParseKit.Text.Ranges

namespace ParseKit

-- What a recognised error says about the failure, in one shape for all kinds of errors.
structure Details where
  message : Value
  line : Nat := 0
  column : Nat := 0
  offset : Nat := 0
  found : Value := .text ""
  expected : Value := .text ""
  deriving DecidableEq, Repr, Inhabited

namespace Details

-- A position that is a natural number, and zero for everything else.
def positionOrZero : Value → Nat
  | .int i => i.toNat
  | _ => 0

def field (e : Failure) (name : String) : Value := (e.field? name).getD .null

-- The first value that is not null.
def firstOf (a b : Value) : Value := if a = .null then b else a

-- Where the positions of an error are read: the start of its location, if it has one, and
-- else the error itself.
def positionField (s : Store) (e : Failure) (name : String) : Value :=
  let start := s.part (field e "location") "start"
  if start = .null then field e name else s.part start name

-- The items of a collection whose text lists them.
def collection? (s : Store) (v : Value) : Option (List Value) :=
  match s.get? v with
  | some (.set items) => some items
  | some (.frozenset items) => some items
  | some (.list items) => some items
  | some (.tuple items) => some items
  | _ => none

def sortTexts (texts : List String) : List String := texts.mergeSort fun a b => !(b < a)

-- The text of what was found or expected. The items of a collection are listed in order of
-- code points.
def textOf (s : Store) (v : Value) : Except Failure Value :=
  if v = .null then .ok (.text "")
  else if s.isText v then .ok v
  else
    match collection? s v with
    | some items => do return .text (commaList (sortTexts (← items.mapM s.display)))
    | none => do return .text (← s.display v)

-- What was found: said outright, or the text of a token, or a character.
def foundOf (s : Store) (e : Failure) : Except Failure Value :=
  let said := field e "found"
  if said = .null then
    let token := field e "token"
    if token = .null then .ok (field e "char") else do return .text (← s.display token)
  else .ok said

-- The first line of a text, without blanks around it.
def firstLine (text : String) : List Char :=
  Text.trimRight ((Text.trim text.toList).takeWhile (· ≠ '\n'))

-- A message that announces a list by a colon is completed by what was expected.
def complete (line : List Char) (expected : String) : String :=
  if line.getLast? = some ':' then
    if expected = "" then String.ofList line.dropLast
    else String.ofList line ++ " " ++ expected
  else String.ofList line

-- A message of its own is kept as it is. Otherwise it is the first line of the error's text.
def messageOf (s : Store) (e : Failure) (expected : String) : Except Failure Value :=
  let own := field e "message"
  if s.isText own then .ok own
  else do return .text (complete (firstLine (← s.failureText e)) expected)

def ofFailure (s : Store) (e : Failure) : Except Failure Details := do
  let position := positionField s e
  let found ← foundOf s e
  let expected ← textOf s (firstOf (field e "expected") (field e "allowed"))
  let message ← messageOf s e ((s.text? expected).getD "")
  return {
    message := message
    line := positionOrZero (position "line")
    column := positionOrZero (position "column")
    offset := positionOrZero (firstOf (position "offset") (position "pos_in_stream"))
    found := ← textOf s found
    expected := expected }

-- The diagnostic for a failure in a text.
def diagnostic (d : Details) (text : String) : Diagnostic where
  message := d.message
  line := .int d.line
  column := .int d.column
  offset := .int d.offset
  found := d.found
  expected := d.expected
  location := Excerpt.around text d.offset

end Details

end ParseKit
