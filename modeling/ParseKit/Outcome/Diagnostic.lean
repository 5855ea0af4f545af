import ParseKit.Excerpt
import ParseKit.Value.Inspect

namespace ParseKit

-- A failed parse: what went wrong, where, what was found and expected there, and the source
-- around it. Zero and the empty text stand for what is not known.
structure Diagnostic where
  message : Value
  line : Value := .int 0
  column : Value := .int 0
  offset : Value := .int 0
  found : Value := .text ""
  expected : Value := .text ""
  location : Excerpt := {}
  deriving DecidableEq, Repr, Inhabited

-- A parse ends with a tree or with a diagnostic. A tree may be null.
structure ParseResult where
  ast : Value := .null
  error : Option Diagnostic := none
  deriving DecidableEq, Repr, Inhabited

namespace ParseResult

def make (ast : Value) (error : Option Diagnostic) : Except Failure ParseResult :=
  if error.isSome ∧ ast ≠ .null then
    .error (.message .invalidArgument "ParseResult cannot have both ast and error")
  else .ok ⟨ast, error⟩

def ok (r : ParseResult) : Bool := r.error.isNone

end ParseResult

namespace Diagnostic

-- The text in front of the excerpt.
def heading (line column : String) : String := "line " ++ line ++ " (column " ++ column ++ "): "

-- Position and excerpt, a caret below the failing character, and the message.
def render (s : Store) (d : Diagnostic) (noFinalNewline : Bool) : Except Failure String := do
  let start := heading (← s.display d.line) (← s.display d.column)
  let message ← s.display d.message
  let dashes := List.replicate (start.length + d.location.prolog.length) '-'
  let text := start ++ d.location.prolog ++ d.location.token ++ d.location.epilog ++ "\n"
    ++ String.ofList dashes ++ "^\n" ++ message
  return if noFinalNewline then text else text ++ "\n"

end Diagnostic

end ParseKit
