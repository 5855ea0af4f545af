import ParseKit.Actions.Engine
import ParseKit.Grammar.Chart
import ParseKit.Grammar.Shifting
import ParseKit.Grammar.Written.Flatten
import ParseKit.SyntaxTree.Store

namespace ParseKit

variable {σ : Type}

namespace Rejection

def texts (names : List String) : Run σ Value := Run.alloc (.list (names.map .text))

def located (line column offset : Int) : List (String × Value) :=
  [("line", .int line), ("column", .int column), ("pos_in_stream", .int offset)]

-- The failure that an engine reports a rejection by.
def failure (r : Rejection) : Run σ Failure := do
  let fields ← match r with
    | token _ text p expected => do
      let expected ← texts expected
      pure (located p.line p.column p.offset ++ [("token", .text text), ("expected", expected)])
    | character c p expected => do
      let expected ← texts expected
      pure (located p.line p.column p.offset ++
        [("char", .text (String.singleton c)), ("allowed", expected)])
    | ending expected => do
      let expected ← texts expected
      pure (located (-1) (-1) (-1) ++ [("token", .text ""), ("expected", expected)])
  return { errorClass := .unexpectedInput, args := [.text r.message], fields := fields }

end Rejection

inductive Algorithm where
  | lalr
  | earley
  deriving DecidableEq, Repr, Inhabited

-- How an engine is made from the text of a grammar.
structure EngineOptions where
  algorithm : Algorithm
  starts : List String := ["start"]
  -- Whether what a bracket leaves out leaves marks in the trees.
  placeholders : Bool := true
  -- Whether trees have places.
  placed : Bool := true

namespace Engine

-- Fails unless a start is given that the grammar has, or it has but one.
def chooseStart (starts : List String) (given : Value) : Run σ String := do
  match given, starts with
  | .null, [start] => return start
  | .null, [] => Run.raise .valueError "not enough values to unpack (expected 1, got 0)"
  | .null, _ =>
    let listed ← Rejection.texts starts
    Run.fail
      { errorClass := .unusableStart
        args :=
          [.text ("Lark initialized with more than 1 possible start rule. "
            ++ "Must specify which start rule to parse"), listed] }
  | v, _ =>
    let s ← Run.store
    match starts.find? fun name => s.text? v == some name with
    | some start => return start
    | none =>
      let listed ← Rejection.texts starts
      let shown ← Run.inspect (·.inspect listed)
      let name ← Run.inspect (·.display v)
      Run.raise .unusableStart ("Unknown start rule " ++ name ++ ". Must be one of " ++ shown)

-- An engine from a function that parses a text from a start.
def ofParse (starts : List String) (placed : Bool)
    (parse : String → String → Except Rejection SyntaxTree) : Engine σ := fun text start => do
  let start ← chooseStart starts start
  let text := ((← Run.store).text? text).getD ""
  match parse start text with
  | .ok tree => tree.alloc placed
  | .error rejection => Run.fail (← rejection.failure)

-- The engine of a grammar's text.
def ofGrammar (options : EngineOptions) (source : String) : Except GrammarFault (Engine σ) := do
  let g ← Grammar.ofText options.starts options.placeholders source
  let parse ← match options.algorithm with
    | .earley => .ok (Chart.parse g)
    | .lalr => do
      let a ← g.automaton
      .ok (a.parse g)
  .ok (ofParse options.starts options.placed parse)

end Engine

end ParseKit
