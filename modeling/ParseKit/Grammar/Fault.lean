import ParseKit.Text.Quoted

namespace ParseKit

-- A place in the text of a grammar, with the line that it is in. Columns count from 1.
structure Spot where
  line : Nat
  column : Nat
  text : String
  deriving DecidableEq, Repr, Inhabited

namespace Spot

-- The width of a text in which every tab goes on to the next multiple of 8.
def width (cs : List Char) : Nat :=
  cs.foldl (fun n c => if c = '\t' then n + (8 - n % 8) else n + 1) 0

-- At most 40 characters to either side of the spot, and a caret below it.
def excerpt (s : Spot) : String :=
  let before := (s.text.toList.take (s.column - 1)).drop (s.column - 1 - 40)
  let behind := (s.text.toList.drop (s.column - 1)).take 40
  let blanks := List.replicate (width before) ' '
  String.ofList (before ++ behind) ++ "\n" ++ String.ofList blanks ++ "^"

end Spot

inductive GrammarFault where
  -- A repetition mark with nothing before it that it could repeat.
  | misplacedOperator (spot : Spot)
  | unexpected (spot : Spot)
  | unknownImport (name : String)
  | undefinedRule (name user : String)
  | undefinedTerminal (name user : String)
  | undefinedStart (name : String)
  -- Two productions end on the same terminal, and nothing says which is meant.
  | collision (terminal : String)
  deriving DecidableEq, Repr, Inhabited

namespace GrammarFault

def located (text : String) (s : Spot) : String :=
  text ++ ", at line " ++ toString s.line ++ " column " ++ toString s.column ++ "\n\n" ++ s.excerpt
    ++ "\n"

def message : GrammarFault → String
  | misplacedOperator s => located "Misplaced operator" s
  | unexpected s => located "Unexpected input" s
  | unknownImport name => "Couldn't import terminal/rule '" ++ name ++ "'"
  | undefinedRule name user => "Rule '" ++ name ++ "' used but not defined (in rule " ++ user ++ ")"
  | undefinedTerminal name user =>
    "Terminal '" ++ name ++ "' used but not defined (in " ++ user ++ ")"
  | undefinedStart name =>
    "Using an undefined rule: NonTerminal(" ++ Text.quoted name ++ ")"
  | collision terminal => "Reduce/Reduce collision in Terminal(" ++ Text.quoted terminal ++ ")"

end GrammarFault

end ParseKit
