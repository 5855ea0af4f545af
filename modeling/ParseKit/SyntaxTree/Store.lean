import ParseKit.SyntaxTree.Basic
import ParseKit.World

namespace ParseKit

variable {σ : Type}

def Extent.place (e : Extent) : Place where
  line := .int e.start.line
  column := .int e.start.column
  startPos := .int e.start.offset
  endLine := .int e.stop.line
  endColumn := .int e.stop.column
  endPos := .int e.stop.offset

-- A rule's name is itself a token, without a place. A label is a text.
def TreeName.alloc : TreeName → Run σ Value
  | rule name => Run.alloc (.token "RULE" name {})
  | label name => return .text name

namespace SyntaxTree

mutual

-- Makes the objects of a tree. With `placed` a tree has its extent as its place. Tokens always
-- have one.
def alloc (placed : Bool) : SyntaxTree → Run σ Value
  | absent => return .null
  | token type text extent => Run.alloc (.token type text extent.place)
  | tree name children own _ => do
    let children ← allocAll placed children
    let data ← name.alloc
    let place := if placed then (own.map Extent.place).getD {} else {}
    Run.alloc (.tree data children place)

def allocAll (placed : Bool) : List SyntaxTree → Run σ (List Value)
  | [] => return []
  | t :: rest => do
    let v ← alloc placed t
    return v :: (← allocAll placed rest)

end

end SyntaxTree

end ParseKit
