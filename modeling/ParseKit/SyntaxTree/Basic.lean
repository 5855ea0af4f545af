import ParseKit.Grammar.Basic
import ParseKit.Text.Quoted
import ParseKit.Value

namespace ParseKit

-- A place in a text. Lines and columns count from 1, offsets from 0.
structure Cursor where
  line : Nat := 1
  column : Nat := 1
  offset : Nat := 0
  deriving DecidableEq, Repr, Inhabited

namespace Cursor

def step (p : Cursor) (c : Char) : Cursor :=
  if c = '\n' then ⟨p.line + 1, 1, p.offset + 1⟩ else ⟨p.line, p.column + 1, p.offset + 1⟩

def advance (p : Cursor) (text : List Char) : Cursor := text.foldl step p

theorem advance_append (p : Cursor) (s t : List Char) :
    p.advance (s ++ t) = (p.advance s).advance t := List.foldl_append

theorem offset_advance (p : Cursor) (text : List Char) :
    (p.advance text).offset = p.offset + text.length := by
  induction text generalizing p with
  | nil => rfl
  | cons c rest ih =>
    have hc : (p.step c).offset = p.offset + 1 := by
      unfold step
      split <;> rfl
    simp only [advance, List.foldl_cons, List.length_cons] at ih ⊢
    rw [ih, hc]
    omega

end Cursor

structure Extent where
  start : Cursor
  stop : Cursor
  deriving DecidableEq, Repr, Inhabited

-- What a tree is called: after its rule, or by a label.
inductive TreeName where
  | rule (name : String)
  | label (name : String)
  deriving DecidableEq, Repr, Inhabited

inductive SyntaxTree where
  -- The mark of something that was left out.
  | absent
  | token (type text : String) (extent : Extent)
  -- `own` is what the tree covers, and `outer` what it covers together with the tokens around it
  -- that a rule gave up when it was replaced by the tree. A tree of nothing has neither.
  | tree (name : TreeName) (children : List SyntaxTree) (own outer : Option Extent)
  deriving Repr, Inhabited

namespace SyntaxTree

-- What counts for the extent of a tree around it.
def outer? : SyntaxTree → Option Extent
  | absent => none
  | token _ _ extent => some extent
  | tree _ _ _ outer => outer

def children : SyntaxTree → List SyntaxTree
  | tree _ children _ _ => children
  | _ => []

-- From the first of some trees that has an extent to the last.
def span? (parts : List SyntaxTree) : Option Extent :=
  match parts.findSome? outer?, parts.reverse.findSome? outer? with
  | some first, some last => some ⟨first.start, last.stop⟩
  | _, _ => none

-- Gives a tree the extent of everything that it stands for. What it covers on its own stays.
def covering (extent : Option Extent) : SyntaxTree → SyntaxTree
  | tree name children own outer => tree name children (own.or extent) (extent.or outer)
  | t => t

end SyntaxTree

-- The children that a production gives to its tree.
def arrange : List Element → List SyntaxTree → List SyntaxTree
  | .absent :: elements, parts => .absent :: arrange elements parts
  | .terminal _ kept :: elements, part :: parts =>
    if kept then part :: arrange elements parts else arrange elements parts
  | .rule _ spliced :: elements, part :: parts =>
    if spliced then part.children ++ arrange elements parts else part :: arrange elements parts
  | _, _ => []

-- The tree of a production over the trees of its symbols.
def Production.build (p : Production) (parts : List SyntaxTree) : SyntaxTree :=
  let name := match p.label with
    | some label => TreeName.label label
    | none => .rule p.rule
  let children := arrange p.elements parts
  let result := match p.collapses, children with
    | true, [child] => child
    | _, children => .tree name children none none
  result.covering (SyntaxTree.span? parts)

-- Why a grammar engine refuses a text.
inductive Rejection where
  -- A token, or the end of the text, where other terminals are expected.
  | token (type text : String) (at_ : Cursor) (expected : List String)
  -- A character that no terminal starts with.
  | character (c : Char) (at_ : Cursor) (expected : List String)
  -- The end of the text, where terminals are expected.
  | ending (expected : List String)
  deriving DecidableEq, Repr, Inhabited

namespace Rejection

def message : Rejection → String
  | token type text p _ =>
    "Unexpected token Token(" ++ Text.quoted type ++ ", " ++ Text.quoted text ++ ") at line "
      ++ toString p.line ++ ", column " ++ toString p.column ++ ".\n"
  | character c p _ =>
    "No terminal matches '" ++ String.singleton c ++ "' in the current parser context, at line "
      ++ toString p.line ++ " col " ++ toString p.column ++ "\n"
  | ending expected =>
    "Unexpected end-of-input. Expected one of: \n\t* " ++ "\n\t* ".intercalate expected ++ "\n"

end Rejection

end ParseKit
