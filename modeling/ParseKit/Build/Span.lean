import ParseKit.Node.Basic

namespace ParseKit

-- A position as three values.
structure Point where
  line : Value
  column : Value
  offset : Value
  deriving DecidableEq, Repr, Inhabited

namespace Store

-- The positions recorded for an item: those of the tree itself for a tree, and otherwise
-- whatever the item has under the names of positions.
def placeOf (s : Store) (item : Value) : Place :=
  match s.get? item with
  | some (.tree _ _ place) => place
  | _ =>
    { line := s.part item "line"
      column := s.part item "column"
      startPos := s.part item "start_pos"
      endLine := s.part item "end_line"
      endColumn := s.part item "end_column"
      endPos := s.part item "end_pos" }

def orElse (s : Store) (v other : Value) : Value := if s.truthy v then v else other

-- Where an item starts, zero where nothing was recorded.
def startPoint (s : Store) (item : Value) : Point :=
  let p := s.placeOf item
  ⟨s.orElse p.line (.int 0), s.orElse p.column (.int 0), s.orElse p.startPos (.int 0)⟩

-- Where an item ends, its start where nothing was recorded.
def endPoint (s : Store) (item : Value) : Point :=
  let p := s.placeOf item
  let start := s.startPoint item
  ⟨s.orElse p.endLine start.line, s.orElse p.endColumn start.column,
    s.orElse p.endPos start.offset⟩

end Store

variable {σ : Type}

def allocPoint (p : Point) : Run σ Value := Run.alloc (.position p.line p.column p.offset)

-- The span of an item.
def spanOf (item : Value) : Run σ Value := do
  let s ← Run.store
  let start ← allocPoint (s.startPoint item)
  let stop ← allocPoint (s.endPoint item)
  Run.alloc (.span start stop)

end ParseKit
