import ParseKit.Failure.Construct
import ParseKit.Value.Inspect

namespace ParseKit.Node

variable {σ : Type}

-- The parts of a node, for an operation of the given name.
def parts (node : Value) (operation : String) : Run σ NodeParts := do
  match (← Run.store).node? node with
  | some p => return p
  | none => Run.fail ((← Run.store).missingMethod node operation)

-- Calls what a value that is none of the usual ones has under a name. Of what can be there, only a
-- class of errors takes a single argument.
def callPart (holder : Value) (name : String) (argument : Value) : Run σ Value := do
  let s ← Run.store
  match s.part? holder name with
  | some (.errorClass c) => Run.alloc (.failure (← Run.ofExcept (c.construct [argument] [])))
  | _ => Run.fail (s.missingMethod holder name)

def requireType (type : Value) : Run σ Unit := do
  unless (← Run.store).isText type do
    Run.raise .invalidArgument ("Invalid node type: " ++ (← Run.inspect (·.inspect type)))

def setType (node type : Value) : Run σ Value := do
  let p ← parts node "set_type"
  requireType type
  Run.put node (.node { p with type := type })
  return node

-- A position value, with zero for everything that counts as false.
def orZero (v : Value) : Run σ Value := do
  return if (← Run.store).truthy v then v else .int 0

def setPosition (node line column offset : Value) : Run σ Value := do
  let p ← parts node "set_position"
  let position ← Run.alloc (.position (← orZero line) (← orZero column) (← orZero offset))
  Run.put node (.node { p with position := position })
  return node

-- The position that positional arguments and keywords give, each part being zero by default.
def bindPosition (args : List Value) (keywords : Keywords) :
    Except Failure (Value × Value × Value) := do
  let owner := "AstNode.set_position()"
  let names := ["line", "column", "offset"]
  let bound ← bindKeywords owner names (names.zip args) keywords
  if names.length < args.length then
    refuse (owner ++ " takes from 1 to 4 positional arguments but " ++ toString (args.length + 1)
      ++ " were given")
  else
    let value (name : String) := (bound.lookup name).getD (.int 0)
    return (value "line", value "column", value "offset")

-- The four parts of a node by name.
inductive Part where
  | type
  | attributes
  | children
  | position
  deriving DecidableEq, Repr

def replacePart (p : NodeParts) (v : Value) : Part → NodeParts
  | .type => { p with type := v }
  | .attributes => { p with attributes := v }
  | .children => { p with children := v }
  | .position => { p with position := v }

-- Overwrites a part with any value at all, so that the node need not be well formed any more.
def overwrite (node : Value) (part : Part) (v : Value) : Run σ Unit := do
  let p ← parts node "overwrite"
  Run.put node (.node (replacePart p v part))

-- A node of a type with no attributes, no children and no position.
def bare (type : Value) : Run σ Value := do
  requireType type
  let attributes ← Run.alloc (.dict {})
  let children ← Run.alloc (.list [])
  let position ← Run.alloc (.position (.int 0) (.int 0) (.int 0))
  Run.alloc (.node ⟨type, attributes, children, position⟩)

end ParseKit.Node
