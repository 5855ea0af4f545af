import ParseKit.Node.Attributes

namespace ParseKit

-- A node whose four parts are of the right kinds.
def Store.isWellFormedNode (s : Store) (v : Value) : Bool :=
  match s.node? v with
  | some p =>
    s.isText p.type && (s.dict? p.attributes).isSome && (s.list? p.children).isSome &&
      s.isPosition p.position
  | none => false

namespace Node

variable {σ : Type}

def requireWellFormed (v : Value) : Run σ Unit := do
  let s ← Run.store
  unless s.isWellFormedNode v do
    let shown := (s.part? v "type").getD v
    Run.raise .invalidArgument
      ("Invalid ast node: " ++ s.className v ++ " " ++ (← Run.inspect (·.inspect shown)))

-- The nodes that one argument contributes: none for null, all items of a list or a tuple,
-- and otherwise the argument itself.
def contribution (s : Store) (v : Value) : List Value :=
  match v with
  | .null => []
  | v => (s.items? v).getD [v]

def requireAll : List Value → Run σ Unit
  | [] => pure ()
  | v :: rest => do
    requireWellFormed v
    requireAll rest

-- The nodes of all arguments in order, each of them checked.
def flatten (args : List Value) : Run σ (List Value) := do
  let s ← Run.store
  let nodes := args.flatMap (contribution s)
  requireAll nodes
  return nodes

-- Appends nodes, or changes nothing if one of them is not well formed.
def addChildren (node : Value) (args : List Value) : Run σ Value := do
  let p ← parts node "add_children"
  if args.isEmpty then Run.raise .invalidArgument "add_children: missing argument(s)"
  let s ← Run.store
  match s.list? p.children with
  | none =>
    let _ ← Run.ofExcept (s.requirePart p.children "extend")
    let _ ← callPart p.children "extend" (← Run.alloc (.list (← flatten args)))
    return node
  | some children =>
    let nodes ← flatten args
    Run.put p.children (.list (children ++ nodes))
    return node

def removeEach (node : Value) : List Value → Run σ Unit
  | [] => pure ()
  | child :: rest => do
    let p ← parts node "remove_children"
    let items ← Run.inspect (·.elements p.children)
    match items.idxOf? child with
    | some place =>
      deleteItem p.children (.int place)
      removeEach node rest
    | none =>
      Run.raise .notFound ("Child not found: " ++ (← Run.inspect (·.inspect child)))

-- Takes out the first occurrence of each of the given children in turn. What was taken out
-- before a failure stays out.
def removeChildren (node : Value) (children : List Value) : Run σ Value := do
  let _ ← parts node "remove_children"
  if children.isEmpty then Run.raise .invalidArgument "remove_children: missing argument(s)"
  removeEach node children
  return node

-- A new node. Attributes and children that are null are left out.
def create (type attributes children : Value) : Run σ Value := do
  let node ← bare type
  if attributes ≠ .null then
    let _ ← setAttributes node attributes
  if children ≠ .null then
    let _ ← addChildren node [children]
  return node

end Node

end ParseKit
