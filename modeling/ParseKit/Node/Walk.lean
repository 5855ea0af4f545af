import ParseKit.Node.Basic
import ParseKit.Value.Loop

namespace ParseKit

-- When a visitor is called for a node: ahead of its children, or once they are done.
inductive Phase where
  | before
  | after
  deriving DecidableEq, Repr, Inhabited

def Phase.name : Phase → String
  | before => "before"
  | after => "after"

-- The phases that a walk asks for.
inductive WalkMode where
  | before
  | after
  | both
  deriving DecidableEq, Repr, Inhabited

namespace WalkMode

def ofName? : String → Option WalkMode
  | "before" => some before
  | "after" => some after
  | "both" => some both
  | _ => none

def visits : WalkMode → Phase → Bool
  | before, .before => true
  | before, .after => false
  | after, .before => false
  | after, .after => true
  | both, _ => true

end WalkMode

namespace Node

variable {σ α : Type}

-- What a visitor makes of a result so far, a node, its depth, and the phase.
abbrev Visitor (σ α : Type) := α → Value → Nat → Phase → Run σ α

mutual

-- Visits a node and everything below it, depth first, within `fuel` steps.
def walkNode (mode : WalkMode) (visit : Visitor σ α) :
    Nat → α → Value → Nat → Run σ α
  | 0, _, _, _ => throw .outOfFuel
  | fuel + 1, acc, node, depth => do
    let acc ← if mode.visits .before then visit acc node depth .before else pure acc
    let loop ← Run.inspect (Loop.overChildren · node)
    let acc ← walkChildren mode visit fuel acc depth loop
    if mode.visits .after then visit acc node depth .after else pure acc

-- Visits the children that a loop has yet to give. What they are is seen anew at every step.
def walkChildren (mode : WalkMode) (visit : Visitor σ α) : Nat → α → Nat → Loop → Run σ α
  | 0, _, _, _ => throw .outOfFuel
  | fuel + 1, acc, depth, loop => do
    match ← Run.inspect loop.next? with
    | none => pure acc
    | some (child, loop) =>
      let acc ← walkNode mode visit fuel acc child (depth + 1)
      walkChildren mode visit fuel acc depth loop

end

-- The mode that a value names.
def walkMode (mode : Value) : Run σ WalkMode := do
  match ((← Run.store).text? mode).bind WalkMode.ofName? with
  | some m => return m
  | none => Run.raise .invalidArgument ("Invalid walk phase: " ++ (← Run.inspect (·.inspect mode)))

-- Calls a visitor for every node of the tree under `node`, which is given back.
def walk (fuel : Nat) (node : Value) (visit : Value → Nat → Phase → Run σ Unit)
    (mode : Value) : Run σ Value := do
  let _ ← parts node "walk"
  let m ← walkMode mode
  walkNode m (fun _ v depth phase => visit v depth phase) fuel () node 0
  return node

-- How many children a loop over the children of an object would go through.
def childCount (s : Store) : Object → Nat
  | .node p => ((s.elements? p.children).getD []).length
  | .tree _ children _ => children.length
  | _ => 0

-- Steps enough for a walk over any acyclic graph of the store that nothing changes meanwhile.
def walkBound (s : Store) : Nat :=
  s.objects.foldl (fun n o => n + childCount s o + 2) 2

end Node

end ParseKit
