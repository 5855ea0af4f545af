import ParseKit.Build.Span
import ParseKit.Failure.Construct
import ParseKit.Node.Children

namespace ParseKit

-- How the objects of a client behave.
structure Host (σ : Type) where
  call : Foreign → List Value → Run σ Value
  build : Foreign → Point → List Value → Run σ Value
  locate : Nat → Run σ Value

namespace Store

-- Values that build by themselves: builders, and anything whose build method can be called.
def isBuilder (s : Store) (v : Value) : Bool :=
  match s.get? v with
  | some (.builder _) => true
  | some (.foreign o) => o.canBuild
  | some (.record _) => ((s.part? v "build_node").map s.callable).getD false
  | _ => false

end Store

variable {σ : Type}

-- The builder that an option stands for: the standard one for null, the option itself if it
-- builds, and for any other callable a builder that calls it.
def asBuilder (option : Value) : Run σ Value := do
  if option = .null then Run.alloc (.builder .standard)
  else
    let s ← Run.store
    if s.isBuilder option then return option
    else if s.callable option then Run.alloc (.builder (.callback option))
    else
      Run.raise .invalidArgument
        ("Invalid node builder: " ++ (← Run.inspect (·.inspect option)))

-- A mapping at the front of the arguments after the type gives the attributes.
def splitAttributes (s : Store) : List Value → Value × List Value
  | [] => (.null, [])
  | first :: rest => if (s.entries? first).isSome then (first, rest) else (.null, first :: rest)

-- The standard builder: a type, a mapping with the attributes unless there is none, and
-- children.
def buildStandard (at_ : Point) (args : List Value) : Run σ Value := do
  match args with
  | [] => Run.raise .invalidArgument "Node type is required"
  | type :: rest =>
    let (attributes, children) := splitAttributes (← Run.store) rest
    let node ← Node.create type attributes .null
    if !children.isEmpty then
      let _ ← Node.addChildren node children
    Node.setPosition node at_.line at_.column at_.offset

-- The start of the span that an accessor gives, for which the accessor is asked once.
def startOf (location : Run σ Value) : Run σ Point := do
  let span ← location
  let start ← Run.inspect (·.requirePart span "start")
  let line ← Run.inspect (·.requirePart start "line")
  let column ← Run.inspect (·.requirePart start "column")
  let offset ← Run.inspect (·.requirePart start "offset")
  return ⟨line, column, offset⟩

-- What a factory does with the arguments of an action.
def produce (location : Run σ Value) (build : Point → List Value → Run σ Value)
    (args : List Value) : Run σ Value := do
  let start ← startOf location
  build start args

end ParseKit
