import ParseKit.Actions.Transform
import ParseKit.Outcome.Parse

namespace ParseKit

variable {σ : Type}

-- What a grammar engine makes of a text, from the given start rule or, for null, its own.
abbrev Engine (σ : Type) := Value → Value → Run σ Value

namespace Engine

-- The helpers in the options, or new ones.
def helpersOf (s : Store) (entries : List (Value × Value)) : Run σ Value :=
  let given := Options.get s entries "util"
  if s.truthy given then pure given else Helpers.create .null

-- The error that another one was put around.
def causeOf (s : Store) (e : Failure) : Failure :=
  match s.get? ((e.field? "orig_exc").getD .null) with
  | some (.failure cause) => cause
  | _ => .message .typeError "exceptions must derive from BaseException"

-- Runs a transformation, and fails with the error of the action where the transformer put one of
-- its own around it.
def unwrapped (transformation : Run σ Value) : Run σ Value := do
  match ← Run.attempt transformation with
  | .ok v => return v
  | .error e =>
    if e.isA .visitError then Run.fail (causeOf (← Run.store) e) else Run.fail e

-- Runs actions over a tree. Anything else has no rule to start from.
def runActions (actions : Actions σ) (entries : List (Value × Value)) (tree : Value) :
    Run σ Value := do
  let util ← helpersOf (← Run.store) entries
  let data ← Run.inspect (·.requirePart tree "data")
  Run.note (.running actions.name (((← Run.store).inspect data).toOption.getD ""))
  unwrapped (actions.transform util tree)

-- A parser that gives the result of the actions, or the tree itself if there are none. Its
-- syntax errors are the engine's.
def parser (engine : Engine σ) (actions : Option (Actions σ)) : Parser σ where
  run := fun text options => do
    let s ← Run.store
    let entries := (s.entries? options).getD []
    let tree ← engine text (Options.get s entries "start_rule")
    match actions with
    | none => return tree
    | some a => runActions a entries tree
  syntaxError := .errorClass .unexpectedInput

end Engine

end ParseKit
