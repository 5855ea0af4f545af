import ParseKit.Build.Call

namespace ParseKit

-- What runs for a rule or a terminal of a given name.
inductive Method (σ : Type) where
  -- Takes the transformed children of a tree, or a token.
  | plain (run : Value → Run σ Value)
  -- Takes the positions of a tree as well. On a token alone it fails with the given text.
  | placed (run : Value → Value → Run σ Value) (withoutChildren : String)

namespace Method

variable {σ : Type}

-- What a method makes of a tree, whose children are transformed already.
def onTree (children : List Value) (tree : Value) : Method σ → Run σ Value
  | plain run => do run (← Run.alloc (.list children))
  | placed run _ => do
    let place ← Run.alloc (.place ((← Run.store).placeOf tree))
    run place (← Run.alloc (.list children))

def onToken (token : Value) : Method σ → Run σ Value
  | plain run => run token
  | placed _ withoutChildren => Run.raise .typeError withoutChildren

end Method

-- The methods are given the helpers first.
structure Actions (σ : Type) where
  name : String
  method? : Value → String → Option (Method σ)
  -- What becomes of a tree without a method, from its data, its transformed children and the
  -- tree itself.
  fallback : Value → Value → List Value → Value → Run σ Value

namespace Actions

variable {σ : Type}

-- A node built by the helpers at the place of an item.
def node (host : Host σ) (util place : Value) (args : List Value) : Run σ Value := do
  let factory ← Helpers.factory util (.ofItem place)
  call host factory args

-- A list flattened by the helpers at the place of an item.
def unroll (host : Host σ) (util place first items take : Value) : Run σ Value := do
  let unroller ← Helpers.unroller util (.ofItem place)
  call host unroller [first, items, take]

-- A method that gives an object of a class that nothing here looks into.
def givesObject (className : String) : Method σ :=
  .plain fun _ => Run.alloc (.foreign
    { className := className, label := className, display := className, inspect := className })

-- What names stand for that mean something to all actions. Rules of these names cannot have actions
-- of their own. `owner` is the class that says what becomes of other rules.
def inherited? (host : Host σ) (name owner : String) (util : Value) : String → Option (Method σ)
  | "node" => some (.plain fun place => node host util place [])
  | "unroll" => some (.plain fun _ => Run.raise .typeError
      "Actions.unroll() missing 2 required positional arguments: 'first' and 'items'")
  | "util" => some (.plain fun _ => notCallable util)
  | "transform" | "__default_token__" | "_call_userfunc_token" => some (.plain pure)
  | "__default__" => some (.plain fun _ => Run.raise .typeError
      (owner ++ ".__default__() missing 2 required positional arguments: 'children' and 'meta'"))
  | "_call_userfunc" | "_transform_tree" => some (.plain fun children => do
      Run.fail ((← Run.store).missingPart children "children"))
  | "_transform_children" => some (givesObject "generator")
  | "__mul__" => some (givesObject "TransformerChain")
  | "__class__" => some (givesObject name)
  | "__init__" => some (.plain fun _ => pure .null)
  | "__visit_tokens__" => some (.plain fun _ => notCallable (.bool true))
  | "__doc__" | "__module__" => some (.plain fun _ => notCallable (.text ""))
  | _ => none

-- A tree with the same data and place, and other children.
def rebuild (data : Value) (children : List Value) (tree : Value) : Run σ Value := do
  Run.alloc (.tree data children ((← Run.store).placeOf tree))

-- The method for a name, which has to be a text.
def methodFor (actions : Actions σ) (util name : Value) : Run σ (Option (Method σ)) := do
  let s ← Run.store
  match s.text? name with
  | some t => return actions.method? util t
  | none =>
    Run.raise .typeError ("attribute name must be string, not '" ++ s.kindName name ++ "'")

-- Whether a transformer puts an error of its own around one of a method.
def wraps (e : Failure) : Bool := e.isA .exception && !e.isA .unusableGrammar

-- The error around another one. What it says itself is shown to nobody.
def visitError (cause : Value) : Failure :=
  { errorClass := .visitError, args := [], fields := [("orig_exc", cause)] }

-- Runs a method for a transformer.
def guarded (method : Run σ Value) : Run σ Value := do
  match ← Run.attempt method with
  | .ok v => return v
  | .error e =>
    if wraps e then Run.fail (visitError (← Run.alloc (.failure e)))
    else Run.fail e

-- The result for a tree whose children are done.
def applyRule (actions : Actions σ) (util data : Value) (children : List Value) (tree : Value) :
    Run σ Value := do
  match ← methodFor actions util data with
  | none => actions.fallback util data children tree
  | some method => guarded (method.onTree children tree)

-- The result for a token.
def applyTerminal (actions : Actions σ) (util : Value) (type : String) (token : Value) :
    Run σ Value := do
  match actions.method? util type with
  | none => return token
  | some method => guarded (method.onToken token)

-- Transforms trees and tokens, leaving everything else as it is, down to `depth` levels.
def transformWithin (actions : Actions σ) (util : Value) : Nat → Value → Run σ Value
  | 0, _ => throw .outOfFuel
  | depth + 1, v => do
    match ← Run.object? v with
    | some (.tree data children _) =>
      let done ← children.mapM (transformWithin actions util depth)
      applyRule actions util data done v
    | some (.token type _ _) => applyTerminal actions util type v
    | _ => return v

-- Transforms a tree. A tree holds only what was made before it, so the number of objects
-- bounds its depth.
def transform (actions : Actions σ) (util tree : Value) : Run σ Value := do
  transformWithin actions util ((← Run.store).size + 1) tree

-- Actions with methods of their own, and trees rebuilt where there is none.
def ofMethods (host : Host σ) (name : String)
    (methods : Value → String → Option (Method σ)) : Actions σ where
  name := name
  method? := fun util rule =>
    match methods util rule with
    | some m => some m
    | none => inherited? host name "Transformer" util rule
  fallback := fun _ data children tree => rebuild data children tree

end Actions

end ParseKit
