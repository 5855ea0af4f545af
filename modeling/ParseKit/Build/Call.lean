import ParseKit.Build.Unroll

namespace ParseKit

variable {σ : Type}

-- What a value located by an item or by the client says when it is asked.
def locate (host : Host σ) : Location → Run σ Value
  | .ofItem item => spanOf item
  | .accessor id => host.locate id

def notCallable {α : Type} (v : Value) : Run σ α := do
  Run.raise .typeError ("'" ++ (← Run.store).kindName v ++ "' object is not callable")

-- An unroller takes the first item, the repetitions, and what to take of them.
def unrollArguments (args : List Value) : Except Failure (Value × Value × Value) :=
  let owner := "make_unroll.<locals>.unroll()"
  match args with
  | [first, items] => .ok (first, items, .null)
  | [first, items, take] => .ok (first, items, take)
  | [] => refuse (owner ++ " missing 2 required positional arguments: 'first' and 'items'")
  | [_] => refuse (owner ++ " missing 1 required positional argument: 'items'")
  | args =>
    refuse (owner ++ " takes from 2 to 3 positional arguments but " ++ toString args.length
      ++ " were given")

mutual

-- A function can only hold values made before it, so the number of objects bounds how far one
-- call leads to another.
def callWithin (host : Host σ) : Nat → Value → List Value → Run σ Value
  | 0, _, _ => throw .outOfFuel
  | _ + 1, .errorClass c, args => do
    let e ← Run.ofExcept (c.construct args [])
    Run.alloc (.failure e)
  | fuel + 1, f, args => do
    match ← Run.object? f with
    | some (.foreign o) => if o.callable then host.call o args else notCallable f
    | some (.function (.factory location builder)) =>
      produce (locate host location) (buildWithin host fuel builder) args
    | some (.function (.unroller location errorClass)) =>
      let (first, items, take) ← Run.ofExcept (unrollArguments args)
      unroll (locate host location) errorClass first items take
    | _ => notCallable f

def buildWithin (host : Host σ) : Nat → Value → Point → List Value → Run σ Value
  | 0, _, _, _ => throw .outOfFuel
  | fuel + 1, builder, start, args => do
    let viaCall (f : Value) : Run σ Value := do
      let packed ← Run.alloc (.tuple args)
      callWithin host fuel f [start.line, start.column, start.offset, packed]
    match ← Run.object? builder with
    | some (.builder .standard) => buildStandard start args
    | some (.builder (.callback f)) => viaCall f
    | some (.builder (.unfinished name)) =>
      Run.raise .notImplementedError (name ++ ".build_node() not implemented")
    | some (.foreign o) => host.build o start args
    | some (.record _) => viaCall ((← Run.store).part builder "build_node")
    | _ => notCallable builder

end

-- Steps enough for any chain of calls that the store can hold.
def callBound (s : Store) : Nat := 2 * s.size + 2

-- The result of a call of a value.
def call (host : Host σ) (f : Value) (args : List Value) : Run σ Value := do
  callWithin host (callBound (← Run.store)) f args

-- The node that a builder makes at a position.
def build (host : Host σ) (builder : Value) (start : Point) (args : List Value) :
    Run σ Value := do
  buildWithin host (callBound (← Run.store)) builder start args

-- A factory for a location and a builder option.
def makeFactory (location : Location) (option : Value) : Run σ Value := do
  let builder ← asBuilder option
  Run.alloc (.function (.factory location builder))

-- An unroller for a location, with syntax errors of this library unless another class is
-- given.
def makeUnroller (location : Location) (errorClass : Value) : Run σ Value := do
  let c := if errorClass = .null then .errorClass .grammarError else errorClass
  Run.alloc (.function (.unroller location c))

namespace Helpers

-- What semantic actions are given to work with: a builder, and the class of errors that their
-- unrollers raise.
def create (option : Value) : Run σ Value := do
  let builder ← asBuilder option
  Run.alloc (.helpers builder (.errorClass .grammarError))

def parts (helpers : Value) (operation : String) : Run σ (Value × Value) := do
  match ← Run.object? helpers with
  | some (.helpers builder errorClass) => return (builder, errorClass)
  | _ => Run.fail ((← Run.store).missingMethod helpers operation)

def factory (helpers : Value) (location : Location) : Run σ Value := do
  let (builder, _) ← parts helpers "make_ast"
  makeFactory location builder

def unroller (helpers : Value) (location : Location) : Run σ Value := do
  let (_, errorClass) ← parts helpers "make_unroll"
  makeUnroller location errorClass

end Helpers

end ParseKit
