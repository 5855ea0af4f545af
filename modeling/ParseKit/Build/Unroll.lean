import ParseKit.Build.Builder
import ParseKit.Value.Sequence

namespace ParseKit

-- The indices that are taken of every repetition: a single one, or those of a sequence.
def indicesOf (s : Store) (take : Value) : Except Failure (List Value) :=
  match take.toInt? with
  | some _ => .ok [take]
  | none => s.elements take

def pickAll (s : Store) (item : Value) : List Value → Except Failure (List Value)
  | [] => .ok []
  | index :: rest => do
    let picked ← s.item item index
    return picked :: (← pickAll s item rest)

-- The taken fields of all repetitions in order.
def project (s : Store) (take : Value) : List Value → Except Failure (List Value)
  | [] => .ok []
  | item :: rest => do
    let picked ← pickAll s item (← indicesOf s take)
    return picked ++ (← project s take rest)

variable {σ : Type}

-- The arguments with which an error class is told that there is no list to unroll.
def unrollKeywords (kind : String) (start : Point) : Keywords :=
  [("found", .text kind), ("expected", .text "list"), ("line", start.line),
    ("column", start.column), ("offset", start.offset)]

-- What messages about its arguments call something that can be called.
def calleeName (s : Store) (v : Value) : String :=
  match s.get? v with
  | some (.function (.factory ..)) => "make_ast.<locals>.factory"
  | some (.function (.unroller ..)) => "make_unroll.<locals>.unroll"
  | some (.foreign o) => if o.className = "function" then o.label else o.className ++ ".__call__"
  | _ => s.className v

-- The error that a value used as an error class makes. Only classes take keywords.
def makeError (errorClass : Value) (args : List Value) (keywords : Keywords) :
    Run σ Failure := do
  match errorClass with
  | .errorClass c => Run.ofExcept (c.construct args keywords)
  | v =>
    let s ← Run.store
    if s.callable v then
      match keywords with
      | (name, _) :: _ =>
        Run.raise .typeError
          (calleeName s v ++ "() got an unexpected keyword argument '" ++ name ++ "'")
      | [] => Run.raise .typeError "exceptions must derive from BaseException"
    else Run.raise .typeError ("'" ++ s.kindName v ++ "' object is not callable")

-- Whether a value stands in front of the repetitions.
def present (first : Value) : List Value := if first = .null then [] else [first]

-- Without `take` the first item goes to the front of the list itself. With it there is a new
-- list of the first item and the taken fields.
def unroll (location : Run σ Value) (errorClass first items take : Value) : Run σ Value := do
  let s ← Run.store
  match s.list? items with
  | none =>
    let start ← startOf location
    let e ← makeError errorClass [.text "invalid list argument for unrolling"]
      (unrollKeywords (s.className items) start)
    Run.fail e
  | some old =>
    if take = .null then
      Run.put items (.list (present first ++ old))
      return items
    else
      let picked ← Run.ofExcept (project s take old)
      Run.alloc (.list (present first ++ picked))

end ParseKit
