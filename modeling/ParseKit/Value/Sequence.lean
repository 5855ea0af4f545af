import ParseKit.Value.Equality

namespace ParseKit

-- The item at a place, counted from the end if it is negative.
def itemAt? {α : Type} (items : List α) (index : Int) : Option α :=
  let place := if index < 0 then index + items.length else index
  if place < 0 then none else items[place.toNat]?

-- Indices go up to this one, without it.
def indexBound : Int := 9223372036854775808

def isIndex (i : Int) : Bool := -indexBound ≤ i && i < indexBound

def outOfRange (what : String) (index : Int) : Failure :=
  if isIndex index then .message .indexError (what ++ "index out of range")
  else .message .indexError "cannot fit 'int' into an index-sized integer"

theorem itemAt?_ofNat {α : Type} (items : List α) (n : Nat) : itemAt? items n = items[n]? := by
  simp [itemAt?, show ¬((n : Int) < 0) by omega]

namespace Store

-- The items that a loop over a value goes through: characters of a text, keys of a mapping,
-- numbers of bytes.
def elements? (s : Store) : Value → Option (List Value)
  | .text t => some (t.toList.map fun c => .text (String.singleton c))
  | v =>
    match s.get? v with
    | some (.list items) => some items
    | some (.tuple items) => some items
    | some (.set items) => some items
    | some (.frozenset items) => some items
    | some (.dict d) => some (d.entries.map (·.1))
    | some (.mapping entries) => some (entries.map (·.1))
    | some (.bytes content) => some (content.map fun b => .int b.toNat)
    | some (.token _ t _) => some (t.toList.map fun c => .text (String.singleton c))
    | _ => none

def elements (s : Store) (v : Value) : Except Failure (List Value) :=
  match s.elements? v with
  | some items => .ok items
  | none =>
    .error (.message .typeError ("'" ++ s.kindName v ++ "' object is not iterable"))

def length (s : Store) (v : Value) : Except Failure Nat :=
  match s.elements? v with
  | some items => .ok items.length
  | none =>
    .error (.message .typeError ("object of type '" ++ s.kindName v ++ "' has no len()"))

-- Picks by an integer from a sequence.
def pick (s : Store) (items : List Value) (index : Value) (what : String)
    (wrongKind : String) : Except Failure Value :=
  match index.toInt? with
  | none => .error (.message .typeError (wrongKind ++ s.kindName index))
  | some i =>
    match itemAt? items i with
    | some item => .ok item
    | none => .error (outOfRange what i)

-- Picks from a text, which has a wording of its own for an index of another kind.
def pickChar (s : Store) (t : String) (index : Value) : Except Failure Value :=
  match index.toInt? with
  | none =>
    .error (.message .typeError
      ("string indices must be integers, not '" ++ s.kindName index ++ "'"))
  | some i =>
    match itemAt? t.toList i with
    | some c => .ok (.text (String.singleton c))
    | none => .error (outOfRange "string " i)

def pickKey (s : Store) (entries : List (Value × Value)) (key : Value) :
    Except Failure Value := do
  s.requireKey key
  match s.lookup? entries key with
  | some value => .ok value
  | none => .error { errorClass := .keyError, args := [key] }

-- What stands in a value under an index or a key.
def item (s : Store) (v index : Value) : Except Failure Value :=
  match v with
  | .text t => s.pickChar t index
  | .errorClass c =>
    .error (.message .typeError ("type '" ++ c.name ++ "' is not subscriptable"))
  | v =>
    match s.get? v with
    | some (.list items) =>
      s.pick items index "list " "list indices must be integers or slices, not "
    | some (.tuple items) =>
      s.pick items index "tuple " "tuple indices must be integers or slices, not "
    | some (.bytes content) =>
      s.pick (content.map fun b => .int b.toNat) index ""
        "byte indices must be integers or slices, not "
    | some (.token _ t _) => s.pickChar t index
    | some (.dict d) => s.pickKey d.entries index
    | some (.mapping entries) => s.pickKey entries index
    | _ =>
      .error (.message .typeError ("'" ++ s.kindName v ++ "' object is not subscriptable"))

end Store

end ParseKit
