import ParseKit.Value.Sequence

namespace ParseKit

variable {σ : Type}

-- An integer used as a place.
def requireIndex (v : Value) : Run σ Int := do
  match v.toInt? with
  | some i => return i
  | none =>
    Run.raise .typeError
      ("'" ++ (← Run.store).kindName v ++ "' object cannot be interpreted as an integer")

-- An integer used as a place in a list.
def requirePlace (v : Value) : Run σ Int := do
  let i ← requireIndex v
  unless isIndex i do
    Run.raise .overflowError "Python int too large to convert to C ssize_t"
  return i

inductive ListChange where
  | append
  | insert
  | pop
  | clear
  | reverse
  deriving DecidableEq, Repr

def ListChange.name : ListChange → String
  | append => "append"
  | insert => "insert"
  | pop => "pop"
  | clear => "clear"
  | reverse => "reverse"

-- Where an item goes: places beyond the ends are at the ends.
def insertPlace (size : Nat) (index : Int) : Nat :=
  if index < 0 then (index + size).toNat else index.toNat

def popItem (target : Value) (items : List Value) (index : Int) : Run σ Value := do
  if items.isEmpty then Run.raise .indexError "pop from empty list"
  let place := if index < 0 then index + items.length else index
  match if place < 0 then none else items[place.toNat]? with
  | none => Run.raise .indexError "pop index out of range"
  | some v =>
    Run.put target (.list (items.eraseIdx place.toNat))
    return v

def refuseArguments (owner : String) (change : ListChange) (args : List Value) : Run σ Value :=
  Run.raise .typeError
    (owner ++ "." ++ change.name ++ "() takes no arguments (" ++ toString args.length ++ " given)")

-- Changes a list, and gives what was taken out of it, or null.
def changeList (change : ListChange) (target : Value) (items args : List Value) :
    Run σ Value := do
  let replace (items : List Value) : Run σ Value := do
    Run.put target (.list items)
    return .null
  match change, args with
  | .append, [v] => replace (items ++ [v])
  | .insert, [index, v] =>
    let place := insertPlace items.length (← requirePlace index)
    replace (items.take place ++ v :: items.drop place)
  | .clear, [] => replace []
  | .reverse, [] => replace items.reverse
  | .pop, [] => popItem target items (-1)
  | .pop, [index] => popItem target items (← requirePlace index)
  | .append, args =>
    Run.raise .typeError
      ("list.append() takes exactly one argument (" ++ toString args.length ++ " given)")
  | .insert, args =>
    Run.raise .typeError ("insert expected 2 arguments, got " ++ toString args.length)
  | .pop, args =>
    Run.raise .typeError ("pop expected at most 1 argument, got " ++ toString args.length)
  | .clear, args | .reverse, args => refuseArguments "list" change args

-- Takes the entry of a key out of a dictionary, and gives its value. A second argument stands for
-- the value of an entry that is missing.
def popEntry (target : Value) (d : Dictionary) (args : List Value) : Run σ Value := do
  let take (key : Value) (missing : Run σ Value) : Run σ Value := do
    unless d.entries.isEmpty do Run.inspect (·.requireKey key)
    let s ← Run.store
    match s.lookup? d.entries key, d.erase? s key with
    | some v, some rest =>
      Run.put target (.dict rest)
      return v
    | _, _ => missing
  match args with
  | [] => Run.raise .typeError "pop expected at least 1 argument, got 0"
  | [key] => take key (Run.fail { errorClass := .keyError, args := [key] })
  | [key, other] => take key (pure other)
  | args => Run.raise .typeError ("pop expected at most 2 arguments, got " ++ toString args.length)

-- Changes a list in place, or a dictionary or a set in the ways that these have in common with
-- lists.
def changeInPlace (change : ListChange) (target : Value) (args : List Value) : Run σ Value := do
  match ← Run.object? target, change with
  | some (.list items), change => changeList change target items args
  | some (.dict d), .pop => popEntry target d args
  | some (.dict _), .clear =>
    if !args.isEmpty then refuseArguments "dict" change args
    else do
      Run.put target (.dict {})
      return .null
  | some (.set items), .pop =>
    match items, args with
    | v :: rest, [] => do
      Run.put target (.set rest)
      return v
    | [], [] => Run.fail { errorClass := .keyError, args := [.text "pop from an empty set"] }
    | _, args => refuseArguments "set" change args
  | some (.set _), .clear =>
    if !args.isEmpty then refuseArguments "set" change args
    else do
      Run.put target (.set [])
      return .null
  | _, change => Run.fail ((← Run.store).missingMethod target change.name)

-- Whether an integer is tried as a place in a value, be there any or not. What has no parts to go
-- through, records, and the errors and functions of the general vocabulary have no places.
def Store.triesPlaces (s : Store) (v : Value) : Bool :=
  s.isText v ||
    match s.get? v with
    | none | some .notANumber | some (.record _) | some (.function _) => false
    | some (.foreign o) => o.className != "function"
    | some (.failure e) => !e.errorClass.isGeneral
    | some _ => true

-- Refuses to change what stands under a key of a value that cannot be changed so.
def refuseChange (holder key : Value) (forPlace forKey : String) : Run σ Unit := do
  let s ← Run.store
  let refuse (wording : String) : Run σ Unit :=
    Run.raise .typeError ("'" ++ s.kindName holder ++ "' object " ++ wording)
  match if s.triesPlaces holder then key.toInt? else none with
  | some i => if isIndex i then refuse forPlace else Run.fail (outOfRange "" i)
  | none => refuse forKey

-- Changes the item at a place of a list.
def changeItemAt (holder : Value) (items : List Value) (key : Value)
    (change : Nat → List Value) : Run σ Unit := do
  match key.toInt? with
  | none =>
    Run.raise .typeError
      ("list indices must be integers or slices, not " ++ (← Run.store).kindName key)
  | some i =>
    let place := if i < 0 then i + items.length else i
    if 0 ≤ place ∧ place < items.length then Run.put holder (.list (change place.toNat))
    else Run.fail (outOfRange "list assignment " i)

-- Takes what stands under a place or a key out of a value.
def deleteItem (holder key : Value) : Run σ Unit := do
  let s ← Run.store
  match s.get? holder with
  | some (.list items) => changeItemAt holder items key items.eraseIdx
  | some (.dict d) =>
    Run.inspect (·.requireKey key)
    match d.erase? s key with
    | some rest => Run.put holder (.dict rest)
    | none => Run.fail { errorClass := .keyError, args := [key] }
  | _ =>
    refuseChange holder key "doesn't support item deletion" "does not support item deletion"

-- Puts a value under a place or a key.
def assignItem (holder key value : Value) : Run σ Unit := do
  let s ← Run.store
  match s.get? holder with
  | some (.list items) => changeItemAt holder items key (items.set · value)
  | some (.dict d) =>
    Run.inspect (·.requireKey key)
    Run.put holder (.dict (d.insert s key value))
  | _ =>
    let refusal := "does not support item assignment"
    refuseChange holder key refusal refusal

end ParseKit
