import ParseKit.Node.Walk
import ParseKit.Value.Json

namespace ParseKit

-- Puts a backslash in front of every occurrence of a character, and writes it as `letter`.
def escapeOne (c letter : Char) (s : List Char) : List Char :=
  s.flatMap fun d => if d = c then ['\\', letter] else [d]

-- The text of an attribute value: a text in double quotes, a regular expression between
-- slashes, and anything else as JSON, or as its display text where JSON has no form for it.
def Store.formatValue (s : Store) (v : Value) : Except Failure String :=
  match s.text? v with
  | some t =>
    .ok (String.ofList ('"' :: escapeOne '"' '"' (escapeOne '\n' 'n' t.toList) ++ ['"']))
  | none =>
    match s.get? v with
    | some (.pattern ⟨.characters, source⟩) =>
      .ok (String.ofList ('/' :: escapeOne '/' '/' source ++ ['/']))
    | some (.pattern ⟨.bytes, _⟩) =>
      .error (.message .typeError "a bytes-like object is required, not 'str'")
    | _ =>
      match s.json v with
      | .ok t => .ok t
      | .error (.raised e) =>
        if e.isA .typeError || e.isA .valueError then s.display v else .error e
      | .error _ => s.display v

namespace Node

variable {σ : Type}

def indent (depth : Nat) : String := String.ofList (List.replicate (4 * depth) ' ')

def fieldTexts (s : Store) : List (Value × Value) → Except Failure (List String)
  | [] => .ok []
  | e :: rest => do
    let key ← s.display e.1
    let value ← s.formatValue e.2
    return (key ++ ": " ++ value) :: (← fieldTexts s rest)

-- The attributes in parentheses, or nothing if there are none.
def attributesText (s : Store) (attributes : Value) : Except Failure String :=
  if s.truthy attributes then
    match s.entries? attributes with
    | some entries => do return "(" ++ commaList (← fieldTexts s entries) ++ ") "
    | none => .error (s.missingMethod attributes "items")
  else .ok ""

-- The line of a node: indentation, type, attributes, position.
def lineOf (s : Store) (node : Value) (depth : Nat) : Except Failure String := do
  let type ← s.requirePart node "type"
  match s.text? type with
  | none =>
    .error (.message .typeError
      ("can only concatenate str (not \"" ++ s.kindName type ++ "\") to str"))
  | some name =>
    let attributes ← s.requirePart node "attributes"
    let shown ← attributesText s attributes
    let position ← s.requirePart node "position"
    let line ← s.display (← s.requirePart position "line")
    let position ← s.requirePart node "position"
    let column ← s.display (← s.requirePart position "column")
    return indent depth ++ name ++ " " ++ shown ++ "[" ++ line ++ "/" ++ column ++ "]\n"

-- The lines of all nodes, parents ahead of their children.
def dump (node : Value) : Run σ String := do
  let _ ← parts node "dump"
  let fuel := walkBound (← Run.store)
  let lines ← walkNode .before
    (fun (acc : List String) v depth _ => do return (← Run.inspect (lineOf · v depth)) :: acc)
    fuel [] node 0
  return "".intercalate lines.reverse

end Node

end ParseKit
