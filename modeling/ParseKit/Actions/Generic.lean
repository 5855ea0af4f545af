import ParseKit.Actions.Transform
import ParseKit.Text.LowerCase

namespace ParseKit.Actions

-- The type and the text of a token.
def token? (s : Store) (v : Value) : Option (String × String) :=
  match s.get? v with
  | some (.token type text _) => some (type, text)
  | _ => none

-- Adds a text to the group of a key. Groups keep the order in which their keys first came.
def addToGroup (key text : String) : List (String × List String) → List (String × List String)
  | [] => [(key, [text])]
  | g :: rest => if g.1 = key then (key, g.2 ++ [text]) :: rest else g :: addToGroup key text rest

-- The texts of tokens, grouped by the lower case of their types.
def groupTokens (tokens : List (String × String)) : List (String × List String) :=
  tokens.foldl (fun groups t => addToGroup (Text.lowerCase t.1) t.2 groups) []

-- A single token is called "value", whatever its type.
def tokenGroups : List (String × String) → List (String × List String)
  | [one] => [("value", [one.2])]
  | tokens => groupTokens tokens

variable {σ : Type}

-- One text is the value itself, several are a list.
def groupValue (texts : List String) : Run σ Value := do
  match texts with
  | [one] => return .text one
  | several => Run.alloc (.list (several.map .text))

def groupEntries : List (String × List String) → Run σ (List (Value × Value))
  | [] => pure []
  | g :: rest => do
    let value ← groupValue g.2
    return (.text g.1, value) :: (← groupEntries rest)

-- The children that are neither tokens nor null.
def subtrees (s : Store) (children : List Value) : List Value :=
  children.filter fun v => (token? s v).isNone && v ≠ .null

def genericNode (host : Host σ) (util data : Value) (children : List Value) (tree : Value) :
    Run σ Value := do
  let s ← Run.store
  let entries ← groupEntries (tokenGroups (children.filterMap (token? s)))
  let attributes ← Run.alloc (.dict (.ofEntries entries))
  let nodes ← Run.alloc (.list (subtrees s children))
  let type ← Run.inspect (·.display data)
  let place ← Run.alloc (.place (s.placeOf tree))
  node host util place [.text type, attributes, nodes]

def generic (host : Host σ) : Actions σ where
  name := "GenericActions"
  method? := fun util rule => inherited? host "GenericActions" "GenericActions" util rule
  fallback := genericNode host

end ParseKit.Actions
