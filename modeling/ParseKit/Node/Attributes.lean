import ParseKit.Node.Basic
import ParseKit.Value.Update

namespace ParseKit.Node

variable {σ : Type}

def requireName (key : Value) : Run σ Unit := do
  unless (← Run.store).isText key do
    Run.raise .invalidArgument ("Invalid attribute name: " ++ (← Run.inspect (·.inspect key)))

def setAttribute (node key value : Value) : Run σ Value := do
  let p ← parts node "set_attribute"
  requireName key
  assignItem p.attributes key value
  return node

def setEach (node : Value) : List (Value × Value) → Run σ Unit
  | [] => pure ()
  | e :: rest => do
    let _ ← setAttribute node e.1 e.2
    setEach node rest

-- Merges a mapping into the attributes. Entries ahead of one with an unusable name are kept.
def setAttributes (node attributes : Value) : Run σ Value := do
  let _ ← parts node "set_attributes"
  let s ← Run.store
  match s.entries? attributes with
  | some entries => setEach node entries
  | none =>
    Run.raise .invalidArgument ("Invalid attributes: " ++ (← Run.inspect (·.inspect attributes)))
  return node

-- The value of an attribute, null if it was never set.
def getAttribute (node key : Value) : Run σ Value := do
  let p ← parts node "get_attribute"
  requireName key
  let s ← Run.store
  match s.entries? p.attributes with
  | some entries => return (s.lookup? entries key).getD .null
  | none => callPart p.attributes "get" key

end ParseKit.Node
