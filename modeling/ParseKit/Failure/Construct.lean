import ParseKit.Value.Sequence

namespace ParseKit

abbrev Keywords := List (String × Value)

namespace ErrorClass

inductive Maker where
  -- Any arguments, no keywords.
  | plain
  -- A message, what was found, what was expected, and a position.
  | located
  -- A message, and any keywords.
  | detailed (owner : String)

def maker : ErrorClass → Maker
  | grammarError => .located
  | derived _ base => base.maker
  | detailed name => .detailed name
  | _ => .plain

end ErrorClass

-- The parameters of a syntax error.
def locatedNames : List String := ["message", "found", "expected", "line", "column", "offset"]

-- Their values where they are left out. The message has to be given.
def locatedDefaults : Keywords :=
  [("found", .text ""), ("expected", .text ""), ("line", .int 0), ("column", .int 0),
    ("offset", .int 0)]

def refuse {α : Type} (text : String) : Except Failure α := .error (.message .typeError text)

-- Adds keywords to parameters that have a value already.
def bindKeywords (owner : String) (names : List String) (bound : Keywords) :
    Keywords → Except Failure Keywords
  | [] => .ok bound
  | (name, value) :: rest =>
    if !names.contains name then
      refuse (owner ++ " got an unexpected keyword argument '" ++ name ++ "'")
    else if bound.any (·.1 == name) then
      refuse (owner ++ " got multiple values for argument '" ++ name ++ "'")
    else bindKeywords owner names (bound ++ [(name, value)]) rest

def makeLocated (c : ErrorClass) (args : List Value) (keywords : Keywords) :
    Except Failure Failure := do
  let owner := "GrammarError.__init__()"
  let bound ← bindKeywords owner locatedNames (locatedNames.zip args) keywords
  if locatedNames.length < args.length then
    refuse (owner ++ " takes from 2 to 7 positional arguments but " ++ toString (args.length + 1)
      ++ " were given")
  else
    match bound.lookup "message" with
    | none => refuse (owner ++ " missing 1 required positional argument: 'message'")
    | some message =>
      let value (name : String) := ((bound ++ locatedDefaults).lookup name).getD .null
      .ok
        { errorClass := c
          args := [message]
          fields := locatedNames.map fun name => (name, value name) }

def makeDetailed (c : ErrorClass) (owner : String) (args : List Value) (keywords : Keywords) :
    Except Failure Failure :=
  let owner := owner ++ ".__init__()"
  let details := keywords.filter (·.1 != "message")
  match args, keywords.lookup "message" with
  | [], none => refuse (owner ++ " missing 1 required positional argument: 'message'")
  | [], some message => .ok { errorClass := c, args := [message], details := details }
  | _ :: _, some _ => refuse (owner ++ " got multiple values for argument 'message'")
  | [message], none => .ok { errorClass := c, args := [message], details := details }
  | args, none =>
    refuse (owner ++ " takes 2 positional arguments but " ++ toString (args.length + 1)
      ++ " were given")

-- The error that a class makes of arguments and keywords.
def ErrorClass.construct (c : ErrorClass) (args : List Value) (keywords : Keywords) :
    Except Failure Failure :=
  match c.maker with
  | .located => makeLocated c args keywords
  | .detailed owner => makeDetailed c owner args keywords
  | .plain =>
    if keywords.isEmpty then .ok { errorClass := c, args := args }
    else refuse (c.name ++ "() takes no keyword arguments")

-- Sets a field of an error. Its arguments become what there is to go through.
def Failure.assign (s : Store) (e : Failure) (name : String) (value : Value) :
    Except Failure Failure :=
  if name = "args" then do return { e with args := ← s.elements value }
  else .ok { e with fields := e.fields ++ [(name, value)] }

end ParseKit
