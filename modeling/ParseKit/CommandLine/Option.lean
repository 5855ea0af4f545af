import ParseKit.Text.Ranges

namespace ParseKit.CommandLine

inductive Flag where
  | help
  | start
  | parser
  | verbose
  deriving DecidableEq, Repr, Inhabited

namespace Flag

-- How options are spelled.
def spellings : List (String × Flag) :=
  [("-h", help), ("--help", help), ("--start", start), ("--parser", parser), ("-v", verbose),
    ("--verbose", verbose)]

def title : Flag → String
  | help => "-h/--help"
  | start => "--start"
  | parser => "--parser"
  | verbose => "-v/--verbose"

def takesValue : Flag → Bool
  | start | parser => true
  | help | verbose => false

end Flag

-- A word that is an option, with a value if one is joined to it, be it after an equals sign. An
-- option without a flag is none of ours.
structure OptionWord where
  flag : Option Flag
  spelling : String
  value : Option String := none
  deriving DecidableEq, Repr, Inhabited

inductive Word where
  | plain (text : String)
  -- The first of the words that say that no options follow.
  | marker
  | option (o : OptionWord)
  deriving DecidableEq, Repr, Inhabited

-- Cuts a text at its first equals sign.
def splitValue (text : String) : Option (String × String) :=
  let before := text.toList.takeWhile (· != '=')
  match text.toList.drop before.length with
  | [] => none
  | _ :: value => some (String.ofList before, String.ofList value)

def isDoubleDashed (text : String) : Bool := text.startsWith "--"

-- The options that a word may be short for: any that it begins, or one letter with the rest of
-- the word as its value.
def abbreviated (text : String) : List OptionWord :=
  if isDoubleDashed text then
    let (name, value) := match splitValue text with
      | some (name, value) => (name, some value)
      | none => (text, none)
    (Flag.spellings.filter (·.1.startsWith name)).map fun s => ⟨some s.2, s.1, value⟩
  else
    let letter := String.ofList (text.toList.take 2)
    let value := String.ofList (text.toList.drop 2)
    (Flag.spellings.filter (·.1 == letter)).map fun s => ⟨some s.2, s.1, some value⟩

-- A dash, then digits with or without a point, and perhaps a newline.
def isNegativeNumber (text : String) : Bool :=
  match text.toList with
  | '-' :: rest =>
    let rest := if rest.getLast? = some '\n' then rest.dropLast else rest
    let whole := rest.takeWhile Text.isDigit
    match rest.drop whole.length with
    | [] => !whole.isEmpty
    | '.' :: fraction => !fraction.isEmpty && fraction.all Text.isDigit
    | _ => false
  | _ => false

-- The option that a word spells in full, alone or with a value after an equals sign.
def spelled? (text : String) : Option OptionWord :=
  match Flag.spellings.lookup text with
  | some flag => some ⟨some flag, text, none⟩
  | none => do
    let (name, value) ← splitValue text
    let flag ← Flag.spellings.lookup name
    return ⟨some flag, name, some value⟩

-- The option that a word is, if it is one. More than one is ambiguous.
def option? (text : String) : Except String (Option OptionWord) :=
  if !text.startsWith "-" || text = "-" then .ok none
  else
    match spelled? text with
    | some o => .ok (some o)
    | none =>
      match abbreviated text with
      | [o] => .ok (some o)
      | [] =>
        if isNegativeNumber text || text.contains ' ' then .ok none
        else .ok (some ⟨none, text, none⟩)
      | several =>
        .error ("ambiguous option: " ++ text ++ " could match "
          ++ ", ".intercalate (several.map (·.spelling)))

-- The words of a command line.
def words : List String → Except String (List Word)
  | [] => .ok []
  | text :: rest =>
    if text = "--" then .ok (.marker :: rest.map .plain)
    else do
      let word := match ← option? text with
        | some o => Word.option o
        | none => .plain text
      .ok (word :: (← words rest))

end ParseKit.CommandLine
