import ParseKit.CommandLine.Option
import ParseKit.Text.Quoted

namespace ParseKit.CommandLine

inductive ParserChoice where
  | earley
  | lalr
  deriving DecidableEq, Repr, Inhabited

namespace ParserChoice

def name : ParserChoice → String
  | earley => "earley"
  | lalr => "lalr"

def all : List ParserChoice := [earley, lalr]

def ofName? (name : String) : Option ParserChoice := all.find? (·.name == name)

end ParserChoice

-- What is given for an argument. The word that ends the options gives nothing where it is taken for
-- the value of an option, or stands for a positional argument a second time.
inductive Given (α : Type) where
  | nothing
  | value (a : α)
  deriving DecidableEq, Repr, Inhabited

def givenText (text : String) : Given String := if text = "--" then .nothing else .value text

structure Arguments where
  grammar : Given String
  input : Given String
  start : Option (Given String)
  parser : Given ParserChoice
  verbose : Bool
  deriving DecidableEq, Repr, Inhabited

-- Why a command line is not carried out.
inductive Stop where
  | help
  | misuse (message : String)
  deriving DecidableEq, Repr, Inhabited

def usage : String :=
  "usage: parseutil [-h] [--start START] [--parser \x7bearley,lalr\x7d] [-v]\n"
    ++ "                 grammar input\n"

def helpText : String :=
  usage ++ "\n"
    ++ "Parse a file with a lark grammar and dump the ast\n"
    ++ "\n"
    ++ "positional arguments:\n"
    ++ "  grammar               lark grammar file\n"
    ++ "  input                 input file, - for stdin\n"
    ++ "\n"
    ++ "options:\n"
    ++ "  -h, --help            show this help message and exit\n"
    ++ "  --start START         grammar rule to start from\n"
    ++ "  --parser \x7bearley,lalr\x7d\n"
    ++ "                        lark parsing algorithm (default: earley)\n"
    ++ "  -v, --verbose         show debug logging\n"

namespace Stop

def argument (flag : Flag) (text : String) : Stop :=
  misuse ("argument " ++ flag.title ++ ": " ++ text)

def ignoredValue (flag : Flag) (value : String) : Stop :=
  argument flag ("ignored explicit argument " ++ Text.quoted value)

end Stop

-- The names of the positional arguments, in order.
def positionalNames : List String := ["grammar", "input"]

-- A command line that is being read. `taken` says that the word before is a positional argument.
structure Reading where
  positionals : List (Given String) := []
  start : Option (Given String) := none
  parser : Given ParserChoice := .value .earley
  verbose : Bool := false
  unknown : List String := []
  taken : Bool := false
  deriving Inhabited

namespace Reading

def hasRoom (r : Reading) : Bool := r.positionals.length < positionalNames.length

def addPositional (r : Reading) (value : Given String) : Reading :=
  { r with positionals := r.positionals ++ [value], taken := true }

def addUnknown (r : Reading) (text : String) : Reading :=
  { r with unknown := r.unknown ++ [text], taken := false }

def take (r : Reading) (text : String) : Reading :=
  if r.hasRoom then r.addPositional (givenText text) else r.addUnknown text

def setValue (r : Reading) (flag : Flag) (value : String) : Except Stop Reading :=
  match flag, givenText value with
  | .start, given => .ok { r with start := some given, taken := false }
  | .parser, .nothing => .ok { r with parser := .nothing, taken := false }
  | .parser, .value name =>
    match ParserChoice.ofName? name with
    | some p => .ok { r with parser := .value p, taken := false }
    | none =>
      .error (.argument flag ("invalid choice: " ++ Text.quoted name ++ " (choose from "
        ++ ", ".intercalate (ParserChoice.all.map fun p => Text.quoted p.name) ++ ")"))
  | .help, _ | .verbose, _ => .ok r

def act (r : Reading) : Flag → Except Stop Reading
  | .help => .error .help
  | .verbose => .ok { r with verbose := true, taken := false }
  | .start | .parser => .ok r

def actAll (r : Reading) (flags : List Flag) : Except Stop Reading := flags.foldlM act r

-- Reads letters that are joined to an option without a value, each of them an option itself.
-- The options take effect once all of them are read.
def readLetters (r : Reading) (flags : List Flag) (flag : Flag) : List Char → Except Stop Reading
  | [] => r.actAll (flags ++ [flag])
  | c :: rest =>
    match Flag.spellings.lookup (String.ofList ['-', c]) with
    | none => .error (.ignoredValue flag (String.ofList (c :: rest)))
    | some next => readLetters r (flags ++ [flag]) next rest

-- Reads an option without a value.
def readSwitch (r : Reading) (flag : Flag) (o : OptionWord) : Except Stop Reading :=
  match o.value with
  | none => r.act flag
  | some value =>
    if isDoubleDashed o.spelling || value.isEmpty then .error (.ignoredValue flag value)
    else r.readLetters [] flag value.toList

def read (r : Reading) : List Word → Except Stop Reading
  | [] => .ok r
  | .plain text :: rest => (r.take text).read rest
  | .marker :: rest =>
    if r.taken then { r with taken := false }.read rest
    else
      match rest with
      | .plain text :: rest =>
        if r.hasRoom then (r.addPositional (.value text)).read rest
        else ((r.addUnknown "--").addUnknown text).read rest
      | rest => (r.addUnknown "--").read rest
  | .option o :: rest =>
    match o.flag with
    | none => (r.addUnknown o.spelling).read rest
    | some flag =>
      if flag.takesValue then
        match o.value, rest with
        | some value, rest => do (← r.setValue flag value).read rest
        | none, .plain value :: rest => do (← r.setValue flag value).read rest
        | none, _ => .error (.argument flag "expected one argument")
      else do (← r.readSwitch flag o).read rest

-- The arguments, if there are all and no others.
def arguments (r : Reading) : Except Stop Arguments :=
  match r.positionals with
  | [grammar, input] =>
    if r.unknown.isEmpty then .ok ⟨grammar, input, r.start, r.parser, r.verbose⟩
    else .error (.misuse ("unrecognized arguments: " ++ " ".intercalate r.unknown))
  | given =>
    .error (.misuse ("the following arguments are required: "
      ++ ", ".intercalate (positionalNames.drop given.length)))

end Reading

-- Reads a command line.
def Arguments.read (argv : List String) : Except Stop Arguments :=
  match words argv with
  | .error message => .error (.misuse message)
  | .ok words => do (← Reading.read {} words).arguments

end ParseKit.CommandLine
