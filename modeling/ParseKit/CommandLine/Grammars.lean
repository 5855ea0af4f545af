import ParseKit.Actions.Engine
import ParseKit.Actions.Generic
import ParseKit.CommandLine.Arguments
import ParseKit.CommandLine.Input
import ParseKit.CommandLine.Report
import ParseKit.Grammar.Engine
import ParseKit.Node.Dump

namespace ParseKit.CommandLine

variable {σ : Type}

-- How an engine with the given starts is made from the text of a grammar. A grammar that cannot be
-- used gives the message of its fault.
abbrev Loader (σ : Type) := ParserChoice → List String → String → Except String (Engine σ)

def ParserChoice.algorithm : ParserChoice → Algorithm
  | earley => .earley
  | lalr => .lalr

def loadGrammar : Loader σ := fun parser starts source =>
  let options : EngineOptions := { algorithm := parser.algorithm, starts := starts }
  (Engine.ofGrammar options source).mapError GrammarFault.message

-- The starts that an engine is made with.
def starts : Option (Given String) → List String
  | none => ["start"]
  | some .nothing => []
  | some (.value name) => [name]

-- The engine for a choice of parser, which has to be made.
def loadEngine (loader : Loader σ) (parser : Given ParserChoice) (starts : List String)
    (source : String) : Except String (Engine σ) :=
  match parser with
  | .value p => loader p starts source
  | .nothing => .error "Got [], expected one of ('earley', 'lalr', 'cyk', None)"

-- The options that a parse is given. A start that is given as nothing is an empty list.
def optionEntries (start : Option (Given String)) : Run σ (List (Value × Value)) := do
  match start with
  | none => return []
  | some .nothing => return [(.text "start_rule", ← Run.alloc (.list []))]
  | some (.value name) => return [(.text "start_rule", .text name)]

-- The report on a parse.
def report (result : ParseResult) : Run σ Report := do
  match result.error with
  | some diagnostic => return .failure (← Run.inspect (diagnostic.render · true))
  | none => return .success (← Node.dump result.ast)

-- Parses a text with the engine of a grammar.
def parseWith (host : Host σ) (engine : Engine σ) (start : Option (Given String))
    (text : String) : Run σ Report := do
  let options ← Run.alloc (.dict (.ofEntries (← optionEntries start)))
  let parser := engine.parser (some (Actions.generic host))
  report (← parse (.parser parser) (.text text) options)

-- The name of a file.
def requirePath : Given String → Run σ String
  | .value path => return path
  | .nothing => Run.raise .typeError "expected str, bytes or os.PathLike object, not list"

-- Carries out what the arguments ask for.
def run (loader : Loader σ) (host : Host σ) (surroundings : Surroundings) (a : Arguments) :
    Run σ Report := do
  let grammarPath ← requirePath a.grammar
  match ← Run.ofExcept (readFile surroundings grammarPath) with
  | .error message => return .systemError message
  | .ok grammar =>
    let input ← requirePath a.input
    match ← Run.ofExcept (readInput surroundings input) with
    | .error message => return .systemError message
    | .ok text =>
      match loadEngine loader a.parser (starts a.start) grammar with
      | .error message => return .grammarFault grammarPath message
      | .ok engine => parseWith host engine a.start text

-- Carries out a command line. If it asks for that, the log comes ahead of what else is printed
-- as errors.
def execute (loader : Loader σ) (host : Host σ) (surroundings : Surroundings)
    (argv : List String) : Run σ Report := do
  match Arguments.read argv with
  | .error .help => return { code := 0, stdout := helpText }
  | .error (.misuse message) =>
    return { code := 2, stderr := usage ++ "parseutil: error: " ++ message ++ "\n" }
  | .ok a =>
    let r ← run loader host surroundings a
    if a.verbose then return { r with stderr := logText (← get).log ++ r.stderr } else return r

-- The command line has no objects of its own that could be called or build.
def noObjects : Host σ where
  call := fun o _ => Run.raise .typeError ("'" ++ o.className ++ "' object is not callable")
  build := fun o _ _ => Run.raise .typeError ("'" ++ o.className ++ "' object is not callable")
  locate := fun _ => Run.raise .stopIteration ""

end ParseKit.CommandLine
