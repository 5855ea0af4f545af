import ParseKit.Build.Call
import ParseKit.Outcome.Details

namespace ParseKit

variable {σ : Type}

-- A parser reads a text under options, and may say which errors it reports syntax errors by:
-- a class, a collection of classes, or null.
structure Parser (σ : Type) where
  run : Value → Value → Run σ Value
  syntaxError : Value := .null

-- What can be handed in as a parser.
inductive Candidate (σ : Type) where
  | absent
  -- An object that cannot parse.
  | unusable
  | parser (p : Parser σ)

-- What a parser did: it gave a value, refused the text, or failed for another reason.
inductive Outcome where
  | success (value : Value)
  | grammarFailure (details : Details)
  | otherFailure (message : String)

namespace Outcome

-- Errors of this library are recognised from every parser.
def recognised (s : Store) (advertised : Value) : Except Failure (List Value) :=
  match advertised with
  | .null => .ok [.errorClass .grammarError]
  | .errorClass c => .ok [.errorClass .grammarError, .errorClass c]
  | v =>
    match s.elements? v with
    | some items => .ok (.errorClass .grammarError :: items)
    | none =>
      .error (.message .typeError ("Value after * must be an iterable, not " ++ s.kindName v))

def classes? : List Value → Option (List ErrorClass)
  | [] => some []
  | .errorClass c :: rest => (classes? rest).map (c :: ·)
  | _ :: _ => none

-- Whether an error is one of the recognised ones, all of which have to be classes.
def recognises (recognised : List Value) (e : Failure) : Except Failure Bool :=
  match classes? recognised with
  | some classes => .ok (classes.any e.isA)
  | none =>
    .error (.message .typeError
      "catching classes that do not inherit from BaseException is not allowed")

-- Classifies an error. Misuse of this library is never a property of the text and goes on to
-- the caller, as does what is no ordinary error.
def ofFailure (recognised : List Value) (e : Failure) : Run σ Outcome := do
  if e.isA .invalidArgument || e.isA .notFound then Run.fail e
  else if ← Run.ofExcept (recognises recognised e) then
    let details ← Run.inspect (Details.ofFailure · e)
    let message ← Run.inspect (·.display details.message)
    Run.note (.grammarFailure (toString details.line) (toString details.column) message)
    return .grammarFailure details
  else if e.isA .exception then
    let message ← Run.inspect (·.failureText e)
    Run.note (.unexpectedFailure message)
    return .otherFailure message
  else Run.fail e

-- Runs a parser once.
def attempt (p : Parser σ) (text options : Value) : Run σ Outcome := do
  let recognised ← Run.inspect (recognised · p.syntaxError)
  let s ← Run.store
  let startRule := (((s.entries? options).bind (s.lookup? · (.text "start_rule"))).getD .null)
  Run.note (.parsing ((s.text? text).getD "").length ((s.display startRule).toOption.getD ""))
  match ← Run.attempt (p.run text options) with
  | .ok value => return .success value
  | .error e => ofFailure recognised e

-- The result for an outcome. A failure that has nothing to do with the grammar keeps only its
-- message.
def result (text : String) : Outcome → ParseResult
  | success value => { ast := value }
  | grammarFailure details => { error := some (details.diagnostic text) }
  | otherFailure message => { error := some { message := .text message } }

end Outcome

namespace Options

-- The entries of the options, none for null.
def entries (s : Store) (options : Value) : Except Failure (List (Value × Value)) :=
  match options with
  | .null => .ok []
  | v =>
    match s.entries? v with
    | some entries => .ok entries
    | none => .error (.message .invalidArgument "invalid options (not a mapping)")

def get (s : Store) (entries : List (Value × Value)) (name : String) : Value :=
  (s.lookup? entries (.text name)).getD .null

def checkStartRule (s : Store) (entries : List (Value × Value)) : Except Failure Unit :=
  let rule := get s entries "start_rule"
  if rule = .null ∨ s.isText rule then .ok ()
  else do
    .error (.message .invalidArgument ("invalid start rule: " ++ (← s.inspect rule)))

-- A new dictionary of the options, with helpers for the builder that they name.
def prepare (options : Value) : Run σ Value := do
  let given ← Run.inspect (entries · options)
  let _ ← Run.inspect (checkStartRule · given)
  let helpers ← Helpers.create (get (← Run.store) given "make_ast")
  let s ← Run.store
  Run.alloc (.dict (.ofEntries (s.insert given (.text "util") helpers)))

end Options

def textArgument (s : Store) (text : Value) : Except Failure String :=
  match s.text? text with
  | some t => .ok t
  | none => .error (.message .invalidArgument "invalid input text (not a string)")

-- Parses a text once. The arguments are checked before the parser is asked.
def parse (candidate : Candidate σ) (text options : Value) : Run σ ParseResult := do
  match candidate with
  | .absent => Run.raise .invalidArgument "invalid parser object (not an object)"
  | .unusable => Run.raise .invalidArgument "invalid parser object (no \"parse\" function)"
  | .parser p =>
    let source ← Run.inspect (textArgument · text)
    let prepared ← Options.prepare options
    let outcome ← Outcome.attempt p text prepared
    return outcome.result source

end ParseKit
