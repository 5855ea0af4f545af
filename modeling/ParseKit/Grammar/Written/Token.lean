import ParseKit.Grammar.Fault
import ParseKit.Grammar.Pattern.Written

namespace ParseKit.Written

inductive TokenKind where
  | word (name : String)
  -- A text between quotes.
  | literal (text : String)
  -- A pattern between slashes.
  | pattern (pattern : Pattern)
  | operator (mark : Char)
  | arrow
  deriving DecidableEq, Repr, Inhabited

structure Token where
  kind : TokenKind
  spot : Spot
  deriving DecidableEq, Repr, Inhabited

-- A token that is being read, with its characters, the newest first, and the column of its
-- first character.
inductive OpenToken where
  | nothing
  | word (column : Nat) (chars : List Char)
  -- `escaped` says that the newest character is a backslash that applies to the next one.
  | quoted (delimiter : Char) (column : Nat) (chars : List Char) (escaped : Bool)
  -- A dash, which may begin an arrow.
  | dash (column : Nat)
  -- A slash, which may begin a pattern or a comment.
  | slash (column : Nat)
  | comment
  deriving DecidableEq, Repr, Inhabited

-- The text that a quoted literal stands for.
def literalText : List Char → List Char
  | '\\' :: c :: rest => PatternPiece.controlCharacter c :: literalText rest
  | c :: rest => c :: literalText rest
  | [] => []

def isWordCharacter (c : Char) : Bool := CharSet.wordCharacters.contains c

-- The tokens of one line that are complete, the newest first, and the one being read.
structure LineReading where
  line : Nat
  text : String
  done : List Token := []
  current : OpenToken := .nothing

namespace LineReading

def spot (r : LineReading) (column : Nat) : Spot := ⟨r.line, column, r.text⟩

def emit (r : LineReading) (column : Nat) (kind : TokenKind) : LineReading :=
  { r with done := ⟨kind, r.spot column⟩ :: r.done, current := .nothing }

-- Starts a token.
def begin (r : LineReading) (column : Nat) (c : Char) : LineReading :=
  if c = ' ' ∨ c = '\t' ∨ c = '\r' then r
  else if c = '#' then { r with current := .comment }
  else if c = '"' then { r with current := .quoted '"' column [] false }
  else if c = '/' then { r with current := .slash column }
  else if c = '-' then { r with current := .dash column }
  else if c = '%' || isWordCharacter c then { r with current := .word column [c] }
  else r.emit column (.operator c)

def endQuoted (r : LineReading) (delimiter : Char) (column : Nat) (chars : List Char) :
    Except GrammarFault LineReading :=
  if delimiter = '"' then
    .ok (r.emit column (.literal (String.ofList (literalText chars.reverse))))
  else
    match Pattern.ofSource? (String.ofList chars.reverse) with
    | some p => .ok (r.emit column (.pattern p))
    | none => .error (.unexpected (r.spot column))

def stepQuoted (r : LineReading) (delimiter : Char) (column : Nat) (chars : List Char)
    (escaped : Bool) (c : Char) : Except GrammarFault LineReading :=
  if escaped then .ok { r with current := .quoted delimiter column (c :: chars) false }
  else if c = delimiter then r.endQuoted delimiter column chars
  else .ok { r with current := .quoted delimiter column (c :: chars) (c = '\\') }

def step (r : LineReading) (column : Nat) (c : Char) : Except GrammarFault LineReading :=
  match r.current with
  | .nothing => .ok (r.begin column c)
  | .comment => .ok r
  | .word start chars =>
    if isWordCharacter c then .ok { r with current := .word start (c :: chars) }
    else .ok ((r.emit start (.word (String.ofList chars.reverse))).begin column c)
  | .dash start =>
    if c = '>' then .ok (r.emit start .arrow)
    else .ok ((r.emit start (.operator '-')).begin column c)
  | .slash start =>
    if c = '/' then .ok { r with current := .comment }
    else r.stepQuoted '/' start [] false c
  | .quoted delimiter start chars escaped => r.stepQuoted delimiter start chars escaped c

def steps (r : LineReading) (column : Nat) : List Char → Except GrammarFault LineReading
  | [] => .ok r
  | c :: rest => do (← r.step column c).steps (column + 1) rest

-- The tokens of the line, once all of it was read.
def close (r : LineReading) : Except GrammarFault (List Token) :=
  match r.current with
  | .nothing | .comment => .ok r.done.reverse
  | .word start chars => .ok (r.emit start (.word (String.ofList chars.reverse))).done.reverse
  | .dash start => .ok (r.emit start (.operator '-')).done.reverse
  | .slash start | .quoted _ start _ _ => .error (.unexpected (r.spot start))

end LineReading

def lineTokens (line : Nat) (text : String) : Except GrammarFault (List Token) := do
  let r ← LineReading.steps { line := line, text := text } 1 text.toList
  r.close

-- Adds a line to the statements above it, of which it continues the newest if it starts with
-- another choice.
def addLine (statements : List (List Token)) (tokens : List Token) : List (List Token) :=
  match tokens, statements with
  | [], _ => statements
  | t :: rest, last :: earlier =>
    if t.kind = .operator '|' then (last ++ t :: rest) :: earlier else (t :: rest) :: statements
  | tokens, [] => [tokens]

def statementTokens (line : Nat) (statements : List (List Token)) :
    List String → Except GrammarFault (List (List Token))
  | [] => .ok statements.reverse
  | text :: rest => do
    statementTokens (line + 1) (addLine statements (← lineTokens line text)) rest

-- The tokens of each statement of a grammar.
def tokens (source : String) : Except GrammarFault (List (List Token)) :=
  statementTokens 1 [] (source.splitOn "\n")

end ParseKit.Written
