import ParseKit.Regex.Piece
import ParseKit.Regex.Token
import ParseKit.Text.Identifier

namespace ParseKit.Regex

-- How a group was opened, which is how it has to be closed.
inductive Opening where
  | plain
  | capturing (group : Nat)
  | ahead
  -- `outermost` if no other lookbehind is around it.
  | behind (outermost : Bool)
  | conditional
  deriving DecidableEq, Repr, Inhabited

-- A group that is being read, or the whole expression.
structure Frame where
  opening : Opening := .plain
  place : Nat := 0
  -- Whether blanks and comments between pieces are passed over.
  verbose : Bool := false
  -- The alternatives before the current one, and the current one's pieces, both last to first.
  finished : List (List Piece) := []
  pieces : List Piece := []
  deriving DecidableEq, Repr, Inhabited

def Frame.alternatives (f : Frame) : List (List Piece) :=
  (f.pieces :: f.finished).reverse.map (·.reverse)

structure Reading where
  alphabet : Alphabet
  size : Nat
  dangling : Bool
  rest : List Token
  frame : Frame := {}
  outer : List Frame := []
  -- The widths of the groups from the first on, of those that are closed.
  groups : List (Option Width) := []
  names : List (String × Nat) := []
  -- How many groups there were before the outermost lookbehind around.
  groupsBefore : Option Nat := none
  -- Groups that are referred to by number before they have to exist, with the places.
  awaited : List (Nat × Nat) := []
  flags : List Flag := []
  deriving Repr, Inhabited

abbrev Reader := StateT Reading (Except Refusal)

namespace Reader

def refuseAt {α : Type} (place : Nat) (reason : Reason) : Reader α :=
  throw { reason := reason, place := some place }

-- Where the next token begins.
def place : Reader Nat := do
  let r ← get
  return match r.rest with
    | [] => r.size
    | t :: _ => t.place

-- Refuses what was read so many characters ago.
def refuse {α : Type} (reason : Reason) (back : Nat := 0) : Reader α := do
  refuseAt ((← place) - back) reason

-- A left over backslash is met as soon as nothing else is left.
def meetEnd : Reader Unit := do
  let r ← get
  if r.rest.isEmpty && r.dangling then refuseAt (r.size - 1) .danglingEscape

def drop (count : Nat) : Reader Unit := do
  modify fun r => { r with rest := r.rest.drop count }
  meetEnd

def peek? : Reader (Option Token) := return (← get).rest.head?

def next? : Reader (Option Token) := do
  let t ← peek?
  drop 1
  return t

-- The next token, where one has to be.
def next (ifNone : Reason) : Reader Token := do
  match ← next? with
  | some t => return t
  | none => refuse ifNone

-- Takes a character if it comes next.
def accept (c : Char) : Reader Bool := do
  match ← peek? with
  | some t =>
    if t.isPlain c then
      drop 1
      return true
    else return false
  | none => return false

-- At most `limit` plain characters of a class.
def takeWhile (limit : Nat) (p : Char → Bool) : Reader (List Char) := do
  let taken := ((← get).rest.take limit).takeWhile fun t => !t.escaped && p t.char
  drop taken.length
  return taken.map (·.char)

-- The name before a closing character, which is taken as well.
def nameUntil (closing : Char) (what : String) : Reader String := do
  let rest := (← get).rest
  let taken := rest.takeWhile fun t => !t.isPlain closing
  let name := String.ofList (taken.flatMap (·.chars))
  drop (taken.length + 1)
  if taken.length = rest.length then
    if name.isEmpty then refuse (.missing what)
    else refuse (.unterminatedName closing) name.length
  else if name.isEmpty then refuse (.missing what) 1
  else return name

-- Passes over everything up to a closing character, and says whether there was one.
def passUntil (closing : Char) : Reader Bool := do
  let rest := (← get).rest
  let passed := rest.takeWhile fun t => !t.isPlain closing
  drop (passed.length + 1)
  return passed.length < rest.length

def push (p : Piece) : Reader Unit :=
  modify fun r => { r with frame := { r.frame with pieces := p :: r.frame.pieces } }

-- The width of a group, which has to be closed.
def groupWidth? (group : Nat) : Reader (Option Width) := do
  match group with
  | 0 => return none
  | n + 1 => return ((← get).groups[n]?).join

-- A lookbehind may only refer to groups that were closed before it.
def checkBehind (group : Nat) : Reader Unit := do
  match (← get).groupsBefore with
  | none => pure ()
  | some before =>
    if (← groupWidth? group).isNone then refuse .openGroup
    if before < group then refuse .groupBehind

def requireName (name : String) : Reader Unit := do
  unless Text.isIdentifier name.toList do refuse (.badName name) (name.length + 1)

end Reader

end ParseKit.Regex
