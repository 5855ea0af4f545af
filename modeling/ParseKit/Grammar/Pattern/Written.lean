import ParseKit.Grammar.Pattern

namespace ParseKit

namespace CharSet

def digits : CharSet := { ranges := [('0', '9')] }

def wordCharacters : CharSet := { ranges := [('0', '9'), ('A', 'Z'), ('a', 'z'), ('_', '_')] }

def blanks : CharSet := { ranges := [('\t', '\r'), (' ', ' ')] }

def anyButNewline : CharSet := (single '\n').complement

end CharSet

-- A piece of a written pattern: a character that stands for itself, a set, or a mark.
inductive PatternPiece where
  | plain (c : Char)
  | set (s : CharSet)
  | mark (c : Char)
  deriving DecidableEq, Repr, Inhabited

namespace PatternPiece

-- The character that a letter after a backslash stands for, if it is not the letter itself.
def controlCharacter : Char → Char
  | 'n' => '\n'
  | 't' => '\t'
  | 'r' => '\r'
  | 'f' => '\x0c'
  | 'v' => '\x0b'
  | c => c

def escaped : Char → PatternPiece
  | 'd' => set .digits
  | 'D' => set CharSet.digits.complement
  | 'w' => set .wordCharacters
  | 'W' => set CharSet.wordCharacters.complement
  | 's' => set .blanks
  | 'S' => set CharSet.blanks.complement
  | c => plain (controlCharacter c)

def ofChar (c : Char) : PatternPiece :=
  if "()[]|*+?.^$-\x7b\x7d".toList.contains c then mark c else plain c

def split : List Char → List PatternPiece
  | [] => []
  | '\\' :: c :: rest => escaped c :: split rest
  | '(' :: '?' :: ':' :: rest => mark '(' :: split rest
  | c :: rest => ofChar c :: split rest

end PatternPiece

namespace Pattern

-- A set that is being read. Its ranges are kept with the newest first, and `dash` says that the
-- newest is waiting for its upper end.
structure OpenSet where
  complemented : Bool := false
  ranges : List (Char × Char) := []
  dash : Bool := false
  deriving DecidableEq, Repr, Inhabited

namespace OpenSet

def add (s : OpenSet) (c : Char) : OpenSet :=
  match s.dash, s.ranges with
  | true, (low, _) :: rest => { s with ranges := (low, c) :: rest, dash := false }
  | _, ranges => { s with ranges := (c, c) :: ranges, dash := false }

-- A dash that nothing follows stands for itself.
def close (s : OpenSet) : CharSet where
  ranges := (if s.dash then ('-', '-') :: s.ranges else s.ranges).reverse
  complemented := s.complemented

end OpenSet

-- A group that is being read: the choices that are complete, and the parts of the next one,
-- the newest first. Only a part that is not `repeated` can be repeated.
structure OpenGroup where
  choices : Pattern := .nothing
  parts : List Pattern := []
  repeated : Bool := true
  deriving DecidableEq, Repr, Inhabited

namespace OpenGroup

def add (g : OpenGroup) (p : Pattern) : OpenGroup :=
  { g with parts := p :: g.parts, repeated := false }

def repeat? (g : OpenGroup) (f : Pattern → Pattern) : Option OpenGroup :=
  match g.repeated, g.parts with
  | false, p :: rest => some { g with parts := f p :: rest, repeated := true }
  | _, _ => none

def close (g : OpenGroup) : Pattern :=
  g.choices.or (g.parts.foldl (fun p part => part.followedBy p) .empty)

def choice (g : OpenGroup) : OpenGroup := { choices := g.close }

end OpenGroup

structure Reading where
  group : OpenGroup := {}
  outer : List OpenGroup := []
  set : Option OpenSet := none
  deriving DecidableEq, Repr, Inhabited

namespace Reading

def add (r : Reading) (p : Pattern) : Reading := { r with group := r.group.add p }

def stepInSet (r : Reading) (s : OpenSet) : PatternPiece → Option Reading
  | .mark ']' =>
    if s.ranges.isEmpty then some { r with set := some (s.add ']') }
    else some { (r.add (.oneOf s.close)) with set := none }
  | .mark '^' =>
    if s.ranges.isEmpty && !s.complemented then
      some { r with set := some { s with complemented := true } }
    else some { r with set := some (s.add '^') }
  | .mark '-' =>
    if s.ranges.isEmpty || s.dash then some { r with set := some (s.add '-') }
    else some { r with set := some { s with dash := true } }
  | .mark c => some { r with set := some (s.add c) }
  | .plain c => some { r with set := some (s.add c) }
  | .set t =>
    if t.complemented || s.dash then none
    else some { r with set := some { s with ranges := t.ranges.reverse ++ s.ranges } }

def stepOutside (r : Reading) : PatternPiece → Option Reading
  | .plain c => some (r.add (.oneOf (.single c)))
  | .set s => some (r.add (.oneOf s))
  | .mark '-' => some (r.add (.oneOf (.single '-')))
  | .mark '.' => some (r.add (.oneOf .anyButNewline))
  | .mark '[' => some { r with set := some {} }
  | .mark '(' => some { r with group := {}, outer := r.group :: r.outer }
  | .mark ')' =>
    match r.outer with
    | [] => none
    | g :: rest => some { r with group := g.add r.group.close, outer := rest }
  | .mark '|' => some { r with group := r.group.choice }
  | .mark '*' => (r.group.repeat? .star).map ({ r with group := · })
  | .mark '+' => (r.group.repeat? .plus).map ({ r with group := · })
  | .mark '?' => (r.group.repeat? .optional).map ({ r with group := · })
  | .mark _ => none

def step (r : Reading) (piece : PatternPiece) : Option Reading :=
  match r.set with
  | some s => r.stepInSet s piece
  | none => r.stepOutside piece

def close? (r : Reading) : Option Pattern :=
  if r.outer.isEmpty && r.set.isNone then some r.group.close else none

end Reading

-- Reads a pattern from the text between the slashes.
def ofSource? (source : String) : Option Pattern := do
  let r ← (PatternPiece.split source.toList).foldlM Reading.step {}
  r.close?

end Pattern

end ParseKit
