namespace ParseKit

-- A set of characters: those in some ranges, or all others.
structure CharSet where
  ranges : List (Char × Char)
  complemented : Bool := false
  deriving DecidableEq, Repr, Inhabited

namespace CharSet

def contains (s : CharSet) (c : Char) : Bool :=
  (s.ranges.any fun r => r.1 ≤ c && c ≤ r.2) != s.complemented

def single (c : Char) : CharSet := { ranges := [(c, c)] }

def complement (s : CharSet) : CharSet := { s with complemented := !s.complemented }

end CharSet

-- What a terminal of a grammar matches.
inductive Pattern where
  | nothing
  | empty
  | oneOf (s : CharSet)
  | seq (a b : Pattern)
  | alt (a b : Pattern)
  | star (a : Pattern)
  deriving DecidableEq, Repr, Inhabited

namespace Pattern

-- A sequence, without the parts that change nothing.
def followedBy : Pattern → Pattern → Pattern
  | nothing, _ => nothing
  | _, nothing => nothing
  | empty, b => b
  | a, empty => a
  | a, b => seq a b

-- A choice, without the parts that change nothing.
def or : Pattern → Pattern → Pattern
  | nothing, b => b
  | a, nothing => a
  | a, b => if a = b then a else alt a b

def plus (a : Pattern) : Pattern := a.followedBy (star a)

def optional (a : Pattern) : Pattern := a.or empty

-- The pattern of one text.
def ofText (s : String) : Pattern :=
  s.toList.foldr (fun c p => (oneOf (.single c)).followedBy p) empty

def matchesEmpty : Pattern → Bool
  | nothing => false
  | empty => true
  | oneOf _ => false
  | seq a b => a.matchesEmpty && b.matchesEmpty
  | alt a b => a.matchesEmpty || b.matchesEmpty
  | star _ => true

-- What is left to match once a character was taken.
def after (c : Char) : Pattern → Pattern
  | nothing => nothing
  | empty => nothing
  | oneOf s => if s.contains c then empty else nothing
  | seq a b =>
    if a.matchesEmpty then ((after c a).followedBy b).or (after c b)
    else (after c a).followedBy b
  | alt a b => (after c a).or (after c b)
  | star a => (after c a).followedBy (star a)

-- The length of the longest beginning of a text that is matched.
def longest? : Pattern → List Char → Option Nat
  | nothing, _ => none
  | p, [] => if p.matchesEmpty then some 0 else none
  | p, c :: rest =>
    match longest? (p.after c) rest with
    | some n => some (n + 1)
    | none => if p.matchesEmpty then some 0 else none

-- No more is matched than there is.
theorem longest?_le_length {p : Pattern} {text : List Char} {n : Nat}
    (h : p.longest? text = some n) : n ≤ text.length := by
  induction text generalizing p n with
  | nil =>
    have hn : n = 0 := by
      cases p <;> simp only [longest?] at h <;> (try split at h) <;> simp_all
    omega
  | cons c rest ih =>
    cases hp : (p.after c).longest? rest with
    | some k =>
      have := ih hp
      have hn : n = k + 1 := by cases p <;> simp only [longest?, hp] at h <;> simp_all
      simp only [List.length_cons]
      omega
    | none =>
      have hn : n = 0 := by
        cases p <;> simp only [longest?, hp] at h <;> (try split at h) <;> simp_all
      omega

end Pattern

end ParseKit
