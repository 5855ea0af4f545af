import ParseKit.Value

namespace ParseKit

-- Where the entries of a dictionary stand. Each keeps its place, and a place that an entry leaves
-- stays empty. When no place is left, the entries move up to the first places and get more room.
-- They move up as well when the first key comes that is no plain text.
structure Layout where
  -- The places of the entries, in the order of the entries.
  places : List Nat := []
  -- The first place that was not given out yet.
  next : Nat := 0
  -- How many places there are.
  room : Nat := 5
  -- Whether all keys so far were plain texts.
  plain : Bool := true
  deriving DecidableEq, Repr, Inhabited

namespace Layout

-- The room for entries that have outgrown what they had, given how many they are. It is two thirds
-- of a power of two.
def roomFor (count : Nat) : Nat :=
  2 * Nat.pow 2 (Nat.log2 (((3 * count ||| 8) - 1) ||| 7) + 1) / 3

-- Gives out a place for one more entry.
def push (l : Layout) : Layout :=
  if l.next < l.room then { l with places := l.places ++ [l.next], next := l.next + 1 }
  else
    let count := l.places.length
    ⟨List.range (count + 1), count + 1, roomFor count, l.plain⟩

-- Makes ready for a key, be it new or not.
def readyFor (l : Layout) (plain : Bool) : Layout :=
  if plain || !l.plain then l
  else if l.next = 0 then { l with plain := false }
  else
    let count := l.places.length
    ⟨List.range count, count, roomFor count, false⟩

def erase (l : Layout) (index : Nat) : Layout := { l with places := l.places.eraseIdx index }

end Layout

-- Entries in the order in which they came.
structure Dictionary where
  entries : List (Value × Value) := []
  layout : Layout := {}
  deriving DecidableEq, Repr, Inhabited

namespace Dictionary

def isPlainKey : Value → Bool
  | .text _ => true
  | _ => false

-- Different keys that came one after the other.
def ofEntries (entries : List (Value × Value)) : Dictionary where
  entries := entries
  layout := entries.foldl (fun l e => (l.readyFor (isPlainKey e.1)).push) {}

-- The first key at a place or after it, and where it is.
def keyFrom? (d : Dictionary) (place : Nat) : Option (Nat × Value) :=
  ((d.layout.places.zip d.entries).find? (place ≤ ·.1)).map fun p => (p.1, p.2.1)

end Dictionary

end ParseKit
