import ParseKit.Value.Hash

namespace ParseKit

-- Slots for members, with their hashes. How many slots there are is a power of two. Each member
-- stands in a slot that its hash chooses, or in a free one near it.
structure Slots where
  content : Array (Option (Nat × Value)) := Array.replicate 8 none
  count : Nat := 0
  deriving Inhabited

namespace Slots

def size (t : Slots) : Nat := t.content.size

def isFree (t : Slots) (place : Nat) : Bool := t.content[place]? == some none

-- A slot, and the nine behind it unless the slots end before.
def near (t : Slots) (place : Nat) : List Nat :=
  if place + 9 < t.size then List.range' place 10 else [place]

-- The slot for a hash. From a place without a free slot another place is tried, which depends on
-- more and more of the hash, and at last on none of it.
def freeFrom (t : Slots) : Nat → Nat → Nat → Nat
  | 0, place, _ => place
  | fuel + 1, place, hash =>
    match (t.near place).find? t.isFree with
    | some free => free
    | none =>
      let rest := hash / 32
      t.freeFrom fuel ((place * 5 + 1 + rest) % t.size) rest

def slotFor (t : Slots) (hash : Nat) : Nat := t.freeFrom (t.size + 14) (hash % t.size) hash

def put (t : Slots) (member : Nat × Value) : Slots :=
  ⟨t.content.setIfInBounds (t.slotFor member.1) (some member), t.count + 1⟩

def members (t : Slots) : List (Nat × Value) := t.content.toList.filterMap id

-- The least power of two from eight on that is more than this.
def sizeAbove (n : Nat) : Nat := max 8 (Nat.pow 2 (Nat.log2 n + 1))

-- Moves all members to more slots.
def grow (t : Slots) : Slots :=
  let slots := sizeAbove (t.count * if 50000 < t.count then 2 else 4)
  t.members.foldl put ⟨Array.replicate slots none, 0⟩

-- Adds a member. Three fifths of the slots are used at most.
def insert (t : Slots) (member : Nat × Value) : Slots :=
  let t := t.put member
  if t.count * 5 < (t.size - 1) * 3 then t else t.grow

end Slots

namespace Store

-- The members of a set of these items in the order in which they are met. That is the order of
-- the items where hashes are not the same in every run.
def members (s : Store) (items : List Value) : List Value :=
  let items := s.distinct items
  match items.mapM s.hash? with
  | none => items
  | some hashes =>
    let t : Slots := ((hashes.map (·.toNat)).zip items).foldl Slots.insert {}
    t.members.map (·.2)

theorem members_of_hash?_eq_none {s : Store} {items : List Value} {v : Value}
    (hv : v ∈ s.distinct items) (h : s.hash? v = none) : s.members items = s.distinct items := by
  have hnone : (s.distinct items).mapM s.hash? = none := by
    generalize s.distinct items = l at hv
    induction l with
    | nil => simp at hv
    | cons x rest ih =>
      rcases List.mem_cons.1 hv with rfl | hv
      · simp [h]
      · simp [ih hv]
  simp [members, hnone]

end Store

end ParseKit
