import ParseKit.Value.Sequence

namespace ParseKit

-- A loop that sees what happens meanwhile to the value it goes through.
structure Loop where
  holder : Value
  -- Where the next item is looked for.
  place : Nat := 0
  -- How many items there were at the start.
  size : Nat
  -- How many of them are still to come.
  left : Nat
  deriving DecidableEq, Repr, Inhabited

namespace Loop

def start (s : Store) (holder : Value) : Except Failure Loop := do
  let items ← s.elements holder
  return { holder, size := items.length, left := items.length }

-- The loop over the children of something. Those of a tree stay as they are.
def overChildren (s : Store) (parent : Value) : Except Failure Loop := do
  match s.get? parent with
  | some (.tree _ children _) =>
    return { holder := parent, size := children.length, left := children.length }
  | _ => start s (← s.requirePart parent "children")

def step (loop : Loop) (place : Nat) : Loop :=
  { loop with place := place + 1, left := loop.left - 1 }

-- The item that is next, and the loop after it. A list may grow and shrink, while a dictionary or
-- a set has to keep its size. A dictionary does not give more keys than there were at the start.
def next? (s : Store) (loop : Loop) : Except Failure (Option (Value × Loop)) :=
  let refuse (what : String) : Except Failure (Option (Value × Loop)) :=
    .error (.message .runtimeError (what ++ " during iteration"))
  let following (items : List Value) := items[loop.place]?.map (·, loop.step loop.place)
  match s.get? loop.holder with
  | some (.dict d) =>
    if d.entries.length ≠ loop.size then refuse "dictionary changed size"
    else
      match d.keyFrom? loop.place with
      | none => .ok none
      | some (place, key) =>
        if loop.left = 0 then refuse "dictionary keys changed"
        else .ok (some (key, loop.step place))
  | some (.set items) =>
    if items.length ≠ loop.size then refuse "Set changed size" else .ok (following items)
  | some (.tree _ children _) => .ok (following children)
  | _ => .ok ((s.elements? loop.holder).bind following)

-- A list is read as it is now.
theorem next?_list {s : Store} {loop : Loop} {items : List Value}
    (h : s.get? loop.holder = some (.list items)) :
    loop.next? s = .ok (items[loop.place]?.map (·, loop.step loop.place)) := by
  cases hv : loop.holder with
  | ref id =>
    rw [hv] at h
    simp [next?, hv, h, Store.elements?]
  | _ => simp [hv, Store.get?] at h

theorem next?_item {s : Store} {loop : Loop} {items : List Value} {v : Value}
    (h : s.get? loop.holder = some (.list items)) (hv : items[loop.place]? = some v) :
    loop.next? s = .ok (some (v, loop.step loop.place)) := by
  rw [next?_list h, hv, Option.map_some]

theorem next?_end {s : Store} {loop : Loop} {items : List Value}
    (h : s.get? loop.holder = some (.list items)) (hend : items.length ≤ loop.place) :
    loop.next? s = .ok none := by
  rw [next?_list h, List.getElem?_eq_none hend, Option.map_none]

end Loop

end ParseKit
