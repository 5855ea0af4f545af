import ParseKit.Regex.Refusal

namespace ParseKit.Regex

-- How many characters a piece matches, at least and at most.
structure Width where
  least : Nat
  -- None where nothing bounds it.
  most : Option Nat
  deriving DecidableEq, Repr, Inhabited

namespace Width

def exactly (n : Nat) : Width := ⟨n, some n⟩

def add (a b : Width) : Width :=
  ⟨a.least + b.least, do return (← a.most) + (← b.most)⟩

def either (a b : Width) : Width :=
  ⟨min a.least b.least, do return max (← a.most) (← b.most)⟩

-- From `least` to `most` of the same one after the other.
def times (w : Width) (least : Nat) (most : Option Nat) : Width :=
  let upper :=
    if w.most = some 0 ∨ most = some 0 then some 0 else do return (← w.most) * (← most)
  ⟨w.least * least, upper⟩

def isExact (w : Width) : Bool := w.most == some w.least

end Width

inductive Role where
  -- Matches at a place, and no characters.
  | anchor
  | repetition
  | other
  deriving DecidableEq, Repr, Inhabited

-- What has to be known of a piece of an expression to tell whether the whole is in order.
structure Piece where
  role : Role := .other
  width : Width
  -- What may be wrong with it once it is known how the whole is to be matched.
  flaws : List Reason := []
  deriving DecidableEq, Repr, Inhabited

namespace Piece

def anchor : Piece := { role := .anchor, width := .exactly 0 }

-- One character, whichever.
def single : Piece := { width := .exactly 1 }

def reference (width : Width) : Piece := { width := width }

def widthOf (pieces : List Piece) : Width := pieces.foldl (fun w p => w.add p.width) (.exactly 0)

def widthOfAlternatives : List (List Piece) → Width
  | [] => .exactly 0
  | first :: rest => rest.foldl (fun w pieces => w.either (widthOf pieces)) (widthOf first)

def flawsOfAlternatives (alternatives : List (List Piece)) : List Reason :=
  alternatives.flatten.flatMap (·.flaws)

def group (alternatives : List (List Piece)) : Piece where
  width := widthOfAlternatives alternatives
  flaws := flawsOfAlternatives alternatives

-- What is matched if a group has matched, and what is matched otherwise, which may be left out.
def conditional (alternatives : List (List Piece)) : Piece :=
  let g := group alternatives
  match alternatives with
  | [_] => { g with width := g.width.either (.exactly 0) }
  | _ => g

-- The furthest that can be looked behind.
def furthest : Nat := 4294967295

-- Characters before a place are counted back, and so their number has to be known.
def lookbehindFlaws (w : Width) : List Reason :=
  if furthest < w.least then [.behindTooFar]
  else if w.isExact then []
  else [.behindOfManyWidths]

def look (behind : Bool) (alternatives : List (List Piece)) : Piece :=
  let own := if behind then lookbehindFlaws (widthOfAlternatives alternatives) else []
  { width := .exactly 0, flaws := own ++ flawsOfAlternatives alternatives }

def repeated (item : Piece) (least : Nat) (most : Option Nat) (greed : Greed) : Piece where
  role := .repetition
  width := item.width.times least most
  flaws := .repetitionInTemplate greed :: item.flaws

end Piece

end ParseKit.Regex
