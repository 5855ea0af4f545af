import ParseKit.Regex.Escape

namespace ParseKit.Regex.Reader

def member (t : Token) : Reader Member :=
  if t.escaped then memberEscape t.char else return .character (some t.char.toNat)

-- Whether characters from one member to another are a range.
def isRange : Member → Member → Bool
  | .character (some first), .character (some last) => first ≤ last
  | .character _, .character _ => true
  | _, _ => false

-- Reads up to the closing bracket, which is a member where it comes first. `fuel` bounds the
-- number of members and `place` is where the set was opened.
def members (place : Nat) : Nat → Bool → Reader Unit
  | 0, _ => pure ()
  | fuel + 1, isFirst => do
    let needed : Reader Token := do
      match ← next? with
      | some t => return t
      | none => refuseAt place .unterminatedSet
    let t ← needed
    if t.isPlain ']' && !isFirst then return
    let first ← member t
    if ← accept '-' then
      let u ← needed
      if u.isPlain ']' then return
      let last ← member u
      unless isRange first last do
        refuse (.badRange t.text u.text) (t.chars.length + 1 + u.chars.length)
    members place fuel false

-- A set whose bracket was read at a place.
def characterSet (place : Nat) : Reader Piece := do
  let _ ← accept '^'
  members place ((← get).rest.length + 1) true
  return .single

end ParseKit.Regex.Reader
