import ParseKit.Regex.FlagGroup

namespace ParseKit.Regex

-- Groups are numbered below this.
def groupLimit : Nat := 1073741823

namespace Reader

-- Begins to read a group that was opened at a place.
def openFrame (opening : Opening) (place : Nat) (change : FlagChange := {}) : Reader Unit :=
  modify fun r =>
    let verbose := (r.frame.verbose || change.on.contains .verbose) && !change.off.contains .verbose
    { r with
      frame := { opening := opening, place := place, verbose := verbose }
      outer := r.frame :: r.outer }

def openCapturing (place : Nat) : Reader Unit := do
  modify fun r => { r with groups := r.groups ++ [none] }
  openFrame (.capturing (← get).groups.length) place

def openNamed (place : Nat) : Reader Unit := do
  let name ← nameUntil '>' "group name"
  requireName name
  let group := (← get).groups.length + 1
  match (← get).names.lookup name with
  | some earlier => refuse (.nameTaken name group earlier) (name.length + 1)
  | none =>
    modify fun r => { r with names := (name, group) :: r.names }
    openCapturing place

-- The number of the group of a name.
def groupOf (name : String) : Reader Nat := do
  match (← get).names.lookup name with
  | some group => return group
  | none => refuse (.unknownName name) (name.length + 1)

def namedReference : Reader Unit := do
  let name ← nameUntil ')' "group name"
  requireName name
  let group ← groupOf name
  match ← groupWidth? group with
  | none => refuse .openGroup (name.length + 1)
  | some width =>
    checkBehind group
    push (.reference width)

-- What a letter P stands before.
def extension (place : Nat) : Reader Unit := do
  if ← accept '<' then openNamed place
  else if ← accept '=' then namedReference
  else
    let t ← next .unexpectedEnd
    refuse (.unknownExtension ("?P" ++ t.text)) (t.chars.length + 2)

def openBehind (place : Nat) : Reader Unit := do
  let t ← next .unexpectedEnd
  unless t.isPlainIn ['=', '!'] do
    refuse (.unknownExtension ("?<" ++ t.text)) (t.chars.length + 2)
  let r ← get
  if r.groupsBefore.isNone then set { r with groupsBefore := some r.groups.length }
  openFrame (.behind r.groupsBefore.isNone) place

-- The group that a condition numbers. It may come later.
def numberedCondition (text : String) : Reader Nat := do
  let size := text.length + 1
  match Decimal.readInt? text with
  | some (.ofNat 0) => refuse .groupZero size
  | some (.ofNat group) =>
    if groupLimit ≤ group then refuse (.unknownGroup group) size
    let start := (← place) - size
    unless (← get).awaited.any (·.1 == group) do
      modify fun r => { r with awaited := r.awaited ++ [(group, start)] }
    return group
  | _ => refuse (.badName text) size

def openConditional (place : Nat) : Reader Unit := do
  let text ← nameUntil ')' "group name"
  let group ←
    if Text.isIdentifier text.toList then groupOf text else numberedCondition text
  checkBehind group
  openFrame .conditional place

-- Flags for the whole expression stand before everything else.
def flagGroup (place : Nat) (t : Token) : Reader Unit := do
  match ← flagChange? t with
  | some change => openFrame .plain place change
  | none =>
    let r ← get
    if r.outer.isEmpty && r.frame.finished.isEmpty && r.frame.pieces.isEmpty then
      set { r with frame := { r.frame with verbose := r.flags.contains .verbose } }
    else refuseAt place .lateFlags

-- A group whose parenthesis was read at a place.
def openGroup (place : Nat) : Reader Unit := do
  unless ← accept '?' do return ← openCapturing place
  let t ← next .unexpectedEnd
  if t.isPlain 'P' then extension place
  else if t.isPlainIn [':', '>'] then openFrame .plain place
  else if t.isPlain '#' then
    unless ← passUntil ')' do refuseAt place .unterminatedComment
  else if t.isPlainIn ['=', '!'] then openFrame .ahead place
  else if t.isPlain '<' then openBehind place
  else if t.isPlain '(' then openConditional place
  else if t.isPlain '-' || (flagOf? t).isSome then flagGroup place t
  else refuse (.unknownExtension ("?" ++ t.text)) (t.chars.length + 1)

-- What a group comes to.
def closedPiece (f : Frame) : Piece :=
  match f.opening with
  | .plain | .capturing _ => .group f.alternatives
  | .ahead => .look false f.alternatives
  | .behind _ => .look true f.alternatives
  | .conditional => .conditional f.alternatives

-- Ends the innermost group at its parenthesis, and goes on with the one around it.
def closeGroup (around : Frame) (outer : List Frame) : Reader Unit := do
  drop 1
  let f := (← get).frame
  let piece := closedPiece f
  modify fun r =>
    { r with
      frame := { around with pieces := piece :: around.pieces }
      outer := outer
      groups :=
        match f.opening with
        | .capturing group => r.groups.set (group - 1) (some piece.width)
        | _ => r.groups
      groupsBefore := if f.opening = .behind true then none else r.groupsBefore }

-- Ends the current alternative. A condition has only two.
def nextAlternative : Reader Unit := do
  let f := (← get).frame
  if f.opening = .conditional && !f.finished.isEmpty then refuse .thirdBranch
  drop 1
  modify fun r =>
    { r with frame := { f with finished := f.pieces :: f.finished, pieces := [] } }

end Reader

end ParseKit.Regex
