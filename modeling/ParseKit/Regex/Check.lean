import ParseKit.Regex.CharacterSet
import ParseKit.Regex.Group
import ParseKit.Regex.Repetition

namespace ParseKit.Regex

def isVerboseBlank (c : Char) : Bool := c == ' ' || ('\t' ≤ c && c ≤ '\r')

namespace Reader

-- A token that begins a piece, or a group.
def piece (t : Token) : Reader Unit := do
  if t.escaped then push (← pieceEscape t.char)
  else
    match t.char with
    | '[' => push (← characterSet t.place)
    | '(' => openGroup t.place
    | '?' | '*' | '+' | '\x7b' => repetition t.char t.place
    | '^' | '$' => push .anchor
    | _ => push .single

-- Reads up to the end, or to a parenthesis that closes nothing. Each round takes a token.
def pieces : Nat → Reader Unit
  | 0 => pure ()
  | fuel + 1 => do
    let r ← get
    match r.rest with
    | [] =>
      unless r.outer.isEmpty do refuseAt r.frame.place .unterminatedGroup
    | t :: _ =>
      if t.isPlain ')' then
        match r.outer with
        | [] => return
        | around :: outer => closeGroup around outer
      else if t.isPlain '|' then nextAlternative
      else
        drop 1
        if r.frame.verbose && !t.escaped && isVerboseBlank t.char then pure ()
        else if r.frame.verbose && t.isPlain '#' then
          let _ ← passUntil '\n'
        else piece t
      pieces fuel

-- Flags that choose classes must not come together from several groups either.
def checkFlags : Reader Unit := do
  let r ← get
  let other := match r.alphabet with
    | .characters => Flag.unicode
    | .bytes => Flag.locale
  if r.flags.contains .ascii && r.flags.contains other then throw { reason := .flagsClash other }

def checkAwaited : Reader Unit := do
  let r ← get
  match r.awaited.find? fun a => r.groups.length < a.1 with
  | some (group, place) => refuseAt place (.unknownGroup group)
  | none => pure ()

-- Repetitions are flaws of templates only.
def checkFlaws : Reader Unit := do
  let r ← get
  let counts : Reason → Bool
    | .repetitionInTemplate _ => r.flags.contains .template
    | _ => true
  match (Piece.flawsOfAlternatives r.frame.alternatives).find? counts with
  | some reason => throw { reason := reason }
  | none => pure ()

def expression : Reader (List Flag) := do
  meetEnd
  pieces ((← get).rest.length + 1)
  checkFlags
  unless (← get).rest.isEmpty do refuse .unbalanced
  checkAwaited
  checkFlaws
  return Flag.all.filter (← get).flags.contains

end Reader

-- The flags that an expression sets for itself, if it is in order.
def Source.flags (source : Source) : Except Failure (List Flag) :=
  let start : Reading :=
    { alphabet := source.alphabet
      size := source.chars.length
      dangling := Token.dangles source.chars
      rest := Token.scan 0 source.chars }
  match Reader.expression.run start with
  | .ok (flags, _) => .ok flags
  | .error refusal => .error (refusal.failure source)

end ParseKit.Regex
