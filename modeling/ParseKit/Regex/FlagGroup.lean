import ParseKit.Regex.Reader

namespace ParseKit.Regex

structure FlagChange where
  on : List Flag := []
  off : List Flag := []
  deriving DecidableEq, Repr, Inhabited

namespace Reader

-- The flag that a token stands for.
def flagOf? (t : Token) : Option Flag := if t.escaped then none else Flag.ofLetter? t.char

-- Refuses a token that stands for no flag.
def refuseFlag {α : Type} (t : Token) (wanted : String) : Reader α :=
  let reason := if !t.escaped && Text.isLetter t.char then Reason.unknownFlag else .missing wanted
  refuse reason t.chars.length

def afterFlags : String := "-, : or )"

-- Turns on a flag beside others.
def turnOn (flags : List Flag) (flag : Flag) : Reader (List Flag) := do
  let unfit := match (← get).alphabet with
    | .characters => Flag.locale
    | .bytes => Flag.unicode
  if flag = unfit then refuse (.unfitFlag flag)
  if flag.choosesClasses && flags.any (fun f => f.choosesClasses && f != flag) then
    refuse .classFlagsTogether
  return flags ++ [flag]

-- The flags turned on from `t` on, and the character behind them.
def flagsOn : Nat → List Flag → Token → Reader (List Flag × Char)
  | 0, flags, t => return (flags, t.char)
  | fuel + 1, flags, t => do
    match flagOf? t with
    | none => refuseFlag t afterFlags
    | some flag =>
      let flags ← turnOn flags flag
      let u ← next (.missing afterFlags)
      if u.isPlainIn [')', '-', ':'] then return (flags, u.char)
      else flagsOn fuel flags u

-- The flags turned off from `t` on, up to a colon. `wanted` is what has to come if no flag does.
def flagsOff (wanted : String) : Nat → List Flag → Token → Reader (List Flag)
  | 0, flags, _ => return flags
  | fuel + 1, flags, t => do
    match flagOf? t with
    | none => refuseFlag t wanted
    | some flag =>
      if flag.choosesClasses then refuse .classFlagOff
      let u ← next (.missing ":")
      if u.isPlain ':' then return flags ++ [flag]
      else flagsOff ":" fuel (flags ++ [flag]) u

-- The change for a group, from its first token on. None if the flags are for the whole
-- expression, which has them then.
def flagChange? (t : Token) : Reader (Option FlagChange) := do
  let fuel := (← get).rest.length + 1
  let (on, stop) ← if t.isPlain '-' then pure ([], '-') else flagsOn fuel [] t
  if stop = ')' then
    modify fun r => { r with flags := r.flags ++ on }
    return none
  if on.any (·.isGlobal) then refuse .globalFlagOn 1
  let off ← if stop = '-' then do flagsOff "flag" fuel [] (← next (.missing "flag")) else pure []
  if off.any (·.isGlobal) then refuse .globalFlagOff 1
  if on.any off.contains then refuse .flagOnAndOff 1
  return some ⟨on, off⟩

end Reader

end ParseKit.Regex
