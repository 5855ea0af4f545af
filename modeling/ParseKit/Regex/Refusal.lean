import ParseKit.Decimal.Read
import ParseKit.Regex.Flag
import ParseKit.Regex.Source
import ParseKit.Text.Quoted
import ParseKit.Value

namespace ParseKit.Regex

-- The three ways in which a repetition takes its item.
inductive Greed where
  | greedy
  | reluctant
  | possessive
  deriving DecidableEq, Repr, Inhabited

def Greed.name : Greed → String
  | greedy => "MAX_REPEAT"
  | reluctant => "MIN_REPEAT"
  | possessive => "POSSESSIVE_REPEAT"

-- Why an expression is refused.
inductive Reason where
  -- A backslash ends the expression.
  | danglingEscape
  | badEscape (written : String)
  -- An escape with too few digits.
  | shortEscape (written : String)
  | octalTooLarge (written : String)
  | codeTooLarge
  | undefinedCharacter (name : String)
  | missing (what : String)
  | unterminatedName (closing : Char)
  | unterminatedSet
  | unterminatedComment
  | unterminatedGroup
  | unexpectedEnd
  | unknownExtension (written : String)
  | unbalanced
  | badRange (first last : String)
  | nothingToRepeat
  | repeatedTwice
  | boundsReversed
  | boundTooLarge
  | boundTooLong (digits : Nat)
  | badName (name : String)
  | unknownName (name : String)
  | nameTaken (name : String) (group earlier : Nat)
  | groupZero
  | unknownGroup (group : Nat)
  | openGroup
  -- A group that the same lookbehind defines.
  | groupBehind
  | thirdBranch
  | lateFlags
  | unfitFlag (flag : Flag)
  | classFlagsTogether
  | unknownFlag
  | globalFlagOn
  | globalFlagOff
  | classFlagOff
  | flagOnAndOff
  | flagsClash (other : Flag)
  | repetitionInTemplate (greed : Greed)
  | behindTooFar
  | behindOfManyWidths
  deriving DecidableEq, Repr, Inhabited

namespace Reason

def badFlags (why : String) : String := "bad inline flags: " ++ why

def message : Reason → String
  | danglingEscape => "bad escape (end of pattern)"
  | badEscape written => "bad escape " ++ written
  | shortEscape written => "incomplete escape " ++ written
  | octalTooLarge written => "octal escape value " ++ written ++ " outside of range 0-0o377"
  | codeTooLarge => "Python int too large to convert to C int"
  | undefinedCharacter name => "undefined character name " ++ Text.quoted name
  | missing what => "missing " ++ what
  | unterminatedName closing => "missing " ++ closing.toString ++ ", unterminated name"
  | unterminatedSet => "unterminated character set"
  | unterminatedComment => "missing ), unterminated comment"
  | unterminatedGroup => "missing ), unterminated subpattern"
  | unexpectedEnd => "unexpected end of pattern"
  | unknownExtension written => "unknown extension " ++ written
  | unbalanced => "unbalanced parenthesis"
  | badRange first last => "bad character range " ++ first ++ "-" ++ last
  | nothingToRepeat => "nothing to repeat"
  | repeatedTwice => "multiple repeat"
  | boundsReversed => "min repeat greater than max repeat"
  | boundTooLarge => "the repetition number is too large"
  | boundTooLong digits => Decimal.excessText digits
  | badName name => "bad character in group name " ++ Text.quoted name
  | unknownName name => "unknown group name " ++ Text.quoted name
  | nameTaken name group earlier =>
    "redefinition of group name " ++ Text.quoted name ++ " as group " ++ toString group
      ++ "; was group " ++ toString earlier
  | groupZero => "bad group number"
  | unknownGroup group => "invalid group reference " ++ toString group
  | openGroup => "cannot refer to an open group"
  | groupBehind => "cannot refer to group defined in the same lookbehind subpattern"
  | thirdBranch => "conditional backref with more than two branches"
  | lateFlags => "global flags not at the start of the expression"
  | unfitFlag flag =>
    let patterns := if flag = .locale then "a str" else "a bytes"
    badFlags ("cannot use '" ++ flag.letter.toString ++ "' flag with " ++ patterns ++ " pattern")
  | classFlagsTogether => badFlags "flags 'a', 'u' and 'L' are incompatible"
  | unknownFlag => "unknown flag"
  | globalFlagOn => badFlags "cannot turn on global flag"
  | globalFlagOff => badFlags "cannot turn off global flag"
  | classFlagOff => badFlags "cannot turn off flags 'a', 'u' and 'L'"
  | flagOnAndOff => badFlags "flag turned on and off"
  | flagsClash other =>
    "ASCII and " ++ (if other = .locale then "LOCALE" else "UNICODE") ++ " flags are incompatible"
  | repetitionInTemplate greed => "internal: unsupported template operator " ++ greed.name
  | behindTooFar => "looks too much behind"
  | behindOfManyWidths => "look-behind requires fixed-width pattern"

def errorClass : Reason → ErrorClass
  | boundTooLarge | codeTooLarge => .overflowError
  | boundTooLong _ | flagsClash _ => .valueError
  | _ => .derived "error" .exception

end Reason

-- A reason, and where the expression is at fault if that can be told.
structure Refusal where
  reason : Reason
  place : Option Nat := none
  deriving DecidableEq, Repr, Inhabited

-- The line and the column of a place, both counted from one.
def lineAndColumn (chars : List Char) (place : Nat) : Nat × Nat :=
  let before := chars.take place
  (before.count '\n' + 1, (before.reverse.takeWhile (· != '\n')).length + 1)

-- Characters outside ASCII as numbers.
def asciiText (text : String) : String :=
  String.ofList (text.toList.flatMap fun c => if c.toNat < 0x80 then [c] else Text.numericEscape c)

namespace Refusal

-- Lines are told only of expressions that have several.
def text (r : Refusal) (source : Source) : String :=
  let message := match source.alphabet with
    | .characters => r.reason.message
    | .bytes => asciiText r.reason.message
  match r.place with
  | none => message
  | some place =>
    let (line, column) := lineAndColumn source.chars place
    message ++ " at position " ++ toString place ++
      if source.chars.contains '\n' then
        " (line " ++ toString line ++ ", column " ++ toString column ++ ")"
      else ""

def failure (r : Refusal) (source : Source) : Failure :=
  .message r.reason.errorClass (r.text source)

end Refusal

end ParseKit.Regex
