import ParseKit.Regex.Check
import ParseKit.Text.Hex
import ParseKit.World

namespace ParseKit

variable {σ : Type}

-- The object of this content that exists already, or else a new one.
def share (o : Object) : Run σ Value := do
  match (← Run.store).objects.findIdx? (· == o) with
  | some id => return .ref id
  | none => Run.alloc o

-- The pattern of a source, which has to be in order.
def sharePattern (source : Regex.Source) : Run σ Value := do
  let _ ← Run.ofExcept source.flags
  share (.pattern source)

-- The bytes that a text spells in hexadecimal digits.
def readBytes (text : String) : Except Failure (List UInt8) :=
  match Text.bytesOfHex text.toList with
  | .ok content => .ok content
  | .error place =>
    .error (.message .valueError
      ("non-hexadecimal number found in fromhex() arg at position " ++ toString place))

end ParseKit
