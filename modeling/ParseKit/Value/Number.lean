import ParseKit.Decimal.Read
import ParseKit.Value.Inspect

namespace ParseKit

variable {σ : Type}

-- A floating point number. One that is no number is a new object.
def allocFloat (x : Float) : Run σ Value :=
  if x.isNaN then Run.alloc .notANumber else return .float x.toBits

-- The floating point number that a text spells.
def readFloat (text : String) : Run σ Value :=
  match Decimal.readFloat? text with
  | some x => allocFloat x
  | none => Run.raise .valueError ("could not convert string to float: " ++ Text.quoted text)

namespace Store

-- What spells a number in a text or in bytes, which have to be of the basic range.
def spelling? (s : Store) (v : Value) : Option String :=
  match s.text? v, s.get? v with
  | some t, _ => some t
  | none, some (.bytes content) =>
    if content.all (· < 0x80) then some (String.ofList (content.map fun b => Char.ofNat b.toNat))
    else some ""
  | none, _ => none

-- The integer that a text or bytes spell.
def readInteger (s : Store) (v : Value) : Except Failure Int :=
  match s.spelling? v with
  | none =>
    .error (.message .typeError
      ("int() argument must be a string, a bytes-like object or a real number, not '"
        ++ s.kindName v ++ "'"))
  | some t =>
    match Decimal.readInt? t, Decimal.excessiveDigits? t with
    | some i, _ => .ok i
    | none, some digits => .error (.message .valueError (Decimal.excessText digits))
    | none, none => do
      let shown := String.ofList ((← s.inspect v).toList.take 200)
      .error (.message .valueError ("invalid literal for int() with base 10: " ++ shown))

end Store

end ParseKit
