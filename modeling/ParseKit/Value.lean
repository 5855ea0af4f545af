import ParseKit.ErrorClass

namespace ParseKit

-- What attributes, arguments and results are made of. Atoms are the same value exactly when
-- they are equal. Everything that has an identity, or that holds other values, lives in the
-- store, and a reference to it is the value.
inductive Value where
  | null
  | bool (b : Bool)
  | int (i : Int)
  -- The bits of a floating point number. One that is no number is an object.
  | float (bits : UInt64)
  | text (s : String)
  | errorClass (c : ErrorClass)
  | ref (id : Nat)
  deriving DecidableEq, Repr, Inhabited

-- The positions recorded for a piece of source text, null where nothing was recorded.
structure Place where
  line : Value := .null
  column : Value := .null
  startPos : Value := .null
  endLine : Value := .null
  endColumn : Value := .null
  endPos : Value := .null
  deriving DecidableEq, Repr, Inhabited

-- An error that was raised: its class, the arguments it was made from, and the fields that
-- can be read from it, of which a later one hides an earlier one of the same name. An error of
-- a detailed class has `details` as well.
structure Failure where
  errorClass : ErrorClass
  args : List Value
  fields : List (String × Value) := []
  details : List (String × Value) := []
  deriving DecidableEq, Repr, Inhabited

namespace Failure

-- An error with nothing but a message.
def message (c : ErrorClass) (text : String) : Failure := { errorClass := c, args := [.text text] }

def field? (e : Failure) (name : String) : Option Value :=
  (e.fields.reverse.find? (·.1 == name)).map (·.2)

def isA (e : Failure) (c : ErrorClass) : Bool := e.errorClass.isA c

end Failure

end ParseKit
