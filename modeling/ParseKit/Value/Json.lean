import ParseKit.Text.Quoted
import ParseKit.Value.Inspect

namespace ParseKit

-- Why a value has no JSON literal.
inductive LiteralFault where
  -- A dictionary has a key that is no atom.
  | unsupportedKey
  | circular
  -- A part of the value has no text either.
  | raised (failure : Failure)

def notANumberLiteral : String := "NaN"

def jsonNumber (bits : UInt64) : String :=
  match Decimal.Binary.ofBits bits with
  | .notANumber => notANumberLiteral
  | .infinite negative => if negative then "-Infinity" else "Infinity"
  | number => numberFormat.write number

namespace Store

-- The name that a key gets in a JSON object.
def jsonKey (s : Store) (key : Value) : Except LiteralFault String :=
  match s.text? key with
  | some t => .ok t
  | none =>
    match key with
    | .null => .ok "null"
    | .bool b => .ok (if b then "true" else "false")
    | .int i => .ok (toString i)
    | .float bits => .ok (jsonNumber bits)
    | key => if s.get? key = some .notANumber then .ok notANumberLiteral else .error .unsupportedKey

def jsonAt (s : Store) : Nat → List Value → Value → Except LiteralFault String
  | 0, _, _ => .error .circular
  | depth + 1, path, v =>
    match s.text? v with
    | some t => .ok (Text.jsonString t)
    | none =>
      let inner (w : Value) := s.jsonAt depth (v :: path) w
      let array (items : List Value) : Except LiteralFault String := do
        if path.contains v then throw .circular
        return "[" ++ ",".intercalate (← items.mapM inner) ++ "]"
      match v with
      | .null => .ok "null"
      | .bool b => .ok (if b then "true" else "false")
      | .int i => .ok (toString i)
      | .float bits => .ok (jsonNumber bits)
      | v =>
        match s.get? v with
        | some .notANumber => .ok notANumberLiteral
        | some (.list items) => array items
        | some (.tuple items) => array items
        | some (.dict d) => do
          if path.contains v then throw .circular
          let parts ← d.entries.mapM fun e => do
            let key ← s.jsonKey e.1
            return Text.jsonString key ++ ":" ++ (← inner e.2)
          return "\x7b" ++ ",".intercalate parts ++ "\x7d"
        | _ =>
          match s.display v with
          | .ok t => .ok (Text.jsonString t)
          | .error e => .error (.raised e)

def json (s : Store) (v : Value) : Except LiteralFault String := s.jsonAt (s.size + 2) [] v

end Store

end ParseKit
