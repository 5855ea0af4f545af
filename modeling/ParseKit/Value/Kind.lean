import ParseKit.Decimal.Binary
import ParseKit.World

namespace ParseKit

namespace Value

-- Truth values count as the integers 0 and 1.
def toInt? : Value → Option Int
  | bool b => some (if b then 1 else 0)
  | int i => some i
  | _ => none

-- The name of the class of an atom.
def atomClass : Value → String
  | null => "NoneType"
  | bool _ => "bool"
  | int _ => "int"
  | float _ => "float"
  | text _ => "str"
  | errorClass _ => "type"
  | ref _ => "object"

end Value

def Foreign.canBuild (o : Foreign) : Bool := o.isBuilder || o.buildSlot == .callable

namespace Builder

def className : Builder → String
  | standard => "DefaultBuilder"
  | callback _ => "CallbackBuilder"
  | unfinished name => name

end Builder

namespace Store

-- The characters of a text, be it plain or a token.
def text? (s : Store) : Value → Option String
  | .text t => some t
  | v =>
    match s.get? v with
    | some (.token _ t _) => some t
    | _ => none

def isText (s : Store) (v : Value) : Bool := (s.text? v).isSome

-- The entries of a dictionary or of a read-only mapping.
def entries? (s : Store) (v : Value) : Option (List (Value × Value)) :=
  match s.get? v with
  | some (.dict d) => some d.entries
  | some (.mapping entries) => some entries
  | _ => none

-- The items of a list or a tuple.
def items? (s : Store) (v : Value) : Option (List Value) :=
  match s.get? v with
  | some (.list items) => some items
  | some (.tuple items) => some items
  | _ => none

def list? (s : Store) (v : Value) : Option (List Value) :=
  match s.get? v with
  | some (.list items) => some items
  | _ => none

def dict? (s : Store) (v : Value) : Option (List (Value × Value)) :=
  match s.get? v with
  | some (.dict d) => some d.entries
  | _ => none

def node? (s : Store) (v : Value) : Option NodeParts :=
  match s.get? v with
  | some (.node parts) => some parts
  | _ => none

def isPosition (s : Store) (v : Value) : Bool :=
  match s.get? v with
  | some (.position ..) => true
  | _ => false

-- The name of the class of a value.
def className (s : Store) (v : Value) : String :=
  match s.get? v with
  | none => v.atomClass
  | some .notANumber => "float"
  | some (.lone atom) => atom.atomClass
  | some (.list _) => "list"
  | some (.tuple _) => "tuple"
  | some (.dict _) => "dict"
  | some (.mapping _) => "mappingproxy"
  | some (.set _) => "set"
  | some (.frozenset _) => "frozenset"
  | some (.bytes _) => "bytes"
  | some (.pattern _) => "Pattern"
  | some (.foreign o) => o.className
  | some (.record _) => "SimpleNamespace"
  | some (.node _) => "AstNode"
  | some (.position ..) => "Position"
  | some (.span ..) => "Span"
  | some (.token ..) => "Token"
  | some (.tree ..) => "Tree"
  | some (.place _) => "Meta"
  | some (.builder b) => b.className
  | some (.helpers ..) => "ActionHelpers"
  | some (.function _) => "function"
  | some (.failure e) => e.errorClass.name

-- The name by which messages about wrong operands call the class of a value.
def kindName (s : Store) (v : Value) : String :=
  match s.get? v with
  | some (.pattern _) => "re.Pattern"
  | some (.record _) => "types.SimpleNamespace"
  | _ => s.className v

-- Null, zero and everything empty count as false.
def truthy (s : Store) : Value → Bool
  | .null => false
  | .bool b => b
  | .int i => i ≠ 0
  | .float bits => !(Decimal.Binary.ofBits bits).isZero
  | .text t => t ≠ ""
  | .errorClass _ => true
  | v =>
    match s.get? v with
    | some (.list items) => !items.isEmpty
    | some (.tuple items) => !items.isEmpty
    | some (.dict d) => !d.entries.isEmpty
    | some (.mapping entries) => !entries.isEmpty
    | some (.set items) => !items.isEmpty
    | some (.frozenset items) => !items.isEmpty
    | some (.bytes content) => !content.isEmpty
    | some (.token _ t _) => t ≠ ""
    | _ => true

def callable (s : Store) : Value → Bool
  | .errorClass _ => true
  | v =>
    match s.get? v with
    | some (.foreign o) => o.callable
    | some (.function _) => true
    | _ => false

end Store

def Place.field? (p : Place) : String → Option Value
  | "line" => some p.line
  | "column" => some p.column
  | "start_pos" => some p.startPos
  | "end_line" => some p.endLine
  | "end_column" => some p.endColumn
  | "end_pos" => some p.endPos
  | _ => none

namespace Store

-- The named parts of a value that can be read from outside.
def part? (s : Store) (v : Value) (name : String) : Option Value :=
  match s.get? v with
  | some (.record fields) => (fields.reverse.find? (·.1 == name)).map (·.2)
  | some (.node parts) =>
    match name with
    | "type" => some parts.type
    | "attributes" => some parts.attributes
    | "children" => some parts.children
    | "position" => some parts.position
    | _ => none
  | some (.position line column offset) =>
    match name with
    | "line" => some line
    | "column" => some column
    | "offset" => some offset
    | _ => none
  | some (.span start stop) =>
    match name with
    | "start" => some start
    | "end" => some stop
    | _ => none
  | some (.token type text place) =>
    match name with
    | "type" => some (.text type)
    | "value" => some (.text text)
    | _ => place.field? name
  | some (.tree data _ _) => if name = "data" then some data else none
  | some (.place place) => (place.field? name).filter (· ≠ .null)
  | some (.helpers builder errorClass) =>
    match name with
    | "builder" => some builder
    | "syntax_error" => some errorClass
    | _ => none
  | some (.failure e) => e.field? name
  | _ => none

-- A named part, null if there is none of that name.
def part (s : Store) (v : Value) (name : String) : Value :=
  (s.part? v name).getD .null

-- The failure of asking a value for a part that it does not have.
def missingPart (s : Store) (v : Value) (name : String) : Failure :=
  let what := match v with
    | .errorClass c => "type object '" ++ c.name ++ "'"
    | _ => "'" ++ s.kindName v ++ "' object"
  .message .attributeError (what ++ " has no attribute '" ++ name ++ "'")

-- The failure of calling a part of a value by its name, where it is not there or no function.
def missingMethod (s : Store) (v : Value) (name : String) : Failure :=
  match s.part? v name with
  | some part => .message .typeError ("'" ++ s.kindName part ++ "' object is not callable")
  | none => s.missingPart v name

-- A named part that has to be there.
def requirePart (s : Store) (v : Value) (name : String) : Except Failure Value :=
  match s.part? v name with
  | some part => .ok part
  | none => .error (s.missingPart v name)

end Store

end ParseKit
