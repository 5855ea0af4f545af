import ParseKit.Decimal.Format
import ParseKit.Regex.Check
import ParseKit.Text.Quoted
import ParseKit.Value.Sequence

namespace ParseKit

-- The form of floating point numbers: positional from 10^-4 up to 10^16.
def numberFormat : Decimal.Format where
  lowest := -4
  highest := 16
  notANumber := "nan"
  infinity := "inf"

def numberText (bits : UInt64) : String := numberFormat.write (Decimal.Binary.ofBits bits)

-- The text for display, in which a text is itself, and the one for inspection, in which texts are
-- quoted and everything shows what it is made of.
inductive TextStyle where
  | display
  | inspect
  deriving DecidableEq

def commaList (parts : List String) : String := ", ".intercalate parts

-- Classes that do not belong to the base vocabulary are shown with the place they come from.
def ErrorClass.qualifiedName : ErrorClass → String
  | invalidArgument => "parseutil._error.InvalidArgument"
  | notFound => "parseutil._error.NotFound"
  | grammarError => "parseutil._error.GrammarError"
  | c => c.name

-- A pattern shows at most the first two hundred characters of its quoted source, and the flags
-- that it sets for itself, save that texts are matched as Unicode.
def patternText (source : Regex.Source) : String :=
  let quoted := match source.alphabet with
    | .characters => Text.quoted source.text
    | .bytes => Text.quotedBytes source.bytes
  let flags := source.flags.toOption.getD []
  let shown := (flags.filter (· != .unicode)).map (·.name)
  let flagText := if shown.isEmpty then "" else ", " ++ "|".intercalate shown
  "re.compile(" ++ String.ofList (quoted.toList.take 200) ++ flagText ++ ")"

namespace Store

section

-- The texts of what is inside an object, by the objects around it that are marked where they stand
-- inside themselves.
variable (inner : List Value → TextStyle → Value → Except Failure String)

def marking (path : List Value) (v : Value) (mark : String)
    (text : List Value → Except Failure String) : Except Failure String :=
  if path.contains v then .ok mark else text (v :: path)

def itemsText (path items : List Value) : Except Failure String :=
  commaList <$> items.mapM (inner path .inspect)

def tupleText (path : List Value) (v : Value) (items : List Value) : Except Failure String :=
  marking path v "(...)" fun path =>
    match items with
    | [one] => do return "(" ++ (← inner path .inspect one) ++ ",)"
    | items => do return "(" ++ (← itemsText inner path items) ++ ")"

def entriesText (path : List Value) (v : Value) (entries : List (Value × Value)) :
    Except Failure String :=
  marking path v "\x7b...\x7d" fun path => do
    let parts ← entries.mapM fun e => do
      return (← inner path .inspect e.1) ++ ": " ++ (← inner path .inspect e.2)
    return "\x7b" ++ commaList parts ++ "\x7d"

def fieldsText (path : List Value) (v : Value) (mark name : String)
    (fields : List (String × Value)) : Except Failure String :=
  marking path v mark fun path => do
    let parts ← fields.mapM fun f => do return f.1 ++ "=" ++ (← inner path .inspect f.2)
    return name ++ "(" ++ commaList parts ++ ")"

def nodeText (s : Store) (path : List Value) (p : NodeParts) : Except Failure String := do
  let type ← inner path .inspect p.type
  let count ← s.length p.children
  let line ← inner path .display (← s.requirePart p.position "line")
  let column ← inner path .display (← s.requirePart p.position "column")
  return "AstNode(" ++ type ++ " *" ++ toString count ++ " [" ++ line ++ "/" ++ column ++ "])"

def treeText (path : List Value) (v data : Value) (children : List Value) :
    Except Failure String := do
  let name ← inner path .inspect data
  let list ← marking path v "[...]" fun path => do
    return "[" ++ (← itemsText inner path children) ++ "]"
  return "Tree(" ++ name ++ ", " ++ list ++ ")"

def errorText (path : List Value) (style : TextStyle) (v : Value) (e : Failure) :
    Except Failure String :=
  match style, e.args with
  | .display, [] => .ok ""
  | .display, [one] => inner path (if e.isA .keyError then .inspect else .display) one
  | .display, args => tupleText inner path v args
  | .inspect, [one] => do return e.errorClass.name ++ "(" ++ (← inner path .inspect one) ++ ")"
  | .inspect, args => do return e.errorClass.name ++ (← tupleText inner path v args)

def objectText (s : Store) (path : List Value) (style : TextStyle) (v : Value) :
    Object → Except Failure String
  | .notANumber => .ok numberFormat.notANumber
  | .lone atom => inner path style atom
  | .list items =>
    marking path v "[...]" fun path => do return "[" ++ (← itemsText inner path items) ++ "]"
  | .tuple items => tupleText inner path v items
  | .dict d => entriesText inner path v d.entries
  | .mapping entries =>
    if style = .display then entriesText inner path v entries
    else do return "mappingproxy(" ++ (← entriesText inner path v entries) ++ ")"
  | .set [] => .ok "set()"
  | .set items =>
    marking path v "set(...)" fun path => do
      return "\x7b" ++ (← itemsText inner path items) ++ "\x7d"
  | .frozenset [] => .ok "frozenset()"
  | .frozenset items =>
    marking path v "frozenset(...)" fun path => do
      return "frozenset(\x7b" ++ (← itemsText inner path items) ++ "\x7d)"
  | .bytes content => .ok (Text.quotedBytes content)
  | .pattern source => .ok (patternText source)
  | .foreign o => .ok (if style = .display then o.display else o.inspect)
  | .record fields => fieldsText inner path v "namespace(...)" "namespace" fields
  | .node p => s.nodeText inner path p
  | .position line column offset =>
    fieldsText inner path v "..." "Position"
      [("line", line), ("column", column), ("offset", offset)]
  | .span start stop => fieldsText inner path v "..." "Span" [("start", start), ("end", stop)]
  | .token type text _ =>
    .ok (if style = .display then text
      else "Token(" ++ Text.quoted type ++ ", " ++ Text.quoted text ++ ")")
  | .tree data children _ => treeText inner path v data children
  | .failure e => errorText inner path style v e
  | .place _ | .builder _ | .helpers .. | .function _ => .ok ("<" ++ s.className v ++ " object>")

end

-- How deep the text of a value goes. A node that is inside itself is written once more for each of
-- the marked objects that it is met through.
def textLevels (s : Store) : Nat := min ((s.size + 1) * (s.size + 2)) 1000

-- The text of a value, within `depth` levels of nesting. `path` holds the objects around it that
-- are marked where they stand inside themselves.
def textAt (s : Store) : Nat → List Value → TextStyle → Value → Except Failure String
  | 0, _, _, _ => .error (.message .recursionError "maximum recursion depth exceeded")
  | depth + 1, path, style, v =>
    match v with
    | .null => .ok "None"
    | .bool b => .ok (if b then "True" else "False")
    | .int i => .ok (toString i)
    | .float bits => .ok (numberText bits)
    | .text t => .ok (if style = .display then t else Text.quoted t)
    | .errorClass c => .ok ("<class '" ++ c.qualifiedName ++ "'>")
    | .ref _ =>
      match s.get? v with
      | none => .ok "<object>"
      | some o => s.objectText (s.textAt depth) path style v o

def display (s : Store) (v : Value) : Except Failure String :=
  s.textAt (s.textLevels + 1) [] .display v

def inspect (s : Store) (v : Value) : Except Failure String :=
  s.textAt (s.textLevels + 1) [] .inspect v

-- The text of a tuple of these items.
def inspectTuple (s : Store) (items : List Value) : Except Failure String :=
  match items with
  | [one] => do return "(" ++ (← s.inspect one) ++ ",)"
  | items => do return "(" ++ commaList (← items.mapM s.inspect) ++ ")"

-- The message of an error: its only argument, or all of them as a tuple. A missing key is
-- quoted.
def failureText (s : Store) (e : Failure) : Except Failure String :=
  match e.args with
  | [] => .ok ""
  | [one] => if e.isA .keyError then s.inspect one else s.display one
  | args => s.inspectTuple args

theorem display_text (s : Store) (t : String) : s.display (.text t) = .ok t := by
  simp [display, textAt]

theorem failureText_message (s : Store) (c : ErrorClass) (t : String)
    (h : c.isA .keyError = false) : s.failureText (.message c t) = .ok t := by
  simp [failureText, Failure.message, Failure.isA, h, display_text]

end Store

end ParseKit
