import ParseKit.Text.Hex
import ParseKit.Text.Printable

namespace ParseKit.Text

-- Apostrophes enclose a literal, unless it holds an apostrophe and no double quote.
def quoteFor (s : List Char) : Char :=
  if s.contains '\'' && !s.contains '"' then '"' else '\''

-- The shortest numeric escape that holds the code point.
def numericEscape (c : Char) : List Char :=
  let code := c.toNat
  if code ≤ 0xFF then '\\' :: 'x' :: hexDigits 'a' 2 code
  else if code ≤ 0xFFFF then '\\' :: 'u' :: hexDigits 'a' 4 code
  else '\\' :: 'U' :: hexDigits 'a' 8 code

def quoteChar (quote c : Char) : List Char :=
  if c = quote ∨ c = '\\' then ['\\', c]
  else if c = '\n' then ['\\', 'n']
  else if c = '\r' then ['\\', 'r']
  else if c = '\t' then ['\\', 't']
  else if isPrintable c then [c]
  else numericEscape c

def quoteChars (s : List Char) : List Char :=
  let quote := quoteFor s
  quote :: s.flatMap (quoteChar quote) ++ [quote]

def quoted (s : String) : String := String.ofList (quoteChars s.toList)

-- A byte outside the printable part of ASCII is always written as a number.
def quoteByte (quote : Char) (b : UInt8) : List Char :=
  let c := Char.ofNat b.toNat
  if 0x7F ≤ b.toNat then numericEscape c else quoteChar quote c

def quotedBytes (bytes : List UInt8) : String :=
  let quote := quoteFor (bytes.map fun b => Char.ofNat b.toNat)
  String.ofList ('b' :: quote :: bytes.flatMap (quoteByte quote) ++ [quote])

-- JSON keeps every other character as it is.
def jsonChar (c : Char) : List Char :=
  match c with
  | '"' => ['\\', '"']
  | '\\' => ['\\', '\\']
  | '\n' => ['\\', 'n']
  | '\r' => ['\\', 'r']
  | '\t' => ['\\', 't']
  | '\x08' => ['\\', 'b']
  | '\x0c' => ['\\', 'f']
  | c => if c.toNat < 0x20 then '\\' :: 'u' :: hexDigits 'a' 4 c.toNat else [c]

def jsonString (s : String) : String :=
  String.ofList ('"' :: s.toList.flatMap jsonChar ++ ['"'])

end ParseKit.Text
