namespace ParseKit.Regex

-- A character, or a backslash and the character behind it.
structure Token where
  escaped : Bool
  char : Char
  -- Where it begins.
  place : Nat
  deriving DecidableEq, Repr, Inhabited

namespace Token

def chars (t : Token) : List Char := if t.escaped then ['\\', t.char] else [t.char]

def text (t : Token) : String := String.ofList t.chars

-- Whether it is a character that no backslash stands before.
def isPlain (t : Token) (c : Char) : Bool := !t.escaped && t.char == c

def isPlainIn (t : Token) (cs : List Char) : Bool := !t.escaped && cs.contains t.char

-- The tokens from a place on. A backslash at the very end is none.
def scan (place : Nat) : List Char → List Token
  | '\\' :: c :: rest => ⟨true, c, place⟩ :: scan (place + 2) rest
  | ['\\'] => []
  | c :: rest => ⟨false, c, place⟩ :: scan (place + 1) rest
  | [] => []

-- Whether a backslash is left over at the end.
def dangles : List Char → Bool
  | '\\' :: _ :: rest => dangles rest
  | ['\\'] => true
  | _ :: rest => dangles rest
  | [] => false

-- Nothing is lost but a backslash that is left over.
theorem chars_scan (place : Nat) (cs : List Char) :
    (scan place cs).flatMap chars ++ (if dangles cs then ['\\'] else []) = cs := by
  fun_induction scan place cs with
  | case1 place c rest ih => simpa [chars, dangles] using ih
  | case2 => rfl
  | case3 place c rest h1 h2 ih => simpa [chars, dangles] using ih
  | case4 => rfl

end Token

end ParseKit.Regex
