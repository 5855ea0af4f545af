namespace ParseKit.Regex

inductive Flag where
  | template
  | ignoreCase
  | locale
  | multiline
  | dotAll
  | unicode
  | verbose
  | ascii
  deriving DecidableEq, Repr, Inhabited

namespace Flag

-- In the order in which they are listed.
def all : List Flag :=
  [template, ignoreCase, locale, multiline, dotAll, unicode, verbose, ascii]

-- The letter that sets a flag within an expression.
def letter : Flag → Char
  | template => 't'
  | ignoreCase => 'i'
  | locale => 'L'
  | multiline => 'm'
  | dotAll => 's'
  | unicode => 'u'
  | verbose => 'x'
  | ascii => 'a'

def name : Flag → String
  | template => "re.TEMPLATE"
  | ignoreCase => "re.IGNORECASE"
  | locale => "re.LOCALE"
  | multiline => "re.MULTILINE"
  | dotAll => "re.DOTALL"
  | unicode => "re.UNICODE"
  | verbose => "re.VERBOSE"
  | ascii => "re.ASCII"

def ofLetter? (c : Char) : Option Flag := all.find? (·.letter == c)

-- Flags that choose what letters and digits are. At most one of them can be set.
def choosesClasses : Flag → Bool
  | locale | unicode | ascii => true
  | _ => false

-- Flags that hold for a whole expression only.
def isGlobal (flag : Flag) : Bool := flag == template

theorem ofLetter?_letter (flag : Flag) : ofLetter? flag.letter = some flag := by
  cases flag <;> rfl

theorem mem_all (flag : Flag) : flag ∈ all := by
  cases flag <;> simp [all]

end Flag

end ParseKit.Regex
