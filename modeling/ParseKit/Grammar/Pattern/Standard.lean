import ParseKit.Grammar.Pattern.Written

namespace ParseKit.Pattern

def choice (patterns : List Pattern) : Pattern := patterns.foldr or nothing

def sequence (patterns : List Pattern) : Pattern := patterns.foldr followedBy empty

def set (ranges : List (Char × Char)) : Pattern := oneOf { ranges := ranges }

def digit : Pattern := oneOf .digits

def int : Pattern := plus digit

def sign : Pattern := choice [ofText "+", ofText "-"]

def exponent : Pattern := sequence [choice [ofText "e", ofText "E"], optional sign, int]

def decimal : Pattern :=
  choice [sequence [int, ofText ".", optional int], sequence [ofText ".", int]]

def float : Pattern :=
  choice [sequence [int, exponent], sequence [decimal, optional exponent]]

def number : Pattern := choice [float, int]

def lowerLetter : Pattern := set [('a', 'z')]

def upperLetter : Pattern := set [('A', 'Z')]

def letter : Pattern := choice [upperLetter, lowerLetter]

def identifier : Pattern :=
  sequence [choice [ofText "_", letter], star (choice [ofText "_", letter, digit])]

def escapedText : Pattern :=
  sequence
    [ofText "\"",
      star (choice
        [oneOf { ranges := [('"', '"'), ('\\', '\\'), ('\n', '\n')], complemented := true },
          sequence [ofText "\\", oneOf .anyButNewline]]),
      ofText "\""]

def spaceInLine : Pattern := plus (choice [ofText " ", ofText "\t"])

def space : Pattern :=
  plus (set [(' ', ' '), ('\t', '\t'), ('\x0c', '\x0c'), ('\r', '\r'), ('\n', '\n')])

def newline : Pattern := plus (sequence [optional (ofText "\r"), ofText "\n"])

-- The terminal of a name.
def standard? : String → Option Pattern
  | "DIGIT" => some digit
  | "HEXDIGIT" => some (choice [set [('a', 'f')], set [('A', 'F')], digit])
  | "INT" => some int
  | "SIGNED_INT" => some (sequence [optional sign, int])
  | "DECIMAL" => some decimal
  | "FLOAT" => some float
  | "SIGNED_FLOAT" => some (sequence [optional sign, float])
  | "NUMBER" => some number
  | "SIGNED_NUMBER" => some (sequence [optional sign, number])
  | "ESCAPED_STRING" => some escapedText
  | "LCASE_LETTER" => some lowerLetter
  | "UCASE_LETTER" => some upperLetter
  | "LETTER" => some letter
  | "WORD" => some (plus letter)
  | "CNAME" => some identifier
  | "WS_INLINE" => some spaceInLine
  | "WS" => some space
  | "CR" => some (ofText "\r")
  | "LF" => some (ofText "\n")
  | "NEWLINE" => some newline
  | _ => none

end ParseKit.Pattern
