import ParseKit.Text.Ranges
import ParseKit.World

namespace ParseKit.CommandLine

-- What the program leaves behind: its exit code and what it printed.
structure Report where
  code : Nat
  stdout : String := ""
  stderr : String := ""
  deriving DecidableEq, Repr, Inhabited

-- Puts a text in front of every line.
def prefixLines (text line : String) : String :=
  "\n".intercalate ((line.splitOn "\n").map (text ++ ·))

def trimNewlines (text : String) : String :=
  String.ofList (text.toList.reverse.dropWhile (· = '\n')).reverse

def trimBlanks (text : String) : String := String.ofList (Text.trimRight text.toList)

namespace Report

def systemError (message : String) : Report := { code := 2, stderr := "Error: " ++ message ++ "\n" }

def grammarFault (path message : String) : Report where
  code := 2
  stderr :=
    "Error: invalid grammar " ++ path ++ ":\n" ++ prefixLines "  " (trimBlanks message) ++ "\n"

def failure (diagnostic : String) : Report where
  code := 1
  stderr := prefixLines "ERROR: " ("Parsing Failure:\n" ++ diagnostic) ++ "\n"

def success (dump : String) : Report := { code := 0, stdout := trimNewlines dump ++ "\n" }

end Report

-- What a log entry is printed as.
def logLine : LogEntry → String
  | .parsing length startRule =>
    "DEBUG:parseutil._parse:parsing " ++ toString length ++ " characters (start rule " ++ startRule
      ++ ")\n"
  | .running actions data =>
    "DEBUG:parseutil._lark:running " ++ actions ++ " over " ++ data ++ "\n"
  | .grammarFailure line column message =>
    "DEBUG:parseutil._parse:grammar failure at " ++ line ++ ":" ++ column ++ ": " ++ message ++ "\n"
  | .unexpectedFailure _ => "DEBUG:parseutil._parse:unexpected parser failure\n"

def logText (log : List LogEntry) : String := "".intercalate (log.reverse.map logLine)

end ParseKit.CommandLine
