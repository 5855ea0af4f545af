import ParseKit.Text.Quoted
import ParseKit.World

namespace ParseKit.CommandLine

-- Why a file cannot be read.
structure SystemError where
  number : Nat
  reason : String
  deriving DecidableEq, Repr, Inhabited

namespace SystemError

def missing : SystemError := ⟨2, "No such file or directory"⟩
def denied : SystemError := ⟨13, "Permission denied"⟩
def notFolder : SystemError := ⟨20, "Not a directory"⟩
def isFolder : SystemError := ⟨21, "Is a directory"⟩
def tooLong : SystemError := ⟨36, "File name too long"⟩
def broken : SystemError := ⟨5, "Input/output error"⟩

end SystemError

structure Surroundings where
  -- The content of a file, by its path in normal form.
  file : String → Except SystemError ByteArray
  standardInput : ByteArray

-- A path without empty and single-dot components. One leading slash stays, and so do exactly two.
def normalPath (path : String) : String :=
  let slashes := (path.toList.takeWhile (· == '/')).length
  let root := if slashes = 0 then "" else if slashes = 2 then "//" else "/"
  let parts := (path.splitOn "/").filter fun part => part != "" && part != "."
  let whole := root ++ "/".intercalate parts
  if whole.isEmpty then "." else whole

def SystemError.message (e : SystemError) (path : String) : String :=
  "[Errno " ++ toString e.number ++ "] " ++ e.reason ++ ": " ++ Text.quoted (normalPath path)

-- Every way to end a line becomes a newline.
def unifyLineEnds : List Char → List Char
  | '\r' :: '\n' :: rest => '\n' :: unifyLineEnds rest
  | '\r' :: rest => '\n' :: unifyLineEnds rest
  | c :: rest => c :: unifyLineEnds rest
  | [] => []

theorem not_mem_unifyLineEnds (s : List Char) : '\r' ∉ unifyLineEnds s := by
  fun_induction unifyLineEnds s with
  | case1 _ ih => simpa using ih
  | case2 _ _ ih => simpa using ih
  | case3 c rest _ hc ih =>
    simp only [List.mem_cons, not_or]
    exact ⟨fun h => hc h.symm, ih⟩
  | case4 => simp

def decodeError : ErrorClass := .derived "UnicodeDecodeError" .valueError

-- The text of a file, which has to be UTF-8.
def decode (content : ByteArray) : Except Failure String :=
  match String.fromUTF8? content with
  | some text => .ok (String.ofList (unifyLineEnds text.toList))
  | none => .error (.message decodeError "'utf-8' codec can't decode bytes")

-- Reads a file. A file that cannot be read gives the message of its error. No path holds the
-- character of code zero.
def readFile (surroundings : Surroundings) (path : String) :
    Except Failure (Except String String) :=
  if path.contains '\x00' then .error (.message .valueError "embedded null byte")
  else
    match surroundings.file (normalPath path) with
    | .error e => .ok (.error (e.message path))
    | .ok content => do .ok (.ok (← decode content))

-- Reads the input, which is the standard input for a dash.
def readInput (surroundings : Surroundings) (name : String) :
    Except Failure (Except String String) :=
  if name = "-" then do .ok (.ok (← decode surroundings.standardInput))
  else readFile surroundings name

end ParseKit.CommandLine
