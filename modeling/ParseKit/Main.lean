import ParseKit.CommandLine.Grammars

namespace ParseKit.CommandLine

-- The content of a file, or why the system does not give it.
def readContent (path : String) : IO (Except SystemError ByteArray) := do
  try
    return .ok (← IO.FS.readBinFile path)
  catch
    | .noFileOrDirectory .. => return .error .missing
    | .permissionDenied .. => return .error .denied
    | .inappropriateType _ 20 _ => return .error .notFolder
    | .inappropriateType .. => return .error .isFolder
    | .invalidArgument _ 36 _ => return .error .tooLong
    | _ => return .error .broken

def readStandardInput : IO ByteArray := do
  let stdin ← IO.getStdin
  stdin.readBinToEnd

-- Everything that the arguments name is read before the program runs.
def surroundings (argv : List String) : IO Surroundings := do
  match Arguments.read argv with
  | .error _ => return ⟨fun _ => .error .missing, .empty⟩
  | .ok a =>
    let paths := [a.grammar, a.input].filterMap fun
      | .value path => some (normalPath path)
      | .nothing => none
    let contents ← paths.mapM fun path => return (path, ← readContent path)
    let input ← if a.input == .value "-" then readStandardInput else pure .empty
    return ⟨fun path => (contents.lookup path).getD (.error .missing), input⟩

def program (argv : List String) : IO UInt32 := do
  let around ← surroundings argv
  let world : World Unit := { store := {}, log := [], client := () }
  match execute loadGrammar noObjects around argv world with
  | .ok report _ =>
    IO.print report.stdout
    IO.eprint report.stderr
    return report.code.toUInt32
  | .error (.raised e) w =>
    IO.eprintln (e.errorClass.name ++ ": " ++ (w.store.failureText e).toOption.getD "")
    return 1
  | .error .outOfFuel _ =>
    IO.eprintln "the tree is too deep"
    return 1

end ParseKit.CommandLine

def main (argv : List String) : IO UInt32 := ParseKit.CommandLine.program argv
