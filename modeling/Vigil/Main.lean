import Vigil.CommandLine.Run

/-!
# The program

The paths that the arguments name are looked at, and the rest is decided without the system: what
is printed, and the status that the program ends with.
-/

namespace Vigil.CommandLine

/-- What the system finds at a path. -/
def look (path : String) : IO Found := do
  try
    return .text (← IO.FS.readFile path)
  catch error =>
    match error with
    | .noFileOrDirectory .. => return .missing
    | .inappropriateType _ 20 _ => return .belowFile
    | .inappropriateType .. => return .folder
    | error => return .unreadable error.toString

/-- What the system finds at each of some paths. -/
def lookAll : List String → IO (List (String × Found))
  | [] => return []
  | path :: rest => do
    let found ← look path
    return (path, found) :: (← lookAll rest)

/-- The paths that the arguments name. -/
def pathsOf (arguments : List String) : List String :=
  match Request.read arguments with
  | some (.run invocation) => invocation.paths
  | _ => []

/-- Print how the program ends, and answer its status. -/
def Ending.print : Ending → IO UInt32
  | .printed status output errors => do
    IO.print output
    IO.eprint errors
    return status.toUInt32
  | .refused => do
    IO.eprint (lines [usageText])
    return 2
  | .malformed => do
    IO.eprint (lines ["Error: malformed file"])
    return 1

end Vigil.CommandLine

/-- The program. -/
def main (arguments : List String) : IO UInt32 := do
  let seen ← Vigil.CommandLine.lookAll (Vigil.CommandLine.pathsOf arguments)
  (Vigil.CommandLine.ending arguments fun path => (seen.lookup path).getD .missing).print
