import ConstructorPlanning.Command.Execution
/-!
The command as a program: it reads its arguments and the files that a run asks for, and prints the
report.
-/
namespace ConstructorPlanning.Command

def readEntry (path : String) : IO Entry := do
  try
    return .file (← IO.FS.readBinFile path)
  catch
    | .noFileOrDirectory .. => return .absent
    | .inappropriateType .. => return .directory
    | .permissionDenied .. => return .withheld true "Permission denied (os error 13)"
    | _ => return .behindFile

/-- The files that a run may look at, as they are now. -/
def readFiles (args : Arguments) (cwd : String) : IO Files := do
  let paths := [joined cwd args.snapshot, joined cwd (args.config.getD Config.defaultFile)]
  let entries ← paths.mapM fun path => return (path, ← readEntry path)
  return fun path => (entries.lookup path).getD .absent

def UsageFault.message : UsageFault → String
  | missingRequiredArgument => "a required argument is missing"
  | unknownArgument => "unexpected argument"
  | invalidValue => "invalid or missing value"
  | argumentConflict => "an argument is given more than once"
  | tooManyValues => "a flag takes no value"
  | displayHelp => "usage: ctorgen [OPTIONS] --type <TYPE_NAME> <SNAPSHOT>"
  | displayVersion => "ctorgen 0.1.0"

/-- A failure with its causes, one a line. -/
def chainText : List String → String
  | [] => "Error"
  | first :: causes => "\n".intercalate (("Error: " ++ first) :: causes.map ("  caused by: " ++ ·))

end ConstructorPlanning.Command

open ConstructorPlanning.Command in
def main (words : List String) : IO UInt32 := do
  match Arguments.ofWords words with
  | .error fault =>
    if fault = .displayHelp ∨ fault = .displayVersion then
      IO.println fault.message
      return 0
    else
      IO.eprintln ("error: " ++ fault.message)
      return 2
  | .ok args =>
    let cwd := (← IO.currentDir).toString
    let files ← readFiles args cwd
    match (execute args files cwd).result with
    | .error fault =>
      IO.eprintln (chainText fault.chain)
      return 1
    | .ok report =>
      let onTerminal ← (← IO.getStdout).isTty
      IO.println (render args onTerminal report)
      return 0
