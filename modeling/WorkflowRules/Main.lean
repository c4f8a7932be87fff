import WorkflowRules.CommandLine.Run

/-! The program: it reads the files that its arguments name, and prints the outcome. -/
namespace WorkflowRules.CommandLine

/-- A directory is found out when it is read, so that its fault comes without a path. -/
def fileFault : IO.Error → FileFault
  | .noFileOrDirectory .. => .absent
  | .permissionDenied .. => .denied
  | .inappropriateType (some _) .. => .notADirectory
  | .inappropriateType none .. => .aDirectory
  | .invalidArgument (some _) .. => .nameTooLong
  | .userError _ => .notText
  | error => .other (toString error)

def readPath (path : String) : IO (String × Except FileFault String) := do
  try
    return (path, .ok (← IO.FS.readFile path))
  catch error =>
    return (path, .error (fileFault error))

def filesOf (texts : List (String × Except FileFault String)) : Files := fun path =>
  (texts.lookup path).getD (.error .absent)

end WorkflowRules.CommandLine

open WorkflowRules.CommandLine

def main (arguments : List String) : IO UInt32 := do
  let paths := ((invocation? arguments).map Invocation.paths).getD []
  let outcome := run (filesOf (← paths.mapM readPath)) arguments
  IO.print outcome.output
  if let some message := outcome.error then
    IO.eprint ("\nError: " ++ message)
  return outcome.code.toUInt32
