/-! The files that a run may read. -/
namespace WorkflowRules.CommandLine

inductive FileFault where
  | absent
  | denied
  | notADirectory
  | aDirectory
  | nameTooLong
  | notText
  | other (message : String)
deriving DecidableEq

def FileFault.message : FileFault → String
  | .absent => "No such file or directory (os error 2)"
  | .denied => "Permission denied (os error 13)"
  | .notADirectory => "Not a directory (os error 20)"
  | .aDirectory => "Is a directory (os error 21)"
  | .nameTooLong => "File name too long (os error 36)"
  | .notText => "stream did not contain valid UTF-8"
  | .other message => message

abbrev Files := String → Except FileFault String

end WorkflowRules.CommandLine
