set_option autoImplicit false

namespace Dataflow

inductive FileError where
  /-- The system refused: its error number, the kind of the error and the reason in words. -/
  | system (number : Nat) (kind reason : String)
  /-- The path has a NUL character, which no system takes. -/
  | nulInPath
  /-- The contents were wanted as text and are not valid UTF-8. -/
  | notText
  /-- The source reported a failure of its own. -/
  | reported (reason : String)
deriving DecidableEq

namespace FileError

def notFound : FileError := system 2 "NotFound" "No such file or directory"

def notDirectory : FileError := system 20 "NotADirectory" "Not a directory"

def isDirectory : FileError := system 21 "IsADirectory" "Is a directory"

def nameTooLong : FileError := system 36 "InvalidFilename" "File name too long"

def message : FileError → String
  | system number _ reason => reason ++ " (os error " ++ Nat.repr number ++ ")"
  | nulInPath => "file name contained an unexpected NUL byte"
  | notText => "stream did not contain valid UTF-8"
  | reported reason => reason

end FileError

end Dataflow
