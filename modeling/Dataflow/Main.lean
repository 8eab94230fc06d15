import Dataflow.CommandLine.Execute

set_option autoImplicit false

namespace Dataflow

/-- A failure of the system as file errors name it. -/
def FileError.ofSystem : IO.Error → FileError
  | .noFileOrDirectory _ _ _ => .notFound
  | .inappropriateType _ 20 _ => .notDirectory
  | .inappropriateType _ 21 _ => .isDirectory
  | .invalidArgument _ 36 _ => .nameTooLong
  | .permissionDenied _ number reason => .system number.toNat "PermissionDenied" reason
  | .otherError number reason => .system number.toNat "Other" reason
  | error => .reported (toString error)

def systemStore : FileStore IO where
  openFile path := do
    if path.contains '\x00' then return .error .nulInPath
    match ← (IO.FS.Handle.mk path .read).toBaseIO with
    | .error error => return .error (.ofSystem error)
    | .ok handle =>
      match ← handle.readBinToEnd.toBaseIO with
      | .error error => return .ok (.failing (.ofSystem error))
      | .ok bytes => return .ok (.ofBytes bytes.toList)
  createFile path contents := do
    if path.contains '\x00' then return .error .nulInPath
    match ← (IO.FS.writeBinFile path ⟨contents.toArray⟩).toBaseIO with
    | .error error => return .error (.ofSystem error)
    | .ok () => return .ok ()

end Dataflow

def main (arguments : List String) : IO UInt32 := do
  let outcome ← Dataflow.CommandLine.execute Dataflow.systemStore arguments
  IO.print outcome.output
  IO.eprint outcome.errors
  return UInt32.ofNat outcome.exitCode
