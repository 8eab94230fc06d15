import Dataflow.Files.Source
import Dataflow.Program.Record

set_option autoImplicit false

namespace Dataflow.Program

def ofSource (source : ByteSource) : Except FileError Program :=
  match source.readAll with
  | .ok bytes => .ok (ofBytes bytes)
  | .error cause => .error cause

end Dataflow.Program
