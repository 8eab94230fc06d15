import Dataflow.Files.Error

set_option autoImplicit false

namespace Dataflow

/-- A source hands out its bytes in portions. It ends at an empty portion or after the last one, or
it fails there. -/
inductive ByteSource where
  | finished
  | failing (cause : FileError)
  | portion (bytes : List UInt8) (rest : ByteSource)

namespace ByteSource

/-- The source that hands out all its bytes at once. -/
def ofBytes (bytes : List UInt8) : ByteSource := portion bytes finished

def readAll : ByteSource → Except FileError (List UInt8)
  | finished => .ok []
  | failing cause => .error cause
  | portion bytes rest =>
    if bytes.isEmpty then .ok []
    else match rest.readAll with
      | .ok more => .ok (bytes ++ more)
      | .error cause => .error cause

/-- A source with more portions in front. -/
def after (portions : List (List UInt8)) (rest : ByteSource) : ByteSource :=
  portions.foldr portion rest

@[simp] theorem readAll_ofBytes (bytes : List UInt8) : (ofBytes bytes).readAll = .ok bytes := by
  cases bytes <;> simp [ofBytes, readAll]

end ByteSource

end Dataflow
