import Dataflow.Program.Basic
import Dataflow.Numeric.Layout

set_option autoImplicit false

namespace Dataflow

def Line.text (line : Line) : String :=
  line.instruction.text ++ " = " ++ line.constant.text .listing

namespace Program

/-- The lines in assembly. Where every instruction can be read back, so can the listing. -/
def listing (program : Program) : String :=
  String.join (program.lines.map fun line => line.text ++ "\n")

/-- A number filled up with blanks on its left to a least width. -/
def padded (width : Nat) (n : Nat) : String :=
  let digits := Nat.repr n
  "".pushn ' ' (width - digits.length) ++ digits

def numberedListing (program : Program) : String :=
  String.join (program.placed.map fun (line, slot) => padded 5 slot ++ ": " ++ line.text ++ "\n")

end Program

end Dataflow
