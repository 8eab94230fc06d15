import Dataflow.Instruction.Word

set_option autoImplicit false

namespace Dataflow

/-- The line owns the memory slot whose number is its place in the program. The constant is the
first content of that slot. -/
structure Line where
  instruction : Instruction
  constant : Binary64
deriving DecidableEq

structure Program where
  lines : List Line
deriving DecidableEq

namespace Program

def empty : Program := ⟨[]⟩

def length (program : Program) : Nat := program.lines.length

def isEmpty (program : Program) : Bool := program.lines.isEmpty

def append (program : Program) (lines : List Line) : Program := ⟨program.lines ++ lines⟩

def placed (program : Program) : List (Line × Nat) := program.lines.zipIdx

/-- The lines whose instruction has no meaning, each with its slot. -/
def undefinedLines (program : Program) : List (Line × Nat) :=
  program.placed.filter fun (line, _) => !line.instruction.isValid

/-- Every operand of every line lies in the bank that its operation reads or writes. -/
def Typed (program : Program) : Prop := ∀ line ∈ program.lines, line.instruction.Typed

instance (program : Program) : Decidable program.Typed :=
  inferInstanceAs (Decidable (∀ line ∈ program.lines, line.instruction.Typed))

/-- Equality with constants compared as numbers, so that a program with a NaN equals nothing. -/
def equals (p q : Program) : Bool :=
  p.length == q.length &&
    (p.lines.zip q.lines).all fun (x, y) =>
      x.instruction == y.instruction && x.constant.equals y.constant

end Program

end Dataflow
