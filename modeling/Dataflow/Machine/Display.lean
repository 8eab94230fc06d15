import Dataflow.Machine.Basic
import Dataflow.Numeric.Layout
import Dataflow.Text.Table

set_option autoImplicit false

namespace Dataflow.Machine

open Text

/-- The slots of the program that do not hold zero, with their numbers. -/
def activeSlots (machine : Machine) : List (Binary64 × Nat) :=
  machine.state.memory.activeAmong machine.program.length

def activeOutputs (machine : Machine) : List (Binary64 × Nat) := machine.state.output.active

def report (machine : Machine) : Table :=
  { titles := [.right "Port", .left "Value"]
    rows := machine.activeOutputs.map fun (value, port) =>
      [.right (Nat.repr port), .left (value.text .report)] }

/-- A table of numbered entries under the letter of their store. -/
def registerTable (letter : String) (entries : List (Binary64 × Nat)) : Table :=
  { titles := [.right "Address", .left "Contents"]
    rows := entries.map fun (value, number) =>
      [.right (letter ++ "[" ++ Nat.repr number ++ "] ="), .left (value.text .report)] }

/-- The tables of the memory and of the output ports, side by side. -/
def registers (machine : Machine) : Table :=
  { titles := [.left "Memory", .left "Output Ports"]
    rows := [[
      ⟨.left, (registerTable "M" machine.activeSlots).lines.toArray⟩,
      ⟨.left, (registerTable "O" machine.activeOutputs).lines.toArray⟩]] }

/-- One line of the machine's condition, then its registers. -/
def display (machine : Machine) : String :=
  "State: " ++ machine.lifecycle.name ++ "\tCycles: " ++ Nat.repr machine.cycles ++
    "\tStatus: " ++ (if machine.state.status then "true" else "false") ++ "\n" ++
    machine.registers.text

end Dataflow.Machine
