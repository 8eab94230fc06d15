import Dataflow.Machine.Ports
import Dataflow.Program.Basic

set_option autoImplicit false

namespace Dataflow

structure State where
  memory : Cells
  input : Ports
  output : Ports
  /-- The result of the last comparison. -/
  status : Bool
deriving DecidableEq

namespace State

/-- Zero in every slot and port, and no status. -/
def ofSizes (memorySlots portCount : Nat) : State :=
  ⟨.ofCount memorySlots, .ofCount portCount, .ofCount portCount, false⟩

/-- The value in a slot; zero outside the memory. -/
def slot (state : State) (slot : Nat) : Binary64 := state.memory.get slot

/-- The state with a value stored in a slot; outside the memory nothing is stored. -/
def store (state : State) (slot : Nat) (value : Binary64) : State :=
  { state with memory := state.memory.set slot value }

/-- The value in a slot that the memory has. -/
def slot? (state : State) (slot : Nat) : Option Binary64 :=
  if slot < state.memory.size then some (state.slot slot) else none

/-- The state with a value stored in a slot that the memory has. -/
def store? (state : State) (slot : Nat) (value : Binary64) : Option State :=
  if slot < state.memory.size then some (state.store slot value) else none

/-- The value in a port that the input bank has. -/
def inputValue? (state : State) (port : Nat) : Option Binary64 :=
  if port < state.input.size then some (state.input.value port) else none

/-- The state with a value stored in a port that the output bank has. -/
def storeOutput? (state : State) (port : Nat) (value : Binary64) : Option State :=
  if port < state.output.size then some { state with output := state.output.store port value }
  else none

/-- How many numbers of a bank name something in this state. -/
def limit (state : State) : Bank → Nat
  | .memory => state.memory.size
  | .port => min state.input.size state.output.size

/-- The state of the same sizes with zero everywhere and no status. -/
def reset (state : State) : State :=
  ⟨.ofCount state.memory.size, state.input.clear, state.output.clear, false⟩

/-- The state with the constant of every line in its slot. -/
def install (state : State) (program : Program) : State :=
  program.placed.foldl (fun state (line, slot) => state.store slot line.constant) state

@[simp] theorem size_store (state : State) (slot : Nat) (value : Binary64) :
    (state.store slot value).memory.size = state.memory.size := by
  simp [store]

theorem slot_store (state : State) (slot other : Nat) (value : Binary64)
    (inside : slot < state.memory.size) :
    (state.store slot value).slot other = if other = slot then value else state.slot other :=
  state.memory.get_set slot other value inside

end State

end Dataflow
