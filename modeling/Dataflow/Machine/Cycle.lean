import Dataflow.Machine.Error
import Dataflow.Machine.Operation

set_option autoImplicit false

namespace Dataflow

/-- A program resolved into the operations of one pass. Memory is not buffered: an operation that
reads a slot of an earlier line sees the value of this cycle, one that reads a slot of a later line
the value that the cycle before left there. -/
structure Cycle where
  operations : List Operation
deriving DecidableEq

/-- The number of an address that lies within the limits. It is checked against the bank that the
address names, but used in the bank of the operation. If these differ, a cycle can end in the
middle. -/
def Address.resolve (limit : Bank → Nat) (slot : Nat) (address : Address) : Except LoadError Nat :=
  if address.number < limit address.bank then .ok address.number
  else .error (.addressOutOfRange slot address)

def DualOperation.at (operation : DualOperation) (slot a b : Nat) : Operation :=
  match operation with
  | add => .add slot a b
  | sub => .sub slot a b
  | mult => .mult slot a b
  | div => .div slot a b
  | output => .output a b
  | phi => .phi slot a b

/-- The operation of a single instruction in a slot, if it does anything. -/
def SingleOperation.at? (operation : SingleOperation) (slot : Nat) (mode : Option CompareMode)
    (source : Nat) : Option Operation :=
  match operation with
  | noop => none
  | cmpz => mode.map fun mode => .cmpz mode source
  | sqrt => some (.sqrt slot source)
  | copy => some (.copy slot source)
  | input => some (.input slot source)

/-- The operation of an instruction in a slot, if it does anything. Every operand has to lie within
the limits of its bank, also where the operation does nothing with it. -/
def Instruction.resolve (limit : Bank → Nat) (slot : Nat) (instruction : Instruction) :
    Except LoadError (Option Operation) :=
  match instruction with
  | .dual operation a b => do
    let a ← a.resolve limit slot
    let b ← b.resolve limit slot
    return some (operation.at slot a b)
  | .single operation _ _ _ source => do
    let source ← source.resolve limit slot
    return operation.at? slot instruction.compareMode? source
  | .invalid _ => .ok none

namespace Cycle

/-- The operation of a line, whose own slot has to lie within the limits too. -/
def resolveLine (limit : Bank → Nat) (placed : Line × Nat) :
    Except LoadError (Option Operation) := do
  let (line, slot) := placed
  let slot ← Address.resolve limit slot ⟨.memory, slot⟩
  line.instruction.resolve limit slot

def ofProgram (limit : Bank → Nat) (program : Program) : Except LoadError Cycle := do
  let operations ← program.placed.mapM (resolveLine limit)
  return ⟨operations.filterMap id⟩

def length (cycle : Cycle) : Nat := cycle.operations.length

/-- The state after all operations, in order, if they access only what the banks have. -/
def run? (cycle : Cycle) (state : State) : Option State :=
  cycle.operations.foldlM (fun state operation => operation.run? state) state

/-- The state that operations leave, up to the first that accesses what its bank does not have. -/
def leftBy : List Operation → State → State
  | [], state => state
  | operation :: rest, state =>
    match operation.run? state with
    | some next => leftBy rest next
    | none => state

/-- The state that a pass leaves, whether it comes to its end or not. -/
def left (cycle : Cycle) (state : State) : State := leftBy cycle.operations state

/-- What the operations do to a state whose banks have all that they access. -/
def run (cycle : Cycle) (state : State) : State :=
  cycle.operations.foldl (fun state operation => operation.apply state) state

end Cycle

end Dataflow
