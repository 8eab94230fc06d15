import Dataflow.Machine.State

set_option autoImplicit false

namespace Dataflow

def DualOperation.interpret (operation : DualOperation) (slot a b : Nat) (state : State) : State :=
  match operation with
  | add => state.store slot ((state.slot a).add (state.slot b))
  | sub => state.store slot ((state.slot a).sub (state.slot b))
  | mult => state.store slot ((state.slot a).mul (state.slot b))
  | div =>
    if (state.slot b).isZero then state
    else state.store slot ((state.slot a).div (state.slot b))
  | output => { state with output := state.output.store a (state.slot b) }
  | phi => state.store slot (if state.status then state.slot a else state.slot b)

def SingleOperation.interpret (operation : SingleOperation) (slot mode source : Nat)
    (state : State) : State :=
  match operation with
  | noop => state
  | cmpz =>
    match CompareMode.ofCode? mode with
    | some mode => { state with status := mode.holds (state.slot source) }
    | none => state
  | sqrt => state.store slot (state.slot source).sqrt
  | copy => state.store slot (state.slot source)
  | input => state.store slot (state.input.value source)

def Line.interpret (line : Line) (slot : Nat) (state : State) : State :=
  match line.instruction with
  | .dual operation a b => operation.interpret slot a.number b.number state
  | .single operation mode _ _ source => operation.interpret slot mode source.number state
  | .invalid _ => state

/-- The state after all lines, in order: the table of operations as it stands, without resolving it.
-/
def Program.interpret (program : Program) (state : State) : State :=
  program.placed.foldl (fun state (line, slot) => line.interpret slot state) state

end Dataflow
