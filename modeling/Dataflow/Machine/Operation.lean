import Dataflow.Machine.State

set_option autoImplicit false

namespace Dataflow

inductive Operation where
  | add (slot a b : Nat)
  | sub (slot a b : Nat)
  | mult (slot a b : Nat)
  | div (slot a b : Nat)
  | output (port source : Nat)
  | phi (slot a b : Nat)
  | cmpz (mode : CompareMode) (source : Nat)
  | sqrt (slot source : Nat)
  | copy (slot source : Nat)
  | input (slot port : Nat)
deriving DecidableEq

namespace Operation

def slotText (slot : Nat) : String := Address.text ⟨.memory, slot⟩

def portText (port : Nat) : String := Address.text ⟨.port, port⟩

def text : Operation → String
  | add slot a b => slotText slot ++ " = " ++ slotText a ++ " + " ++ slotText b
  | sub slot a b => slotText slot ++ " = " ++ slotText a ++ " - " ++ slotText b
  | mult slot a b => slotText slot ++ " = " ++ slotText a ++ " * " ++ slotText b
  | div slot a b => slotText slot ++ " = " ++ slotText a ++ " / " ++ slotText b
  | output port source => portText port ++ " = " ++ slotText source
  | phi slot a b => slotText slot ++ " = status ? " ++ slotText a ++ " : " ++ slotText b
  | cmpz mode source => "status = " ++ mode.name ++ "(" ++ slotText source ++ ")"
  | sqrt slot source => slotText slot ++ " = sqrt(" ++ slotText source ++ ")"
  | copy slot source => slotText slot ++ " = " ++ slotText source
  | input slot port => slotText slot ++ " = " ++ portText port

/-- The state after the operation, if it accesses only what its banks have. -/
def run? (operation : Operation) (state : State) : Option State := do
  match operation with
  | add slot a b => state.store? slot ((← state.slot? a).add (← state.slot? b))
  | sub slot a b => state.store? slot ((← state.slot? a).sub (← state.slot? b))
  | mult slot a b => state.store? slot ((← state.slot? a).mul (← state.slot? b))
  | div slot a b =>
    let divisor ← state.slot? b
    if divisor.isZero then return state
    state.store? slot ((← state.slot? a).div divisor)
  | output port source => state.storeOutput? port (← state.slot? source)
  | phi slot a b => state.store? slot (← state.slot? (if state.status then a else b))
  | cmpz mode source => return { state with status := mode.holds (← state.slot? source) }
  | sqrt slot source => state.store? slot (← state.slot? source).sqrt
  | copy slot source => state.store? slot (← state.slot? source)
  | input slot port => state.store? slot (← state.inputValue? port)

/-- What the operation does to a state whose banks have all that it accesses. Division by a zero of
either sign changes nothing. -/
def apply (operation : Operation) (state : State) : State :=
  match operation with
  | add slot a b => state.store slot ((state.slot a).add (state.slot b))
  | sub slot a b => state.store slot ((state.slot a).sub (state.slot b))
  | mult slot a b => state.store slot ((state.slot a).mul (state.slot b))
  | div slot a b =>
    let divisor := state.slot b
    if divisor.isZero then state else state.store slot ((state.slot a).div divisor)
  | output port source =>
    let value := state.slot source
    { state with output := state.output.store port value }
  | phi slot a b => state.store slot (state.slot (if state.status then a else b))
  | cmpz mode source =>
    let result := mode.holds (state.slot source)
    { state with status := result }
  | sqrt slot source => state.store slot (state.slot source).sqrt
  | copy slot source => state.store slot (state.slot source)
  | input slot port => state.store slot (state.input.value port)

/-- The state has all that the operation accesses. -/
def Safe (state : State) : Operation → Prop
  | add slot a b | sub slot a b | mult slot a b =>
    a < state.memory.size ∧ b < state.memory.size ∧ slot < state.memory.size
  | div slot a b =>
    b < state.memory.size ∧
      ((state.slot b).isZero = false → a < state.memory.size ∧ slot < state.memory.size)
  | output port source => source < state.memory.size ∧ port < state.output.size
  | phi slot a b =>
    (if state.status then a else b) < state.memory.size ∧ slot < state.memory.size
  | cmpz _ source => source < state.memory.size
  | sqrt slot source | copy slot source =>
    source < state.memory.size ∧ slot < state.memory.size
  | input slot port => port < state.input.size ∧ slot < state.memory.size

/-- An operation runs exactly if the state has all that it accesses. -/
theorem run?_eq_some_iff {operation : Operation} {state next : State} :
    operation.run? state = some next ↔ operation.Safe state ∧ operation.apply state = next := by
  cases operation with
  | div slot a b =>
    cases zero : (state.slot b).isZero <;>
      simp [run?, Safe, apply, State.slot?, State.store?, Option.bind_eq_some_iff, zero, and_assoc]
  | _ =>
    simp [run?, Safe, apply, State.slot?, State.store?, State.inputValue?, State.storeOutput?,
      Option.bind_eq_some_iff, and_assoc]

theorem run?_eq_none_iff {operation : Operation} {state : State} :
    operation.run? state = none ↔ ¬ operation.Safe state := by
  rw [Option.eq_none_iff_forall_ne_some]
  simp [run?_eq_some_iff]

end Operation

end Dataflow
