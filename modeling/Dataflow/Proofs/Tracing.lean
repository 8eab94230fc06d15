import Dataflow.Proofs.Accesses
import Dataflow.Proofs.SinglePass
import Mathlib.Data.List.Forall2
import Mathlib.Logic.Function.Iterate

set_option autoImplicit false

namespace Dataflow

namespace Instruction

def isNoop : Instruction → Bool
  | .single .noop _ _ _ _ => true
  | _ => false

/-- Whether the instruction does something: it has a meaning and is no noop. -/
def isEffective (instruction : Instruction) : Bool := instruction.isValid && !instruction.isNoop

end Instruction

/-- The lines that do something, each with its slot. A resolved program holds one operation for each
of them, so its operations are not numbered like its lines. -/
def Program.effectiveLines (program : Program) : List (Line × Nat) :=
  program.placed.filter fun (line, _) => line.instruction.isEffective

theorem Line.isSome_operation? (line : Line) (slot : Nat) :
    (line.operation? slot).isSome = line.instruction.isEffective := by
  obtain ⟨instruction, constant⟩ := line
  cases instruction with
  | dual operation a b => rfl
  | invalid word => rfl
  | single operation mode unused immediate source =>
    cases operation with
    | cmpz =>
      simp only [operation?, SingleOperation.at?, Instruction.compareMode?, Option.isSome_map,
        Instruction.isEffective, Instruction.isValid, Instruction.isNoop, Bool.not_false,
        Bool.and_true]
    | _ => rfl

/-- The operation is that of the line, and does on every state what the line does. -/
def Operation.Renders (operation : Operation) (placed : Line × Nat) : Prop :=
  placed.1.operation? placed.2 = some operation ∧
    ∀ state, operation.apply state = placed.1.interpret placed.2 state

theorem Operation.renders_of_operation? {operation : Operation} {line : Line} {slot : Nat}
    (lowered : line.operation? slot = some operation) : operation.Renders (line, slot) :=
  ⟨lowered, Cycle.apply_of_operation? lowered⟩

namespace Cycle

/-- The operations of lines, against those of the lines that do something. -/
theorem forall₂_renders (placed : List (Line × Nat)) :
    List.Forall₂ Operation.Renders (placed.filterMap fun (line, slot) => line.operation? slot)
      (placed.filter fun (line, _) => line.instruction.isEffective) := by
  induction placed with
  | nil => exact .nil
  | cons first rest ih =>
    obtain ⟨line, slot⟩ := first
    have effective := line.isSome_operation? slot
    simp only [List.filterMap_cons, List.filter_cons, ← effective]
    cases lowered : line.operation? slot with
    | none => exact ih
    | some operation => exact .cons (Operation.renders_of_operation? lowered) ih

/-- Operations that come to their end are followed by the events of what is behind them. -/
theorem traceOperations_append {first : List Operation} {state next : State}
    (ran : (Cycle.mk first).run? state = some next) (second : List Operation) :
    traceOperations (first ++ second) state =
      traceOperations first state ++ traceOperations second next := by
  induction first generalizing state with
  | nil =>
    obtain rfl : state = next := Option.some.inj ran
    rfl
  | cons operation rest ih =>
    obtain ⟨middle, begun, others⟩ := Option.bind_eq_some_iff.mp ran
    dsimp only at begun
    simp only [List.cons_append, traceOperations, begun]
    exact congrArg (_ :: ·) (ih others)

/-- The event of the operation of a line: it carries the status right after the line. -/
def lineEvent (program : Program) (before : State) (operation : Operation)
    (placed : Line × Nat) : Event :=
  .executed operation (program.interpretTo before (placed.2 + 1)).status

theorem run?_take {program : Program} {before : State} {config : Config}
    (fits : before.Fits config)
    (inBounds : ∀ line slot operation, (line, slot) ∈ program.placed →
      line.operation? slot = some operation → operation.InBounds before) (bound : Nat) :
    (Cycle.mk ((program.placed.take bound).filterMap fun (line, slot) =>
      line.operation? slot)).run? before = some (program.interpretTo before bound) := by
  rw [Program.interpretTo, ← foldl_operation?]
  refine run?_eq_some fits fun operation member => ?_
  obtain ⟨⟨line, slot⟩, placed, lowered⟩ := List.mem_filterMap.mp member
  exact inBounds line slot operation (List.mem_of_mem_take placed) lowered

theorem traceOperations_take {program : Program} {before : State} {config : Config}
    (fits : before.Fits config)
    (inBounds : ∀ line slot operation, (line, slot) ∈ program.placed →
      line.operation? slot = some operation → operation.InBounds before)
    {bound : Nat} (inside : bound ≤ program.lines.length) :
    traceOperations ((program.placed.take bound).filterMap fun (line, slot) =>
        line.operation? slot) before =
      List.zipWith (lineEvent program before)
        ((program.placed.take bound).filterMap fun (line, slot) => line.operation? slot)
        ((program.placed.take bound).filter fun (line, _) => line.instruction.isEffective) := by
  -- The operations of the first lines leave the state that the lines leave, so one more line adds
  -- at most its own event, with the status that `lineEvent` names.
  induction bound with
  | zero => rfl
  | succ slot ih =>
    have here : slot < program.lines.length := inside
    have present : slot < program.placed.length := by simpa [Program.placed] using here
    have last : program.placed[slot] = (program.lines[slot], slot) := by simp [Program.placed]
    have front := (forall₂_renders (program.placed.take slot)).length_eq
    rw [List.take_succ_eq_append_getElem present, last, List.filterMap_append, List.filter_append,
      traceOperations_append (run?_take fits inBounds slot), List.zipWith_append front,
      ih (Nat.le_of_succ_le inside)]
    congr 1
    have effective := program.lines[slot].isSome_operation? slot
    simp only [List.filterMap_cons, List.filter_cons, ← effective]
    cases lowered : program.lines[slot].operation? slot with
    | none => rfl
    | some operation =>
      have renders := apply_of_operation? lowered (program.interpretTo before slot)
      have event : lineEvent program before operation (program.lines[slot], slot) =
          .executed operation (operation.apply (program.interpretTo before slot)).status := by
        rw [lineEvent, Program.interpretTo_succ here, renders]
      have own : operation.InBounds (program.interpretTo before slot) :=
        (inBounds _ _ operation (last ▸ List.getElem_mem present) lowered).of_fits fits
          (Program.fits_interpretTo fits (Nat.le_of_succ_le inside))
      simp only [traceOperations, Operation.run?_eq_some own]
      exact congrArg (· :: []) event.symm

theorem traceRepeated_eq {cycle : Cycle} {state : State} {config : Config}
    (fits : state.Fits config) (inBounds : ∀ operation ∈ cycle.operations, operation.InBounds state)
    (count : Nat) : cycle.traceRepeated count state =
      (List.range count).flatMap fun pass => cycle.trace (cycle.run^[pass] state) := by
  induction count generalizing state with
  | zero => rfl
  | succ count ih =>
    have next := fits.run cycle
    have still : ∀ operation ∈ cycle.operations, operation.InBounds (cycle.run state) :=
      fun operation member => (inBounds operation member).of_fits fits next
    rw [traceRepeated, run?_eq_some fits inBounds, List.range_succ_eq_map, List.flatMap_cons,
      List.flatMap_map]
    dsimp only
    rw [ih next still]
    rfl

/-- The events of a pass are those of the lines that do something. -/
theorem trace_eq {limit : Bank → Nat} {program : Program} {cycle : Cycle} {before : State}
    {config : Config} (resolved : ofProgram limit program = .ok cycle) (fits : before.Fits config)
    (inBounds : ∀ operation ∈ cycle.operations, operation.InBounds before) :
    cycle.trace before =
      List.zipWith (lineEvent program before) cycle.operations program.effectiveLines := by
  obtain ⟨-, operations⟩ := ofProgram_eq_ok_iff.mp resolved
  have whole : program.placed.take program.lines.length = program.placed :=
    List.take_of_length_le (by simp [Program.placed])
  have lineInBounds (line : Line) (slot : Nat) (operation : Operation)
      (placed : (line, slot) ∈ program.placed) (lowered : line.operation? slot = some operation) :
      operation.InBounds before := by
    apply inBounds
    rw [operations]
    exact List.mem_filterMap.mpr ⟨_, placed, lowered⟩
  have events := traceOperations_take fits lineInBounds (Nat.le_refl _)
  rw [whole] at events
  rw [trace, operations, events, Program.effectiveLines]

/-- The cycle does what the program does, on states with the sizes of a configuration. -/
structure Renders (cycle : Cycle) (program : Program) (config : Config) : Prop where
  /-- There is one operation for each line that does something, in order. -/
  operations : List.Forall₂ Operation.Renders cycle.operations program.effectiveLines
  length : cycle.length = program.effectiveLines.length
  /-- A pass is the interpretation of the lines, and stays within the banks. -/
  run : ∀ state : State, state.Fits config →
    cycle.run state = program.interpret state ∧ cycle.run? state = some (cycle.run state)
  /-- Every pass reports each operation, with the status right after the line of the operation. -/
  events : ∀ (state : State) (count : Nat), state.Fits config →
    (cycle.traceRepeated count state).length = count * program.effectiveLines.length ∧
      cycle.traceRepeated count state = (List.range count).flatMap fun pass =>
        List.zipWith (lineEvent program (program.interpret^[pass] state)) cycle.operations
          program.effectiveLines

/-- Resolving a typed program keeps its meaning. -/
theorem renders_of_ofProgram {program : Program} {cycle : Cycle} {config : Config} {start : State}
    (typed : program.Typed) (fits : start.Fits config)
    (resolved : ofProgram start.limit program = .ok cycle) : cycle.Renders program config := by
  have operations : List.Forall₂ Operation.Renders cycle.operations program.effectiveLines := by
    rw [(ofProgram_eq_ok_iff.mp resolved).2]
    exact forall₂_renders program.placed
  have inBounds := inBounds_of_ofProgram typed resolved
  refine ⟨operations, operations.length_eq, fun state stateFits => ⟨?_, ?_⟩,
    fun state count stateFits => ?_⟩
  · exact run_eq_interpret resolved state
  · exact run?_eq_some stateFits fun operation member =>
      (inBounds operation member).of_fits fits stateFits
  · have same : cycle.run = program.interpret := funext (run_eq_interpret resolved)
    have still (other : State) (otherFits : other.Fits config) :
        ∀ operation ∈ cycle.operations, operation.InBounds other :=
      fun operation member => (inBounds operation member).of_fits fits otherFits
    have events : cycle.traceRepeated count state = (List.range count).flatMap fun pass =>
        List.zipWith (lineEvent program (program.interpret^[pass] state)) cycle.operations
          program.effectiveLines := by
      rw [traceRepeated_eq stateFits (still state stateFits)]
      refine List.flatMap_congr fun pass _ => ?_
      have passed : (cycle.run^[pass] state).Fits config :=
        Function.Iterate.rec (fun state : State => state.Fits config) stateFits
          (fun state fits => fits.run cycle) pass
      rw [trace_eq resolved passed (still _ passed), same]
    refine ⟨?_, events⟩
    simp only [events, List.length_flatMap, List.length_zipWith, operations.length_eq,
      Nat.min_self, List.map_const', List.sum_replicate_nat, List.length_range]

/-- Half of these lines do nothing, so the operations are not numbered like the lines. -/
theorem renders_of_ofProgram_gaps :
    let program : Program := ⟨[⟨.ofSingle .input 3, .zero⟩, ⟨.noop, .zero⟩,
      ⟨.compare .ltz 0, .zero⟩, ⟨.single .cmpz 7 0 0 ⟨.memory, 0⟩, .zero⟩,
      ⟨.ofDual .phi 0 6, .nan⟩, ⟨.invalid 5, .zero⟩]⟩
    let cycle : Cycle := ⟨[.input 0 3, .cmpz .ltz 0, .phi 4 0 6]⟩
    cycle.Renders program .default :=
  renders_of_ofProgram (by decide) (State.fits_ofSizes .default) rfl

end Cycle

end Dataflow
