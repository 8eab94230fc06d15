import Dataflow.Machine.Basic
import Dataflow.Machine.Interpretation
import Dataflow.Proofs.Checks

set_option autoImplicit false

namespace Dataflow

theorem resolve_eq_ok_iff {limit : Bank → Nat} {slot : Nat} {address : Address} {number : Nat} :
    address.resolve limit slot = .ok number ↔
      address.number < limit address.bank ∧ number = address.number := by
  unfold Address.resolve
  split <;> rename_i within <;> simp [within, eq_comm]

/-- The operation of a line in a slot, if it does anything. -/
def Line.operation? (line : Line) (slot : Nat) : Option Operation :=
  match line.instruction with
  | .dual operation a b => some (operation.at slot a.number b.number)
  | .single operation _ _ _ source =>
    operation.at? slot line.instruction.compareMode? source.number
  | .invalid _ => none

/-- The slot of a line and every operand lie within the limits of their banks. -/
def Line.Within (limit : Bank → Nat) (line : Line) (slot : Nat) : Prop :=
  slot < limit .memory ∧
    ∀ operand ∈ line.instruction.operands, operand.number < limit operand.bank

theorem resolveLine_eq_ok_iff {limit : Bank → Nat} {line : Line} {slot : Nat}
    {operation : Option Operation} :
    Cycle.resolveLine limit (line, slot) = .ok operation ↔
      line.Within limit slot ∧ operation = line.operation? slot := by
  obtain ⟨instruction, constant⟩ := line
  by_cases inside : slot < limit .memory
  · have own : Address.resolve limit slot ⟨.memory, slot⟩ = .ok slot :=
      resolve_eq_ok_iff.mpr ⟨inside, rfl⟩
    simp only [Cycle.resolveLine, own, bind, Except.bind, Line.Within, inside, true_and]
    cases instruction with
    | dual dual a b =>
      simp only [Instruction.operands, List.forall_mem_cons]
      by_cases first : a.number < limit a.bank <;> by_cases second : b.number < limit b.bank <;>
        simp [Instruction.resolve, Address.resolve, first, second, Line.operation?, bind,
          Except.bind, pure, Except.pure, eq_comm]
    | single single mode unused immediate source =>
      simp only [Instruction.operands, List.forall_mem_singleton]
      by_cases fits : source.number < limit source.bank <;>
        simp [Instruction.resolve, Address.resolve, fits, Line.operation?, bind, Except.bind, pure,
          Except.pure, eq_comm]
    | invalid word =>
      simp [Instruction.resolve, Instruction.operands, Line.operation?, eq_comm]
  · simp [Cycle.resolveLine, Address.resolve, inside, Line.Within, bind, Except.bind]

namespace Cycle

/-- A program resolves exactly if all its numbers lie within the limits, into the operations of
its lines. -/
theorem ofProgram_eq_ok_iff {limit : Bank → Nat} {program : Program} {cycle : Cycle} :
    ofProgram limit program = .ok cycle ↔
      (∀ placed ∈ program.placed, placed.1.Within limit placed.2) ∧
        cycle.operations = program.placed.filterMap fun (line, slot) => line.operation? slot := by
  have lines : ∀ operations, program.placed.mapM (resolveLine limit) = .ok operations ↔
      (∀ placed ∈ program.placed, placed.1.Within limit placed.2) ∧
        operations = program.placed.map fun (line, slot) => line.operation? slot := fun _ =>
    mapM_eq_ok_iff fun _ _ => resolveLine_eq_ok_iff
  obtain ⟨kept⟩ := cycle
  simp only [ofProgram, bind_eq_ok_iff, lines, pure, Except.pure, Except.ok.injEq, mk.injEq]
  constructor
  · rintro ⟨_, ⟨within, rfl⟩, rfl⟩
    exact ⟨within, by rw [List.filterMap_map, Function.id_comp]⟩
  · rintro ⟨within, rfl⟩
    exact ⟨_, ⟨within, rfl⟩, by rw [List.filterMap_map, Function.id_comp]⟩

theorem exists_line_of_mem {limit : Bank → Nat} {program : Program} {cycle : Cycle}
    {operation : Operation} (resolved : ofProgram limit program = .ok cycle)
    (member : operation ∈ cycle.operations) :
    ∃ line slot, (line, slot) ∈ program.placed ∧ line.operation? slot = some operation := by
  rw [(ofProgram_eq_ok_iff.mp resolved).2] at member
  obtain ⟨⟨line, slot⟩, placed, lowered⟩ := List.mem_filterMap.mp member
  exact ⟨line, slot, placed, lowered⟩

theorem apply_operation? (line : Line) (slot : Nat) (state : State) :
    (match line.operation? slot with
      | some operation => operation.apply state
      | none => state) = line.interpret slot state := by
  obtain ⟨instruction, constant⟩ := line
  cases instruction with
  | dual operation a b =>
    cases operation <;> simp only [Line.operation?, Line.interpret, DualOperation.at,
      DualOperation.interpret, Operation.apply]
    cases state.status <;> rfl
  | single operation mode unused immediate source =>
    cases operation <;> simp only [Line.operation?, Line.interpret, SingleOperation.at?,
      SingleOperation.interpret, Operation.apply]
    simp only [Instruction.compareMode?]
    cases CompareMode.ofCode? mode <;> rfl
  | invalid word => rfl

theorem apply_of_operation? {line : Line} {slot : Nat} {operation : Operation}
    (lowered : line.operation? slot = some operation) (state : State) :
    operation.apply state = line.interpret slot state := by
  rw [← apply_operation?, lowered]

theorem foldl_operation? (placed : List (Line × Nat)) (state : State) :
    (placed.filterMap fun (line, slot) => line.operation? slot).foldl
        (fun state operation => operation.apply state) state =
      placed.foldl (fun state (line, slot) => line.interpret slot state) state := by
  rw [List.foldl_filterMap]
  congr 1
  funext state ⟨line, slot⟩
  dsimp only
  rw [← apply_operation?]
  cases line.operation? slot <;> rfl

/-- A pass over the operations of a program is a pass over its lines. -/
theorem run_eq_interpret {limit : Bank → Nat} {program : Program} {cycle : Cycle}
    (resolved : ofProgram limit program = .ok cycle) (state : State) :
    cycle.run state = program.interpret state := by
  obtain ⟨-, operations⟩ := ofProgram_eq_ok_iff.mp resolved
  rw [run, operations, foldl_operation?, Program.interpret]

end Cycle

namespace Machine

/-- The checks of a program in their order: its length, on a strict machine its lines without a
meaning, then its numbers. -/
theorem accept_eq (machine : Machine) (program : Program) :
    machine.accept program =
      if machine.config.memorySlots < program.length then
        .error (.tooLarge program.length machine.config.memorySlots)
      else
        match machine.config.strict, program.undefinedLines with
        | true, (line, slot) :: _ => .error (.invalidInstruction slot line.instruction.toWord)
        | true, [] | false, _ => Cycle.ofProgram machine.state.limit program := by
  unfold accept
  by_cases large : machine.config.memorySlots < program.length
  · rw [if_pos large, if_pos large]
    rfl
  · rw [if_neg large, if_neg large]
    cases machine.config.strict with
    | false => rfl
    | true => cases program.undefinedLines <;> rfl

/-- A machine accepts exactly the programs that have room in its memory, have a meaning in every
line if it is strict, and resolve. -/
theorem accept_eq_ok_iff {machine : Machine} {program : Program} {cycle : Cycle} :
    machine.accept program = .ok cycle ↔
      program.length ≤ machine.config.memorySlots ∧
        (machine.config.strict = true → program.undefinedLines = []) ∧
        Cycle.ofProgram machine.state.limit program = .ok cycle := by
  rw [accept_eq]
  by_cases large : machine.config.memorySlots < program.length
  · have room : ¬ program.length ≤ machine.config.memorySlots := Nat.not_le.mpr large
    simp [large, room]
  · have room := Nat.le_of_not_lt large
    cases machine.config.strict with
    | false => simp [large, room]
    | true => cases program.undefinedLines <;> simp [large, room]

/-- A load succeeds exactly if the machine accepts the program, and installs what it resolved to. -/
theorem run_load_eq_ok_iff {machine next : Machine} {program : Program} :
    (load program).run machine = (.ok (), next) ↔
      ∃ cycle, machine.accept program = .ok cycle ∧ machine.installed program cycle = next := by
  rw [run_load]
  cases machine.accept program with
  | error cause =>
    constructor
    · intro succeeded
      cases succeeded
    · rintro ⟨cycle, accepted, -⟩
      cases accepted
  | ok cycle =>
    constructor
    · intro succeeded
      exact ⟨cycle, rfl, congrArg Prod.snd succeeded⟩
    · rintro ⟨other, same, rfl⟩
      cases same
      rfl

end Machine

end Dataflow
