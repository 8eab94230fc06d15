import Dataflow.Proofs.Histories
import Dataflow.Proofs.SinglePass

set_option autoImplicit false

namespace Dataflow

/-- Whether the instruction stores a value in the slot of its line. An output stores in a port, a
comparison changes the status, and the others do nothing. -/
def Instruction.writesSlot : Instruction → Bool
  | .dual .output _ _ => false
  | .dual _ _ _ => true
  | .single .noop .. | .single .cmpz .. => false
  | .single .. => true
  | .invalid _ => false

theorem Line.slot_interpret_of_silent {line : Line} (silent : line.instruction.writesSlot = false)
    (slot other : Nat) (state : State) :
    (line.interpret slot state).slot other = state.slot other := by
  obtain ⟨instruction, constant⟩ := line
  cases instruction with
  | dual operation a b =>
    cases operation with
    | output => rfl
    | _ => cases silent
  | single operation mode unused immediate source =>
    cases operation with
    | noop => rfl
    | cmpz =>
      simp only [Line.interpret, SingleOperation.interpret]
      cases CompareMode.ofCode? mode <;> rfl
    | _ => cases silent
  | invalid word => rfl

namespace State

variable {state : State} {config : Config}

/-- Installing a program puts the constant of each line into its slot, and changes no other. -/
theorem Fits.slot_install (fits : state.Fits config) {program : Program}
    (room : program.length ≤ config.memorySlots) (slot : Nat) :
    (state.install program).slot slot =
      program.lines[slot]?.elim (state.slot slot) (·.constant) := by
  obtain ⟨lines⟩ := program
  -- The last line is stored last, into the one slot that the lines before it do not have.
  induction lines using List.reverseRecOn with
  | nil => rfl
  | append_singleton lines line ih =>
    rw [Program.length, List.length_append, List.length_singleton] at room
    have last : state.install ⟨lines ++ [line]⟩ =
        (state.install ⟨lines⟩).store lines.length line.constant := by
      simp only [State.install, Program.placed, List.zipIdx_append, List.foldl_append, Nat.zero_add]
      rfl
    have size := (fits.install ⟨lines⟩).memory
    rw [last, slot_store _ _ _ _ (by omega), ih (Nat.le_of_succ_le room), List.getElem?_append]
    rcases Nat.lt_trichotomy slot lines.length with before | own | behind
    · rw [if_neg (Nat.ne_of_lt before), if_pos before]
    · simp [own]
    · have more : slot - lines.length ≠ 0 := by omega
      simp [Nat.ne_of_gt behind, Nat.not_lt_of_gt behind, more]

end State

namespace Program

variable {program : Program}

/-- What the load puts into a slot: the constant of its line, and zero behind the program. -/
def initial (program : Program) (slot : Nat) : Binary64 :=
  program.lines[slot]?.elim .zero (·.constant)

def Unwritten (program : Program) (slot : Nat) : Prop :=
  ∀ line, program.lines[slot]? = some line → line.instruction.writesSlot = false

theorem Unwritten.slot_apply {slot : Nat} {limit : Bank → Nat} {cycle : Cycle}
    (unwritten : program.Unwritten slot) (resolved : Cycle.ofProgram limit program = .ok cycle) :
    ∀ operation ∈ cycle.operations, ∀ state : State,
      (operation.apply state).slot slot = state.slot slot := by
  intro operation member state
  obtain ⟨line, own, placed, lowered⟩ := Cycle.exists_line_of_mem resolved member
  rw [Cycle.apply_of_operation? lowered]
  by_cases same : slot = own
  · subst same
    have there : program.lines[slot]? = some line := List.mk_mem_zipIdx_iff_getElem?.mp placed
    exact Line.slot_interpret_of_silent (unwritten _ there) _ _ _
  · exact Line.slot_interpret_ne _ _ same

end Program

namespace Machine

variable {machine next : Machine}

/-- The slots that no line writes hold what the load put there. -/
def Retains (machine : Machine) : Prop :=
  ∀ slot, machine.program.Unwritten slot →
    machine.state.slot slot = machine.program.initial slot

theorem WellFormed.slot_of_new (wellFormed : machine.WellFormed) (absent : machine.cycle = none)
    (slot : Nat) : machine.state.slot slot = .zero := by
  rw [wellFormed.new absent]
  exact Cells.get_ofCount _ _

/-- A load puts the constants into a memory that holds zero everywhere, with or without a program
before it. -/
theorem WellFormed.slot_installed (wellFormed : machine.WellFormed) {program : Program}
    (room : program.length ≤ machine.config.memorySlots) (cycle : Cycle) (slot : Nat) :
    (machine.installed program cycle).state.slot slot = program.initial slot := by
  have sized : machine.state.Fits machine.config := wellFormed.sized
  simp only [installed]
  cases present : machine.cycle with
  | none =>
    simp only [Option.isSome_none, Bool.false_eq_true, if_false]
    rw [sized.slot_install room, wellFormed.slot_of_new present]
    rfl
  | some previous =>
    simp only [Option.isSome_some, if_true]
    rw [sized.reset.slot_install room, show machine.state.reset.slot slot = .zero from
      Cells.get_ofCount _ _]
    rfl

theorem Step.retains {action : Action} {answer : Answer}
    (step : machine.Step action answer next) (wellFormed : machine.WellFormed)
    (retains : machine.Retains) : next.Retains := by
  cases step with
  | refused error => exact retains
  | idle asked => exact retains
  | installed brought accepted =>
    obtain ⟨room, -, -⟩ := accept_eq_ok_iff.mp accepted
    exact fun slot _ => wellFormed.slot_installed room _ slot
  | @advanced count cycle asked present _ | @crashed count cycle asked present _ =>
    intro slot unwritten
    obtain ⟨limit, resolved⟩ := wellFormed.resolved cycle present
    exact Cycle.passes_induction (fun state => state.slot slot = machine.program.initial slot)
      (fun operation member state same => (unwritten.slot_apply resolved _ member state).trans same)
      (retains slot unwritten) count
  | written named stored => exact retains

theorem WellFormed.retains_after (wellFormed : machine.WellFormed) (retains : machine.Retains)
    (history : List Action) : (machine.after history).Retains := by
  have both : (machine.after history).WellFormed ∧ (machine.after history).Retains :=
    kept_after (fun machine => machine.WellFormed ∧ machine.Retains) ⟨wellFormed, retains⟩
      fun _ step kept => ⟨step.wellFormed kept.1, step.retains kept.1 kept.2⟩
  exact both.2

/-- After every history, the slot of a line that does not write it holds the constant of the line,
and every slot behind the program holds zero. Before the first load that succeeds the whole memory
holds zero. -/
theorem after_unwritten {config : Config} {fresh : Machine} (made : ofConfig config = .ok fresh)
    (history : List Action) :
    let machine := fresh.after history
    (∀ slot line, machine.program.lines[slot]? = some line →
      line.instruction.writesSlot = false → machine.state.slot slot = line.constant) ∧
      (∀ slot, machine.program.length ≤ slot → machine.state.slot slot = .zero) ∧
      (fresh.loadsIn history = false → ∀ slot, machine.state.slot slot = .zero) := by
  obtain ⟨-, rfl⟩ := ofConfig_eq_ok_iff.mp made
  intro machine
  have wellFormed : machine.WellFormed := (wellFormed_build config).after history
  have retains : machine.Retains :=
    (wellFormed_build config).retains_after (fun _ _ => Cells.get_ofCount _ _) history
  refine ⟨fun slot line found silent => ?_, fun slot behind => ?_, fun never slot => ?_⟩
  · have unwritten : machine.program.Unwritten slot := by
      intro other same
      obtain rfl : line = other := Option.some.inj (found.symm.trans same)
      exact silent
    rw [retains slot unwritten, Program.initial, found, Option.elim_some]
  · have missing : machine.program.lines[slot]? = none := List.getElem?_eq_none behind
    have unwritten : machine.program.Unwritten slot := fun line found => by
      cases missing.symm.trans found
    rw [retains slot unwritten, Program.initial, missing, Option.elim_none]
  · have absent : machine.cycle.isSome = false := (isSome_cycle_after _ history).trans never
    exact wellFormed.slot_of_new (Option.isNone_iff_eq_none.mp
      (Option.isSome_eq_false_iff.mp absent)) slot

/-- A short program that replaces a longer one, between cycles and before a program that is
refused. -/
theorem after_unwritten_shorter :
    let one : Binary64 := ⟨0x3FF0000000000000⟩
    let long : Program := ⟨List.replicate 5 ⟨.ofSingle .copy 4, one⟩⟩
    let short : Program := ⟨[⟨.ofSingle .copy 1, one⟩, ⟨.ofDual .output 3 0, .nan⟩]⟩
    let outside : Program := ⟨[⟨.ofSingle .input 32768, one⟩]⟩
    let machine := (build .default).after
      [.install long, .run 2, .install short, .cycle, .install outside]
    machine.program = short ∧ machine.state.slot 1 = .nan ∧ machine.state.slot 4 = .zero := by
  intro one long short outside machine
  have made : ofConfig .default = .ok (build .default) := rfl
  obtain ⟨silent, behind, -⟩ := after_unwritten made
    [.install long, .run 2, .install short, .cycle, .install outside]
  have held : machine.program = short := by decide +kernel
  exact ⟨held, silent 1 ⟨.ofDual .output 3 0, .nan⟩ (by rw [held]; rfl) rfl,
    behind 4 (by rw [held]; decide)⟩

end Machine

end Dataflow
