import Dataflow.Proofs.Accepting
import Dataflow.Proofs.Reloading
import Mathlib.Data.List.Basic

set_option autoImplicit false

namespace Dataflow

/-- A line has the same operation when it is read back from its word. -/
theorem Line.operation?_reread {line : Line} (encodable : line.instruction.Encodable)
    (stays : line.instruction.StaysUndefined) (slot : Nat) :
    line.reread.operation? slot = line.operation? slot := by
  obtain ⟨instruction, constant⟩ := line
  have whole (operand : Address) (named : operand ∈ instruction.operands) :
      operand.field = operand.number :=
    Address.field_of_encodable (decide_eq_true (encodable operand named))
  rw [Line.reread, Instruction.ofWord_toWord_of_staysUndefined stays]
  cases instruction with
  | invalid word => rfl
  | dual operation a b =>
    have first := whole a (by simp [Instruction.operands])
    have second := whole b (by simp [Instruction.operands])
    simp [Line.operation?, Instruction.isValid, Instruction.cut, first, second]
  | single operation mode unused immediate source =>
    have only := whole source (by simp [Instruction.operands])
    cases operation with
    | noop | sqrt | copy | input =>
      simp [Line.operation?, Instruction.isValid, Instruction.cut, only, SingleOperation.at?]
    | cmpz =>
      cases valid : (Instruction.single .cmpz mode unused immediate source).isValid with
      | true =>
        -- A mode that names a comparison is small enough for its field.
        have small := Instruction.isValid_cmpz_iff.mp valid
        have kept : mode % 8 = mode := by omega
        simp [Line.operation?, Instruction.cut, Instruction.compareMode?, only, kept]
      | false =>
        have nothing : CompareMode.ofCode? mode = none :=
          Option.isNone_iff_eq_none.mp (Option.isSome_eq_false_iff.mp valid)
        simp [Line.operation?, Instruction.compareMode?, SingleOperation.at?, nothing]

namespace Program

variable {program : Program}

/-- The program that is read from the records of a program. -/
def saved (program : Program) : Program := ofBytes program.toBytes

/-- No line gains a meaning from its word. -/
def StaysUndefined (program : Program) : Prop :=
  ∀ line ∈ program.lines, line.instruction.StaysUndefined

instance (program : Program) : Decidable program.StaysUndefined :=
  inferInstanceAs (Decidable (∀ line ∈ program.lines, line.instruction.StaysUndefined))

theorem saved_eq (program : Program) : program.saved = ⟨program.lines.map Line.reread⟩ :=
  congrArg mk (lines_ofBytes_toBytes program)

theorem length_saved (program : Program) : program.saved.length = program.length := by
  rw [saved_eq, length, List.length_map, length]

theorem placed_saved (program : Program) :
    program.saved.placed = program.placed.map fun (line, slot) => (line.reread, slot) := by
  rw [saved_eq, placed_map]

theorem saved_eq_self_iff : program.saved = program ↔ program.Canonical := by
  constructor
  · intro whole line member
    obtain ⟨slot, inside, rfl⟩ := List.getElem_of_mem member
    have back : program.lines[slot].reread = program.lines[slot] := by
      have lines := congrArg (fun other : Program => other.lines[slot]?) whole
      simpa [saved_eq, inside] using lines
    exact Instruction.ofWord_toWord_eq_self_iff.mp (congrArg Line.instruction back)
  · intro canonical
    exact canonical.ofBytes_toBytes

/-- A program that was written to records and read again has its lines in their slots, each with
the constant of the line and the instruction that the word of the line decodes to. It is the same
program in every field exactly if every instruction is canonical, and the canonical instructions
are exactly those that words decode to. -/
theorem ofBytes_toBytes_eq_self_iff (program : Program) :
    let read := ofBytes program.toBytes
    read.length = program.length ∧
      (∀ (slot : Nat) (line : Line), program.lines[slot]? = some line →
        read.placed[slot]? = some (⟨.ofWord line.instruction.toWord, line.constant⟩, slot)) ∧
      (read = program ↔ ∀ line ∈ program.lines, line.instruction.Canonical) ∧
      ∀ instruction : Instruction,
        instruction.Canonical ↔ ∃ word, Instruction.ofWord word = instruction := by
  intro read
  refine ⟨program.length_saved, fun slot line found => ?_, saved_eq_self_iff, fun instruction =>
    Instruction.canonical_iff_exists_word⟩
  have placed : program.placed[slot]? = some (line, slot) := by
    simp [Program.placed, found]
  rw [show read.placed = _ from program.placed_saved, List.getElem?_map, placed]
  rfl

theorem undefinedLines_saved (stays : program.StaysUndefined) :
    program.saved.undefinedLines =
      program.undefinedLines.map fun (line, slot) => (line.reread, slot) := by
  rw [undefinedLines, placed_saved, List.filter_map, undefinedLines]
  congr 1
  apply List.filter_congr
  rintro ⟨line, slot⟩ placed
  have member : line ∈ program.lines := List.fst_mem_of_mem_zipIdx placed
  exact congrArg not ((Instruction.isValid_ofWord_toWord_iff _).mpr (stays line member))

theorem operations_saved (encodable : program.Encodable) (stays : program.StaysUndefined) :
    program.saved.operations = program.operations := by
  rw [saved_eq]
  exact operations_map fun line member =>
    Line.operation?_reread (encodable line member) (stays line member)

theorem encodable_saved (program : Program) : program.saved.Encodable :=
  (canonical_ofBytes program.toBytes).encodable

end Program

theorem State.install_saved (state : State) (program : Program) :
    state.install program.saved = state.install program := by
  rw [install, Program.placed_saved, List.foldl_map]
  rfl

theorem Config.verdict_saved {program : Program} (config : Config) (encodable : program.Encodable)
    (stays : program.StaysUndefined) :
    config.verdict program.saved = config.verdict program := by
  rw [verdict, verdict, program.length_saved, Program.operations_saved encodable stays,
    Program.undefinedLines_saved stays]
  cases config.strict with
  | false => rfl
  | true =>
    cases program.undefinedLines with
    | nil => rfl
    | cons placed rest => simp only [List.map_cons, Line.reread, Instruction.toWord_ofWord]

namespace Machine

variable {machine other : Machine}

/-- The machines differ at most in the programs that they name. What they run is the same. -/
structure SameCourse (machine other : Machine) : Prop where
  config : machine.config = other.config
  state : machine.state = other.state
  cycle : machine.cycle = other.cycle
  cycles : machine.cycles = other.cycles

/-- The results of two actions: the same answers, and machines that run the same. -/
def SameResult (result other : Answer × Machine) : Prop :=
  result.1 = other.1 ∧ result.2.SameCourse other.2

namespace SameCourse

theorem sameResult_install (same : machine.SameCourse other) (program : Program) :
    SameResult (machine.perform (.install program)) (other.perform (.install program)) := by
  have verdict : machine.accept program = other.accept program := by
    rw [accept, accept, same.config, same.state]
  rw [perform_install, perform_install, verdict]
  cases other.accept program with
  | error cause => exact ⟨rfl, same⟩
  | ok cycle =>
    refine ⟨rfl, same.config, ?_, rfl, rfl⟩
    simp only [installed, same.state, same.cycle]

theorem sameResult_run (same : machine.SameCourse other) (count : Nat) :
    SameResult (machine.perform (.run count)) (other.perform (.run count)) := by
  cases present : other.cycle with
  | none =>
    rw [perform_run_of_none (same.cycle.trans present), perform_run_of_none present]
    exact ⟨rfl, same⟩
  | some cycle =>
    rw [perform_run (same.cycle.trans present), perform_run present, same.state]
    refine ⟨rfl, same.config, ?_, same.cycle, ?_⟩
    · simp only [advancedBy, same.state]
    · simp only [advancedBy, same.cycles, same.state]

theorem sameResult_write (same : machine.SameCourse other) (port : Nat) (value : Binary64) :
    SameResult (machine.perform (.write port value)) (other.perform (.write port value)) := by
  rw [perform_write, perform_write, same.state]
  split
  · refine ⟨rfl, same.config, ?_, same.cycle, same.cycles⟩
    simp only [withInput, same.state]
  · exact ⟨rfl, same⟩

/-- Whatever a host does next, machines that run the same give the same answer, and run the same
afterwards. -/
theorem sameResult_perform (same : machine.SameCourse other) (action : Action) :
    SameResult (machine.perform action) (other.perform action) := by
  cases kind action with
  | installs brought alike =>
    rw [alike, alike]
    exact same.sameResult_install _
  | fails error alike =>
    rw [alike, alike]
    exact ⟨rfl, same⟩
  | runs asked alike =>
    rw [alike, alike]
    exact same.sameResult_run _
  | writes port value => exact same.sameResult_write port value

/-- Machines that run the same cannot be told apart by any later actions. -/
theorem after (same : machine.SameCourse other) (later : List Action) :
    machine.answers later = other.answers later ∧
      (machine.after later).SameCourse (other.after later) :=
  related_after SameCourse same fun _ alike => alike.sameResult_perform _

end SameCourse

/-- Installing a saved program gives the answer that installing the program gives, and a machine
that runs the same. -/
theorem sameResult_install_saved (valid : machine.config.Valid) (sized : machine.Sized)
    {program : Program} (encodable : program.Encodable) (stays : program.StaysUndefined) :
    SameResult (machine.perform (.install program.saved)) (machine.perform (.install program)) := by
  rw [perform_install, perform_install, accept_eq_verdict valid sized program.encodable_saved,
    machine.config.verdict_saved encodable stays, ← accept_eq_verdict valid sized encodable]
  cases machine.accept program with
  | error cause => exact ⟨rfl, rfl, rfl, rfl, rfl⟩
  | ok cycle =>
    refine ⟨rfl, rfl, ?_, rfl, rfl⟩
    simp only [installed, State.install_saved]

/-- On every machine a program and what is read from its records cannot be told apart: loading
them gives the same answer, and later actions give the same answers and leave the same memory,
ports and status. This takes operands that fit their fields and no line that gains a meaning from
its word; lines without a meaning then stay without one. -/
theorem after_install_saved {config : Config} {fresh : Machine}
    (made : ofConfig config = .ok fresh) {program : Program} (encodable : program.Encodable)
    (stays : program.StaysUndefined) (history later : List Action) :
    let machine := fresh.after history
    let saved := Program.ofBytes program.toBytes
    machine.answers (.install saved :: later) = machine.answers (.install program :: later) ∧
      (machine.after (.install saved :: later)).state =
        (machine.after (.install program :: later)).state ∧
      ∀ (slot : Nat) (line : Line), program.lines[slot]? = some line →
        line.instruction.isValid = false →
          saved.lines[slot]? = some ⟨.invalid line.instruction.toWord, line.constant⟩ := by
  intro machine saved
  obtain ⟨-, valid, sized⟩ : machine.config = config ∧ machine.config.Valid ∧ machine.Sized :=
    sized_after_of_ofConfig made history
  obtain ⟨answer, next⟩ := sameResult_install_saved valid sized encodable stays
  obtain ⟨answers, last⟩ := next.after later
  refine ⟨congrArg₂ List.cons answer answers, last.state, fun slot line found undefined => ?_⟩
  have back := Instruction.ofWord_toWord_of_staysUndefined (stays line (List.mem_of_getElem? found))
  rw [undefined] at back
  rw [show saved = _ from program.saved_eq, List.getElem?_map, found]
  exact congrArg (fun instruction => some (Line.mk instruction line.constant)) back

/-- A comparison whose mode is too wide and still names nothing, an addition that names a port, and
an undefined word. -/
theorem after_install_saved_wide :
    let one : Binary64 := ⟨0x3FF0000000000000⟩
    let program : Program :=
      ⟨[⟨.single .cmpz 13 3 200 ⟨.port, 16383⟩, .nan⟩, ⟨.dual .add ⟨.port, 0⟩ ⟨.memory, 1⟩, one⟩,
        ⟨.invalid 0xf0000001, one⟩]⟩
    let saved := Program.ofBytes program.toBytes
    let machine := (build .default).after [.write 7 one]
    program.Encodable ∧ program.StaysUndefined ∧
      (machine.after [.install saved, .run 2]).state =
        (machine.after [.install program, .run 2]).state := by
  intro one program saved machine
  have made : ofConfig .default = .ok (build .default) := rfl
  have encodable : program.Encodable := by decide
  have stays : program.StaysUndefined := by decide
  exact ⟨encodable, stays,
    (after_install_saved made encodable stays [.write 7 one] [.run 2]).2.1⟩

/-- A comparison without a meaning that runs after it was saved: its mode is the number eight, of
which the word keeps three bits. The program leaves the status false, the saved program leaves it
true, and a strict machine refuses the program and takes the saved one. -/
theorem after_install_saved_mode :
    let program : Program := ⟨[⟨.single .cmpz 8 0 0 ⟨.memory, 0⟩, ⟨0xBFF0000000000000⟩⟩]⟩
    let saved := Program.ofBytes program.toBytes
    let machine := build .default
    let strict := build ⟨16384, 16384, true⟩
    program.Encodable ∧ (∀ line ∈ program.lines, line.instruction.isValid = false) ∧
      (machine.after [.install program, .cycle]).state.status = false ∧
      (machine.after [.install saved, .cycle]).state.status = true ∧
      strict.answers [.install program] =
        [.error (.load (.invalidInstruction 0 0x01000000))] ∧
      strict.answers [.install saved] = [.ok] := by
  intro program saved machine strict
  have read : saved = ⟨[⟨.single .cmpz 0 0 0 ⟨.memory, 0⟩, ⟨0xBFF0000000000000⟩⟩]⟩ :=
    program.saved_eq
  rw [read]
  decide

end Machine

end Dataflow
