import Dataflow.Proofs.Assembled
import Dataflow.Proofs.Bounds

set_option autoImplicit false

namespace Dataflow

namespace Program

variable {program : Program}

/-- Every operand number fits the address field of a word. -/
def Encodable (program : Program) : Prop :=
  ∀ line ∈ program.lines, line.instruction.Encodable

instance (program : Program) : Decidable program.Encodable :=
  inferInstanceAs (Decidable (∀ line ∈ program.lines, line.instruction.Encodable))

theorem Canonical.encodable (canonical : program.Canonical) : program.Encodable :=
  fun line member => Instruction.encodable_of_canonical (canonical line member)

/-- The operations of the lines that do anything, in order. -/
def operations (program : Program) : List Operation :=
  program.placed.filterMap fun (line, slot) => line.operation? slot

theorem placed_map (program : Program) (f : Line → Line) :
    (mk (program.lines.map f)).placed = program.placed.map fun (line, slot) => (f line, slot) :=
  List.zipIdx_map

theorem operations_map {f : Line → Line}
    (same : ∀ line ∈ program.lines, ∀ slot, (f line).operation? slot = line.operation? slot) :
    (mk (program.lines.map f)).operations = program.operations := by
  rw [operations, placed_map, List.filterMap_map]
  apply List.filterMap_congr
  rintro ⟨line, slot⟩ placed
  exact same line (List.fst_mem_of_mem_zipIdx placed) slot

/-- The program was read from records or assembled from a text. -/
inductive Decoded : Program → Prop where
  | records (bytes : List UInt8) : Decoded (ofBytes bytes)
  | assembly {text : String} {program : Program} (assembled : ofAssembly text = .ok program) :
    Decoded program

theorem Decoded.canonical (decoded : program.Decoded) : program.Canonical := by
  cases decoded with
  | records bytes => exact canonical_ofBytes bytes
  | assembly assembled => exact canonical_of_ofAssembly assembled

theorem length_ofBytes (bytes : List UInt8) : (ofBytes bytes).length = bytes.length / 12 := by
  rw [length, lines_ofBytes, List.length_map, List.length_range]

/-- The instruction word in the record of a slot: the first four bytes of the record in odd slots,
the last four in even ones. -/
def wordAt (bytes : List UInt8) (slot : Nat) : Word :=
  UInt32.ofNat (numberAt bytes (if slot % 2 = 0 then 12 * slot + 8 else 12 * slot) 4)

/-- The lines of records have a meaning exactly if the words of the records are defined. -/
theorem isValid_lines_ofBytes_iff (bytes : List UInt8) :
    (∀ line ∈ (ofBytes bytes).lines, line.instruction.isValid = true) ↔
      ∀ slot < bytes.length / 12, ¬ Instruction.Undefined (wordAt bytes slot) := by
  rw [lines_ofBytes, List.forall_mem_map]
  refine forall_congr' fun slot => ?_
  rw [List.mem_range]
  exact imp_congr_right fun _ => Instruction.isValid_ofWord_iff (wordAt bytes slot)

end Program

namespace Config

variable {config : Config} {program : Program}

def size (config : Config) : Bank → Nat
  | .memory => config.memorySlots
  | .port => config.portCount

/-- Every operand of the program lies in the bank that it names. -/
def Holds (config : Config) (program : Program) : Prop :=
  ∀ line ∈ program.lines, ∀ operand ∈ line.instruction.operands,
    operand.number < config.size operand.bank

instance (config : Config) (program : Program) : Decidable (config.Holds program) :=
  inferInstanceAs (Decidable (∀ line ∈ program.lines, ∀ operand ∈ line.instruction.operands,
    operand.number < config.size operand.bank))

theorem Valid.holds (valid : config.Valid) (encodable : program.Encodable) :
    config.Holds program := by
  intro line member operand named
  have fitsField := encodable line member operand named
  obtain ⟨memory, ports⟩ := valid
  cases operand.bank with
  | memory => exact Nat.lt_of_lt_of_le fitsField memory
  | port => exact Nat.lt_of_lt_of_le fitsField ports

/-- The verdict of a machine on a program whose numbers all lie within its banks. -/
def verdict (config : Config) (program : Program) : Except LoadError Cycle :=
  if config.memorySlots < program.length then
    .error (.tooLarge program.length config.memorySlots)
  else
    match config.strict, program.undefinedLines with
    | true, (line, slot) :: _ => .error (.invalidInstruction slot line.instruction.toWord)
    | true, [] | false, _ => .ok ⟨program.operations⟩

/-- Why a machine refuses a program whose numbers all lie within its banks. -/
inductive Refuses (config : Config) (program : Program) : LoadError → Prop where
  | length (large : config.memorySlots < program.length) :
    config.Refuses program (.tooLarge program.length config.memorySlots)
  | strictness {line : Line} {slot : Nat} (room : program.length ≤ config.memorySlots)
      (strict : config.strict = true) (first : program.undefinedLines.head? = some (line, slot)) :
    config.Refuses program (.invalidInstruction slot line.instruction.toWord)

theorem verdict_eq_error_iff {cause : LoadError} :
    config.verdict program = .error cause ↔ config.Refuses program cause := by
  constructor
  · unfold verdict
    split
    · rintro ⟨⟩
      exact .length ‹_›
    · rename_i room
      split
      · rename_i strict first
        rintro ⟨⟩
        exact .strictness (Nat.le_of_not_lt room) strict (by rw [first]; rfl)
      · rintro ⟨⟩
      · rintro ⟨⟩
  · intro refused
    cases refused with
    | length large => exact if_pos large
    | strictness room strict first =>
      obtain ⟨rest, lines⟩ := List.head?_eq_some_iff.mp first
      rw [verdict, if_neg (Nat.not_lt.mpr room), strict, lines]

end Config

theorem State.Fits.limit_eq_size {state : State} {config : Config} (fits : state.Fits config) :
    state.limit = config.size := by
  funext bank
  rw [fits.limit]
  cases bank <;> rfl

/-- A program resolves if every operand lies in its bank and every line has a slot. -/
theorem Cycle.ofProgram_of_holds {config : Config} {state : State} {program : Program}
    (fits : state.Fits config) (holds : config.Holds program)
    (room : program.length ≤ config.memorySlots) :
    ofProgram state.limit program = .ok ⟨program.operations⟩ := by
  rw [fits.limit_eq_size]
  refine ofProgram_eq_ok_iff.mpr ⟨?_, rfl⟩
  rintro ⟨line, slot⟩ placed
  have found : program.lines[slot]? = some line := List.mem_zipIdx_iff_getElem?.mp placed
  obtain ⟨inside, -⟩ := List.getElem?_eq_some_iff.mp found
  exact ⟨Nat.lt_of_lt_of_le inside room, holds line (List.mem_of_getElem? found)⟩

namespace Machine

variable {machine : Machine}

theorem sized_after_of_ofConfig {config : Config} {fresh : Machine}
    (made : ofConfig config = .ok fresh) (history : List Action) :
    let machine := fresh.after history
    machine.config = config ∧ machine.config.Valid ∧ machine.Sized := by
  obtain ⟨valid, rfl⟩ := ofConfig_eq_ok_iff.mp made
  intro machine
  have same : machine.config = config := config_after _ history
  exact ⟨same, same ▸ valid, (sized_build config).after history⟩

theorem accept_eq_verdict_of_holds (sized : machine.Sized) {program : Program}
    (holds : machine.config.Holds program) :
    machine.accept program = machine.config.verdict program := by
  rw [accept_eq, Config.verdict]
  split
  · rfl
  · -- What passes the first two checks always resolves.
    rename_i room
    have resolved := Cycle.ofProgram_of_holds sized holds (Nat.le_of_not_lt room)
    cases machine.config.strict with
    | false => exact resolved
    | true =>
      cases program.undefinedLines with
      | nil => exact resolved
      | cons placed rest => rfl

/-- On valid sizes no operand that fits its field is at fault. -/
theorem accept_eq_verdict (valid : machine.config.Valid) (sized : machine.Sized)
    {program : Program} (encodable : program.Encodable) :
    machine.accept program = machine.config.verdict program :=
  accept_eq_verdict_of_holds sized (valid.holds encodable)

/-- A program that fits its words is loaded exactly if every line has a slot and, on a strict
machine, a meaning. -/
theorem load_eq_ok_iff (valid : machine.config.Valid) (sized : machine.Sized) {program : Program}
    (encodable : program.Encodable) :
    ((load program).run machine).1 = .ok () ↔
      program.length ≤ machine.config.memorySlots ∧
        (machine.config.strict = true →
          ∀ line ∈ program.lines, line.instruction.isValid = true) := by
  rw [← Program.undefinedLines_eq_nil_iff, run_load]
  constructor
  · intro loaded
    cases accepted : machine.accept program with
    | error cause =>
      rw [accepted] at loaded
      cases loaded
    | ok cycle =>
      obtain ⟨room, defined, -⟩ := accept_eq_ok_iff.mp accepted
      exact ⟨room, defined⟩
  · rintro ⟨room, defined⟩
    have resolved := Cycle.ofProgram_of_holds sized (valid.holds encodable) room
    rw [accept_eq_ok_iff.mpr ⟨room, defined, resolved⟩]

theorem load_eq_error_iff (valid : machine.config.Valid) (sized : machine.Sized)
    {program : Program} (encodable : program.Encodable) {cause : LoadError} :
    ((load program).run machine).1 = .error cause ↔ machine.config.Refuses program cause := by
  rw [← Config.verdict_eq_error_iff, ← accept_eq_verdict valid sized encodable, run_load]
  cases machine.accept program <;> simp

theorem run_loadSource {source : ByteSource} {bytes : List UInt8}
    (delivered : source.readAll = .ok bytes) (machine : Machine) :
    (loadSource source).run machine = (load (.ofBytes bytes)).run machine := by
  rw [loadSource, Program.ofSource, delivered]

/-- Decoded programs are refused for their length or, by a strict machine, for an instruction
without a meaning, and for nothing else, whatever the machine did before. For a source of records
this depends on the number of its whole records and on their words only. -/
theorem load_of_decoded {config : Config} {fresh : Machine} (made : ofConfig config = .ok fresh)
    (history : List Action) :
    let machine := fresh.after history
    (∀ program : Program, program.Decoded →
      (((load program).run machine).1 = .ok () ↔
        program.length ≤ config.memorySlots ∧
          (config.strict = true → ∀ line ∈ program.lines, line.instruction.isValid = true)) ∧
      (∀ cause, ((load program).run machine).1 = .error cause ↔ config.Refuses program cause) ∧
      ∀ slot address, ((load program).run machine).1 ≠ .error (.addressOutOfRange slot address)) ∧
    ∀ (source : ByteSource) (bytes : List UInt8), source.readAll = .ok bytes →
      (((loadSource source).run machine).1 = .ok () ↔
        bytes.length / 12 ≤ config.memorySlots ∧
          (config.strict = true →
            ∀ slot < bytes.length / 12, ¬ Instruction.Undefined (Program.wordAt bytes slot))) := by
  intro machine
  obtain ⟨same, valid, sized⟩ : machine.config = config ∧ machine.config.Valid ∧ machine.Sized :=
    sized_after_of_ofConfig made history
  refine ⟨fun program decoded => ?_, fun source bytes delivered => ?_⟩
  · have encodable := decoded.canonical.encodable
    have refused (cause : LoadError) :
        ((load program).run machine).1 = .error cause ↔ config.Refuses program cause :=
      same ▸ load_eq_error_iff valid sized encodable
    refine ⟨same ▸ load_eq_ok_iff valid sized encodable, refused, fun slot address failed => ?_⟩
    cases (refused _).mp failed
  · have encodable := (Program.canonical_ofBytes bytes).encodable
    rw [run_loadSource delivered, load_eq_ok_iff valid sized encodable, Program.length_ofBytes,
      Program.isValid_lines_ofBytes_iff, same]

/-- A strict machine that has run takes two records with defined words, and refuses an assembled
program for its second line. -/
theorem load_of_decoded_strict :
    let config : Config := ⟨16384, 16384, true⟩
    let machine := (build config).after [.cycle, .install ⟨[⟨.ofSingle .copy 3, .nan⟩]⟩, .run 2]
    let program : Program := ⟨[⟨.ofSingle .copy 1, .zero⟩, ⟨.invalid 0xf0000001, .zero⟩]⟩
    ((loadSource (.ofBytes (List.replicate 24 1))).run machine).1 = .ok () ∧
      Program.ofAssembly "Copy(1)\nInvalid(0xf0000001)" = .ok program ∧
      ((load program).run machine).1 = .error (.invalidInstruction 1 0xf0000001) := by
  intro config machine program
  have made : ofConfig config = .ok (build config) := rfl
  obtain ⟨programs, sources⟩ := load_of_decoded made
    [.cycle, .install ⟨[⟨.ofSingle .copy 3, .nan⟩]⟩, .run 2]
  have assembled : Program.ofAssembly "Copy(1)\nInvalid(0xf0000001)" = .ok program := by
    decide +kernel
  obtain ⟨-, refused, -⟩ := programs program (.assembly assembled)
  have room : program.length ≤ config.memorySlots := by decide
  have first : program.undefinedLines.head? = some (⟨.invalid 0xf0000001, .zero⟩, 1) := rfl
  exact ⟨(sources _ _ (ByteSource.readAll_ofBytes _)).mpr (by decide), assembled,
    (refused _).mpr (.strictness room rfl first)⟩

end Machine

end Dataflow
