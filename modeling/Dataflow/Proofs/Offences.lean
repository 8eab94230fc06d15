import Dataflow.Proofs.Accepting

set_option autoImplicit false

namespace Dataflow

theorem resolve_eq_error_iff {limit : Bank → Nat} {slot : Nat} {address : Address}
    {cause : LoadError} :
    address.resolve limit slot = .error cause ↔
      limit address.bank ≤ address.number ∧ cause = .addressOutOfRange slot address := by
  unfold Address.resolve
  split <;> rename_i within
  · simp [Nat.not_le.mpr within]
  · simp [Nat.le_of_not_lt within, eq_comm]

/-- An instruction fails to resolve where its operands fail to, one after the other. -/
theorem Instruction.resolve_eq_error_iff {limit : Bank → Nat} {slot : Nat}
    {instruction : Instruction} {cause : LoadError} :
    instruction.resolve limit slot = .error cause ↔
      instruction.operands.mapM (Address.resolve limit slot) = .error cause := by
  cases instruction with
  | dual operation a b =>
    simp only [resolve, operands, List.mapM_cons, List.mapM_nil, bind_eq_error_iff, pure,
      Except.pure, reduceCtorEq, and_false, exists_false, or_false]
  | single operation mode unused immediate source =>
    simp only [resolve, operands, List.mapM_cons, List.mapM_nil, bind_eq_error_iff, pure,
      Except.pure, reduceCtorEq, and_false, exists_false, or_false]
  | invalid word => constructor <;> intro failed <;> cases failed

/-- The leftmost operand of an instruction that lies beyond the limit of its bank. -/
def Instruction.LeftmostBeyond (limit : Bank → Nat) (instruction : Instruction)
    (operand : Address) : Prop :=
  ∃ place, FirstWith (fun operand => limit operand.bank ≤ operand.number) instruction.operands
    place operand

theorem Cycle.resolveLine_eq_error_iff {limit : Bank → Nat} {line : Line} {slot : Nat}
    (inside : slot < limit .memory) {cause : LoadError} :
    resolveLine limit (line, slot) = .error cause ↔
      ∃ operand, line.instruction.LeftmostBeyond limit operand ∧
        cause = .addressOutOfRange slot operand := by
  have own : Address.resolve limit slot ⟨.memory, slot⟩ = .ok slot :=
    resolve_eq_ok_iff.mpr ⟨inside, rfl⟩
  have fails (operand : Address) : (∃ cause, operand.resolve limit slot = .error cause) ↔
      limit operand.bank ≤ operand.number := by
    simp only [resolve_eq_error_iff, exists_and_left, exists_eq, and_true]
  simp only [resolveLine, own, bind, Except.bind, Instruction.resolve_eq_error_iff,
    mapM_eq_error_iff, fails, Instruction.LeftmostBeyond]
  constructor
  · rintro ⟨place, operand, first, refused⟩
    exact ⟨operand, ⟨place, first⟩, (resolve_eq_error_iff.mp refused).2⟩
  · rintro ⟨operand, ⟨place, first⟩, same⟩
    exact ⟨place, operand, first, resolve_eq_error_iff.mpr ⟨first.holds, same⟩⟩

def Line.ReachesBeyond (limit : Bank → Nat) (line : Line) : Prop :=
  ∃ operand ∈ line.instruction.operands, limit operand.bank ≤ operand.number

instance (limit : Bank → Nat) (line : Line) : Decidable (line.ReachesBeyond limit) :=
  inferInstanceAs (Decidable (∃ operand ∈ line.instruction.operands,
    limit operand.bank ≤ operand.number))

/-- A program with a slot for every line fails to resolve at the leftmost operand at fault of the
first line that has one. -/
theorem Cycle.ofProgram_eq_error_iff {limit : Bank → Nat} {program : Program}
    (room : program.length ≤ limit .memory) {cause : LoadError} :
    ofProgram limit program = .error cause ↔
      ∃ slot line operand, FirstWith (Line.ReachesBeyond limit) program.lines slot line ∧
        line.instruction.LeftmostBeyond limit operand ∧
          cause = .addressOutOfRange slot operand := by
  have lines : ofProgram limit program = .error cause ↔
      program.placed.mapM (resolveLine limit) = .error cause := by
    simp only [ofProgram, bind_eq_error_iff, pure, Except.pure, reduceCtorEq, and_false,
      exists_false, or_false]
  have inside {line : Line} {slot : Nat} (placed : (line, slot) ∈ program.placed) :
      slot < limit .memory := by
    obtain ⟨present, -⟩ := List.getElem?_eq_some_iff.mp (List.mem_zipIdx_iff_getElem?.mp placed)
    exact Nat.lt_of_lt_of_le present room
  have fails : ∀ placed ∈ program.placed, (∃ cause, resolveLine limit placed = .error cause) ↔
      placed.1.ReachesBeyond limit := by
    rintro ⟨line, slot⟩ placed
    simp only [resolveLine_eq_error_iff (inside placed)]
    constructor
    · rintro ⟨_, operand, ⟨place, first⟩, -⟩
      exact ⟨operand, List.mem_of_getElem? first.found, first.holds⟩
    · intro beyond
      obtain ⟨place, operand, first⟩ := exists_firstWith beyond
      exact ⟨_, operand, ⟨place, first⟩, rfl⟩
  rw [lines, mapM_eq_error_iff]
  constructor
  · rintro ⟨place, ⟨line, slot⟩, first, refused⟩
    have placed : (line, slot) ∈ program.placed := List.mem_of_getElem? first.found
    obtain ⟨counted, firstLine⟩ := firstWith_zipIdx_iff.mp (first.congr fails)
    obtain rfl : place = slot := by omega
    obtain ⟨operand, leftmost, same⟩ := (resolveLine_eq_error_iff (inside placed)).mp refused
    exact ⟨place, line, operand, firstLine, leftmost, same⟩
  · rintro ⟨slot, line, operand, first, leftmost, rfl⟩
    have firstPlaced := firstWith_zipIdx_iff.mpr ⟨(Nat.zero_add slot).symm, first⟩
    have placed : (line, slot) ∈ program.placed := List.mem_of_getElem? firstPlaced.found
    exact ⟨slot, (line, slot), firstPlaced.congr fun other member => (fails other member).symm,
      (resolveLine_eq_error_iff (inside placed)).mpr ⟨operand, leftmost, rfl⟩⟩

def Line.Undefined (line : Line) : Prop := line.instruction.isValid = false

instance (line : Line) : Decidable line.Undefined :=
  inferInstanceAs (Decidable (line.instruction.isValid = false))

theorem Program.head?_undefinedLines_eq_some_iff {program : Program} {line : Line} {slot : Nat} :
    program.undefinedLines.head? = some (line, slot) ↔
      FirstWith Line.Undefined program.lines slot line := by
  have undefined : ∀ placed ∈ program.placed,
      (!placed.1.instruction.isValid) = true ↔ placed.1.Undefined := fun placed _ =>
    iff_of_eq (Bool.not_eq_true' _)
  rw [undefinedLines, List.head?_filter, find?_eq_some_iff_firstWith]
  constructor
  · rintro ⟨place, first⟩
    obtain ⟨counted, firstLine⟩ := firstWith_zipIdx_iff.mp (first.congr undefined)
    obtain rfl : place = slot := by omega
    exact firstLine
  · intro first
    have firstPlaced := firstWith_zipIdx_iff.mpr ⟨(Nat.zero_add slot).symm, first⟩
    exact ⟨slot, firstPlaced.congr fun placed member => (undefined placed member).symm⟩

namespace Config

/-- What a machine answers to a program. Each case says which checks the program passes and what
is the first thing that fails the next one. -/
inductive Answers (config : Config) (program : Program) : Except LoadError Unit → Prop where
  | tooLarge (large : config.memorySlots < program.length) :
    config.Answers program (.error (.tooLarge program.length config.memorySlots))
  | undefined {slot : Nat} {line : Line} (room : program.length ≤ config.memorySlots)
      (strict : config.strict = true)
      (first : FirstWith Line.Undefined program.lines slot line) :
    config.Answers program (.error (.invalidInstruction slot line.instruction.toWord))
  | beyond {slot : Nat} {line : Line} {operand : Address}
      (room : program.length ≤ config.memorySlots)
      (defined : config.strict = true → ∀ line ∈ program.lines, ¬ line.Undefined)
      (first : FirstWith (Line.ReachesBeyond config.size) program.lines slot line)
      (leftmost : line.instruction.LeftmostBeyond config.size operand) :
    config.Answers program (.error (.addressOutOfRange slot operand))
  | accepted (room : program.length ≤ config.memorySlots)
      (defined : config.strict = true → ∀ line ∈ program.lines, ¬ line.Undefined)
      (holds : config.Holds program) :
    config.Answers program (.ok ())

theorem exists_answers (config : Config) (program : Program) :
    ∃ answer, config.Answers program answer := by
  by_cases large : config.memorySlots < program.length
  · exact ⟨_, .tooLarge large⟩
  have room := Nat.le_of_not_lt large
  by_cases offends : config.strict = true ∧ ∃ line ∈ program.lines, line.Undefined
  · obtain ⟨strict, undefined⟩ := offends
    obtain ⟨slot, line, first⟩ := exists_firstWith undefined
    exact ⟨_, .undefined room strict first⟩
  have defined : config.strict = true → ∀ line ∈ program.lines, ¬ line.Undefined :=
    fun strict line member undefined => offends ⟨strict, line, member, undefined⟩
  by_cases beyond : ∃ line ∈ program.lines, line.ReachesBeyond config.size
  · obtain ⟨slot, line, first⟩ := exists_firstWith beyond
    obtain ⟨place, operand, leftmost⟩ := exists_firstWith first.holds
    exact ⟨_, .beyond room defined first ⟨place, leftmost⟩⟩
  · refine ⟨_, .accepted room defined fun line member operand named => ?_⟩
    by_contra outside
    exact beyond ⟨line, member, operand, named, Nat.le_of_not_lt outside⟩

end Config

namespace Machine

variable {machine : Machine}

theorem accept_eq_ofProgram {program : Program}
    (room : program.length ≤ machine.config.memorySlots)
    (defined : machine.config.strict = true → ∀ line ∈ program.lines, ¬ line.Undefined) :
    machine.accept program = Cycle.ofProgram machine.state.limit program := by
  rw [accept_eq, if_neg (Nat.not_lt.mpr room)]
  cases strict : machine.config.strict with
  | false => rfl
  | true =>
    have none : program.undefinedLines = [] := Program.undefinedLines_eq_nil_iff.mpr
      fun line member => Bool.of_not_eq_false (defined strict line member)
    rw [none]

theorem Sized.run_load_of_answers (sized : machine.Sized) {program : Program}
    {answer : Except LoadError Unit} (answers : machine.config.Answers program answer) :
    ((load program).run machine).1 = answer := by
  have limit : machine.state.limit = machine.config.size := State.Fits.limit_eq_size sized
  rw [run_load]
  cases answers with
  | tooLarge large => rw [accept_eq, if_pos large]
  | undefined room strict first =>
    obtain ⟨rest, lines⟩ :=
      List.head?_eq_some_iff.mp (Program.head?_undefinedLines_eq_some_iff.mpr first)
    rw [accept_eq, if_neg (Nat.not_lt.mpr room), strict, lines]
  | beyond room defined first leftmost =>
    have size : program.length ≤ machine.config.size .memory := room
    have refused := (Cycle.ofProgram_eq_error_iff size).mpr ⟨_, _, _, first, leftmost, rfl⟩
    rw [accept_eq_ofProgram room defined, limit, refused]
  | accepted room defined holds =>
    rw [accept_eq_ofProgram room defined, Cycle.ofProgram_of_holds sized holds room]

theorem Sized.run_load_eq_iff (sized : machine.Sized) {program : Program}
    {answer : Except LoadError Unit} :
    ((load program).run machine).1 = answer ↔ machine.config.Answers program answer := by
  constructor
  · rintro rfl
    obtain ⟨answer, answers⟩ := machine.config.exists_answers program
    rw [sized.run_load_of_answers answers]
    exact answers
  · exact sized.run_load_of_answers

/-- Whatever a machine did before, its answer to a program is that of the first check that fails,
which names the first line at fault and the leftmost operand at fault in it, or it is no error if
all checks pass. A line that holds an invalid word is never at fault for an address. -/
theorem load_firstOffence {config : Config} {fresh : Machine} (made : ofConfig config = .ok fresh)
    (history : List Action) (program : Program) :
    let machine := fresh.after history
    (∀ answer, ((load program).run machine).1 = answer ↔ config.Answers program answer) ∧
      ∀ slot address,
        ((load program).run machine).1 = .error (.addressOutOfRange slot address) →
          ∃ line, program.lines[slot]? = some line ∧ ∀ word, line.instruction ≠ .invalid word := by
  intro machine
  obtain ⟨same, -, sized⟩ : machine.config = config ∧ machine.config.Valid ∧ machine.Sized :=
    sized_after_of_ofConfig made history
  have answered (answer : Except LoadError Unit) :
      ((load program).run machine).1 = answer ↔ config.Answers program answer :=
    same ▸ sized.run_load_eq_iff
  refine ⟨answered, fun slot address refused => ?_⟩
  cases (answered _).mp refused with
  | @beyond slot line operand room defined first leftmost =>
    refine ⟨line, first.found, fun word invalid => ?_⟩
    obtain ⟨operand, named, -⟩ := first.holds
    rw [invalid] at named
    cases named

/-- An undefined word, a noop with its operand beyond the ports, and an output with both operands
beyond their banks. A lenient machine that runs another program refuses the noop, a strict machine
the undefined word; without the first two lines the output is refused for its port. -/
theorem load_firstOffence_noop :
    let lenient : Config := ⟨16384, 20000, false⟩
    let strict : Config := ⟨16384, 20000, true⟩
    let running := (build lenient).after [.install ⟨[⟨.ofSingle .copy 3, .nan⟩]⟩, .run 2]
    let output : Line := ⟨.dual .output ⟨.port, 20001⟩ ⟨.memory, 16384⟩, .zero⟩
    let program : Program :=
      ⟨[⟨.invalid 5, .zero⟩, ⟨.single .noop 9 0 0 ⟨.port, 20000⟩, .zero⟩, output]⟩
    ((load program).run running).1 = .error (.addressOutOfRange 1 ⟨.port, 20000⟩) ∧
      ((load ⟨[output]⟩).run running).1 = .error (.addressOutOfRange 0 ⟨.port, 20001⟩) ∧
      ((load program).run (build strict)).1 = .error (.invalidInstruction 0 5) := by
  intro lenient strict running output program
  have made : ofConfig lenient = .ok (build lenient) := rfl
  have strictMade : ofConfig strict = .ok (build strict) := rfl
  have onRunning (program : Program) :=
    (load_firstOffence made [.install ⟨[⟨.ofSingle .copy 3, .nan⟩]⟩, .run 2] program).1
  refine ⟨(onRunning program _).mpr ?_, (onRunning ⟨[output]⟩ _).mpr ?_,
    ((load_firstOffence strictMade [] program).1 _).mpr ?_⟩
  · exact .beyond (by decide) nofun (.cons (.head (by decide)) (by decide))
      ⟨0, .head (by decide)⟩
  · exact .beyond (by decide) nofun (.head (by decide)) ⟨0, .head (by decide)⟩
  · exact .undefined (by decide) rfl (.head (by decide))

end Machine

end Dataflow
