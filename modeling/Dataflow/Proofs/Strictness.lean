import Dataflow.Proofs.Offences
import Dataflow.Proofs.SideBySide

set_option autoImplicit false

namespace Dataflow

def Line.orNoop (line : Line) : Line :=
  if line.instruction.isValid then line else ⟨.noop, line.constant⟩

theorem Line.constant_orNoop (line : Line) : line.orNoop.constant = line.constant := by
  unfold orNoop
  split <;> rfl

/-- An instruction without a meaning has no operation, like a noop. -/
theorem Line.operation?_orNoop (line : Line) (slot : Nat) :
    line.orNoop.operation? slot = line.operation? slot := by
  unfold orNoop
  split
  · rfl
  · rename_i undefined
    obtain ⟨instruction, constant⟩ := line
    cases instruction with
    | dual operation a b => exact absurd rfl undefined
    | invalid word => rfl
    | single operation mode unused immediate source =>
      cases operation with
      | noop | sqrt | copy | input => exact absurd rfl undefined
      | cmpz =>
        have nothing : CompareMode.ofCode? mode = none :=
          Option.isNone_iff_eq_none.mp
            (Option.isSome_eq_false_iff.mp (Bool.eq_false_iff.mpr undefined))
        simp only [operation?, Instruction.compareMode?, SingleOperation.at?, nothing,
          Option.map_none]
        rfl

namespace Program

variable {program : Program}

/-- The program with a noop for every instruction without a meaning, and the same constants. -/
def orNoops (program : Program) : Program := ⟨program.lines.map Line.orNoop⟩

theorem length_orNoops (program : Program) : program.orNoops.length = program.length :=
  List.length_map _

theorem constants_orNoops (program : Program) : program.orNoops.constants = program.constants :=
  constants_map Line.constant_orNoop

theorem operations_orNoops (program : Program) :
    program.orNoops.operations = program.operations :=
  operations_map fun line _ => line.operation?_orNoop

end Program

namespace Config

variable {config : Config} {program : Program}

theorem Holds.orNoops (holds : config.Holds program) (memory : 0 < config.memorySlots) :
    config.Holds program.orNoops := by
  intro line member operand named
  obtain ⟨before, present, rfl⟩ := List.mem_map.mp member
  unfold Line.orNoop at named
  split at named
  · exact holds before present operand named
  · obtain rfl := List.mem_singleton.mp named
    exact memory

theorem verdict_orNoops (lenient : config.strict = false) :
    config.verdict program.orNoops = config.verdict program := by
  rw [verdict, verdict, lenient, program.length_orNoops, program.operations_orNoops]

end Config

namespace Machine

variable {x y : Machine} {program : Program}

/-- A strict machine refuses a program for its meaning exactly if it has room for it and some line
has no meaning. -/
theorem Sized.invalidInstruction_iff (sized : x.Sized) (strict : x.config.strict = true) :
    (∃ slot word, ((load program).run x).1 = .error (.invalidInstruction slot word)) ↔
      program.length ≤ x.config.memorySlots ∧ ∃ line ∈ program.lines, line.Undefined := by
  constructor
  · rintro ⟨slot, word, refused⟩
    cases sized.run_load_eq_iff.mp refused with
    | @undefined slot line room strict first =>
      exact ⟨room, line, List.mem_of_getElem? first.found, first.holds⟩
  · rintro ⟨room, undefined⟩
    obtain ⟨slot, line, first⟩ := exists_firstWith undefined
    exact ⟨slot, _, sized.run_load_of_answers (.undefined room strict first)⟩

/-- A strict machine that does not refuse a program for its meaning gives it the verdict that any
other machine in its condition gives it. -/
theorem Matches.accept_eq_of_strict (same : x.Matches y) (strict : x.config.strict = true)
    (unrefused : ∀ slot word, ((load program).run x).1 ≠ .error (.invalidInstruction slot word)) :
    x.accept program = y.accept program := by
  by_cases room : program.length ≤ x.config.memorySlots
  · apply same.accept_eq
    refine .inr (Program.undefinedLines_eq_nil_iff.mpr fun line member => ?_)
    by_contra undefined
    obtain ⟨slot, word, refused⟩ := (same.sized.invalidInstruction_iff strict).mpr
      ⟨room, line, member, Bool.eq_false_iff.mpr undefined⟩
    exact unrefused slot word refused
  · have large := Nat.lt_of_not_le room
    have otherLarge : y.config.memorySlots < program.length := same.memorySlots ▸ large
    rw [Machine.accept_eq, Machine.accept_eq, if_pos large, if_pos otherLarge, same.memorySlots]

/-- Instructions without a meaning are noops, and strictness changes nothing else. Take two machines
in one condition and a program whose operands lie in the banks that they name. If both are lenient,
loading the program into one and the program with noops into the other comes to the same, whatever
the host does next. If one is strict, it refuses the program for its meaning exactly if it has room
for it and some line has no meaning. Otherwise loading the program comes to the same on both, as
long as no program that is loaded later has such a line. -/
theorem undefined_as_noops (reached : x.Reachable) (same : x.Matches y)
    (holds : x.config.Holds program) :
    (x.config.strict = false → y.config.strict = false → ∀ later,
      x.SameOutcome y (.install program :: later) (.install program.orNoops :: later)) ∧
    (x.config.strict = true → y.config.strict = false →
      ((∃ slot word, ((load program).run x).1 = .error (.invalidInstruction slot word)) ↔
        program.length ≤ x.config.memorySlots ∧ ∃ line ∈ program.lines, line.Undefined) ∧
      ((∀ slot word, ((load program).run x).1 ≠ .error (.invalidInstruction slot word)) →
        ∀ later, (∀ action ∈ later, action.Defined) →
          x.SameOutcome y (.install program :: later) (.install program :: later))) := by
  refine ⟨fun lenient otherLenient later => ?_, fun strict otherLenient => ⟨?_, ?_⟩⟩
  · have memory : 0 < x.config.memorySlots := Nat.lt_of_lt_of_le (by decide) reached.valid.1
    have attitude : x.config.strict = y.config.strict := lenient.trans otherLenient.symm
    have verdict : x.accept program = y.accept program.orNoops := by
      rw [← same.accept_eq (.inl attitude), accept_eq_verdict_of_holds same.sized holds,
        accept_eq_verdict_of_holds same.sized (holds.orNoops memory),
        Config.verdict_orNoops lenient]
    exact same.sameOutcome (same.install verdict program.constants_orNoops.symm) (.inl attitude)
  · exact same.sized.invalidInstruction_iff strict
  · intro unrefused later defined
    have verdict : x.accept program = y.accept program := same.accept_eq_of_strict strict unrefused
    exact same.sameOutcome (same.install verdict rfl) (.inr defined)

/-- A comparison and a word without a meaning around an input that reaches an output. Lenient
machines cannot tell the program from the one with noops; a strict machine refuses it, and takes
the two other lines as a lenient machine does. -/
theorem undefined_as_noops_echo :
    let one : Binary64 := ⟨0x3FF0000000000000⟩
    let lenient := (build ⟨16384, 16384, false⟩).after [.write 7 one]
    let strict := (build ⟨16384, 16384, true⟩).after [.write 7 one]
    let lines : List Line := [⟨.ofSingle .input 7, .zero⟩, ⟨.ofDual .output 9 0, .zero⟩]
    let program : Program :=
      ⟨⟨.single .cmpz 7 0 0 ⟨.memory, 3⟩, one⟩ :: lines ++ [⟨.invalid 0xf0000001, .nan⟩]⟩
    let noops : Program := ⟨⟨.noop, one⟩ :: lines ++ [⟨.noop, .nan⟩]⟩
    lenient.SameOutcome lenient [.install program, .run 2] [.install noops, .run 2] ∧
      (∃ slot word, ((load program).run strict).1 = .error (.invalidInstruction slot word)) ∧
      strict.SameOutcome lenient [.install ⟨lines⟩, .run 2] [.install ⟨lines⟩, .run 2] := by
  intro one lenient strict lines program noops
  have lenientReached : lenient.Reachable := ⟨_, _, by decide, rfl⟩
  have strictReached : strict.Reachable := ⟨_, _, by decide, rfl⟩
  have matched (first second : Bool) : ((build ⟨16384, 16384, first⟩).after [.write 7 one]).Matches
      ((build ⟨16384, 16384, second⟩).after [.write 7 one]) := by
    have fresh : (build ⟨16384, 16384, first⟩).Matches (build ⟨16384, 16384, second⟩) :=
      .build rfl rfl
    refine (fresh.after (.inr ?_)).2
    intro action member brought brings
    obtain rfl := List.mem_singleton.mp member
    cases brings
  have holds : lenient.config.Holds program := by decide
  have strictHolds : strict.config.Holds program := by decide
  have linesHold : strict.config.Holds ⟨lines⟩ := by decide
  obtain ⟨asNoops, -⟩ := undefined_as_noops lenientReached (matched false false) holds
  obtain ⟨-, refusal⟩ := undefined_as_noops strictReached (matched true false) strictHolds
  obtain ⟨-, otherwise⟩ := undefined_as_noops strictReached (matched true false) linesHold
  refine ⟨asNoops rfl rfl [.run 2], (refusal rfl rfl).1.mpr (by decide),
    (otherwise rfl rfl).2 (fun slot word => ?_) [.run 2] ?_⟩
  · have accepted : ((load ⟨lines⟩).run strict).1 = .ok () := rfl
    rw [accepted]
    exact nofun
  · intro action member brought brings
    obtain rfl := List.mem_singleton.mp member
    cases brings

end Machine

end Dataflow
