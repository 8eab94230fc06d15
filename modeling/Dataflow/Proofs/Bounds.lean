import Dataflow.Instruction.Canonical
import Dataflow.Proofs.Accesses
import Dataflow.Proofs.RecordFormat

set_option autoImplicit false

namespace Dataflow

theorem Instruction.typed_of_canonical {instruction : Instruction}
    (canonical : instruction.Canonical) : instruction.Typed := by
  cases instruction with
  | dual operation a b => exact ⟨canonical.1, canonical.2.2.1⟩
  | single operation mode unused immediate source => exact canonical.2.2.2.2.1
  | invalid word => trivial

theorem Program.typed_ofBytes (bytes : List UInt8) : (ofBytes bytes).Typed := by
  intro line member
  rw [lines_ofBytes, List.mem_map] at member
  obtain ⟨slot, -, rfl⟩ := member
  exact Instruction.typed_of_canonical (Instruction.canonical_ofWord _)

theorem Program.undefinedLines_eq_nil_iff {program : Program} :
    program.undefinedLines = [] ↔ ∀ line ∈ program.lines, line.instruction.isValid = true := by
  have lines : program.placed.map Prod.fst = program.lines := List.zipIdx_map_fst 0 program.lines
  rw [undefinedLines, List.filter_eq_nil_iff, ← lines, List.forall_mem_map]
  simp only [Bool.not_eq_true, Bool.not_eq_false']

namespace Action

/-- A program that an action brings as it stands is typed. Programs in records always are. -/
def Typed : Action → Prop
  | install program => program.Typed
  | load _ | loadFile _ _ | cycle | run _ | write _ _ => True

instance : (action : Action) → Decidable action.Typed
  | install program => inferInstanceAs (Decidable program.Typed)
  | load _ | loadFile _ _ | cycle | run _ | write _ _ => inferInstanceAs (Decidable True)

theorem typed_of_program? {action : Action} {program : Program} (typed : action.Typed)
    (brought : action.program? = some program) : program.Typed := by
  have read {source : ByteSource} (same : (Program.ofSource source).toOption = some program) :
      program.Typed := by
    unfold Program.ofSource at same
    cases bytes : source.readAll with
    | error cause =>
      rw [bytes] at same
      cases same
    | ok content =>
      rw [bytes] at same
      cases same
      exact Program.typed_ofBytes content
  cases action with
  | install other =>
    cases brought
    exact typed
  | load source => exact read brought
  | loadFile path opened =>
    cases opened with
    | ok source => exact read brought
    | error cause => cases brought
  | cycle | run _ | write _ _ => cases brought

end Action

namespace Machine

variable {machine next : Machine}

/-- The machine with an accepted program installed, each constant stored in the memory. -/
def installed? (machine : Machine) (program : Program) (cycle : Cycle) : Option Machine := do
  let state := if machine.cycle.isSome then machine.state.reset else machine.state
  let state ← state.install? program
  return { machine with
    state := state
    program := program
    cycle := some cycle
    cycles := 0 }

def advanced? (machine : Machine) (cycle : Cycle) : Option Machine := do
  let state ← cycle.run? machine.state
  return { machine with state := state, cycles := machine.cycles + 1 }

/-- The sizes, the program and the cycle of a machine agree with each other. -/
structure Coherent (machine : Machine) : Prop where
  sized : machine.Sized
  room : machine.program.length ≤ machine.config.memorySlots
  typed : machine.program.Typed
  lowered : ∀ cycle, machine.cycle = some cycle →
    Cycle.ofProgram machine.state.limit machine.program = .ok cycle
  waiting : machine.cycle = none → machine.program = .empty ∧ machine.cycles = 0
  strict : machine.config.strict = true →
    ∀ line ∈ machine.program.lines, line.instruction.isValid = true

theorem coherent_build (config : Config) : (build config).Coherent where
  sized := sized_build config
  room := Nat.zero_le _
  typed _ member := by cases member
  lowered _ present := by cases present
  waiting _ := ⟨rfl, rfl⟩
  strict _ _ member := by cases member

theorem Coherent.step {action : Action} {answer : Answer}
    (coherent : machine.Coherent) (typed : action.Typed)
    (step : machine.Step action answer next) : next.Coherent := by
  have sized : next.Sized := step.sized coherent.sized
  -- Resolving reads only the sizes of a state, so the cycle stays right for the next state.
  have limit : machine.state.limit = next.state.limit :=
    State.Fits.limit_eq coherent.sized (step.config ▸ sized)
  cases step with
  | refused error => exact coherent
  | idle asked => exact coherent
  | @installed program cycle brought accepted =>
    obtain ⟨room, valid, resolved⟩ := accept_eq_ok_iff.mp accepted
    refine ⟨sized, room, action.typed_of_program? typed brought, fun other same => ?_, ?_, ?_⟩
    · obtain rfl : cycle = other := Option.some.inj same
      exact limit ▸ resolved
    · intro absent
      cases absent
    · intro strict
      exact Program.undefinedLines_eq_nil_iff.mp (valid strict)
  | advanced asked present whole | crashed asked present short =>
    refine ⟨sized, coherent.room, coherent.typed, ?_, fun absent => ?_, coherent.strict⟩
    · rw [← limit]
      exact coherent.lowered
    · cases present.symm.trans absent
  | @written port value input named stored =>
    refine ⟨sized, coherent.room, coherent.typed, ?_, coherent.waiting, coherent.strict⟩
    rw [← limit]
    exact coherent.lowered

theorem Coherent.after {history : List Action} (coherent : machine.Coherent)
    (typed : ∀ action ∈ history, action.Typed) : (machine.after history).Coherent :=
  kept_after Coherent coherent fun member step before => before.step (typed _ member) step

theorem Coherent.inBounds {cycle : Cycle} (coherent : machine.Coherent)
    (present : machine.cycle = some cycle) :
    ∀ operation ∈ cycle.operations, operation.InBounds machine.state :=
  Cycle.inBounds_of_ofProgram coherent.typed (coherent.lowered cycle present)

theorem Coherent.passes_eq {cycle : Cycle} (coherent : machine.Coherent)
    (present : machine.cycle = some cycle) (count : Nat) :
    cycle.passes count machine.state = ⟨count, cycle.run^[count] machine.state⟩ :=
  Cycle.passes_eq coherent.sized (coherent.inBounds present) count

/-- No action crashes while all programs are typed. -/
theorem Coherent.crashed_notMem_answers {history : List Action} (coherent : machine.Coherent)
    (typed : ∀ action ∈ history, action.Typed) : .crashed ∉ machine.answers history := by
  induction history generalizing machine with
  | nil => exact List.not_mem_nil
  | cons action rest ih =>
    obtain ⟨first, others⟩ := List.forall_mem_cons.mp typed
    have step := machine.step_perform action
    rw [answers, List.mem_cons]
    generalize machine.perform action = performed at step ⊢
    obtain ⟨answer, next⟩ := performed
    rintro (rfl | later)
    · cases step with
      | @crashed count cycle asked present short =>
        rw [coherent.passes_eq present] at short
        exact Nat.lt_irrefl _ short
    · exact ih (coherent.step first step) others later

theorem Sized.installed?_eq_some {program : Program} {cycle : Cycle} (sized : machine.Sized)
    (accepted : machine.accept program = .ok cycle) :
    machine.installed? program cycle = some (machine.installed program cycle) := by
  obtain ⟨room, -, -⟩ := accept_eq_ok_iff.mp accepted
  have fits : (if machine.cycle.isSome then machine.state.reset else machine.state).Fits
      machine.config := by
    split
    · exact State.Fits.reset sized
    · exact sized
  rw [← fits.memory] at room
  simp only [installed?, State.install?_eq_some room, bind, Option.bind_some]
  rfl

/-- Every number that a machine uses lies in the bank where it uses it. -/
structure InBounds (machine : Machine) : Prop where
  coherent : machine.Coherent
  slots : machine.program.placed.map Prod.snd = List.range machine.program.length
  operations : ∀ cycle, machine.cycle = some cycle →
    ∀ operation ∈ cycle.operations, operation.InBounds machine.state
  cycle : ∀ cycle, machine.cycle = some cycle →
    machine.advanced? cycle = some (machine.advanced cycle)
  constants : ∀ program cycle, machine.accept program = .ok cycle →
    machine.installed? program cycle = some (machine.installed program cycle)
  shown : machine.program.length ≤ machine.state.memory.size
  runs : machine.cycle.isSome = true → (runCycle.run machine).1 = .ok ()

/-- A machine that a host can reach with typed programs stays within its banks: its contents fit
its sizes, the next cycle and the next load access only what is there, and so does a display.
A cycle within a run is the next cycle of a machine that is reached too. -/
theorem after_inBounds {config : Config} {fresh : Machine} (made : ofConfig config = .ok fresh)
    {history : List Action} (typed : ∀ action ∈ history, action.Typed) :
    (fresh.after history).config = config ∧ (fresh.after history).InBounds := by
  obtain ⟨-, rfl⟩ := ofConfig_eq_ok_iff.mp made
  have coherent : ((build config).after history).Coherent := (coherent_build config).after typed
  refine ⟨config_after _ history, ?_⟩
  generalize (build config).after history = machine at coherent
  refine ⟨coherent, ?_, fun cycle => coherent.inBounds, fun cycle present => ?_,
    fun program cycle => coherent.sized.installed?_eq_some, ?_, fun installed => ?_⟩
  · rw [List.range_eq_range']
    exact List.zipIdx_map_snd 0 machine.program.lines
  · have passed := Cycle.run?_eq_some coherent.sized (coherent.inBounds present)
    simp only [advanced?, passed, bind, Option.bind_some]
    rfl
  · rw [coherent.sized.memory]
    exact coherent.room
  · obtain ⟨cycle, present⟩ := Option.isSome_iff_exists.mp installed
    rw [runCycle_eq_run_one, run_run_of_passes present (coherent.passes_eq present 1)]

/-- Two programs one after the other, a load from records, and a program that names a port that
the machine does not have. -/
theorem after_inBounds_reload :
    let fresh := build .default
    let history : List Action :=
      [.install ⟨[⟨.ofSingle .input 7, .zero⟩, ⟨.ofDual .output 3 0, .nan⟩]⟩, .run 2,
        .load (.ofBytes (List.replicate 24 1)), .cycle,
        .install ⟨[⟨.ofSingle .input 32768, .zero⟩]⟩]
    (fresh.after history).config = .default ∧ (fresh.after history).InBounds :=
  after_inBounds rfl (by decide)

end Machine

end Dataflow
