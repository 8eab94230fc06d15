import Dataflow.Proofs.Accepting
import Dataflow.Proofs.Contents

set_option autoImplicit false

namespace Dataflow

def Program.constants (program : Program) : List Binary64 := program.lines.map Line.constant

theorem Program.length_constants (program : Program) : program.constants.length = program.length :=
  List.length_map _

theorem Program.constants_map {program : Program} {f : Line → Line}
    (same : ∀ line, (f line).constant = line.constant) :
    (mk (program.lines.map f)).constants = program.constants := by
  simp only [constants, List.map_map, Function.comp_def, same]

theorem State.install_eq_foldl_constants (state : State) (program : Program) :
    state.install program =
      program.constants.zipIdx.foldl (fun state (constant, slot) => state.store slot constant)
        state := by
  rw [install, Program.constants, List.zipIdx_map, List.foldl_map]
  rfl

/-- The action brings no program with an instruction without a meaning. -/
def Action.Defined (action : Action) : Prop :=
  ∀ program, action.program? = some program → program.undefinedLines = []

namespace Machine

variable {x y : Machine}

/-- What a host finds on two machines is the same: their stage, their texts, and what they hold in
the slots and ports that both have. All slots and ports that only one of them has hold zero. -/
structure SameToHost (x y : Machine) : Prop where
  lifecycle : x.lifecycle = y.lifecycle
  cycles : x.cycles = y.cycles
  status : x.state.status = y.state.status
  report : x.report = y.report
  display : x.display = y.display
  memory : ∀ slot < min x.state.memory.size y.state.memory.size,
    x.state.slot slot = y.state.slot slot
  inputs : ∀ port < min x.state.input.size y.state.input.size, x.readInput port = y.readInput port
  outputs : ∀ port < min x.state.output.size y.state.output.size,
    x.readOutput port = y.readOutput port
  furtherMemory : ∀ slot, min x.state.memory.size y.state.memory.size ≤ slot →
    x.state.slot slot = .zero ∧ y.state.slot slot = .zero
  furtherInputs : ∀ port, min x.state.input.size y.state.input.size ≤ port →
    x.state.input.value port = .zero ∧ y.state.input.value port = .zero
  furtherOutputs : ∀ port, min x.state.output.size y.state.output.size ≤ port →
    x.state.output.value port = .zero ∧ y.state.output.value port = .zero

/-- The machines hold the same, each in banks of its sizes, and run the same cycle. Their programs
have one length. -/
structure Beside (x y : Machine) : Prop where
  sized : x.Sized
  otherSized : y.Sized
  state : x.state.SameContents y.state
  length : x.program.length = y.program.length
  cycle : x.cycle = y.cycle
  cycles : x.cycles = y.cycles

theorem beside_build (first second : Config) : (build first).Beside (build second) where
  sized := sized_build first
  otherSized := sized_build second
  state := State.sameContents_ofSizes _ _ _ _
  length := rfl
  cycle := rfl
  cycles := rfl

/-- The results of two actions: one answer, and machines that are beside each other. -/
def BesideAfter (result other : Answer × Machine) : Prop :=
  result.1 = other.1 ∧ result.2.Beside other.2

namespace Beside

/-- Machines that start over from zero hold the same, whatever they held. -/
theorem reset (beside : x.Beside y) : x.state.reset.SameContents y.state.reset := by
  have sized : x.state.Fits x.config := beside.sized
  have otherSized : y.state.Fits y.config := beside.otherSized
  rw [sized.reset_eq, otherSized.reset_eq]
  exact State.sameContents_ofSizes _ _ _ _

/-- A program reaches a machine through its constants and the cycle that it resolves to, and in no
other way. So two programs that agree in these do the same to both machines. -/
theorem install (beside : x.Beside y) {program other : Program}
    (verdict : x.accept program = y.accept other)
    (constants : program.constants = other.constants) :
    BesideAfter (x.perform (.install program)) (y.perform (.install other)) := by
  rw [perform_install, perform_install]
  cases accepted : x.accept program with
  | error cause =>
    rw [← verdict, accepted]
    exact ⟨rfl, beside⟩
  | ok cycle =>
    have otherAccepted : y.accept other = .ok cycle := verdict.symm.trans accepted
    rw [otherAccepted]
    have length : program.length = other.length := by
      rw [← program.length_constants, constants, other.length_constants]
    have room := (accept_eq_ok_iff.mp accepted).1
    have otherRoom := (accept_eq_ok_iff.mp otherAccepted).1
    rw [← length] at otherRoom
    have alike (state : State) : state.install other = state.install program := by
      rw [State.install_eq_foldl_constants, ← constants, ← State.install_eq_foldl_constants]
    have sized : x.state.Fits x.config := beside.sized
    have otherSized : y.state.Fits y.config := beside.otherSized
    refine ⟨rfl, beside.sized.installed _ _, beside.otherSized.installed _ _, ?_, length, rfl, rfl⟩
    simp only [installed, beside.cycle, alike]
    split
    · exact beside.reset.install sized.reset otherSized.reset room otherRoom
    · exact beside.state.install sized otherSized room otherRoom

theorem run (beside : x.Beside y) (alike : ∀ cycle, y.cycle = some cycle →
    ∀ operation ∈ cycle.operations, operation.SameBounds x.config y.config) (count : Nat) :
    BesideAfter (x.perform (.run count)) (y.perform (.run count)) := by
  cases present : y.cycle with
  | none =>
    have absent : x.cycle = none := beside.cycle.trans present
    rw [perform_run_of_none absent, perform_run_of_none present]
    exact ⟨rfl, beside⟩
  | some cycle =>
    have own : x.cycle = some cycle := beside.cycle.trans present
    obtain ⟨completed, left⟩ :=
      beside.state.passes beside.sized beside.otherSized (alike cycle present) count
    rw [perform_run own, perform_run present, completed]
    refine ⟨rfl, beside.sized.advancedBy cycle count, beside.otherSized.advancedBy cycle count,
      left, beside.length, beside.cycle, ?_⟩
    rw [advancedBy, advancedBy, completed, beside.cycles]

/-- A write to a port that both machines have does the same to both. -/
theorem write (beside : x.Beside y) {port : Nat} (own : port < x.config.portCount)
    (others : port < y.config.portCount) (value : Binary64) :
    BesideAfter (x.perform (.write port value)) (y.perform (.write port value)) := by
  have inside : port < x.state.input.size := beside.sized.input.symm ▸ own
  have otherInside : port < y.state.input.size := beside.otherSized.input.symm ▸ others
  rw [perform_write, perform_write, if_pos inside, if_pos otherInside]
  exact ⟨rfl, beside.sized.withInput (if_pos inside),
    beside.otherSized.withInput (if_pos otherInside),
    beside.state.storeInput (iff_of_true inside otherInside) value, beside.length, beside.cycle,
    beside.cycles⟩

theorem lifecycle_eq (beside : x.Beside y) : x.lifecycle = y.lifecycle := by
  rw [lifecycle, beside.cycle, beside.cycles]
  rfl

theorem activeOutputs_eq (beside : x.Beside y) : x.activeOutputs = y.activeOutputs :=
  Cells.active_eq_of_get beside.state.output

theorem activeSlots_eq (beside : x.Beside y) : x.activeSlots = y.activeSlots := by
  have slots : x.state.memory.get = y.state.memory.get := funext beside.state.slots
  rw [activeSlots, Cells.activeAmong_eq_range, slots, beside.length, ← Cells.activeAmong_eq_range]
  rfl

theorem sameToHost (beside : x.Beside y) : x.SameToHost y where
  lifecycle := beside.lifecycle_eq
  cycles := beside.cycles
  status := beside.state.status
  report := by rw [report, beside.activeOutputs_eq, ← report]
  display := by
    have registers : x.registers = y.registers := by
      rw [registers, beside.activeSlots_eq, beside.activeOutputs_eq, ← Machine.registers]
    rw [display, beside.lifecycle_eq, beside.cycles, beside.state.status, registers,
      ← Machine.display]
  memory slot _ := beside.state.slots slot
  inputs port named := by
    obtain ⟨own, other⟩ := Nat.lt_min.mp named
    rw [readInput, readInput, Ports.read, Ports.read, if_pos own, if_pos other, beside.state.input]
  outputs port named := by
    obtain ⟨own, other⟩ := Nat.lt_min.mp named
    rw [readOutput, readOutput, Ports.read, Ports.read, if_pos own, if_pos other,
      beside.state.output]
  furtherMemory _ beyond := Cells.get_of_min_le beside.state.slots beyond
  furtherInputs _ beyond := Cells.get_of_min_le beside.state.input beyond
  furtherOutputs _ beyond := Cells.get_of_min_le beside.state.output beyond

end Beside

/-- Machines beside each other with banks of the same sizes. They are in one condition, but can
differ in their attitudes to instructions without a meaning. -/
structure Matches (x y : Machine) : Prop extends x.Beside y where
  memorySlots : x.config.memorySlots = y.config.memorySlots
  portCount : x.config.portCount = y.config.portCount

/-- Two histories come to the same: they get the same answers and leave the same bits in memory and
ports, the same status, the same cycle, and nothing else that a host could tell apart. -/
structure SameOutcome (x y : Machine) (first second : List Action) : Prop where
  answers : x.answers first = y.answers second
  contents : (x.after first).state.SameContents (y.after second).state
  cycle : (x.after first).cycle = (y.after second).cycle
  host : (x.after first).SameToHost (y.after second)

namespace Matches

theorem build {first second : Config} (memorySlots : first.memorySlots = second.memorySlots)
    (portCount : first.portCount = second.portCount) :
    (Machine.build first).Matches (Machine.build second) :=
  ⟨beside_build first second, memorySlots, portCount⟩

theorem of_besideAfter (same : x.Matches y) {action other : Action}
    (result : BesideAfter (x.perform action) (y.perform other)) :
    (x.perform action).2.Matches (y.perform other).2 where
  toBeside := result.2
  memorySlots := by
    rw [(x.step_perform action).config, (y.step_perform other).config, same.memorySlots]
  portCount := by
    rw [(x.step_perform action).config, (y.step_perform other).config, same.portCount]

/-- The verdict on a program depends on the attitude only if some line has no meaning. -/
theorem accept_eq (same : x.Matches y) {program : Program}
    (agree : x.config.strict = y.config.strict ∨ program.undefinedLines = []) :
    x.accept program = y.accept program := by
  have limit : x.state.limit = y.state.limit := by
    have own : x.state.limit = x.config.size := State.Fits.limit_eq_size same.sized
    have others : y.state.limit = y.config.size := State.Fits.limit_eq_size same.otherSized
    rw [own, others]
    funext bank
    cases bank with
    | memory => exact same.memorySlots
    | port => exact same.portCount
  rw [Machine.accept_eq, Machine.accept_eq, same.memorySlots, limit]
  rcases agree with strict | defined
  · rw [strict]
  · rw [defined]
    cases x.config.strict <;> cases y.config.strict <;> rfl

theorem perform (same : x.Matches y) {action : Action}
    (agree : x.config.strict = y.config.strict ∨ action.Defined) :
    BesideAfter (x.perform action) (y.perform action) := by
  cases kind action with
  | installs brought alike =>
    rw [alike, alike]
    exact same.install (same.accept_eq (agree.imp_right fun defined => defined _ brought)) rfl
  | fails error alike =>
    rw [alike, alike]
    exact ⟨rfl, same.toBeside⟩
  | runs asked alike =>
    rw [alike, alike]
    exact same.run (fun _ _ _ _ =>
      Operation.sameBounds_of_sizes same.memorySlots same.portCount) _
  | writes port value =>
    by_cases own : port < x.config.portCount
    · exact same.write own (same.portCount ▸ own) value
    · have size : x.state.input.size = y.state.input.size := by
        rw [same.sized.input, same.otherSized.input, same.portCount]
      have outside : ¬ port < x.state.input.size := same.sized.input.symm ▸ own
      rw [perform_write, perform_write, if_neg outside, if_neg (size ▸ outside), Ports.outside,
        Ports.outside, size]
      exact ⟨rfl, same.toBeside⟩

theorem after (same : x.Matches y) {later : List Action}
    (agree : x.config.strict = y.config.strict ∨ ∀ action ∈ later, action.Defined) :
    x.answers later = y.answers later ∧ (x.after later).Matches (y.after later) := by
  have kept : x.answers later = y.answers later ∧ (x.after later).Matches (y.after later) ∧
      (x.after later).config = x.config ∧ (y.after later).config = y.config := by
    refine related_after (fun a b => a.Matches b ∧ a.config = x.config ∧ b.config = y.config)
      ⟨same, rfl, rfl⟩ ?_
    rintro a b action member ⟨alike, own, others⟩
    have result : BesideAfter (a.perform action) (b.perform action) := by
      apply alike.perform
      rw [own, others]
      exact agree.imp_right fun defined => defined action member
    exact ⟨result.1, alike.of_besideAfter result, (a.step_perform action).config.trans own,
      (b.step_perform action).config.trans others⟩
  exact ⟨kept.1, kept.2.1⟩

/-- Two first actions with the same result come to the same, whatever follows them. -/
theorem sameOutcome (same : x.Matches y) {action other : Action} {later : List Action}
    (first : BesideAfter (x.perform action) (y.perform other))
    (agree : x.config.strict = y.config.strict ∨ ∀ action ∈ later, action.Defined) :
    x.SameOutcome y (action :: later) (other :: later) := by
  rw [← (x.step_perform action).config, ← (y.step_perform other).config] at agree
  obtain ⟨answers, last⟩ := (same.of_besideAfter first).after agree
  exact ⟨congrArg₂ List.cons first.1 answers, last.state, last.cycle, last.sameToHost⟩

end Matches

end Machine

end Dataflow
