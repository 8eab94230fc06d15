import Dataflow.Proofs.SideBySide

set_option autoImplicit false

namespace Dataflow

/-- The action stays within so many slots and ports: a program that it brings was decoded and has a
slot for every line, and a port that it writes to is one of the ports. -/
def Action.Within (slots ports : Nat) : Action → Prop
  | .install program => program.Decoded ∧ program.length ≤ slots
  | .load source | .loadFile _ (.ok source) =>
    ∀ program, Program.ofSource source = .ok program → program.length ≤ slots
  | .write port _ => port < ports
  | .loadFile _ (.error _) | .cycle | .run _ => True

theorem Action.Within.program {action : Action} {slots ports : Nat} {program : Program}
    (within : action.Within slots ports) (brought : action.program? = some program) :
    program.Decoded ∧ program.length ≤ slots := by
  have read {source : ByteSource} (same : (Program.ofSource source).toOption = some program)
      (room : ∀ program, Program.ofSource source = .ok program → program.length ≤ slots) :
      program.Decoded ∧ program.length ≤ slots := by
    cases delivered : source.readAll with
    | error cause =>
      rw [Program.ofSource, delivered] at same
      cases same
    | ok bytes =>
      rw [Program.ofSource, delivered] at same
      cases same
      exact ⟨.records bytes, room _ (by rw [Program.ofSource, delivered])⟩
  cases action with
  | install other =>
    cases brought
    exact within
  | load source => exact read brought within
  | loadFile path opened =>
    cases opened with
    | ok source => exact read brought within
    | error cause => cases brought
  | cycle | run _ | write _ _ => cases brought

theorem Action.Within.typed {action : Action} {slots ports : Nat}
    (within : action.Within slots ports) : action.Typed := by
  cases action with
  | install program =>
    exact fun line member => Instruction.typed_of_canonical (within.1.canonical line member)
  | load _ | loadFile _ _ | cycle | run _ | write _ _ => trivial

/-- Two configurations with room for a program and one attitude judge it alike. -/
theorem Config.verdict_eq_of_room {config other : Config} {program : Program}
    (strict : config.strict = other.strict) (room : program.length ≤ config.memorySlots)
    (otherRoom : program.length ≤ other.memorySlots) :
    config.verdict program = other.verdict program := by
  rw [verdict, verdict, if_neg (Nat.not_lt.mpr room), if_neg (Nat.not_lt.mpr otherRoom), strict]

namespace Machine

variable {x y : Machine} {first second : Config}

/-- Two machines of given configurations, whatever the sizes of their banks, that hold and run the
same. -/
structure Alongside (first second : Config) (x y : Machine) : Prop extends x.Beside y where
  config : x.config = first
  otherConfig : y.config = second
  coherent : x.Coherent
  otherCoherent : y.Coherent

theorem alongside_build (first second : Config) :
    Alongside first second (build first) (build second) where
  toBeside := beside_build first second
  config := rfl
  otherConfig := rfl
  coherent := coherent_build first
  otherCoherent := coherent_build second

namespace Alongside

theorem accept_eq (same : Alongside first second x y) (valid : first.Valid)
    (otherValid : second.Valid) (strict : first.strict = second.strict) {program : Program}
    (decoded : program.Decoded)
    (room : program.length ≤ min first.memorySlots second.memorySlots) :
    x.accept program = y.accept program := by
  obtain ⟨ownRoom, otherRoom⟩ := Nat.le_min.mp room
  obtain rfl := same.config
  obtain rfl := same.otherConfig
  have encodable := decoded.canonical.encodable
  rw [accept_eq_verdict valid same.sized encodable,
    accept_eq_verdict otherValid same.otherSized encodable]
  exact Config.verdict_eq_of_room strict ownRoom otherRoom

/-- The cycle was resolved for either machine, so it stays within the banks of both. -/
theorem sameBounds (same : Alongside first second x y) {cycle : Cycle}
    (present : y.cycle = some cycle) :
    ∀ operation ∈ cycle.operations, operation.SameBounds x.config y.config := by
  intro operation member
  have inBounds := same.coherent.inBounds (same.cycle.trans present) operation member
  have otherInBounds := same.otherCoherent.inBounds present operation member
  exact inBounds.sameBounds otherInBounds same.sized same.otherSized

theorem perform (same : Alongside first second x y) (valid : first.Valid)
    (otherValid : second.Valid) (strict : first.strict = second.strict) {action : Action}
    (within : action.Within (min first.memorySlots second.memorySlots)
      (min first.portCount second.portCount)) :
    (x.perform action).1 = (y.perform action).1 ∧
      Alongside first second (x.perform action).2 (y.perform action).2 := by
  have result : BesideAfter (x.perform action) (y.perform action) := by
    cases kind action with
    | installs brought alike =>
      obtain ⟨decoded, room⟩ := within.program brought
      rw [alike, alike]
      exact same.install (same.accept_eq valid otherValid strict decoded room) rfl
    | fails error alike =>
      rw [alike, alike]
      exact ⟨rfl, same.toBeside⟩
    | runs asked alike =>
      rw [alike, alike]
      exact same.run (fun _ present => same.sameBounds present) _
    | writes port value =>
      obtain ⟨own, others⟩ := Nat.lt_min.mp within
      rw [← same.config] at own
      rw [← same.otherConfig] at others
      exact same.write own others value
  obtain ⟨answer, beside⟩ := result
  have step := x.step_perform action
  have otherStep := y.step_perform action
  exact ⟨answer, beside, step.config.trans same.config, otherStep.config.trans same.otherConfig,
    same.coherent.step within.typed step, same.otherCoherent.step within.typed otherStep⟩

end Alongside

/-- The sizes of the banks do not show. Two machines of valid configurations with one attitude to
instructions without a meaning answer a history within the sizes of both alike, and a host finds
the same on them after every action of it. -/
theorem after_bankSizes (made : ofConfig first = .ok x) (otherMade : ofConfig second = .ok y)
    (strict : first.strict = second.strict) {history : List Action}
    (within : ∀ action ∈ history, action.Within (min first.memorySlots second.memorySlots)
      (min first.portCount second.portCount)) :
    x.answers history = y.answers history ∧
      ∀ past, past <+: history → (x.after past).SameToHost (y.after past) := by
  obtain ⟨valid, rfl⟩ := ofConfig_eq_ok_iff.mp made
  obtain ⟨otherValid, rfl⟩ := ofConfig_eq_ok_iff.mp otherMade
  have alongside (past : List Action) (begins : past <+: history) :
      (build first).answers past = (build second).answers past ∧
        Alongside first second ((build first).after past) ((build second).after past) := by
    refine related_after (Alongside first second) (alongside_build first second) ?_
    intro current other action member same
    exact same.perform valid otherValid strict (within action (begins.subset member))
  exact ⟨(alongside history (List.prefix_refl history)).1,
    fun past begins => (alongside past begins).2.sameToHost⟩

/-- A run without a program, an input, an assembled program that shows it, a reader that fails
after a whole record, and records that replace the program. -/
theorem after_bankSizes_replaced :
    let one : Binary64 := ⟨0x3FF0000000000000⟩
    let first : Config := ⟨16384, 40000, false⟩
    let second : Config := ⟨32768, 16384, false⟩
    let program : Program :=
      ⟨[⟨.ofSingle .input 7, .zero⟩, ⟨.ofDual .output 9 0, .infinity false⟩]⟩
    let history : List Action :=
      [.run 2, .write 7 one, .install program, .run 2,
        .load (.portion (List.replicate 12 1) (.failing .isDirectory)),
        .load (.ofBytes (List.replicate 24 1)), .cycle]
    let shown := (build first).after (history.take 4)
    Program.ofAssembly "Input(7)\nOutput(9, 0) = inf" = .ok program ∧
      shown.activeOutputs = [(one, 9)] ∧ shown.SameToHost ((build second).after (history.take 4)) ∧
      (build first).answers history = (build second).answers history ∧
      ((build first).after history).SameToHost ((build second).after history) := by
  intro one first second program history shown
  have assembled : Program.ofAssembly "Input(7)\nOutput(9, 0) = inf" = .ok program := by
    decide +kernel
  have within : ∀ action ∈ history, action.Within (min first.memorySlots second.memorySlots)
      (min first.portCount second.portCount) := by
    simp only [history, List.forall_mem_cons]
    refine ⟨trivial, ?_, ⟨.assembly assembled, by decide⟩, trivial, ?_, ?_, trivial, ?_⟩
    · exact Nat.lt_min.mpr (by decide)
    · intro read found
      cases found
    · intro read found
      cases found
      rw [Program.length_ofBytes]
      decide
    · intro action member
      cases member
  have made : ofConfig first = .ok (build first) := rfl
  have otherMade : ofConfig second = .ok (build second) := rfl
  obtain ⟨answers, after⟩ := after_bankSizes made otherMade rfl within
  exact ⟨assembled, by decide +kernel, after _ (List.take_prefix 4 history), answers,
    after _ (List.prefix_refl history)⟩

end Machine

end Dataflow
