import Dataflow.Proofs.Sizes

set_option autoImplicit false

namespace Dataflow

namespace State

theorem Fits.reset_eq {state : State} {config : Config} (fits : state.Fits config) :
    state.reset = ofSizes config.memorySlots config.portCount := by
  have input := fits.input
  have output := fits.output
  simp only [State.reset, ofSizes, Ports.clear, fits.memory, input, output]

end State

namespace Action

def isLoad : Action → Bool
  | install _ | load _ | loadFile _ _ => true
  | cycle | run _ | write _ _ => false

def isWrite : Action → Bool
  | write _ _ => true
  | install _ | load _ | loadFile _ _ | cycle | run _ => false

theorem isLoad_of_program? {action : Action} {program : Program}
    (brought : action.program? = some program) : action.isLoad = true := by
  cases action with
  | install _ | load _ | loadFile _ _ => rfl
  | cycle | run _ | write _ _ => cases brought

theorem isLoad_of_cycles? {action : Action} {count : Nat} (asked : action.cycles? = some count) :
    action.isLoad = false := by
  cases action with
  | install _ | load _ | loadFile _ _ => cases asked
  | cycle | run _ | write _ _ => rfl

end Action

namespace Machine

variable {machine other : Machine}

/-- The actions of a history, each with its answer. -/
def transcript (machine : Machine) (history : List Action) :
    List (Action × Answer) :=
  history.zip (machine.answers history)

def loadsIn (machine : Machine) (history : List Action) : Bool :=
  (machine.transcript history).any fun (action, answer) => action.isLoad && answer.isOk

/-- The writes of a history that succeed, in order. -/
def acceptedWrites (machine : Machine) (history : List Action) : List Action :=
  ((machine.transcript history).filter fun (action, answer) =>
    action.isWrite && answer.isOk).map Prod.fst

/-- Machines of one configuration accept the same programs, into the same cycles, whatever they
hold. -/
theorem Sized.accept_eq (sized : machine.Sized) (otherSized : other.Sized)
    (same : machine.config = other.config) (program : Program) :
    machine.accept program = other.accept program := by
  have limit : machine.state.limit = other.state.limit :=
    State.Fits.limit_eq sized (same ▸ otherSized)
  simp only [accept, limit, same]

/-- A machine that has a program forgets its past when it gets another one. -/
theorem installed_eq_build (sized : machine.Sized) (present : machine.cycle.isSome = true)
    (program : Program) (cycle : Cycle) :
    machine.installed program cycle = (build machine.config).installed program cycle := by
  have start : (build machine.config).cycle.isSome = false := rfl
  simp only [installed, present, start, if_true, Bool.false_eq_true, if_false,
    State.Fits.reset_eq sized]
  rfl

theorem Step.isSome_cycle {action : Action} {answer : Answer} {next : Machine}
    (step : machine.Step action answer next) :
    next.cycle.isSome = (machine.cycle.isSome || action.isLoad && answer.isOk) := by
  cases step with
  | refused error => simp [Answer.isOk]
  | idle asked => simp [Action.isLoad_of_cycles? asked]
  | installed brought accepted =>
    simp [Action.isLoad_of_program? brought, Machine.installed, Answer.isOk]
  | advanced asked present whole | crashed asked present short =>
    simp [Action.isLoad_of_cycles? asked, advancedBy]
  | written named stored =>
    subst named
    simp [Action.isLoad, withInput]

/-- A program is installed exactly if there was one at first or some load has succeeded. -/
theorem isSome_cycle_after (machine : Machine) (history : List Action) :
    (machine.after history).cycle.isSome =
      (machine.cycle.isSome || machine.loadsIn history) := by
  induction history generalizing machine with
  | nil => exact (Bool.or_false _).symm
  | cons action rest ih =>
    rw [after_cons, ih, (machine.step_perform action).isSome_cycle, Bool.or_assoc]
    rfl

theorem acceptedWrites_cons (machine : Machine) (action : Action) (rest : List Action) :
    machine.acceptedWrites (action :: rest) =
      (if action.isWrite && (machine.perform action).1.isOk then [action] else []) ++
        (machine.perform action).2.acceptedWrites rest := by
  simp only [acceptedWrites, transcript, answers, List.zip_cons_cons, List.filter_cons]
  split <;> rfl

/-- An action that leaves a machine without a program does nothing, unless it is a write that
succeeds. -/
theorem after_acceptedWrite {action : Action}
    (stays : (machine.perform action).2.cycle.isSome = false) :
    machine.after (if action.isWrite && (machine.perform action).1.isOk then [action] else []) =
      (machine.perform action).2 := by
  split
  · rfl
  · rename_i dropped
    have step := machine.step_perform action
    generalize machine.perform action = result at step stays dropped
    obtain ⟨answer, next⟩ := result
    cases step with
    | refused error => rfl
    | idle asked => rfl
    | installed brought accepted => cases stays
    | advanced asked present whole | crashed asked present short =>
      -- A machine that advances keeps its cycle.
      have absent : machine.cycle.isSome = false := stays
      rw [present] at absent
      cases absent
    | written named stored =>
      subst named
      exact absurd rfl dropped

theorem after_acceptedWrites {history : List Action}
    (never : (machine.after history).cycle.isSome = false) :
    machine.after (machine.acceptedWrites history) = machine.after history := by
  induction history generalizing machine with
  | nil => rfl
  | cons action rest ih =>
    have stays : (machine.perform action).2.cycle.isSome = false := by
      have silent := isSome_cycle_after (machine.perform action).2 rest
      rw [← after_cons, never] at silent
      exact (Bool.or_eq_false_iff.mp silent.symm).1
    rw [acceptedWrites_cons, after_append, after_acceptedWrite stays]
    exact ih never

/-- Loading into a machine that has a program answers as loading into a new one does. -/
theorem perform_install_eq_build (sized : machine.Sized) (present : machine.cycle.isSome = true)
    (program : Program) :
    (machine.perform (.install program)).1 =
        ((build machine.config).perform (.install program)).1 ∧
      ((machine.perform (.install program)).1 = .ok →
        (machine.perform (.install program)).2 =
          ((build machine.config).perform (.install program)).2) := by
  have verdict : machine.accept program = (build machine.config).accept program :=
    sized.accept_eq (sized_build machine.config) rfl program
  simp only [perform_install, ← verdict]
  cases machine.accept program with
  | error cause => exact ⟨rfl, fun succeeded => by cases succeeded⟩
  | ok cycle => exact ⟨rfl, fun _ => installed_eq_build sized present program cycle⟩

/-- Loading a program into a machine that has one is loading it into a new machine: the answer is
the same, and after a success so is the whole machine. A machine that never got a program is the
new machine after the writes that succeeded. -/
theorem load_after_eq_fresh {config : Config} {fresh : Machine}
    (made : ofConfig config = .ok fresh) (history : List Action) (program : Program) :
    let machine := fresh.after history
    let load := Action.install program
    (machine.cycle.isSome = true →
      (machine.perform load).1 = (fresh.perform load).1 ∧
        ((machine.perform load).1 = .ok →
          (machine.perform load).2 = (fresh.perform load).2 ∧
            ∀ later, machine.answers (load :: later) = fresh.answers (load :: later))) ∧
      (fresh.loadsIn history = false →
        machine.perform load = (fresh.after (fresh.acceptedWrites history)).perform load) := by
  obtain ⟨-, rfl⟩ := ofConfig_eq_ok_iff.mp made
  refine ⟨fun present => ?_, fun never => ?_⟩
  · have sized : ((build config).after history).Sized := (sized_build config).after history
    have same : ((build config).after history).config = config := config_after _ history
    obtain ⟨answer, whole⟩ := perform_install_eq_build sized present program
    rw [same] at answer whole
    refine ⟨answer, fun succeeded => ⟨whole succeeded, fun later => ?_⟩⟩
    rw [answers, answers, answer, whole succeeded]
  · have absent := isSome_cycle_after (build config) history
    rw [never] at absent
    rw [after_acceptedWrites absent]

/-- A machine that ran the program before and was refused a write; and a machine that was refused
a cycle and a write before its first program. -/
theorem load_after_eq_fresh_input :
    let fresh := build .default
    let one : Binary64 := ⟨0x3FF0000000000000⟩
    let load := Action.install ⟨[⟨.ofSingle .input 7, .zero⟩, ⟨.ofSingle .copy 0, .nan⟩]⟩
    let running := fresh.after [.write 7 one, load, .run 2, .write 32768 one]
    let waiting := fresh.after [.cycle, .write 7 one, .write 32768 one]
    running.perform load = fresh.perform load ∧
      waiting.perform load = (fresh.after [.write 7 one]).perform load := by
  intro fresh one load running waiting
  have made : ofConfig .default = .ok fresh := rfl
  refine ⟨?_, (load_after_eq_fresh made [.cycle, .write 7 one, .write 32768 one] _).2 rfl⟩
  obtain ⟨answer, whole⟩ :=
    (load_after_eq_fresh made [.write 7 one, load, .run 2, .write 32768 one] _).1 rfl
  exact Prod.ext answer (whole rfl).1

end Machine

end Dataflow
