import Dataflow.Machine.History
import Mathlib.Logic.Function.Iterate

set_option autoImplicit false

namespace Dataflow

namespace Action

def program? : Action → Option Program
  | install program => some program
  | load source | loadFile _ (.ok source) => (Program.ofSource source).toOption
  | loadFile _ (.error _) | cycle | run _ | write _ _ => none

def cycles? : Action → Option Nat
  | cycle => some 1
  | run count => some count
  | install _ | load _ | loadFile _ _ | write _ _ => none

end Action

namespace Cycle

structure Passes where
  /-- The passes that come to their end. A crash in the next one stops all. -/
  completed : Nat
  left : State

def passes (cycle : Cycle) : Nat → State → Passes
  | 0, state => ⟨0, state⟩
  | count + 1, state =>
    match cycle.run? state with
    | some next => ⟨(cycle.passes count next).completed + 1, (cycle.passes count next).left⟩
    | none => ⟨0, cycle.left state⟩

theorem leftBy_induction (kept : State → Prop) {operations : List Operation}
    (each : ∀ operation ∈ operations, ∀ state, kept state → kept (operation.apply state))
    {state : State} (initially : kept state) : kept (leftBy operations state) := by
  induction operations generalizing state with
  | nil => exact initially
  | cons operation rest ih =>
    obtain ⟨first, others⟩ := List.forall_mem_cons.mp each
    unfold leftBy
    split
    · rename_i next ran
      obtain ⟨-, rfl⟩ := Operation.run?_eq_some_iff.mp ran
      exact ih others (first state initially)
    · exact initially

theorem leftBy_of_foldlM {operations : List Operation} {state next : State}
    (ran : operations.foldlM (fun state operation => operation.run? state) state = some next) :
    leftBy operations state = next := by
  induction operations generalizing state with
  | nil => exact Option.some.inj ran
  | cons operation rest ih =>
    obtain ⟨first, begun, others⟩ := Option.bind_eq_some_iff.mp ran
    rw [leftBy, show operation.run? state = some first from begun]
    exact ih others

theorem left_of_run? {cycle : Cycle} {state next : State} (ran : cycle.run? state = some next) :
    cycle.left state = next :=
  leftBy_of_foldlM ran

theorem passes_completed_le (cycle : Cycle) (count : Nat) (state : State) :
    (cycle.passes count state).completed ≤ count := by
  induction count generalizing state with
  | zero => exact Nat.le_refl 0
  | succ count ih =>
    unfold passes
    split
    · exact Nat.succ_le_succ (ih _)
    · exact Nat.zero_le _

/-- What every operation of a cycle keeps holds after any number of passes, a crash or not. -/
theorem passes_induction {cycle : Cycle} (kept : State → Prop)
    (each : ∀ operation ∈ cycle.operations, ∀ state, kept state → kept (operation.apply state))
    {state : State} (initially : kept state) (count : Nat) :
    kept (cycle.passes count state).left := by
  have pass {state : State} (before : kept state) : kept (cycle.left state) :=
    leftBy_induction kept each before
  induction count generalizing state with
  | zero => exact initially
  | succ count ih =>
    unfold passes
    split
    · rename_i next ran
      exact ih (left_of_run? ran ▸ pass initially)
    · exact pass initially

end Cycle

namespace Machine

variable {machine : Machine}

/-- The machine after a number of cycles, or after the crash of one of them. -/
def advancedBy (machine : Machine) (cycle : Cycle) (count : Nat) : Machine :=
  { machine with
    state := (cycle.passes count machine.state).left
    cycles := machine.cycles + (cycle.passes count machine.state).completed }

/-- The answers that an action can have, each with the machine after it. -/
inductive Step (machine : Machine) (action : Action) : Answer → Machine → Prop where
  | refused (error : ActionError) : machine.Step action (.error error) machine
  | idle (asked : action.cycles? = some 0) : machine.Step action .ok machine
  | installed {program : Program} {cycle : Cycle} (brought : action.program? = some program)
      (accepted : machine.accept program = .ok cycle) :
      machine.Step action .ok (machine.installed program cycle)
  | advanced {count : Nat} {cycle : Cycle} (asked : action.cycles? = some count)
      (present : machine.cycle = some cycle)
      (whole : (cycle.passes count machine.state).completed = count) :
      machine.Step action .ok (machine.advancedBy cycle count)
  | crashed {count : Nat} {cycle : Cycle} (asked : action.cycles? = some count)
      (present : machine.cycle = some cycle)
      (short : (cycle.passes count machine.state).completed < count) :
      machine.Step action .crashed (machine.advancedBy cycle count)
  | written {port : Nat} {value : Binary64} {input : Ports} (named : action = .write port value)
      (stored : machine.state.input.write port value = .ok input) :
      machine.Step action .ok (machine.withInput input)

theorem ofConfig_eq_ok_iff {config : Config} :
    ofConfig config = .ok machine ↔ config.Valid ∧ machine = build config := by
  rw [← Config.validate_eq_ok_iff, ofConfig]
  cases config.validate with
  | error cause => simp
  | ok checked => simp [eq_comm]

theorem run_adapt {ε ε' : Type} (rename : ε → ε') (task : Task ε Unit) (machine : Machine) :
    (ExceptT.adapt rename task).run machine =
      ((task.run machine).1.mapError rename, (task.run machine).2) := rfl

theorem runCycle_eq_run_one (machine : Machine) : runCycle.run machine = (run 1).run machine := by
  rw [run_run_succ]
  obtain ⟨answer, next⟩ := runCycle.run machine
  cases answer <;> rfl

theorem run_run_of_none (absent : machine.cycle = none) (count : Nat) :
    (run count).run machine =
      (if count = 0 then .ok () else .error (.error .notLoaded), machine) := by
  cases count with
  | zero => rfl
  | succ count =>
    rw [run_run_succ, run_runCycle, absent]
    rfl

/-- A machine with a program runs any number of cycles, unless one of them crashes. -/
theorem run_run_of_cycle {cycle : Cycle} (present : machine.cycle = some cycle) (count : Nat) :
    (run count).run machine =
      (if (cycle.passes count machine.state).completed = count then .ok () else .error .crash,
        machine.advancedBy cycle count) := by
  induction count generalizing machine with
  | zero => rfl
  | succ count ih =>
    obtain ⟨config, state, program, installed, cycles⟩ := machine
    obtain rfl : installed = some cycle := present
    rw [run_run_succ, run_runCycle]
    cases ran : cycle.run? state with
    | none => simp [advancedBy, Cycle.passes, ran]
    | some next =>
      simp only [ran, ih, advancedBy, Cycle.passes, Nat.add_right_cancel_iff, Nat.add_assoc,
        Nat.add_comm 1]

theorem answer_eq {ε : Type} (machine : Machine) (failed : ε → Answer) (task : Task ε Unit) :
    machine.answer failed task =
      (match (task.run machine).1 with
        | .ok () => .ok
        | .error cause => failed cause, (task.run machine).2) := by
  unfold answer
  obtain ⟨answer, next⟩ := task.run machine
  cases answer <;> rfl

theorem perform_install (machine : Machine) (program : Program) :
    machine.perform (.install program) =
      match machine.accept program with
      | .error cause => (.error (.load cause), machine)
      | .ok cycle => (.ok, machine.installed program cycle) := by
  rw [perform, answer_eq, run_load]
  cases machine.accept program <;> rfl

theorem perform_cycle_eq_run_one (machine : Machine) :
    machine.perform .cycle = machine.perform (.run 1) := by
  rw [perform, perform, answer_eq, runCycle_eq_run_one, ← answer_eq]

theorem perform_run {cycle : Cycle} (present : machine.cycle = some cycle) (count : Nat) :
    machine.perform (.run count) =
      (if (cycle.passes count machine.state).completed = count then .ok else .crashed,
        machine.advancedBy cycle count) := by
  rw [perform, answer_eq, run_run_of_cycle present]
  by_cases whole : (cycle.passes count machine.state).completed = count <;>
    simp only [whole, if_true, if_false, Answer.ofRun]

theorem perform_run_of_none (absent : machine.cycle = none) (count : Nat) :
    machine.perform (.run count) =
      (if count = 0 then .ok else .error (.run .notLoaded), machine) := by
  rw [perform, answer_eq, run_run_of_none absent]
  cases count <;> rfl

theorem perform_write (machine : Machine) (port : Nat) (value : Binary64) :
    machine.perform (.write port value) =
      if port < machine.state.input.size then
        (.ok, machine.withInput (machine.state.input.store port value))
      else (.error (.port (machine.state.input.outside port)), machine) := by
  rw [perform, answer_eq, run_writeInput]
  by_cases inside : port < machine.state.input.size <;>
    simp only [Ports.write, inside, if_true, if_false, Answer.ofPort]

theorem step_of_load {action : Action} {program : Program}
    (brought : action.program? = some program) :
    machine.Step action (machine.answer .ofLoad (load program)).1
      (machine.answer .ofLoad (load program)).2 := by
  rw [answer_eq, run_load]
  cases accepted : machine.accept program with
  | error cause => exact .refused (.load cause)
  | ok cycle => exact .installed brought accepted

theorem step_of_loadSource {action : Action} {source : ByteSource}
    (brought : action.program? = (Program.ofSource source).toOption) :
    machine.Step action (machine.answer .ofLoad (loadSource source)).1
      (machine.answer .ofLoad (loadSource source)).2 := by
  unfold loadSource
  cases read : Program.ofSource source with
  | error cause => exact .refused (.load (.cannotRead cause))
  | ok program =>
    rw [read] at brought
    exact step_of_load brought

theorem step_of_run {action : Action} {count : Nat} (asked : action.cycles? = some count) :
    machine.Step action (machine.perform (.run count)).1 (machine.perform (.run count)).2 := by
  cases present : machine.cycle with
  | some cycle =>
    rw [perform_run present]
    split
    · rename_i whole
      exact .advanced asked present whole
    · rename_i short
      exact .crashed asked present (Nat.lt_of_le_of_ne (cycle.passes_completed_le _ _) short)
  | none =>
    rw [perform_run_of_none present]
    split
    · rename_i none
      exact .idle (none ▸ asked)
    · exact .refused (.run .notLoaded)

/-- Every action does one of the things that an action can do. -/
theorem step_perform (machine : Machine) (action : Action) :
    machine.Step action (machine.perform action).1 (machine.perform action).2 := by
  cases action with
  | install program => exact step_of_load rfl
  | load source => exact step_of_loadSource rfl
  | loadFile path opened =>
    cases opened with
    | error cause => exact .refused (.load (.cannotOpen path cause))
    | ok source => exact step_of_loadSource rfl
  | cycle =>
    rw [perform_cycle_eq_run_one]
    exact step_of_run rfl
  | run count => exact step_of_run rfl
  | write port value =>
    rw [perform, answer_eq, run_writeInput]
    cases stored : machine.state.input.write port value with
    | error cause => exact .refused (.port cause)
    | ok input => exact .written rfl stored

/-- What an action comes down to, whatever machine it meets. -/
inductive Kind : Action → Prop where
  | installs {action : Action} {program : Program} (brought : action.program? = some program)
      (same : ∀ machine : Machine, machine.perform action = machine.perform (.install program)) :
    Kind action
  | fails {action : Action} (error : ActionError)
      (same : ∀ machine : Machine, machine.perform action = (.error error, machine)) :
    Kind action
  | runs {action : Action} {count : Nat} (asked : action.cycles? = some count)
      (same : ∀ machine : Machine, machine.perform action = machine.perform (.run count)) :
    Kind action
  | writes (port : Nat) (value : Binary64) : Kind (.write port value)

theorem kind_of_loadSource {action : Action} {source : ByteSource}
    (brought : action.program? = (Program.ofSource source).toOption)
    (loads : ∀ machine : Machine,
      machine.perform action = machine.answer .ofLoad (loadSource source)) : Kind action := by
  cases read : Program.ofSource source with
  | error cause =>
    refine .fails (.load (.cannotRead cause)) fun machine => ?_
    rw [loads, loadSource, read]
    rfl
  | ok program =>
    have brings : action.program? = some program := by
      rw [brought, read]
      rfl
    refine .installs brings fun machine => ?_
    rw [loads, loadSource, read]
    rfl

theorem kind (action : Action) : Kind action := by
  cases action with
  | install program => exact .installs rfl fun _ => rfl
  | load source => exact kind_of_loadSource rfl fun _ => rfl
  | loadFile path opened =>
    cases opened with
    | error cause => exact .fails (.load (.cannotOpen path cause)) fun _ => rfl
    | ok source => exact kind_of_loadSource rfl fun _ => rfl
  | cycle => exact .runs rfl perform_cycle_eq_run_one
  | run count => exact .runs rfl fun _ => rfl
  | write port value => exact .writes port value

namespace Step

variable {action : Action} {answer : Answer} {next : Machine}

theorem config (step : machine.Step action answer next) : next.config = machine.config := by
  cases step <;> rfl

/-- An action that fails leaves the machine as it was. -/
theorem eq_of_error {error : ActionError} (step : machine.Step action (.error error) next) :
    next = machine := by
  cases step
  rfl

end Step

/-- What holds at the start of a history and is kept by every step of it holds at its end. -/
theorem kept_after (kept : Machine → Prop) {history : List Action} (initially : kept machine)
    (step_kept : ∀ {current next : Machine} {action : Action} {answer : Answer},
      action ∈ history → current.Step action answer next → kept current → kept next) :
    kept (machine.after history) := by
  induction history generalizing machine with
  | nil => exact initially
  | cons action rest ih =>
    have first : kept (machine.perform action).2 :=
      step_kept List.mem_cons_self (machine.step_perform action) initially
    exact ih first fun member => step_kept (List.mem_cons_of_mem action member)

/-- Two machines that every action of a history answers alike, and leaves related as before, answer
the whole history alike. -/
theorem related_after {other : Machine} (related : Machine → Machine → Prop)
    {history : List Action} (initially : related machine other)
    (step_related : ∀ {x y : Machine} {action : Action}, action ∈ history → related x y →
      (x.perform action).1 = (y.perform action).1 ∧
        related (x.perform action).2 (y.perform action).2) :
    machine.answers history = other.answers history ∧
      related (machine.after history) (other.after history) := by
  induction history generalizing machine other with
  | nil => exact ⟨rfl, initially⟩
  | cons action rest ih =>
    obtain ⟨answer, next⟩ := step_related List.mem_cons_self initially
    obtain ⟨answers, last⟩ := ih next fun member =>
      step_related (List.mem_cons_of_mem action member)
    exact ⟨congrArg₂ List.cons answer answers, last⟩

theorem answers_append (machine : Machine) (first second : List Action) :
    machine.answers (first ++ second) =
      machine.answers first ++ (machine.after first).answers second := by
  induction first generalizing machine with
  | nil => rfl
  | cons action rest ih =>
    rw [List.cons_append, answers, answers, ih]
    rfl

theorem config_after (machine : Machine) (history : List Action) :
    (machine.after history).config = machine.config :=
  kept_after (fun other => other.config = machine.config) rfl fun _ step same =>
    step.config.trans same

theorem Reachable.valid {machine : Machine} (reachable : machine.Reachable) :
    machine.config.Valid := by
  obtain ⟨config, history, valid, rfl⟩ := reachable
  rw [config_after]
  exact valid

/-- An action that fails leaves the whole machine as it was, and every action after it does what
it would have done without it. -/
theorem perform_failed {machine : Machine} {action : Action} {error : ActionError}
    (failed : (machine.perform action).1 = .error error) :
    (machine.perform action).2 = machine ∧
      ∀ later, machine.after (action :: later) = machine.after later ∧
        machine.answers (action :: later) = .error error :: machine.answers later := by
  have step := machine.step_perform action
  rw [failed] at step
  have same : (machine.perform action).2 = machine := step.eq_of_error
  refine ⟨same, fun later => ⟨?_, ?_⟩⟩
  · rw [after_cons, same]
  · rw [answers, failed, same]

/-- A reader that fails after a whole record, on a machine that runs another program. -/
theorem perform_failed_reader :
    let machine := (build .default).after
      [.install ⟨[⟨.ofSingle .input 7, .zero⟩]⟩, .write 7 ⟨0x3FF0000000000000⟩, .cycle]
    let action := Action.load (.portion (List.replicate 12 1) (.failing .isDirectory))
    machine.lifecycle = .ready ∧
      (machine.perform action).1 = .error (.load (.cannotRead .isDirectory)) ∧
      (machine.perform action).2 = machine ∧
      ∀ later, machine.after (action :: later) = machine.after later ∧
        machine.answers (action :: later) =
          .error (.load (.cannotRead .isDirectory)) :: machine.answers later :=
  ⟨rfl, rfl, perform_failed rfl⟩

end Machine

end Dataflow
