import Dataflow.Proofs.Bounds
import Dataflow.Proofs.Histories
import Mathlib.Algebra.Ring.Nat

set_option autoImplicit false

namespace Dataflow

namespace Machine

variable {machine : Machine}

def isAcceptedLoad (action : Action) (answer : Answer) : Bool := action.isLoad && answer.isOk

def completed (machine : Machine) (action : Action) : Answer → Nat
  | .ok => action.cycles?.getD 0
  | .error _ => 0
  | .crashed =>
    match action.cycles?, machine.cycle with
    | some count, some cycle => (cycle.passes count machine.state).completed
    | _, _ => 0

/-- For every action of a history, whether it is a load that succeeds, and the number of cycles that
it completes. -/
def counts (machine : Machine) (history : List Action) : List (Bool × Nat) :=
  machine.log
    (fun machine action =>
      let answer := (machine.perform action).1
      [(isAcceptedLoad action answer, machine.completed action answer)])
    history

/-- The number of cycles that a history completes behind its last load that succeeds. -/
def completedIn (machine : Machine) (history : List Action) : Nat :=
  (((machine.counts history).rtakeWhile fun (loads, _) => !loads).map Prod.snd).sum

/-- The counter starts over at a load that succeeds, and counts every completed cycle. -/
theorem Step.cycles_eq {action : Action} {answer : Answer} {next : Machine}
    (step : machine.Step action answer next) :
    next.cycles = if isAcceptedLoad action answer then 0
      else machine.cycles + machine.completed action answer := by
  cases step with
  | refused error => simp [isAcceptedLoad, completed, Answer.isOk]
  | idle asked => simp [isAcceptedLoad, completed, Action.isLoad_of_cycles? asked, asked]
  | installed brought accepted =>
    simp [isAcceptedLoad, Action.isLoad_of_program? brought, Machine.installed, Answer.isOk]
  | advanced asked present whole =>
    simp [isAcceptedLoad, completed, Action.isLoad_of_cycles? asked, asked, advancedBy, whole]
  | crashed asked present short =>
    simp [isAcceptedLoad, completed, Action.isLoad_of_cycles? asked, asked, present, advancedBy]
  | written named stored =>
    subst named
    simp [isAcceptedLoad, completed, Action.isLoad, Action.cycles?, withInput]

theorem cycles_after (config : Config) (history : List Action) :
    ((build config).after history).cycles = (build config).completedIn history := by
  have counted : ((build config).after history).cycles = ((build config).counts history).foldl
      (fun count (loads, more) => if loads then 0 else count + more) 0 := by
    refine part_after Machine.cycles ?_ (wellFormed_build config) rfl history
    intro machine _ _ action
    exact (machine.step_perform action).cycles_eq
  rw [counted, foldl_startsOver Prod.fst (fun count entry => count + entry.2), completedIn,
    List.sum_eq_foldl, List.foldl_map]

theorem lifecycle_eq_created_iff : machine.lifecycle = .created ↔ machine.cycle = none := by
  cases present : machine.cycle <;> cases counted : machine.cycles <;>
    simp [lifecycle, present, counted]

theorem lifecycle_eq_loaded_iff :
    machine.lifecycle = .loaded ↔ machine.cycle.isSome = true ∧ machine.cycles = 0 := by
  cases present : machine.cycle <;> cases counted : machine.cycles <;>
    simp [lifecycle, present, counted]

theorem lifecycle_eq_ready_iff :
    machine.lifecycle = .ready ↔ machine.cycle.isSome = true ∧ 0 < machine.cycles := by
  cases present : machine.cycle <;> cases counted : machine.cycles <;>
    simp [lifecycle, present, counted]

theorem exists_cycle_of_lifecycle (started : machine.lifecycle ≠ .created) :
    ∃ cycle, machine.cycle = some cycle :=
  Option.ne_none_iff_exists'.mp fun absent => started (lifecycle_eq_created_iff.mpr absent)

theorem perform_run_succ (machine : Machine) (count : Nat) :
    machine.perform (.run (count + 1)) =
      match machine.perform .cycle with
      | (.ok, next) => next.perform (.run count)
      | stopped => stopped := by
  simp only [perform, answer_eq, run_run_succ]
  obtain ⟨result, next⟩ := runCycle.run machine
  cases result with
  | ok done => rfl
  | error halt => cases halt <;> rfl

theorem perform_run_add (machine : Machine) (first second : Nat) :
    machine.perform (.run (first + second)) =
      match machine.perform (.run first) with
      | (.ok, next) => next.perform (.run second)
      | stopped => stopped := by
  induction first generalizing machine with
  | zero =>
    rw [Nat.zero_add]
    rfl
  | succ first ih =>
    rw [Nat.add_right_comm, perform_run_succ, perform_run_succ]
    obtain ⟨answer, next⟩ := machine.perform .cycle
    cases answer with
    | ok => exact ih next
    | error cause => rfl
    | crashed => rfl

/-- A run that succeeds is single cycles, one after the other. -/
theorem perform_run_eq_cycles {count : Nat}
    (succeeds : (machine.perform (.run count)).1 = .ok) :
    machine.perform (.run count) = (.ok, machine.after (List.replicate count .cycle)) ∧
      machine.answers (List.replicate count .cycle) = List.replicate count .ok := by
  induction count generalizing machine with
  | zero => exact ⟨rfl, rfl⟩
  | succ count ih =>
    rw [perform_run_succ] at succeeds ⊢
    rw [List.replicate_succ, after_cons, Machine.answers]
    generalize machine.perform .cycle = result at succeeds ⊢
    obtain ⟨answer, next⟩ := result
    cases answer with
    | ok =>
      obtain ⟨run, answers⟩ := ih succeeds
      exact ⟨run, congrArg (Answer.ok :: ·) answers⟩
    | error cause => cases succeeds
    | crashed => cases succeeds

/-- The stage tells whether a load has succeeded and whether a cycle was completed since the last
one that did, and the counter tells how many were. -/
structure ReportsHistory (fresh : Machine) (history : List Action) : Prop where
  created : (fresh.after history).lifecycle = .created ↔ fresh.loadsIn history = false
  loaded : (fresh.after history).lifecycle = .loaded ↔
    fresh.loadsIn history = true ∧ fresh.completedIn history = 0
  ready : (fresh.after history).lifecycle = .ready ↔
    fresh.loadsIn history = true ∧ 0 < fresh.completedIn history
  cycles : (fresh.after history).cycles = fresh.completedIn history

structure RunsByStage (machine : Machine) : Prop where
  cycle : (runCycle.run machine).1 = .error (.error .notLoaded) ↔ machine.lifecycle = .created
  refused : ∀ count, 0 < count →
    (((run count).run machine).1 = .error (.error .notLoaded) ↔ machine.lifecycle = .created)
  /-- In place of a run that succeeds every single cycle does, and they leave the same machine. -/
  single : ∀ count, (machine.perform (.run count)).1 = .ok →
    machine.perform (.run count) = (.ok, machine.after (List.replicate count .cycle)) ∧
      machine.answers (List.replicate count .cycle) = List.replicate count .ok
  split : ∀ first second, (machine.perform (.run first)).1 = .ok →
    machine.perform (.run (first + second)) =
      (machine.perform (.run first)).2.perform (.run second)
  stays : machine.lifecycle ≠ .created → ∀ later, (machine.after later).lifecycle ≠ .created

theorem run_eq_notLoaded_iff {count : Nat} (positive : 0 < count) :
    ((run count).run machine).1 = .error (.error .notLoaded) ↔ machine.lifecycle = .created := by
  rw [lifecycle_eq_created_iff]
  cases present : machine.cycle with
  | some cycle =>
    rw [run_run_of_cycle present]
    split <;> simp
  | none => simp [run_run_of_none present, Nat.ne_of_gt positive]

theorem runsByStage (machine : Machine) : machine.RunsByStage where
  cycle := by
    rw [runCycle_eq_run_one]
    exact run_eq_notLoaded_iff Nat.one_pos
  refused count positive := run_eq_notLoaded_iff positive
  single count := perform_run_eq_cycles
  split first second succeeds := by
    rw [perform_run_add]
    generalize machine.perform (.run first) = result at succeeds ⊢
    obtain ⟨answer, next⟩ := result
    obtain rfl : answer = .ok := succeeds
    rfl
  stays started later := by
    obtain ⟨cycle, present⟩ := exists_cycle_of_lifecycle started
    have kept : (machine.after later).cycle.isSome = true := by
      rw [isSome_cycle_after, present]
      rfl
    intro created
    rw [lifecycle_eq_created_iff.mp created] at kept
    cases kept

theorem Coherent.run_succeeds (coherent : machine.Coherent) {count : Nat}
    (ready : machine.lifecycle ≠ .created ∨ count = 0) :
    (machine.perform (.run count)).1 = .ok := by
  rcases ready with started | rfl
  · obtain ⟨cycle, present⟩ := exists_cycle_of_lifecycle started
    rw [perform_run present, coherent.passes_eq present, if_pos rfl]
  · rfl

/-- After every history the stage of a machine and its counter tell which loads succeeded and how
many cycles were completed since, and the stage decides whether a run is refused. If all programs
were typed, a run that is not refused succeeds. -/
theorem lifecycle_after {config : Config} {fresh : Machine} (made : ofConfig config = .ok fresh)
    (history : List Action) :
    fresh.ReportsHistory history ∧ (fresh.after history).RunsByStage ∧
      ((∀ action ∈ history, action.Typed) →
        ∀ count, (fresh.after history).lifecycle ≠ .created ∨ count = 0 →
          ((fresh.after history).perform (.run count)).1 = .ok) := by
  obtain ⟨-, rfl⟩ := ofConfig_eq_ok_iff.mp made
  refine ⟨?_, runsByStage _, fun typed _ => ((coherent_build config).after typed).run_succeeds⟩
  have installed : ((build config).after history).cycle.isSome =
      (build config).loadsIn history := by
    rw [isSome_cycle_after]
    rfl
  have counted := cycles_after config history
  refine ⟨?_, ?_, ?_, counted⟩
  · rw [lifecycle_eq_created_iff, ← installed, Option.isSome_eq_false_iff,
      Option.isNone_iff_eq_none]
  · rw [lifecycle_eq_loaded_iff, installed, counted]
  · rw [lifecycle_eq_ready_iff, installed, counted]

/-- Cycles that nothing can run, a program that is refused, and two loads with cycles behind both:
only those behind the second load count. -/
theorem lifecycle_after_reload :
    let fresh := build .default
    let program : Program := ⟨[⟨.ofSingle .input 7, .zero⟩]⟩
    let outside : Program := ⟨[⟨.ofSingle .input 32768, .zero⟩]⟩
    let history : List Action :=
      [.run 3, .install program, .run 2, .install program, .cycle, .install outside, .run 4]
    let machine := fresh.after history
    fresh.completedIn history = 5 ∧ machine.lifecycle = .ready ∧
      fresh.ReportsHistory history ∧ machine.RunsByStage ∧
      ∀ count, (machine.perform (.run count)).1 = .ok := by
  intro fresh program outside history machine
  have made : ofConfig .default = .ok fresh := rfl
  have ready : machine.lifecycle = .ready := by decide +kernel
  obtain ⟨reports, runs, succeeds⟩ := lifecycle_after made history
  refine ⟨by decide +kernel, ready, reports, runs, fun count => ?_⟩
  refine succeeds (by decide) count (Or.inl ?_)
  rw [show fresh.after history = machine from rfl, ready]
  exact nofun

/-- A line that names a slot where an output takes a port. The slot is checked against the memory,
which has it, and used as the number of a port that there is not: the load succeeds and the first
run crashes. -/
theorem lifecycle_after_mistyped :
    let config : Config := ⟨32768, 16384, false⟩
    let fresh := build config
    let program : Program := ⟨[⟨.dual .output ⟨.memory, 20000⟩ ⟨.memory, 0⟩, .zero⟩]⟩
    let machine := fresh.after [.install program]
    ofConfig config = .ok fresh ∧ fresh.answers [.install program] = [.ok] ∧
      machine.lifecycle = .loaded ∧ (machine.perform (.run 1)).1 = .crashed := by
  decide +kernel

end Machine

end Dataflow
