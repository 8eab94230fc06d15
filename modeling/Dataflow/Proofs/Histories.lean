import Dataflow.Proofs.Lowering
import Dataflow.Proofs.Reloading
import Mathlib.Data.List.DropRight

set_option autoImplicit false

namespace Dataflow

/-- A fold that starts over at some items depends on the items behind the last of them only. -/
theorem foldl_startsOver {α β : Type} (startsOver : α → Bool) (step : β → α → β) (start : β)
    (items : List α) :
    items.foldl (fun value item => if startsOver item then start else step value item) start =
      (items.rtakeWhile fun item => !startsOver item).foldl step start := by
  -- From the back, since an item that starts over makes all items before it count for nothing.
  induction items using List.reverseRecOn with
  | nil => rfl
  | append_singleton items item ih =>
    rw [List.foldl_append, List.rtakeWhile_concat, ih, List.foldl_cons, List.foldl_nil]
    cases startsOver item with
    | true => rfl
    | false => exact (List.foldl_concat step start item _).symm

namespace Machine

variable {machine next : Machine}

/-- A machine runs the program that it names. Without a cycle it is a new machine, but for its
input ports. -/
structure WellFormed (machine : Machine) : Prop where
  sized : machine.Sized
  resolved : ∀ cycle, machine.cycle = some cycle →
    ∃ limit, Cycle.ofProgram limit machine.program = .ok cycle
  new : machine.cycle = none → machine = (build machine.config).withInput machine.state.input

theorem wellFormed_build (config : Config) : (build config).WellFormed where
  sized := sized_build config
  resolved _ present := by cases present
  new _ := rfl

theorem Step.wellFormed {action : Action} {answer : Answer}
    (step : machine.Step action answer next) (wellFormed : machine.WellFormed) :
    next.WellFormed := by
  have sized : next.Sized := step.sized wellFormed.sized
  cases step with
  | refused error => exact wellFormed
  | idle asked => exact wellFormed
  | @installed program cycle brought accepted =>
    obtain ⟨-, -, resolved⟩ := accept_eq_ok_iff.mp accepted
    refine ⟨sized, fun other same => ?_, fun absent => by cases absent⟩
    obtain rfl : cycle = other := Option.some.inj same
    exact ⟨machine.state.limit, resolved⟩
  | advanced asked present whole | crashed asked present short =>
    refine ⟨sized, wellFormed.resolved, fun absent => ?_⟩
    cases present.symm.trans absent
  | @written port value input named stored =>
    refine ⟨sized, wellFormed.resolved, fun absent => ?_⟩
    exact congrArg (·.withInput input) (wellFormed.new absent)

theorem WellFormed.after (wellFormed : machine.WellFormed) (history : List Action) :
    (machine.after history).WellFormed :=
  kept_after WellFormed wellFormed fun _ => Step.wellFormed

/-- What the actions of a history record, in order. -/
def log {α : Type} (machine : Machine) (record : Machine → Action → List α) :
    List Action → List α
  | [] => []
  | action :: rest => record machine action ++ (machine.perform action).2.log record rest

/-- A part of a machine that every action changes by what it records is changed by a history by
the log of the history. -/
theorem part_after {α β : Type} (part : Machine → β) {record : Machine → Action → List α}
    {change : β → α → β} {config : Config}
    (one : ∀ {machine : Machine}, machine.WellFormed → machine.config = config → ∀ action,
      part (machine.perform action).2 = (record machine action).foldl change (part machine))
    (wellFormed : machine.WellFormed) (same : machine.config = config) (history : List Action) :
    part (machine.after history) = (machine.log record history).foldl change (part machine) := by
  induction history generalizing machine with
  | nil => rfl
  | cons action rest ih =>
    have step := machine.step_perform action
    rw [after_cons, ih (step.wellFormed wellFormed) (step.config.trans same), log,
      List.foldl_append, one wellFormed same action]

end Machine

end Dataflow
