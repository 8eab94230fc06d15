import Dataflow.Proofs.Steps

set_option autoImplicit false

namespace Dataflow

structure State.Fits (state : State) (config : Config) : Prop where
  memory : state.memory.size = config.memorySlots
  input : state.input.size = config.portCount
  output : state.output.size = config.portCount

namespace State

theorem fits_ofSizes (config : Config) :
    (ofSizes config.memorySlots config.portCount).Fits config := ⟨rfl, rfl, rfl⟩

theorem Fits.limit {state : State} {config : Config} (fits : state.Fits config) (bank : Bank) :
    state.limit bank = match bank with
      | .memory => config.memorySlots
      | .port => config.portCount := by
  cases bank with
  | memory => exact fits.memory
  | port => simp only [State.limit, fits.input, fits.output, Nat.min_self]

theorem Fits.limit_eq {state other : State} {config : Config} (fits : state.Fits config)
    (otherFits : other.Fits config) : state.limit = other.limit := by
  funext bank
  rw [fits.limit, otherFits.limit]

theorem Fits.store {state : State} {config : Config} (fits : state.Fits config) (slot : Nat)
    (value : Binary64) : (state.store slot value).Fits config :=
  ⟨(size_store state slot value).trans fits.memory, fits.input, fits.output⟩

theorem Fits.storeOutput {state : State} {config : Config} (fits : state.Fits config) (port : Nat)
    (value : Binary64) : { state with output := state.output.store port value }.Fits config :=
  ⟨fits.memory, fits.input, (Ports.size_store state.output port value).trans fits.output⟩

theorem Fits.reset {state : State} {config : Config} (fits : state.Fits config) :
    state.reset.Fits config :=
  ⟨fits.memory, fits.input, fits.output⟩

theorem Fits.install {state : State} {config : Config} (fits : state.Fits config)
    (program : Program) : (state.install program).Fits config := by
  unfold State.install
  induction program.placed generalizing state with
  | nil => exact fits
  | cons placed rest ih => exact ih (fits.store placed.2 placed.1.constant)

end State

theorem State.Fits.apply {state : State} {config : Config} (fits : state.Fits config)
    (operation : Operation) : (operation.apply state).Fits config := by
  cases operation with
  | output port source => exact fits.storeOutput port (state.slot source)
  | cmpz mode source => exact ⟨fits.memory, fits.input, fits.output⟩
  | div slot a b =>
    simp only [Operation.apply]
    split
    · exact fits
    · exact fits.store slot _
  | _ => exact fits.store _ _

theorem State.Fits.run {state : State} {config : Config} (fits : state.Fits config)
    (cycle : Cycle) : (cycle.run state).Fits config := by
  unfold Cycle.run
  induction cycle.operations generalizing state with
  | nil => exact fits
  | cons operation rest ih => exact ih (fits.apply operation)

theorem State.Fits.left {state : State} {config : Config} (fits : state.Fits config)
    (cycle : Cycle) : (cycle.left state).Fits config :=
  Cycle.leftBy_induction (fun state => state.Fits config)
    (fun operation _ _ fits => fits.apply operation) fits

namespace Machine

variable {machine next : Machine}

def Sized (machine : Machine) : Prop := machine.state.Fits machine.config

theorem sized_build (config : Config) : (build config).Sized := State.fits_ofSizes config

theorem Sized.installed (sized : machine.Sized) (program : Program) (cycle : Cycle) :
    (machine.installed program cycle).Sized := by
  unfold Machine.installed
  dsimp only [Sized]
  split
  · exact (State.Fits.reset sized).install program
  · exact State.Fits.install sized program

theorem Sized.advancedBy (sized : machine.Sized) (cycle : Cycle) (count : Nat) :
    (machine.advancedBy cycle count).Sized :=
  Cycle.passes_induction (fun state => state.Fits machine.config)
    (fun operation _ _ fits => fits.apply operation) sized count

theorem Sized.withInput (sized : machine.Sized) {port : Nat} {value : Binary64} {input : Ports}
    (stored : machine.state.input.write port value = .ok input) :
    (machine.withInput input).Sized := by
  unfold Ports.write at stored
  split at stored
  · cases stored
    exact ⟨sized.memory, (Ports.size_store _ port value).trans sized.input, sized.output⟩
  · cases stored

/-- Whatever a host does, the banks keep the sizes of the configuration. -/
theorem Step.sized {action : Action} {answer : Answer}
    (step : machine.Step action answer next) (sized : machine.Sized) : next.Sized := by
  cases step with
  | refused error => exact sized
  | idle asked => exact sized
  | installed brought accepted => exact sized.installed _ _
  | advanced asked present whole | crashed asked present short => exact sized.advancedBy _ _
  | written named stored => exact sized.withInput stored

theorem Sized.after (sized : machine.Sized) (history : List Action) :
    (machine.after history).Sized :=
  kept_after Sized sized fun _ => Step.sized

end Machine

end Dataflow
