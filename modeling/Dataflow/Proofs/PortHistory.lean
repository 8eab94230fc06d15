import Dataflow.Proofs.Histories
import Dataflow.Proofs.SinglePass

set_option autoImplicit false

namespace Dataflow

inductive PortEvent where
  /-- A load succeeded; it replaced a program, or it was the first one. -/
  | loaded (replaced : Bool)
  /-- The host wrote a value to an input port. -/
  | written (port : Nat) (value : Binary64)
  /-- A line stored a value in an output port. -/
  | putOut (port : Nat) (value : Binary64)
deriving DecidableEq

namespace PortEvent

def isLoad : PortEvent → Bool
  | loaded _ => true
  | written _ _ | putOut _ _ => false

def isReplacement : PortEvent → Bool
  | loaded replaced => replaced
  | written _ _ | putOut _ _ => false

/-- The value that the host wrote to a port. -/
def writtenTo? (port : Nat) : PortEvent → Option Binary64
  | written other value => if other = port then some value else none
  | loaded _ | putOut _ _ => none

/-- The value that a line stored in a port. -/
def putOutTo? (port : Nat) : PortEvent → Option Binary64
  | putOut other value => if other = port then some value else none
  | loaded _ | written _ _ => none

/-- The last value that events give, behind the last event that clears; zero if there is none. -/
def lastValue (clears : PortEvent → Bool) (value? : PortEvent → Option Binary64)
    (events : List PortEvent) : Binary64 :=
  ((events.rtakeWhile fun event => !clears event).filterMap value?).getLastD .zero

/-- The value that the host wrote last to a port since a load replaced a program. -/
def lastWritten (port : Nat) : List PortEvent → Binary64 :=
  lastValue isReplacement (writtenTo? port)

/-- The value that a line stored last in a port since the last load. -/
def lastPutOut (port : Nat) : List PortEvent → Binary64 :=
  lastValue isLoad (putOutTo? port)

/-- The content of a port after an event, given its content before. -/
def change (clears : PortEvent → Bool) (value? : PortEvent → Option Binary64)
    (content : Binary64) (event : PortEvent) : Binary64 :=
  if clears event then .zero else (value? event).getD content

def inputAfter (port : Nat) : Binary64 → PortEvent → Binary64 :=
  change isReplacement (writtenTo? port)

def outputAfter (port : Nat) : Binary64 → PortEvent → Binary64 :=
  change isLoad (putOutTo? port)

theorem foldl_change (clears : PortEvent → Bool) (value? : PortEvent → Option Binary64)
    (events : List PortEvent) :
    events.foldl (change clears value?) .zero = lastValue clears value? events := by
  have last (items : List PortEvent) :
      items.foldl (fun content event => (value? event).getD content) .zero =
        (items.filterMap value?).getLastD .zero := by
    induction items using List.reverseRecOn with
    | nil => rfl
    | append_singleton items item ih =>
      rw [List.foldl_append, List.filterMap_append, ih]
      cases given : value? item <;> simp [given]
  rw [lastValue, ← last]
  exact foldl_startsOver clears _ Binary64.zero events

theorem inputAfter_written (port other : Nat) (value content : Binary64) :
    inputAfter port content (.written other value) = if other = port then value else content := by
  by_cases same : other = port <;> simp [inputAfter, change, isReplacement, writtenTo?, same]

theorem outputAfter_putOut (port other : Nat) (value content : Binary64) :
    outputAfter port content (.putOut other value) = if other = port then value else content := by
  by_cases same : other = port <;> simp [outputAfter, change, isLoad, putOutTo?, same]

end PortEvent

theorem Ports.value_store_of_lt {ports : Ports} {other : Nat} (inside : other < ports.size)
    (port : Nat) (value : Binary64) :
    (ports.store port value).value other = if port = other then value else ports.value other := by
  by_cases same : port = other
  · subst same
    rw [value_store _ _ _ _ inside, if_pos rfl]
  · rw [if_neg same]
    exact ports.cells.get_set_ne value (Ne.symm same)

/-- What a line does to the ports when its turn comes in a state. -/
def Line.portEvents (line : Line) (state : State) : List PortEvent :=
  match line.instruction with
  | .dual .output a b => [.putOut a.number (state.slot b.number)]
  | _ => []

/-- The state after a line, if it accesses only what the banks have. -/
def Line.run? (line : Line) (slot : Nat) (state : State) : Option State :=
  match line.operation? slot with
  | some operation => operation.run? state
  | none => some state

/-- The state after all lines, in order, if they access only what the banks have. -/
def Program.run? (program : Program) (state : State) : Option State :=
  program.placed.foldlM (fun state (line, slot) => line.run? slot state) state

theorem Cycle.run?_eq_run? {limit : Bank → Nat} {program : Program} {cycle : Cycle}
    (resolved : ofProgram limit program = .ok cycle) (state : State) :
    cycle.run? state = program.run? state := by
  rw [run?, (ofProgram_eq_ok_iff.mp resolved).2, List.foldlM_filterMap, Program.run?]
  congr 1
  funext state ⟨line, slot⟩
  simp only [Line.run?]
  cases line.operation? slot <;> rfl

theorem Line.input_portEvents (line : Line) (slot port : Nat) (state : State) :
    (line.interpret slot state).input.value port =
      (line.portEvents state).foldl (PortEvent.inputAfter port) (state.input.value port) := by
  rw [input_interpret, portEvents]
  split <;> rfl

theorem Line.output_portEvents (line : Line) (slot : Nat) {port : Nat} {state : State}
    (inside : port < state.output.size) :
    (line.interpret slot state).output.value port =
      (line.portEvents state).foldl (PortEvent.outputAfter port) (state.output.value port) := by
  obtain ⟨instruction, constant⟩ := line
  cases instruction with
  | dual operation a b =>
    cases operation with
    | output =>
      simp only [interpret, DualOperation.interpret, Ports.value_store_of_lt inside, portEvents,
        List.foldl_cons, List.foldl_nil, PortEvent.outputAfter_putOut]
    | div =>
      simp only [interpret, DualOperation.interpret]
      split <;> rfl
    | _ => rfl
  | single operation mode unused immediate source =>
    cases operation with
    | cmpz =>
      simp only [interpret, SingleOperation.interpret]
      cases CompareMode.ofCode? mode <;> rfl
    | _ => rfl
  | invalid word => rfl

namespace Program

/-- What lines do to the ports, one after the other, up to a crash. -/
def lineEvents : List (Line × Nat) → State → List PortEvent
  | [], _ => []
  | (line, slot) :: rest, state =>
    match line.run? slot state with
    | some next => line.portEvents state ++ lineEvents rest next
    | none => []

/-- What a number of passes over a program does to the ports, up to a crash. -/
def portEvents (program : Program) : Nat → State → List PortEvent
  | 0, _ => []
  | count + 1, state =>
    lineEvents program.placed state ++
      match program.run? state with
      | some next => program.portEvents count next
      | none => []

variable {config : Config} (part : State → Binary64) {change : Binary64 → PortEvent → Binary64}

/-- What the operations of lines do to a part of the state, if every line changes it by its
events. -/
theorem part_leftBy (one : ∀ (line : Line) (slot : Nat) (state : State), state.Fits config →
      part (line.interpret slot state) = (line.portEvents state).foldl change (part state))
    (placed : List (Line × Nat)) {state : State} (fits : state.Fits config) :
    part (Cycle.leftBy (placed.filterMap fun (line, slot) => line.operation? slot) state) =
      (lineEvents placed state).foldl change (part state) := by
  induction placed generalizing state with
  | nil => rfl
  | cons placed rest ih =>
    obtain ⟨line, slot⟩ := placed
    have lines := Cycle.apply_operation? line slot state
    have events := one line slot state fits
    simp only [List.filterMap_cons, lineEvents, Line.run?]
    cases lowered : line.operation? slot with
    | none =>
      rw [lowered] at lines
      rw [List.foldl_append, ← events, ← lines]
      exact ih fits
    | some operation =>
      rw [lowered] at lines
      simp only [Cycle.leftBy]
      cases ran : operation.run? state with
      | none => rfl
      | some next =>
        obtain ⟨-, rfl⟩ := Operation.run?_eq_some_iff.mp ran
        rw [List.foldl_append, ← events, ← lines]
        exact ih (fits.apply operation)

/-- The same for a number of passes. -/
theorem part_passes (one : ∀ (line : Line) (slot : Nat) (state : State), state.Fits config →
      part (line.interpret slot state) = (line.portEvents state).foldl change (part state))
    {limit : Bank → Nat} {program : Program} {cycle : Cycle}
    (resolved : Cycle.ofProgram limit program = .ok cycle) (count : Nat) {state : State}
    (fits : state.Fits config) :
    part (cycle.passes count state).left =
      (program.portEvents count state).foldl change (part state) := by
  have pass {state : State} (fits : state.Fits config) :
      part (cycle.left state) = (lineEvents program.placed state).foldl change (part state) := by
    rw [Cycle.left, (Cycle.ofProgram_eq_ok_iff.mp resolved).2]
    exact part_leftBy part one program.placed fits
  induction count generalizing state with
  | zero => rfl
  | succ count ih =>
    rw [portEvents, List.foldl_append, ← pass fits, Cycle.passes, Cycle.run?_eq_run? resolved]
    cases ran : program.run? state with
    | none => rfl
    | some next =>
      rw [← Cycle.run?_eq_run? resolved] at ran
      obtain rfl := Cycle.left_of_run? ran
      exact ih (Cycle.leftBy_induction (fun state => state.Fits config)
        (fun operation _ _ fits => fits.apply operation) fits)

end Program

/-- What an action with this answer does to the ports of a machine. Every load that succeeds clears
the output bank, but only one that replaces a program clears the input bank. -/
def Action.portEvents (action : Action) (machine : Machine) : Answer → List PortEvent
  | .error _ => []
  | .ok | .crashed =>
    match action with
    | install _ | load _ | loadFile _ _ => [.loaded machine.cycle.isSome]
    | cycle => machine.program.portEvents 1 machine.state
    | run count => machine.program.portEvents count machine.state
    | write port value => [.written port value]

theorem Action.portEvents_of_program? {action : Action} {program : Program}
    (brought : action.program? = some program) (machine : Machine) :
    action.portEvents machine .ok = [.loaded machine.cycle.isSome] := by
  cases action with
  | install _ | load _ | loadFile _ _ => rfl
  | cycle | run _ | write _ _ => cases brought

theorem Action.portEvents_of_cycles? {action : Action} {count : Nat}
    (asked : action.cycles? = some count) (machine : Machine) :
    action.portEvents machine .ok = machine.program.portEvents count machine.state ∧
      action.portEvents machine .crashed = machine.program.portEvents count machine.state := by
  cases action with
  | install _ | load _ | loadFile _ _ | write _ _ => cases asked
  | cycle | run _ =>
    cases asked
    exact ⟨rfl, rfl⟩

theorem State.frame_install (state : State) (program : Program) :
    (state.install program).input = state.input ∧
      (state.install program).output = state.output ∧
      (state.install program).status = state.status := by
  unfold install
  induction program.placed generalizing state with
  | nil => exact ⟨rfl, rfl, rfl⟩
  | cons placed rest ih => exact ih (state.store placed.2 placed.1.constant)

namespace Machine

def portLog (machine : Machine) (history : List Action) : List PortEvent :=
  machine.log (fun machine action => action.portEvents machine (machine.perform action).1) history

variable {machine next : Machine} {action : Action} {answer : Answer}

theorem Step.input_value (step : machine.Step action answer next) (wellFormed : machine.WellFormed)
    {port : Nat} (inside : port < machine.config.portCount) :
    next.state.input.value port =
      (action.portEvents machine answer).foldl (PortEvent.inputAfter port)
        (machine.state.input.value port) := by
  cases step with
  | refused error => rfl
  | idle asked =>
    rw [(Action.portEvents_of_cycles? asked machine).1]
    rfl
  | installed brought accepted =>
    rw [Action.portEvents_of_program? brought, Machine.installed, (State.frame_install _ _).1]
    cases machine.cycle with
    | none => rfl
    | some previous => exact Cells.get_ofCount _ _
  | advanced asked present whole | crashed asked present short =>
    obtain ⟨limit, resolved⟩ := wellFormed.resolved _ present
    simp only [Action.portEvents_of_cycles? asked, advancedBy]
    exact Program.part_passes (fun state => state.input.value port)
      (fun line slot state _ => line.input_portEvents slot port state) resolved _ wellFormed.sized
  | written named stored =>
    subst named
    unfold Ports.write at stored
    split at stored
    · cases stored
      have size : port < machine.state.input.size := wellFormed.sized.input ▸ inside
      simp only [withInput, Ports.value_store_of_lt size, Action.portEvents, List.foldl_cons,
        List.foldl_nil, PortEvent.inputAfter_written]
    · cases stored

theorem Step.output_value (step : machine.Step action answer next)
    (wellFormed : machine.WellFormed) {port : Nat} (inside : port < machine.config.portCount) :
    next.state.output.value port =
      (action.portEvents machine answer).foldl (PortEvent.outputAfter port)
        (machine.state.output.value port) := by
  cases step with
  | refused error => rfl
  | idle asked =>
    rw [(Action.portEvents_of_cycles? asked machine).1]
    rfl
  | installed brought accepted =>
    rw [Action.portEvents_of_program? brought, Machine.installed, (State.frame_install _ _).2.1]
    cases present : machine.cycle with
    | none =>
      -- Nothing was put out before the first program.
      rw [wellFormed.new present]
      exact Cells.get_ofCount _ _
    | some previous => exact Cells.get_ofCount _ _
  | advanced asked present whole | crashed asked present short =>
    obtain ⟨limit, resolved⟩ := wellFormed.resolved _ present
    simp only [Action.portEvents_of_cycles? asked, advancedBy]
    exact Program.part_passes (fun state => state.output.value port)
      (fun line slot state fits => line.output_portEvents slot (fits.output ▸ inside)) resolved _
      wellFormed.sized
  | written named stored =>
    subst named
    rfl

/-- After every history, an input port holds what the host wrote there last since a load replaced
a program, and an output port what a line stored there last since the last load. A port that the
banks do not have is refused, and refusing changes nothing. -/
theorem after_ports {config : Config} {fresh : Machine} (made : ofConfig config = .ok fresh)
    (history : List Action) (port : Nat) :
    let machine := fresh.after history
    let events := fresh.portLog history
    (port < config.portCount →
      machine.readInput port = .ok (PortEvent.lastWritten port events) ∧
        machine.readOutput port = .ok (PortEvent.lastPutOut port events) ∧
        ∀ value, (machine.perform (.write port value)).1 = .ok) ∧
      (config.portCount ≤ port →
        machine.readInput port = .error (.outOfRange port config.portCount) ∧
          machine.readOutput port = .error (.outOfRange port config.portCount) ∧
          ∀ value, machine.perform (.write port value) =
            (.error (.port (.outOfRange port config.portCount)), machine)) := by
  obtain ⟨-, rfl⟩ := ofConfig_eq_ok_iff.mp made
  intro machine events
  have same : machine.config = config := config_after (build config) history
  have sized : machine.state.Fits config := same ▸ (sized_build config).after history
  have start : (build config).WellFormed := wellFormed_build config
  refine ⟨fun inside => ?_, fun outside => ?_⟩
  · have input : machine.state.input.value port = PortEvent.lastWritten port events := by
      rw [PortEvent.lastWritten, ← PortEvent.foldl_change]
      exact part_after (fun machine => machine.state.input.value port)
        (fun {machine} wellFormed same action =>
          (machine.step_perform action).input_value wellFormed (same ▸ inside)) start rfl history
    have output : machine.state.output.value port = PortEvent.lastPutOut port events := by
      rw [PortEvent.lastPutOut, ← PortEvent.foldl_change]
      exact part_after (fun machine => machine.state.output.value port)
        (fun {machine} wellFormed same action =>
          (machine.step_perform action).output_value wellFormed (same ▸ inside)) start rfl history
    simp only [readInput, readOutput, Ports.read, sized.input, sized.output, inside, if_true,
      input, output, perform_write, implies_true, and_self]
  · have missing : ¬ port < config.portCount := Nat.not_lt.mpr outside
    simp only [readInput, readOutput, Ports.read, sized.input, sized.output, missing, if_false,
      perform_write, Ports.outside, implies_true, and_self]

/-- One port number in both banks, an input from before the first load, two outputs to one port in
a cycle, and a program that is refused. -/
theorem after_ports_shared :
    let one : Binary64 := ⟨0x3FF0000000000000⟩
    let two : Binary64 := ⟨0x4000000000000000⟩
    let program : Program :=
      ⟨[⟨.ofSingle .input 7, .zero⟩, ⟨.ofDual .output 7 0, two⟩, ⟨.ofDual .output 7 1, .zero⟩]⟩
    let outside : Program := ⟨[⟨.ofSingle .input 32768, .zero⟩]⟩
    let machine := (build .default).after
      [.write 7 one, .install program, .run 2, .write 8 two, .install outside]
    machine.readInput 7 = .ok one ∧ machine.readOutput 7 = .ok two ∧
      machine.perform (.write 32768 one) = (.error (.port (.outOfRange 32768 32768)), machine) := by
  intro one two program outside machine
  have made : ofConfig .default = .ok (build .default) := rfl
  let history : List Action :=
    [.write 7 one, .install program, .run 2, .write 8 two, .install outside]
  obtain ⟨input, output, -⟩ := (after_ports made history 7).1 (by decide)
  obtain ⟨-, -, refused⟩ := (after_ports made history 32768).2 (by decide)
  have written : PortEvent.lastWritten 7 ((build .default).portLog history) = one := by
    decide +kernel
  have putOut : PortEvent.lastPutOut 7 ((build .default).portLog history) = two := by
    decide +kernel
  exact ⟨written ▸ input, putOut ▸ output, refused one⟩

end Machine

end Dataflow
