import Dataflow.Machine.Config
import Dataflow.Machine.Cycle
import Dataflow.Machine.Event
import Dataflow.Program.Source

set_option autoImplicit false

namespace Dataflow

/-- At most one program is installed, together with the cycle that it was resolved into. -/
structure Machine where
  config : Config
  state : State
  program : Program
  /-- The program resolved for this machine; none before the first program. -/
  cycle : Option Cycle
  /-- Cycles completed since the program was loaded. -/
  cycles : Nat
deriving DecidableEq

inductive Lifecycle where
  /-- No program was loaded yet. -/
  | created
  /-- A program is loaded, and no cycle of it was run. -/
  | loaded
  | ready
deriving DecidableEq

def Lifecycle.name : Lifecycle → String
  | created => "Created"
  | loaded => "Loaded"
  | ready => "Ready"

namespace Machine

/-- A machine of given sizes with zero everywhere and no program. -/
def build (config : Config) : Machine :=
  ⟨config, .ofSizes config.memorySlots config.portCount, .empty, none, 0⟩

def ofConfig (config : Config) : Except ConfigError Machine :=
  match config.validate with
  | .ok () => .ok (build config)
  | .error error => .error error

def lifecycle (machine : Machine) : Lifecycle :=
  match machine.cycle, machine.cycles with
  | none, _ => .created
  | some _, 0 => .loaded
  | some _, _ + 1 => .ready

/-- An operation of the host succeeds, stops with an error or, if it is a run, crashes. In all cases
the machine is what it left. -/
abbrev Task (ε : Type) := ExceptT ε (StateM Machine)

/-- The cycle of a program on a machine, if the machine accepts the program: it has to fit into
the memory, a strict machine accepts only instructions with a meaning, and every address has to
lie in its bank. -/
def accept (machine : Machine) (program : Program) : Except LoadError Cycle := do
  if machine.config.memorySlots < program.length then
    throw (.tooLarge program.length machine.config.memorySlots)
  if machine.config.strict then
    if let (line, slot) :: _ := program.undefinedLines then
      throw (.invalidInstruction slot line.instruction.toWord)
  Cycle.ofProgram machine.state.limit program

/-- The machine with an accepted program installed. A machine that already has a program starts
over from zero; otherwise what the host wrote to the input ports stays. -/
def installed (machine : Machine) (program : Program) (cycle : Cycle) : Machine :=
  let state := if machine.cycle.isSome then machine.state.reset else machine.state
  { machine with
    state := state.install program
    program := program
    cycle := some cycle
    cycles := 0 }

/-- The machine one cycle later, if it has all that the cycle accesses. -/
def advanced (machine : Machine) (cycle : Cycle) : Machine :=
  { machine with state := cycle.run machine.state, cycles := machine.cycles + 1 }

def withInput (machine : Machine) (input : Ports) : Machine :=
  { machine with state := { machine.state with input := input } }

def load (program : Program) : Task LoadError Unit := do
  match (← get).accept program with
  | .error error => throw error
  | .ok cycle => modify (·.installed program cycle)

def loadSource (source : ByteSource) : Task LoadError Unit :=
  match Program.ofSource source with
  | .ok program => load program
  | .error cause => throw (.cannotRead cause)

/-- Installs the program in a file, given what opening the file gave. -/
def loadFile (path : String) (opened : Except FileError ByteSource) : Task LoadError Unit :=
  match opened with
  | .ok source => loadSource source
  | .error cause => throw (.cannotOpen path cause)

/-- Advances the machine by one cycle. A cycle that crashes is not counted, and what its first
operations did stays. -/
def runCycle : Task (Halt RunError) Unit := do
  let machine ← get
  match machine.cycle with
  | none => throw (.error .notLoaded)
  | some cycle =>
    match cycle.run? machine.state with
    | some state => set { machine with state := state, cycles := machine.cycles + 1 }
    | none =>
      set { machine with state := cycle.left machine.state }
      throw .crash

def run : Nat → Task (Halt RunError) Unit
  | 0 => pure ()
  | count + 1 => do
    runCycle
    run count

def writeInput (port : Nat) (value : Binary64) : Task PortError Unit := do
  match (← get).state.input.write port value with
  | .error error => throw error
  | .ok input => modify (·.withInput input)

def readInput (machine : Machine) (port : Nat) : Except PortError Binary64 :=
  machine.state.input.read port

def readOutput (machine : Machine) (port : Nat) : Except PortError Binary64 :=
  machine.state.output.read port

def loadEvents (machine : Machine) (program : Program) : List Event :=
  if machine.config.memorySlots < program.length then []
  else if machine.config.strict && !program.undefinedLines.isEmpty then []
  else
    program.undefinedLines.map (fun (line, slot) =>
      .undefinedInstruction slot line.instruction.toWord) ++
      match machine.accept program with
      | .error _ => []
      | .ok cycle =>
        (if machine.cycle.isSome then [.replacingProgram] else []) ++
          [.programLoaded program.length cycle.length]

def loadSourceEvents (machine : Machine) (source : ByteSource) : List Event :=
  match source.readAll with
  | .error _ => []
  | .ok bytes => Program.readingEvents bytes ++ machine.loadEvents (.ofBytes bytes)

def runEvents (machine : Machine) (count : Nat) : List Event :=
  match machine.cycle with
  | none => []
  | some cycle => cycle.traceRepeated count machine.state

/-! What each task leaves behind. -/

theorem run_load (program : Program) (machine : Machine) :
    (load program).run machine =
      match machine.accept program with
      | .error error => (.error error, machine)
      | .ok cycle => (.ok (), machine.installed program cycle) := by
  change (match machine.accept program with
    | .error error => throw error
    | .ok cycle => modify (·.installed program cycle) : Task LoadError Unit).run machine = _
  cases machine.accept program <;> rfl

theorem run_runCycle (machine : Machine) :
    runCycle.run machine =
      match machine.cycle with
      | none => (.error (.error .notLoaded), machine)
      | some cycle =>
        match cycle.run? machine.state with
        | some state => (.ok (), { machine with state := state, cycles := machine.cycles + 1 })
        | none => (.error .crash, { machine with state := cycle.left machine.state }) := by
  obtain ⟨config, state, program, cycle, cycles⟩ := machine
  cases cycle with
  | none => rfl
  | some cycle =>
    change (match cycle.run? state with
      | some state => set (mk config state program (some cycle) (cycles + 1))
      | none => do
        set (mk config (cycle.left state) program (some cycle) cycles)
        throw .crash : Task (Halt RunError) Unit).run _ = _
    dsimp only
    cases cycle.run? state <;> rfl

theorem run_run_succ (count : Nat) (machine : Machine) :
    (run (count + 1)).run machine =
      match runCycle.run machine with
      | (.ok (), next) => (run count).run next
      | (.error halt, left) => (.error halt, left) := by
  change ExceptT.bindCont (fun _ => run count) (runCycle.run machine).1 (runCycle.run machine).2 = _
  obtain ⟨answer, next⟩ := runCycle.run machine
  cases answer <;> rfl

theorem run_writeInput (port : Nat) (value : Binary64) (machine : Machine) :
    (writeInput port value).run machine =
      match machine.state.input.write port value with
      | .error error => (.error error, machine)
      | .ok input => (.ok (), machine.withInput input) := by
  change (match machine.state.input.write port value with
    | .error error => throw error
    | .ok input => modify (·.withInput input) : Task PortError Unit).run machine = _
  cases machine.state.input.write port value <;> rfl

end Machine

end Dataflow
