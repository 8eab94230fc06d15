import Dataflow.Assembly.Assembler
import Dataflow.CommandLine.Arguments
import Dataflow.CommandLine.Failure
import Dataflow.Files.Directory
import Dataflow.Machine.Display
import Dataflow.Program.Listing

set_option autoImplicit false

namespace Dataflow.CommandLine

structure Outcome where
  exitCode : Nat
  output : String
  errors : String
deriving DecidableEq

namespace Outcome

def success (output : String) : Outcome := ⟨0, output, ""⟩

def failure (failure : Failure) : Outcome := ⟨1, "", "Error: " ++ failure.detail ++ "\n"⟩

def usage (error : UsageError) : Outcome := ⟨2, "", error.text⟩

/-- The end of a run with an access outside of a bank. -/
def crash : Outcome := ⟨101, "", "index out of bounds\n"⟩

def ofHalt : Halt Failure → Outcome
  | .error cause => failure cause
  | .crash => crash

end Outcome

def versionText : String := "orbit-vm 0.1.0\n"

def helpText : String :=
  "Usage: orbit-vm run PROGRAM [--cycles CYCLES] [--scenario SCENARIO] [--config-port PORT]\n" ++
  "           [--input PORT=VALUE]... [--strict] [--memory-slots SLOTS] [--status]\n" ++
  "       orbit-vm disasm PROGRAM\n" ++
  "       orbit-vm asm SOURCE --output OUTPUT\n"

namespace RunRequest

def config (request : RunRequest) : Config :=
  { Config.default with strict := request.strict, memorySlots := request.memorySlots }

/-- The value that stands for a scenario number. -/
def scenarioValue (number : Nat) : Binary64 := .ofDecimal false ⟨number, 0⟩

/-- All values written to input ports before the run, in order. -/
def writes (request : RunRequest) : List (Nat × Binary64) :=
  (request.scenario.map fun number => (request.configPort, scenarioValue number)).toList ++
    request.inputs

/-- The run on a machine that has its program: the inputs, then the cycles. -/
def perform (request : RunRequest) : Machine.Task (Halt Failure) Unit := do
  request.writes.forM fun (port, value) =>
    ExceptT.adapt (fun cause => .error (.port cause)) (Machine.writeInput port value)
  ExceptT.adapt (Halt.map .run) (Machine.run request.cycles)

/-- The whole condition of the machine if it was asked for, and its outputs otherwise. -/
def printed (request : RunRequest) (machine : Machine) : String :=
  if request.status then machine.display ++ "\n" else machine.report.text

def outcome (request : RunRequest) (load : Machine.Task LoadError Unit) : Outcome :=
  match Machine.ofConfig request.config with
  | .error error => .failure (.config error)
  | .ok machine =>
    let task : Machine.Task (Halt Failure) Unit := do
      ExceptT.adapt (fun cause => .error (.load cause)) load
      request.perform
    match task.run machine with
    | (.ok (), machine) => .success (request.printed machine)
    | (.error halt, _) => .ofHalt halt

end RunRequest

def disassemble (path : String) (opened : Except FileError ByteSource) : Outcome :=
  match opened with
  | .error cause => .failure (.load (.cannotOpen path cause))
  | .ok source =>
    match Program.ofSource source with
    | .error cause => .failure (.load (.cannotRead cause))
    | .ok program => .success program.numberedListing

def assembleSource (opened : Except FileError ByteSource) : Except Failure Program := do
  let source ← opened.mapError .file
  let bytes ← source.readAll.mapError .file
  match String.fromUTF8? ⟨bytes.toArray⟩ with
  | none => throw (.file .notText)
  | some text => (Program.ofAssembly text).mapError .assembly

section

variable {m : Type → Type} [Monad m]

/-- An assembling does not touch its output file before the whole text has been assembled. -/
def Request.execute (store : FileStore m) : Request → m Outcome
  | .run request => do
    let opened ← store.openFile request.program
    return request.outcome (Machine.loadFile request.program opened)
  | .disassemble path => do
    let opened ← store.openFile path
    return CommandLine.disassemble path opened
  | .assemble source output => do
    let opened ← store.openFile source
    match assembleSource opened with
    | .error failure => return .failure failure
    | .ok program =>
      match ← store.createFile output program.toBytes with
      | .ok () => return .success ""
      | .error cause => return .failure (.file cause)
  | .version => return .success versionText
  | .help => return .success helpText

/-- A command that fails prints nothing but its failure. -/
def execute (store : FileStore m) (arguments : List String) : m Outcome :=
  match Request.ofArguments arguments with
  | .ok request => request.execute store
  | .error error => return .usage error

end

end Dataflow.CommandLine
