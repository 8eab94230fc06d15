import Dataflow.Proofs.AskedRequests
import Dataflow.Proofs.Assembled
import Dataflow.Proofs.Bounds
import Dataflow.Proofs.FileStores
import Dataflow.Proofs.PortHistory

set_option autoImplicit false

namespace Dataflow

namespace Machine

def carriesOut (machine : Machine) (history : List Action) : Bool :=
  (machine.answers history).all (·.isOk)

theorem carriesOut_append (machine : Machine) (first second : List Action) :
    machine.carriesOut (first ++ second) =
      (machine.carriesOut first && (machine.after first).carriesOut second) := by
  rw [carriesOut, answers_append, List.all_append]
  rfl

end Machine

namespace CommandLine

theorem run_seq (task other : Machine.Task (Halt Failure) Unit) (machine : Machine) :
    (do task; other : Machine.Task (Halt Failure) Unit).run machine =
      match task.run machine with
      | (.ok (), next) => other.run next
      | (.error halt, left) => (.error halt, left) := by
  change ExceptT.bindCont (fun _ => other) (task.run machine).1 (task.run machine).2 = _
  obtain ⟨answer, next⟩ := task.run machine
  cases answer <;> rfl

/-- A task carries out actions one after the other, up to the first that fails. -/
structure Follows (task : Machine.Task (Halt Failure) Unit) (actions : List Action) : Prop where
  succeeds : ∀ machine : Machine, machine.carriesOut actions = true →
    task.run machine = (.ok (), machine.after actions)
  fails : ∀ machine : Machine, machine.carriesOut actions = false →
    .crashed ∉ machine.answers actions →
      ∃ failure left, task.run machine = (.error (.error failure), left)

namespace Follows

variable {task other : Machine.Task (Halt Failure) Unit} {first second : List Action}

theorem nil : Follows (pure ()) [] where
  succeeds _ _ := rfl
  fails _ failed := by cases failed

/-- A task that does what an action does, and names its failure in some way. -/
theorem single {ε : Type} {action : Action} {own : Machine.Task ε Unit} {failed : ε → Answer}
    (does : ∀ machine : Machine, machine.perform action = machine.answer failed own)
    {rename : ε → Halt Failure}
    (names : ∀ cause, failed cause = .crashed ∨
      (failed cause).isOk = false ∧ ∃ failure, rename cause = .error failure) :
    Follows (ExceptT.adapt rename own) [action] := by
  have answers (machine : Machine) :
      machine.answers [action] = [(machine.answer failed own).1] := by
    rw [Machine.answers, does, Machine.answers]
  have after (machine : Machine) : machine.after [action] = (own.run machine).2 := by
    rw [Machine.after_cons, does, Machine.answer_eq]
    rfl
  constructor
  · intro machine carried
    rw [Machine.carriesOut, answers, Machine.answer_eq] at carried
    rw [Machine.run_adapt, after]
    cases answer : (own.run machine).1 with
    | ok done => rfl
    | error cause =>
      rw [answer] at carried
      rcases names cause with crashed | ⟨refused, -⟩
      · simp [crashed, Answer.isOk] at carried
      · simp [refused] at carried
  · intro machine failed lasting
    rw [Machine.carriesOut, answers, Machine.answer_eq] at failed
    rw [answers, Machine.answer_eq] at lasting
    rw [Machine.run_adapt]
    cases answer : (own.run machine).1 with
    | ok done =>
      rw [answer] at failed
      cases failed
    | error cause =>
      rw [answer] at lasting
      rcases names cause with crashed | ⟨-, failure, named⟩
      · exact absurd (List.mem_singleton.mpr crashed.symm) lasting
      · exact ⟨failure, _, congrArg (fun halt => (Except.error halt, _)) named⟩

theorem append (follows : Follows task first) (also : Follows other second) :
    Follows (do task; other) (first ++ second) where
  succeeds machine carried := by
    rw [Machine.carriesOut_append, Bool.and_eq_true] at carried
    rw [run_seq, follows.succeeds machine carried.1, Machine.after_append]
    exact also.succeeds _ carried.2
  fails machine failed lasting := by
    rw [Machine.carriesOut_append] at failed
    rw [Machine.answers_append, List.mem_append, not_or] at lasting
    rw [run_seq]
    cases begun : machine.carriesOut first with
    | true =>
      rw [begun, Bool.true_and] at failed
      rw [follows.succeeds machine begun]
      exact also.fails _ failed lasting.2
    | false =>
      obtain ⟨failure, left, run⟩ := follows.fails machine begun lasting.1
      rw [run]
      exact ⟨failure, left, rfl⟩

theorem forM {α : Type} {step : α → Machine.Task (Halt Failure) Unit} {action : α → Action}
    (one : ∀ item, Follows (step item) [action item]) (items : List α) :
    Follows (items.forM step) (items.map action) := by
  induction items with
  | nil => exact nil
  | cons item rest ih => exact (one item).append ih

end Follows

namespace RunRequest

/-- What the host writes before the cycles: the scenario, then the inputs in order. -/
def hostWrites (request : RunRequest) : List Action :=
  (request.scenario.map fun number =>
      Action.write request.configPort (scenarioValue number)).toList ++
    request.inputs.map fun (port, value) => .write port value

def actions (request : RunRequest) (program : Program) : List Action :=
  .install program :: request.hostWrites ++ [.run request.cycles]

/-- The exit code and the output of a run of a program that is already in memory. -/
def inMemory (request : RunRequest) (program : Program) : Nat × String :=
  match Machine.ofConfig ⟨request.memorySlots, 32768, request.strict⟩ with
  | .error _ => (1, "")
  | .ok fresh =>
    if fresh.carriesOut (request.actions program) then
      let machine := fresh.after (request.actions program)
      (0, if request.status then machine.display ++ "\n" else machine.report.text)
    else (1, "")

/-- The value that was given last for a port; an input counts more than the scenario. -/
def lastGiven (request : RunRequest) (port : Nat) : Binary64 :=
  match request.inputs.reverse.lookup port, request.scenario with
  | some value, _ => value
  | none, some number => if port = request.configPort then scenarioValue number else .zero
  | none, none => .zero

variable {request : RunRequest} {program : Program}

theorem hostWrites_eq (request : RunRequest) : request.hostWrites =
    request.writes.map fun (port, value) => Action.write port value := by
  rw [hostWrites, writes, List.map_append]
  cases request.scenario <;> rfl

theorem follows_perform (request : RunRequest) :
    Follows request.perform (request.hostWrites ++ [.run request.cycles]) := by
  rw [hostWrites_eq]
  have write (input : Nat × Binary64) :
      Follows (ExceptT.adapt (fun cause => .error (.port cause))
        (Machine.writeInput input.1 input.2)) [Action.write input.1 input.2] :=
    Follows.single (fun _ => rfl) fun _ => .inr ⟨rfl, _, rfl⟩
  have run : Follows (ExceptT.adapt (Halt.map Failure.run) (Machine.run request.cycles))
      [.run request.cycles] := by
    refine Follows.single (fun _ => rfl) fun halt => ?_
    cases halt with
    | error cause => exact .inr ⟨rfl, _, rfl⟩
    | crash => exact .inl rfl
  exact (Follows.forM write request.writes).append run

theorem typed_of_mem_actions (request : RunRequest) (typed : program.Typed) :
    ∀ action ∈ request.actions program, action.Typed := by
  rw [actions, List.cons_append, List.forall_mem_cons]
  refine ⟨typed, fun action member => ?_⟩
  rw [hostWrites_eq] at member
  rcases List.mem_append.mp member with write | run
  · obtain ⟨input, -, rfl⟩ := List.mem_map.mp write
    trivial
  · obtain rfl := List.mem_singleton.mp run
    trivial

/-- A run of a program that a task installs ends as the program's actions do in memory. -/
theorem outcome_load (request : RunRequest) {program : Program} (typed : program.Typed) :
    ((request.outcome (Machine.load program)).exitCode,
      (request.outcome (Machine.load program)).output) = request.inMemory program := by
  have load : Follows (ExceptT.adapt (fun cause => .error (.load cause)) (Machine.load program))
      [.install program] := Follows.single (fun _ => rfl) fun _ => .inr ⟨rfl, _, rfl⟩
  have follows : Follows
      (do ExceptT.adapt (fun cause => .error (.load cause)) (Machine.load program); request.perform)
      (request.actions program) := load.append request.follows_perform
  have config : request.config = ⟨request.memorySlots, 32768, request.strict⟩ := rfl
  unfold outcome inMemory
  rw [config]
  cases made : Machine.ofConfig ⟨request.memorySlots, 32768, request.strict⟩ with
  | error cause => rfl
  | ok fresh =>
    cases carried : fresh.carriesOut (request.actions program) with
    | true =>
      simp only [follows.succeeds fresh carried, carried, if_true]
      rfl
    | false =>
      obtain ⟨-, rfl⟩ := Machine.ofConfig_eq_ok_iff.mp made
      have coherent := Machine.coherent_build ⟨request.memorySlots, 32768, request.strict⟩
      have lasting := coherent.crashed_notMem_answers (request.typed_of_mem_actions typed)
      obtain ⟨failure, left, run⟩ := follows.fails _ carried lasting
      simp only [run, carried, Bool.false_eq_true, if_false]
      rfl

/-- Writes to ports leave in a port the last value that they give for it. -/
theorem value_after_writes (machine : Machine) {port : Nat}
    (inside : port < machine.state.input.size) (writes : List (Nat × Binary64)) :
    let last := machine.after (writes.map fun (other, value) => .write other value)
    last.state.input.size = machine.state.input.size ∧
      last.state.input.value port =
        (writes.reverse.lookup port).getD (machine.state.input.value port) := by
  induction writes using List.reverseRecOn with
  | nil => exact ⟨rfl, rfl⟩
  | append_singleton writes write ih =>
    obtain ⟨other, value⟩ := write
    obtain ⟨size, content⟩ := ih
    simp only [List.map_append, List.map_cons, List.map_nil, Machine.after_append,
      Machine.after_cons, Machine.after_nil, Machine.perform_write, List.reverse_append,
      List.reverse_singleton, List.singleton_append, List.lookup_cons]
    generalize machine.after (writes.map fun (other, value) => .write other value) = before
      at size content ⊢
    by_cases named : other < before.state.input.size
    · rw [if_pos named]
      refine ⟨(Ports.size_store _ _ _).trans size, ?_⟩
      rw [Machine.withInput, Ports.value_store_of_lt (size ▸ inside), content]
      by_cases same : other = port
      · simp [same]
      · have apart : (port == other) = false := by simpa using Ne.symm same
        simp [same, apart]
    · rw [if_neg named]
      have apart : (port == other) = false := by
        rw [beq_eq_false_iff_ne]
        rintro rfl
        exact named (size ▸ inside)
      exact ⟨size, by rw [content, apart]⟩

/-- The first program that a new machine meets leaves its input ports as they are. -/
theorem input_install_build (config : Config) (program : Program) :
    ((Machine.build config).perform (.install program)).2.state.input =
      .ofCount config.portCount := by
  rw [Machine.perform_install]
  cases (Machine.build config).accept program with
  | error cause => rfl
  | ok cycle => exact (State.frame_install _ program).1

theorem lookup_writes (request : RunRequest) (port : Nat) :
    (request.writes.reverse.lookup port).getD .zero = request.lastGiven port := by
  rw [writes, List.reverse_append, List.lookup_append, lastGiven]
  cases request.inputs.reverse.lookup port with
  | some value => rfl
  | none =>
    cases request.scenario with
    | none => rfl
    | some number =>
      by_cases same : port = request.configPort
      · simp [same]
      · have apart : (port == request.configPort) = false := by simpa using same
        simp [List.lookup_cons, same, apart]

/-- Before the cycles each port holds what was given for it last. -/
theorem readInput_after_hostWrites {config : Config} {fresh : Machine}
    (made : Machine.ofConfig config = .ok fresh) (program : Program) {port : Nat}
    (inside : port < config.portCount) :
    (fresh.after (.install program :: request.hostWrites)).readInput port =
      .ok (request.lastGiven port) := by
  obtain ⟨-, rfl⟩ := Machine.ofConfig_eq_ok_iff.mp made
  have input := input_install_build config program
  rw [Machine.after_cons, hostWrites_eq]
  generalize ((Machine.build config).perform (.install program)).2 = loaded at input ⊢
  have there : port < loaded.state.input.size := by
    rw [input]
    exact inside
  obtain ⟨size, content⟩ := value_after_writes loaded there request.writes
  have zero : loaded.state.input.value port = .zero := by
    rw [input]
    exact Cells.get_ofCount _ _
  rw [Machine.readInput, Ports.read, size, if_pos there, content, zero, lookup_writes]

end RunRequest

theorem loadFile_of_readAll {program : Program} {source : ByteSource}
    (canonical : program.Canonical) (delivered : source.readAll = .ok program.toBytes)
    (path : String) :
    Machine.loadFile path (.ok source) = Machine.load program := by
  rw [Machine.loadFile, Machine.loadSource, Program.ofSource, delivered]
  simp only [canonical.ofBytes_toBytes]

section

variable {σ : Type} {store : FileStore (StateM σ)}

/-- The file at a path is a text that the assembler accepts. -/
def Assembles (store : FileStore (StateM σ)) (path : String) (system : σ) (program : Program) :
    Prop :=
  ∃ text, store.text? path system = some text ∧ Program.ofAssembly text = .ok program

/-- A command line ends with an exit code and an output, and leaves the files in some state. -/
def Ends (store : FileStore (StateM σ)) (arguments : List String) (system : σ) (exitCode : Nat)
    (output : String) (left : σ) : Prop :=
  ∃ errors, (execute store arguments).run system = (⟨exitCode, output, errors⟩, left)

theorem assembleSource_eq_ok_iff {path : String} {system : σ} {program : Program} :
    assembleSource (store.opened path system) = .ok program ↔
      Assembles store path system program := by
  constructor
  · intro done
    obtain ⟨opened, opens, done⟩ := bind_eq_ok_iff.mp done
    obtain ⟨bytes, delivered, done⟩ := bind_eq_ok_iff.mp done
    rw [mapError_eq_ok_iff] at opens delivered
    split at done
    · cases done
    · rename_i text decoded
      exact ⟨text, FileStore.text?_eq_some_iff.mpr ⟨opened, bytes, opens, delivered, decoded⟩,
        mapError_eq_ok_iff.mp done⟩
  · rintro ⟨text, read, assembled⟩
    obtain ⟨opened, bytes, opens, delivered, decoded⟩ := FileStore.text?_eq_some_iff.mp read
    refine bind_eq_ok_iff.mpr ⟨opened, mapError_eq_ok_iff.mpr opens, ?_⟩
    refine bind_eq_ok_iff.mpr ⟨bytes, mapError_eq_ok_iff.mpr delivered, ?_⟩
    rw [decoded]
    exact mapError_eq_ok_iff.mpr assembled

theorem run_openFile {α : Type} {output : String} {touches : String → Prop}
    (keeps : store.Keeps output touches) (path : String) (system : σ)
    (next : Except FileError ByteSource → StateM σ α) :
    (do let opened ← store.openFile path; next opened : StateM σ α).run system =
      (next (store.opened path system)).run system := by
  change (next (store.opened path system)).run ((store.openFile path).run system).2 = _
  rw [keeps.opening]

variable {assembling running : List String} {source output : String} {request : RunRequest}
  {touches : String → Prop} {system changed : σ} {program : Program}

theorem ends_of_refused (asked : Request.ofArguments assembling = .ok (.assemble source output))
    (keeps : store.Keeps output touches)
    (refused : ¬ ∃ program, Assembles store source system program) :
    Ends store assembling system 1 "" system := by
  unfold Ends execute
  rw [asked]
  simp only [Request.execute]
  rw [run_openFile keeps]
  cases assembled : assembleSource (store.opened source system) with
  | error failure => exact ⟨_, rfl⟩
  | ok program => exact absurd ⟨program, assembleSource_eq_ok_iff.mp assembled⟩ refused

theorem ends_of_createFile (asked : Request.ofArguments assembling = .ok (.assemble source output))
    (keeps : store.Keeps output touches) (assembles : Assembles store source system program)
    {answer : Except FileError Unit}
    (created : (store.createFile output program.toBytes).run system = (answer, changed)) :
    Ends store assembling system (if answer.isOk then 0 else 1) "" changed := by
  unfold Ends execute
  rw [asked]
  simp only [Request.execute]
  rw [run_openFile keeps, assembleSource_eq_ok_iff.mpr assembles]
  simp only [StateT.run, bind, StateT.bind] at created ⊢
  rw [created]
  cases answer <;> exact ⟨_, rfl⟩

theorem ends_of_run (asked : Request.ofArguments running = .ok (.run request))
    (keeps : store.Keeps output touches) {source : ByteSource} (canonical : program.Canonical)
    (opened : store.opened request.program changed = .ok source)
    (delivered : source.readAll = .ok program.toBytes) :
    Ends store running changed (request.inMemory program).1 (request.inMemory program).2
      changed := by
  unfold Ends execute
  rw [asked]
  simp only [Request.execute]
  rw [run_openFile keeps, opened, loadFile_of_readAll canonical delivered,
    ← request.outcome_load fun line member =>
      Instruction.typed_of_canonical (canonical line member)]
  exact ⟨_, rfl⟩

/-- What a command line that assembles and one that runs the result do, against the run of the
program in memory. -/
structure AgreesWithMemory (store : FileStore (StateM σ)) (assembling running : List String)
    (source output : String) (request : RunRequest) (touches : String → Prop) (system : σ) :
    Prop where
  asksAssembling : AsksAssembling assembling source output
  asksRun : AsksRun running request
  /-- A file that is no text, or a text that the assembler refuses, changes no file. -/
  refused : (¬ ∃ program, Assembles store source system program) →
    Ends store assembling system 1 "" system
  unwritten : ∀ program, Assembles store source system program → ∀ cause changed,
    (store.createFile output program.toBytes).run system = (.error cause, changed) →
      Ends store assembling system 1 "" changed
  /-- Otherwise only the output file is written, and a run of it is the run of the program. -/
  written : ∀ program, Assembles store source system program → ∀ changed,
    (store.createFile output program.toBytes).run system = (.ok (), changed) →
      Ends store assembling system 0 "" changed ∧
        (∀ path, ¬ touches path → store.opened path changed = store.opened path system) ∧
        Ends store running changed (request.inMemory program).1 (request.inMemory program).2 changed
  /-- A scenario is written as the number itself. -/
  scenario : ∀ number, request.scenario = some number →
    Holds (RunRequest.scenarioValue number) number
  /-- A port holds what was given for it last when the cycles begin. -/
  given : ∀ fresh program,
    Machine.ofConfig ⟨request.memorySlots, 32768, request.strict⟩ = .ok fresh →
      ∀ port < 32768, (fresh.after (.install program :: request.hostWrites)).readInput port =
        .ok (request.lastGiven port)

/-- Assembling a file and running the result agrees with running the program in memory, if the
store keeps what is written to the output file. -/
theorem execute_assembled (asked : Request.ofArguments assembling = .ok (.assemble source output))
    (askedRun : Request.ofArguments running = .ok (.run request)) (file : request.program = output)
    (keeps : store.Keeps output touches) (system : σ) :
    AgreesWithMemory store assembling running source output request touches system where
  refused := ends_of_refused asked keeps
  unwritten _ assembles _ _ created := ends_of_createFile asked keeps assembles created
  written program assembles changed created := by
    have canonical : program.Canonical := by
      obtain ⟨text, -, assembled⟩ := assembles
      exact Program.canonical_of_ofAssembly assembled
    obtain ⟨bytes, opened, delivered⟩ := keeps.kept _ _ _ created
    rw [← file] at opened
    exact ⟨ends_of_createFile asked keeps assembles created, keeps.others _ _ _ created,
      ends_of_run askedRun keeps canonical opened delivered⟩
  asksAssembling := asksAssembling_of_ofArguments asked
  asksRun := asksRun_of_ofArguments askedRun
  scenario _ given := (asksRun_of_ofArguments askedRun).holds_scenario given
  given _ program made _ inside := request.readInput_after_hostWrites made program inside

end

/-- An output file that was there before, all options of a run, two inputs for one port, and
options on both sides of the path. The input reaches the output in the second cycle. -/
theorem execute_assembled_echo :
    let one : Binary64 := ⟨0x3FF0000000000000⟩
    let two : Binary64 := ⟨0x4000000000000000⟩
    let three : Binary64 := ⟨0x4008000000000000⟩
    let text := "Copy(1)\nInput(7)\nOutput(3, 0)\nInput(9)"
    let program : Program := ⟨[⟨.ofSingle .copy 1, .zero⟩, ⟨.ofSingle .input 7, .zero⟩,
      ⟨.ofDual .output 3 0, .zero⟩, ⟨.ofSingle .input 9, .zero⟩]⟩
    let files : Directory := ⟨[("echo.txt", text.toUTF8.data.toList), ("echo.bin", [1, 2, 3])]⟩
    let changed := files.insert "echo.bin" program.toBytes
    let assembling := ["asm", "echo.txt", "--output", "echo.bin"]
    let running := ["run", "--cycles=2", "--input", "7=1", "echo.bin", "--scenario=3",
      "--config-port", "9", "--strict", "--input=7=2", "--memory-slots", "16384", "--status"]
    let request : RunRequest :=
      ⟨"echo.bin", 2, some 3, 9, [(7, one), (7, two)], true, 16384, true⟩
    let shown :=
      "State: Ready\tCycles: 2\tStatus: false\n" ++
      "  Memory                 │ Output Ports            \n" ++
      " ────────────────────────┼──────────────────────── \n" ++
      "    Address │ Contents   │   Address │ Contents    \n" ++
      "   ─────────┼──────────  │  ─────────┼──────────   \n" ++
      "     M[0] = │ 2          │    O[3] = │ 2           \n" ++
      "     M[1] = │ 2          │  ─────────┴──────────   \n" ++
      "     M[3] = │ 3          │                         \n" ++
      "   ─────────┴──────────  │                         \n" ++
      " ────────────────────────┴──────────────────────── \n\n"
    AgreesWithMemory Directory.store assembling running "echo.txt" "echo.bin" request
        (fun path => Directory.fileName "echo.bin" ∈ Directory.names path) files ∧
      request.lastGiven 7 = two ∧ request.lastGiven 9 = three ∧
      Ends Directory.store assembling files 0 "" changed ∧
      Ends Directory.store running changed 0 shown changed := by
  intro one two three text program files changed assembling running request shown
  have asked : Request.ofArguments assembling = .ok (.assemble "echo.txt" "echo.bin") := by
    decide +kernel
  have askedRun : Request.ofArguments running = .ok (.run request) := by decide +kernel
  have inside : Directory.Inside "echo.bin" := by decide +kernel
  have agrees := execute_assembled asked askedRun rfl (Directory.keeps_store inside) files
  have opens : files.openFile "echo.txt" = .ok (.ofBytes text.toUTF8.data.toList) := by
    have fault : Directory.pathFault? "echo.txt" = none :=
      Directory.pathFault?_eq_none (by simp) (by decide) (by decide)
    have parts : Directory.names "echo.txt" = [] ++ ["echo.txt"] := by decide +kernel
    have starts : Directory.start "echo.txt" = .inside := by decide +kernel
    refine Directory.openFile_eq_ofBytes fault parts rfl (by decide) ?_
    rw [starts]
    rfl
  have read : Directory.store.text? "echo.txt" files = some text :=
    FileStore.text?_of_toUTF8 opens (ByteSource.readAll_ofBytes _)
  have assembled : Program.ofAssembly text = .ok program := by decide +kernel
  have made : files.createFile "echo.bin" program.toBytes = .ok changed := by
    have fault : Directory.pathFault? "echo.bin" = none :=
      Directory.pathFault?_eq_none (by simp) (by decide) (by decide)
    have parts : Directory.stem "echo.bin" = ["echo.bin"] := by decide +kernel
    have ends : "echo.bin".endsWith "/" = false := by decide +kernel
    simp only [Directory.createFile, fault, parts, ends, inside.starts]
    rfl
  have created : (Directory.store.createFile "echo.bin" program.toBytes).run files =
      (.ok (), changed) := by
    simp only [Directory.store, StateT.run, made]
  obtain ⟨written, -, ran⟩ := agrees.written program ⟨text, read, assembled⟩ changed created
  have memory : request.inMemory program = (0, shown) := by decide +kernel
  rw [memory] at ran
  exact ⟨agrees, rfl, by decide +kernel, written, ran⟩

end CommandLine

end Dataflow
