import Dataflow.CommandLine.Request
import Dataflow.CommandLine.Value
import Dataflow.Text.Terminal

/-!
Reading the arguments of a command line.

The first argument names a command. The others are paths and options in any order. The value of a
long option stands behind an equals sign or in the next argument, the value of a short one also
directly behind it. After two dashes alone every argument is a path. An option without value can be
given once only, and so can all others but the inputs.

A value that stands in an argument of its own is looked at only when the argument after it is known
to fit; a value attached to its option is looked at once. So of two faults the first one counts,
unless the second is an argument that does not fit.
-/

set_option autoImplicit false

namespace Dataflow.CommandLine

open Text

inductive Command where
  | run
  | disassemble
  | assemble
deriving DecidableEq

inductive Flag where
  | cycles
  | scenario
  | configPort
  | input
  | strict
  | memorySlots
  | status
  | output
  | help
deriving DecidableEq

inductive Setting where
  | cycles (count : Nat)
  | scenario (number : Nat)
  | configPort (port : Nat)
  | input (port : Nat) (value : Binary64)
  | strict
  | memorySlots (slots : Nat)
  | status
  | output (path : String)
  | help
deriving DecidableEq

inductive UsageError where
  | noCommand
  | unknownCommand (name : String)
  | unexpected (argument : String)
  | missingPath
  | missingOption (flag : Flag)
  | missingValue (flag : Flag)
  | repeated (flag : Flag)
  | emptyPath
  | invalidValue (flag : Flag) (value : String) (fault : ValueFault)
deriving DecidableEq

namespace Command

def name : Command → String
  | run => "run"
  | disassemble => "disasm"
  | assemble => "asm"

def ofName? (name : String) : Option Command :=
  [run, disassemble, assemble].find? (·.name == name)

def flags : Command → List Flag
  | run => [.cycles, .scenario, .configPort, .input, .strict, .memorySlots, .status, .help]
  | disassemble => [.help]
  | assemble => [.output, .help]

end Command

namespace Flag

def long : Flag → String
  | cycles => "cycles"
  | scenario => "scenario"
  | configPort => "config-port"
  | input => "input"
  | strict => "strict"
  | memorySlots => "memory-slots"
  | status => "status"
  | output => "output"
  | help => "help"

def short? : Flag → Option Char
  | output => some 'o'
  | help => some 'h'
  | _ => none

/-- The name of the option's value; none if it takes no value. -/
def valueName? : Flag → Option String
  | cycles => some "CYCLES"
  | scenario => some "SCENARIO"
  | configPort => some "CONFIG_PORT"
  | input => some "INPUTS"
  | memorySlots => some "MEMORY_SLOTS"
  | output => some "OUTPUT"
  | strict | status | help => none

def takesValue (flag : Flag) : Bool := flag.valueName?.isSome

def repeats (flag : Flag) : Bool := flag = .input

/-- The option with the name of its value. -/
def text (flag : Flag) : String :=
  "--" ++ flag.long ++ match flag.valueName? with
    | some name => " <" ++ name ++ ">"
    | none => ""

def setting (flag : Flag) (value : String) : Except UsageError Setting :=
  let checked {α : Type} (make : α → Setting) (read : List Char → Except ValueFault α) :
      Except UsageError Setting :=
    match read value.toList with
    | .ok value => .ok (make value)
    | .error fault => .error (.invalidValue flag value fault)
  match flag with
  | cycles => checked .cycles (readNatural largestNatural)
  | scenario => checked .scenario (readRanged largestScenario)
  | configPort => checked .configPort (readNatural largestNatural)
  | input => checked (fun (port, value) => .input port value) readAssignment
  | memorySlots => checked .memorySlots (readNatural largestNatural)
  | output => if value = "" then .error .emptyPath else .ok (.output value)
  | strict => .ok .strict
  | status => .ok .status
  | help => .ok .help

end Flag

structure Progress where
  command : Command
  path : Option String
  /-- Options with their settings, the last one first. -/
  settings : List (Flag × Setting)
  /-- The last option, if its value stands in an argument of its own, and that value if it has been
  reached. -/
  pending : Option (Flag × Option String)
  /-- Whether all further arguments are paths. -/
  pathsOnly : Bool

namespace Progress

def start (command : Command) : Progress := ⟨command, none, [], none, false⟩

def set (progress : Progress) (flag : Flag) (value : String) : Except UsageError Progress :=
  if !flag.repeats && progress.settings.any fun (other, _) => other = flag then
    .error (.repeated flag)
  else match flag.setting value with
    | .ok setting => .ok { progress with settings := (flag, setting) :: progress.settings }
    | .error error => .error error

/-- Looks at the value that was put off. -/
def settle (progress : Progress) : Except UsageError Progress :=
  match progress.pending with
  | none => .ok progress
  | some (flag, none) => .error (.missingValue flag)
  | some (flag, some value) => ({ progress with pending := none }).set flag value

/-- Takes in an option, with the value attached to it if there is one. -/
def addOption (progress : Progress) (flag : Flag) (attached : Option String) :
    Except UsageError Progress := do
  match flag.takesValue, attached with
  | true, some value => (← progress.settle).set flag value
  | true, none =>
    let progress ← progress.settle
    return { progress with pending := some (flag, none) }
  | false, some value => .error (.unexpected value)
  | false, none => (← progress.settle).set flag ""

def addPath (progress : Progress) (path : String) : Except UsageError Progress :=
  if progress.path.isSome then .error (.unexpected path)
  else do
    let progress ← progress.settle
    if path = "" then .error .emptyPath else return { progress with path := some path }

def addLong (progress : Progress) (argument : List Char) : Except UsageError Progress :=
  let (name, attached) := cut '=' argument
  match progress.command.flags.find? (·.long.toList == name) with
  | some flag => progress.addOption flag (attached.map String.ofList)
  | none => .error (.unexpected (String.ofList ('-' :: '-' :: argument)))

def addShort (progress : Progress) (letter : Char) (rest : List Char) :
    Except UsageError Progress :=
  match progress.command.flags.find? (·.short? == some letter) with
  | some flag =>
    let attached := match rest with
      | [] => none
      | '=' :: value => some value
      | value => some value
    progress.addOption flag (if flag.takesValue then attached.map String.ofList else none)
  | none => .error (.unexpected (String.ofList ('-' :: letter :: rest)))

/-- Whether help was asked for, after which no argument matters. -/
def wantsHelp (progress : Progress) : Bool := progress.settings.any fun (flag, _) => flag = .help

def add (progress : Progress) (argument : String) : Except UsageError Progress :=
  if progress.wantsHelp then .ok progress
  else if progress.pathsOnly then progress.addPath argument
  else match argument.toList with
    | ['-', '-'] => .ok { progress with pathsOnly := true }
    | '-' :: '-' :: long => progress.addLong long
    | '-' :: letter :: rest => progress.addShort letter rest
    | _ =>
      match progress.pending with
      | some (flag, none) => .ok { progress with pending := some (flag, some argument) }
      | _ => progress.addPath argument

def neededPath (progress : Progress) : Except UsageError String :=
  match progress.path with
  | some path => .ok path
  | none => .error .missingPath

end Progress

def RunRequest.apply (request : RunRequest) : Setting → RunRequest
  | .cycles count => { request with cycles := count }
  | .scenario number => { request with scenario := some number }
  | .configPort port => { request with configPort := port }
  | .input port value => { request with inputs := request.inputs ++ [(port, value)] }
  | .strict => { request with strict := true }
  | .memorySlots slots => { request with memorySlots := slots }
  | .status => { request with status := true }
  | .output _ | .help => request

def Progress.request (progress : Progress) : Except UsageError Request := do
  let progress ← progress.settle
  if progress.wantsHelp then return .help
  let settings := progress.settings.reverse.map Prod.snd
  match progress.command with
  | .run =>
    let path ← progress.neededPath
    return .run (settings.foldl RunRequest.apply (.ofProgram path))
  | .disassemble => return .disassemble (← progress.neededPath)
  | .assemble =>
    let path ← progress.neededPath
    let output := settings.findSome? fun
      | .output path => some path
      | _ => none
    match output with
    | some output => return .assemble path output
    | none => .error (.missingOption .output)

/-- The request for help that names a command, or none. -/
def helpRequest : List String → Except UsageError Request
  | [] => .ok .help
  | name :: rest =>
    if name = "help" ∨ (Command.ofName? name).isSome then
      match rest with
      | [] => .ok .help
      | other :: _ => .error (.unknownCommand other)
    else .error (.unknownCommand name)

def Request.ofArguments (arguments : List String) : Except UsageError Request :=
  match arguments with
  | [] => .error .noCommand
  | first :: rest =>
    match first.toList with
    | '-' :: 'V' :: _ => .ok .version
    | '-' :: 'h' :: _ => .ok .help
    | _ =>
      if first = "--version" then .ok .version
      else if first = "--help" then .ok .help
      else if first = "help" then helpRequest rest
      else match Command.ofName? first with
        | some command => (rest.foldlM Progress.add (.start command)) >>= Progress.request
        | none => .error (.unknownCommand first)

namespace UsageError

/-- The fault, with what the user wrote emphasised. -/
def message : UsageError → String
  | noCommand => "a command is missing"
  | unknownCommand name => "unrecognized command '" ++ emphasise name ++ "'"
  | unexpected argument => "unexpected argument '" ++ emphasise argument ++ "'"
  | missingPath => "a path is missing"
  | missingOption flag => "the option '" ++ emphasise flag.text ++ "' is missing"
  | missingValue flag => "a value is required for '" ++ emphasise flag.text ++ "'"
  | repeated flag =>
    "the option '" ++ emphasise flag.text ++ "' cannot be used multiple times"
  | emptyPath => "a path is empty"
  | invalidValue flag value fault =>
    "invalid value '" ++ emphasise value ++ "' for '" ++ emphasise flag.text ++ "': " ++
      fault.message

/-- The fault and where to find help, in plain text. A control sequence that the user left open is
ended by the next emphasis, so the text is put together first and made plain then. -/
def text (error : UsageError) : String :=
  plain ("error: " ++ error.message ++ "\n\nFor more information, try '" ++ emphasise "--help" ++
    "'.\n")

end UsageError

end Dataflow.CommandLine
