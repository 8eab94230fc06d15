import Dataflow.Machine.Basic

set_option autoImplicit false

namespace Dataflow

/-- What a host does to a machine. Reading ports and showing the machine change nothing and are no
actions. -/
inductive Action where
  /-- Loads a program. -/
  | install (program : Program)
  /-- Loads the program in the records of a source. -/
  | load (source : ByteSource)
  /-- Loads the program in a file, given what opening the file gave. -/
  | loadFile (path : String) (opened : Except FileError ByteSource)
  | cycle
  | run (count : Nat)
  | write (port : Nat) (value : Binary64)

inductive ActionError where
  | load (error : LoadError)
  | run (error : RunError)
  | port (error : PortError)
deriving DecidableEq

inductive Answer where
  | ok
  | error (error : ActionError)
  /-- There was no answer: a cycle led outside of a bank. -/
  | crashed
deriving DecidableEq

namespace Answer

def isOk : Answer → Bool
  | ok => true
  | error _ | crashed => false

def ofLoad (cause : LoadError) : Answer := .error (.load cause)

def ofPort (cause : PortError) : Answer := .error (.port cause)

def ofRun : Halt RunError → Answer
  | .error cause => .error (.run cause)
  | .crash => .crashed

end Answer

namespace Action

def events (action : Action) (machine : Machine) : List Event :=
  match action with
  | install program => machine.loadEvents program
  | load source => machine.loadSourceEvents source
  | loadFile _ (.ok source) => machine.loadSourceEvents source
  | loadFile _ (.error _) => []
  | cycle => machine.runEvents 1
  | run count => machine.runEvents count
  | write _ _ => []

end Action

namespace Machine

/-- The answer that a task comes to, and the machine that it leaves. -/
def answer {ε : Type} (machine : Machine) (failed : ε → Answer) (task : Task ε Unit) :
    Answer × Machine :=
  match task.run machine with
  | (.ok (), next) => (.ok, next)
  | (.error cause, next) => (failed cause, next)

/-- The answer to an action, and the machine after it. -/
def perform (machine : Machine) : Action → Answer × Machine
  | .install program => machine.answer .ofLoad (load program)
  | .load source => machine.answer .ofLoad (loadSource source)
  | .loadFile path opened => machine.answer .ofLoad (loadFile path opened)
  | .cycle => machine.answer .ofRun runCycle
  | .run count => machine.answer .ofRun (run count)
  | .write port value => machine.answer .ofPort (writeInput port value)

/-- The machine after a history. Whatever the answer to an action, the host goes on with the machine
that it left. -/
def after (machine : Machine) (history : List Action) : Machine :=
  history.foldl (fun machine action => (machine.perform action).2) machine

def answers (machine : Machine) : List Action → List Answer
  | [] => []
  | action :: rest => (machine.perform action).1 :: (machine.perform action).2.answers rest

/-- The machine has valid sizes and is the end of some history. -/
def Reachable (machine : Machine) : Prop :=
  ∃ config history, config.Valid ∧ machine = (build config).after history

@[simp] theorem after_nil (machine : Machine) : machine.after [] = machine := rfl

@[simp] theorem after_cons (machine : Machine) (action : Action) (rest : List Action) :
    machine.after (action :: rest) = (machine.perform action).2.after rest := rfl

theorem after_append (machine : Machine) (first second : List Action) :
    machine.after (first ++ second) = (machine.after first).after second := by
  simp only [after, List.foldl_append]

end Machine

end Dataflow
