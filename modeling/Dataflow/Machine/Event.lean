import Dataflow.Machine.Cycle
import Dataflow.Program.Record

set_option autoImplicit false

namespace Dataflow

inductive Event where
  /-- A byte string ended in the middle of a record. -/
  | truncatedRecord (slot bytes : Nat)
  /-- A lenient machine was given an instruction without a meaning. -/
  | undefinedInstruction (slot : Nat) (word : Word)
  | replacingProgram
  | programLoaded (lines operations : Nat)
  /-- An operation was executed, with this status after it. -/
  | executed (operation : Operation) (status : Bool)
deriving DecidableEq

inductive EventLevel where
  | warning
  | debug
  | trace
deriving DecidableEq

def EventLevel.name : EventLevel → String
  | warning => "WARN"
  | debug => "DEBUG"
  | trace => "TRACE"

namespace Event

def level : Event → EventLevel
  | truncatedRecord _ _ => .debug
  | undefinedInstruction _ _ => .warning
  | replacingProgram => .debug
  | programLoaded _ _ => .debug
  | executed _ _ => .trace

def message : Event → String
  | truncatedRecord _ _ => "dropping truncated trailing record"
  | undefinedInstruction _ word => "undefined instruction " ++ wordText word ++ " runs as a no-op"
  | replacingProgram => "replacing loaded program"
  | programLoaded _ _ => "program loaded"
  | executed operation _ => operation.text

/-- The values that go with the message, each under its name. -/
def fields : Event → List (String × String)
  | truncatedRecord slot bytes => [("slot", Nat.repr slot), ("bytes", Nat.repr bytes)]
  | undefinedInstruction slot _ => [("slot", Nat.repr slot)]
  | replacingProgram => []
  | programLoaded lines operations =>
    [("lines", Nat.repr lines), ("operations", Nat.repr operations)]
  | executed _ status => [("status", if status then "true" else "false")]

end Event

def Program.readingEvents (bytes : List UInt8) : List Event :=
  match leftover bytes with
  | [] => []
  | rest => [.truncatedRecord (ofBytes bytes).length rest.length]

namespace Cycle

def traceOperations : List Operation → State → List Event
  | [], _ => []
  | operation :: rest, state =>
    match operation.run? state with
    | some next => .executed operation next.status :: traceOperations rest next
    | none => []

def trace (cycle : Cycle) (state : State) : List Event := traceOperations cycle.operations state

def traceRepeated (cycle : Cycle) : Nat → State → List Event
  | 0, _ => []
  | count + 1, state =>
    cycle.trace state ++
      match cycle.run? state with
      | some next => cycle.traceRepeated count next
      | none => []

end Cycle

end Dataflow
