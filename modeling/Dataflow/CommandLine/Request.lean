import Dataflow.Machine.Config
import Dataflow.Numeric.Binary64

set_option autoImplicit false

namespace Dataflow.CommandLine

structure RunRequest where
  program : String
  cycles : Nat
  /-- A number written to the configuration port before all other inputs. -/
  scenario : Option Nat
  configPort : Nat
  /-- Ports and the values written to them, in order. -/
  inputs : List (Nat × Binary64)
  strict : Bool
  memorySlots : Nat
  /-- Whether the whole machine is shown in the end, and not only its output ports. -/
  status : Bool
deriving DecidableEq

/-- A run of one cycle on a machine of the usual sizes, without inputs. -/
def RunRequest.ofProgram (program : String) : RunRequest :=
  { program
    cycles := 1
    scenario := none
    configPort := 16000
    inputs := []
    strict := false
    memorySlots := Config.defaultSize
    status := false }

inductive Request where
  | run (request : RunRequest)
  | disassemble (program : String)
  | assemble (source output : String)
  | version
  | help
deriving DecidableEq

end Dataflow.CommandLine
