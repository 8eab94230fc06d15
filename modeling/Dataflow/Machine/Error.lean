import Dataflow.Files.Error
import Dataflow.Instruction.Word

set_option autoImplicit false

namespace Dataflow

inductive LoadError where
  | cannotOpen (path : String) (cause : FileError)
  | cannotRead (cause : FileError)
  /-- The program has more lines than the memory has slots. -/
  | tooLarge (lines capacity : Nat)
  /-- A line names a slot or port that the machine does not have. -/
  | addressOutOfRange (slot : Nat) (address : Address)
  /-- A strict machine was given an instruction without a meaning. -/
  | invalidInstruction (slot : Nat) (word : Word)
deriving DecidableEq

inductive RunError where
  | notLoaded
deriving DecidableEq

/-- How something that a host starts comes to no success. -/
inductive Halt (ε : Type) where
  | error (error : ε)
  /-- An access outside of its bank, which takes the host down too. -/
  | crash
deriving DecidableEq

def Halt.map {ε ε' : Type} (rename : ε → ε') : Halt ε → Halt ε'
  | error cause => error (rename cause)
  | crash => crash

def wordText (word : Word) : String := Text.hexadecimal 8 word.toNat

def LoadError.message : LoadError → String
  | cannotOpen path cause => "can't load " ++ path ++ ": " ++ cause.message
  | cannotRead cause => "failed to read program: " ++ cause.message
  | tooLarge lines capacity =>
    "program has " ++ Nat.repr lines ++ " lines but memory holds only " ++ Nat.repr capacity ++
      " slots"
  | addressOutOfRange slot address =>
    address.text ++ " used at slot " ++ Nat.repr slot ++ " is outside the machine"
  | invalidInstruction slot word =>
    "undefined instruction " ++ wordText word ++ " at slot " ++ Nat.repr slot

def RunError.message : RunError → String
  | notLoaded => "no program is loaded"

end Dataflow
