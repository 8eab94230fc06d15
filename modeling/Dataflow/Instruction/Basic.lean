import Dataflow.Opcode
import Dataflow.Text.Numeral

set_option autoImplicit false

namespace Dataflow

/-- An instruction reads memory slots or ports. Its result goes to the slot of its own line, so it
names no target. A word without a meaning is an instruction too: it keeps its word and does nothing
when it runs. -/
inductive Instruction where
  | dual (operation : DualOperation) (a b : Address)
  | single (operation : SingleOperation) (mode unused immediate : Nat) (source : Address)
  | invalid (word : Word)
deriving DecidableEq

namespace Instruction

/-- A dual instruction whose operands lie in the banks of its operation. -/
def ofDual (operation : DualOperation) (a b : Nat) : Instruction :=
  .dual operation ⟨operation.firstBank, a⟩ ⟨.memory, b⟩

def ofSingle (operation : SingleOperation) (source : Nat) : Instruction :=
  .single operation 0 0 0 ⟨operation.sourceBank, source⟩

def compare (mode : CompareMode) (source : Nat) : Instruction :=
  .single .cmpz mode.code 0 0 ⟨.memory, source⟩

def noop : Instruction := ofSingle .noop 0

/-- The comparison that a comparing instruction makes, if its mode has a meaning. -/
def compareMode? : Instruction → Option CompareMode
  | .single .cmpz mode _ _ _ => CompareMode.ofCode? mode
  | _ => none

def isValid : Instruction → Bool
  | .invalid _ => false
  | .single .cmpz mode _ _ _ => (CompareMode.ofCode? mode).isSome
  | _ => true

/-- Every operand lies in the bank that its operation reads or writes. -/
def Typed : Instruction → Prop
  | .dual operation a b => a.bank = operation.firstBank ∧ b.bank = .memory
  | .single operation _ _ _ source => source.bank = operation.sourceBank
  | .invalid _ => True

instance (instruction : Instruction) : Decidable instruction.Typed := by
  cases instruction <;> unfold Typed <;> infer_instance

/-- The operands that the instruction names, in the order of its text. -/
def operands : Instruction → List Address
  | .dual _ a b => [a, b]
  | .single _ _ _ _ source => [source]
  | .invalid _ => []

/-- The instruction in assembly. A comparison without a meaning has a question mark for its mode,
which cannot be read back. -/
def text : Instruction → String
  | .dual operation a b =>
    operation.name ++ "(" ++ Nat.repr a.number ++ ", " ++ Nat.repr b.number ++ ")"
  | .single .noop _ _ _ _ => SingleOperation.noop.name
  | .single .cmpz mode _ _ source =>
    let modeText := match CompareMode.ofCode? mode with
      | some mode => mode.name
      | none => "?"
    SingleOperation.cmpz.name ++ "(" ++ modeText ++ ", " ++ Nat.repr source.number ++ ")"
  | .single operation _ _ _ source =>
    operation.name ++ "(" ++ Nat.repr source.number ++ ")"
  | .invalid word => "Invalid(" ++ Text.hexadecimal 8 word.toNat ++ ")"

end Instruction

end Dataflow
