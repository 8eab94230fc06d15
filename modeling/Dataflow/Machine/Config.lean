import Dataflow.Address

set_option autoImplicit false

namespace Dataflow

structure Config where
  /-- Slots of the memory, which also bounds the number of program lines. -/
  memorySlots : Nat
  /-- Ports of the input bank and, apart from it, of the output bank. -/
  portCount : Nat
  /-- Whether programs with instructions without a meaning are refused. -/
  strict : Bool
deriving DecidableEq

inductive ConfigError where
  /-- A bank has fewer entries than an address can name. -/
  | tooSmall (bank : Bank) (size required : Nat)
deriving DecidableEq

def ConfigError.bankName : Bank → String
  | .memory => "memory"
  | .port => "port bank"

def ConfigError.message : ConfigError → String
  | tooSmall bank size required =>
    bankName bank ++ " holds " ++ Nat.repr size ++ " entries, fewer than the " ++
      Nat.repr required ++ " a 14 bit address reaches"

namespace Config

/-- The number of memory slots, and of ports in a bank, unless another is asked for. -/
def defaultSize : Nat := 32768

def default : Config := ⟨defaultSize, defaultSize, false⟩

/-- Every address that an instruction word can hold lies in the banks. -/
def Valid (config : Config) : Prop :=
  Address.range ≤ config.memorySlots ∧ Address.range ≤ config.portCount

instance (config : Config) : Decidable config.Valid :=
  inferInstanceAs (Decidable (_ ∧ _))

def validate (config : Config) : Except ConfigError Unit :=
  if config.memorySlots < Address.range then
    .error (.tooSmall .memory config.memorySlots Address.range)
  else if config.portCount < Address.range then
    .error (.tooSmall .port config.portCount Address.range)
  else .ok ()

theorem validate_eq_ok_iff (config : Config) : config.validate = .ok () ↔ config.Valid := by
  by_cases memory : config.memorySlots < Address.range
  · simp only [validate, Valid, memory, if_true, reduceCtorEq, false_iff]
    omega
  · by_cases ports : config.portCount < Address.range
    · simp only [validate, Valid, memory, ports, if_true, if_false, reduceCtorEq, false_iff]
      omega
    · simp only [validate, Valid, memory, ports, if_false, true_iff]
      omega

end Config

end Dataflow
