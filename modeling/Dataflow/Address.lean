import Dataflow.Word

set_option autoImplicit false

namespace Dataflow

/-- The stores an operand can name: the memory slots, or the ports of the host. -/
inductive Bank where
  | memory
  | port
deriving DecidableEq

/-- Memory comes before the ports. -/
def Bank.rank : Bank → Nat
  | .memory => 0
  | .port => 1

def Bank.letter : Bank → String
  | .memory => "M"
  | .port => "P"

/-- A bank and a number in it. A word does not write the bank; the operation decides it. -/
structure Address where
  bank : Bank
  number : Nat
deriving DecidableEq

namespace Address

/-- How many numbers the address field of an instruction word can hold. -/
def range : Nat := 0x4000

/-- The part of the number that fits the field of an instruction word. -/
def field (address : Address) : Nat := address.number % range

/-- Whether the field of an instruction word holds the number whole. -/
def isEncodable (address : Address) : Bool := address.number < range

def isPort (address : Address) : Bool := address.bank = .port

/-- The address in the field of a word that starts at a bit. -/
def ofField (bank : Bank) (word : Word) (low : Nat) : Address := ⟨bank, word.bits low 14⟩

def text (address : Address) : String :=
  address.bank.letter ++ "[" ++ Nat.repr address.number ++ "]"

/-- The order of addresses: by bank, then by number. -/
def precedes (x y : Address) : Bool :=
  x.bank.rank < y.bank.rank || (x.bank == y.bank && x.number ≤ y.number)

def sort (addresses : List Address) : List Address := addresses.mergeSort precedes

@[simp] theorem range_eq : range = 16384 := rfl

theorem field_lt (address : Address) : address.field < range := Nat.mod_lt _ (by decide)

theorem field_of_encodable {address : Address} (fits : address.isEncodable = true) :
    address.field = address.number :=
  Nat.mod_eq_of_lt (by simpa only [isEncodable, decide_eq_true_eq] using fits)

end Address

end Dataflow
