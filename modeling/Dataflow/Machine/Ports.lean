import Dataflow.Machine.Cells

set_option autoImplicit false

namespace Dataflow

structure Ports where
  cells : Cells
deriving DecidableEq

inductive PortError where
  | outOfRange (port count : Nat)
deriving DecidableEq

def PortError.message : PortError → String
  | outOfRange port count =>
    "port " ++ Nat.repr port ++ " is outside the bank of " ++ Nat.repr count ++ " ports"

namespace Ports

def ofCount (count : Nat) : Ports := ⟨.ofCount count⟩

def size (ports : Ports) : Nat := ports.cells.size

def isEmpty (ports : Ports) : Bool := ports.size == 0

/-- The value in a port; zero outside the bank. -/
def value (ports : Ports) (port : Nat) : Binary64 := ports.cells.get port

/-- The bank with a value stored in a port; outside the bank nothing is stored. -/
def store (ports : Ports) (port : Nat) (value : Binary64) : Ports := ⟨ports.cells.set port value⟩

def outside (ports : Ports) (port : Nat) : PortError := .outOfRange port ports.size

def read (ports : Ports) (port : Nat) : Except PortError Binary64 :=
  if port < ports.size then .ok (ports.value port) else .error (ports.outside port)

def write (ports : Ports) (port : Nat) (value : Binary64) : Except PortError Ports :=
  if port < ports.size then .ok (ports.store port value) else .error (ports.outside port)

/-- The bank of the same size in which every port holds zero. -/
def clear (ports : Ports) : Ports := ofCount ports.size

/-- Numeric equality port by port, so that a bank with a NaN equals nothing. -/
def equals (x y : Ports) : Bool := x.cells.equals y.cells

def active (ports : Ports) : List (Binary64 × Nat) := ports.cells.active

@[simp] theorem size_store (ports : Ports) (port : Nat) (value : Binary64) :
    (ports.store port value).size = ports.size := by
  simp [store, size]

theorem value_store (ports : Ports) (port other : Nat) (value : Binary64)
    (inside : port < ports.size) :
    (ports.store port value).value other = if other = port then value else ports.value other :=
  ports.cells.get_set port other value inside

end Ports

end Dataflow
