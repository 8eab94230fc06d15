import Dataflow.Address
import Dataflow.Numeric.Binary64

set_option autoImplicit false

namespace Dataflow

/-- Operations on two operands, whose code is the first field of a word and never zero. -/
inductive DualOperation where
  | add
  | sub
  | mult
  | div
  | output
  | phi
deriving DecidableEq

/-- Operations on one operand, whose code stands in the second field of a word, behind a zero. -/
inductive SingleOperation where
  | noop
  | cmpz
  | sqrt
  | copy
  | input
deriving DecidableEq

/-- Comparisons with zero. -/
inductive CompareMode where
  | ltz
  | lez
  | eqz
  | gez
  | gtz
deriving DecidableEq

namespace DualOperation

def all : List DualOperation := [add, sub, mult, div, output, phi]

def code : DualOperation → Nat
  | add => 1
  | sub => 2
  | mult => 3
  | div => 4
  | output => 5
  | phi => 6

def name : DualOperation → String
  | add => "Add"
  | sub => "Sub"
  | mult => "Mult"
  | div => "Div"
  | output => "Output"
  | phi => "Phi"

def ofCode? (code : Nat) : Option DualOperation := all.find? (·.code == code)

def ofName? (name : String) : Option DualOperation := all.find? (·.name == name)

/-- The bank of the first operand. Only an output names a port there. -/
def firstBank : DualOperation → Bank
  | output => .port
  | _ => .memory

theorem ofCode?_code (operation : DualOperation) : ofCode? operation.code = some operation := by
  cases operation <;> rfl

theorem ofName?_name (operation : DualOperation) : ofName? operation.name = some operation := by
  cases operation <;> rfl

theorem ofCode?_eq_some_iff {code : Nat} {operation : DualOperation} :
    ofCode? code = some operation ↔ code = operation.code := by
  constructor
  · intro found
    exact (by simpa using List.find?_some found : _ = code).symm
  · rintro rfl
    exact ofCode?_code operation

theorem ofCode?_eq_none_iff {code : Nat} : ofCode? code = none ↔ code = 0 ∨ 7 ≤ code := by
  simp only [ofCode?, all, List.find?_eq_none, List.mem_cons, List.not_mem_nil, or_false,
    forall_eq_or_imp, forall_eq, beq_iff_eq, DualOperation.code]
  omega

end DualOperation

namespace SingleOperation

def all : List SingleOperation := [noop, cmpz, sqrt, copy, input]

def code : SingleOperation → Nat
  | noop => 0
  | cmpz => 1
  | sqrt => 2
  | copy => 3
  | input => 4

def name : SingleOperation → String
  | noop => "Noop"
  | cmpz => "Cmpz"
  | sqrt => "Sqrt"
  | copy => "Copy"
  | input => "Input"

def ofCode? (code : Nat) : Option SingleOperation := all.find? (·.code == code)

def ofName? (name : String) : Option SingleOperation := all.find? (·.name == name)

/-- The bank of the operand. Only an input names a port. -/
def sourceBank : SingleOperation → Bank
  | input => .port
  | _ => .memory

theorem ofCode?_code (operation : SingleOperation) : ofCode? operation.code = some operation := by
  cases operation <;> rfl

theorem ofName?_name (operation : SingleOperation) : ofName? operation.name = some operation := by
  cases operation <;> rfl

theorem ofCode?_eq_some_iff {code : Nat} {operation : SingleOperation} :
    ofCode? code = some operation ↔ code = operation.code := by
  constructor
  · intro found
    exact (by simpa using List.find?_some found : _ = code).symm
  · rintro rfl
    exact ofCode?_code operation

theorem ofCode?_eq_none_iff {code : Nat} : ofCode? code = none ↔ 5 ≤ code := by
  simp only [ofCode?, all, List.find?_eq_none, List.mem_cons, List.not_mem_nil, or_false,
    forall_eq_or_imp, forall_eq, beq_iff_eq, SingleOperation.code]
  omega

end SingleOperation

namespace CompareMode

def all : List CompareMode := [ltz, lez, eqz, gez, gtz]

def code : CompareMode → Nat
  | ltz => 0
  | lez => 1
  | eqz => 2
  | gez => 3
  | gtz => 4

def name : CompareMode → String
  | ltz => "Ltz"
  | lez => "Lez"
  | eqz => "Eqz"
  | gez => "Gez"
  | gtz => "Gtz"

def ofCode? (code : Nat) : Option CompareMode := all.find? (·.code == code)

def ofName? (name : String) : Option CompareMode := all.find? (·.name == name)

/-- Whether a value stands in the relation to zero. The two zeros are equal to zero, and a NaN
stands in no relation. -/
def holds (mode : CompareMode) (value : Binary64) : Bool :=
  match mode with
  | ltz => value.belowZero
  | lez => value.belowZero || value.isZero
  | eqz => value.isZero
  | gez => value.aboveZero || value.isZero
  | gtz => value.aboveZero

theorem ofCode?_code (mode : CompareMode) : ofCode? mode.code = some mode := by
  cases mode <;> rfl

theorem ofName?_name (mode : CompareMode) : ofName? mode.name = some mode := by
  cases mode <;> rfl

theorem ofCode?_eq_some_iff {code : Nat} {mode : CompareMode} :
    ofCode? code = some mode ↔ code = mode.code := by
  constructor
  · intro found
    exact (by simpa using List.find?_some found : _ = code).symm
  · rintro rfl
    exact ofCode?_code mode

theorem ofCode?_eq_none_iff {code : Nat} : ofCode? code = none ↔ 5 ≤ code := by
  simp only [ofCode?, all, List.find?_eq_none, List.mem_cons, List.not_mem_nil, or_false,
    forall_eq_or_imp, forall_eq, beq_iff_eq, CompareMode.code]
  omega

end CompareMode

end Dataflow
