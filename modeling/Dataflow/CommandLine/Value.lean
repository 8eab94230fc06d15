import Dataflow.Numeric.Layout
import Dataflow.Text.Blank
import Dataflow.Text.Lines

set_option autoImplicit false

namespace Dataflow.CommandLine

open Text Numeric

inductive ValueFault where
  | emptyInteger
  | invalidDigit
  | tooLarge
  | tooSmall
  | notInRange (value : Int) (largest : Nat)
  | emptyFloat
  | invalidFloat
  | noAssignment (text : String)
deriving DecidableEq

def ValueFault.message : ValueFault → String
  | emptyInteger => "cannot parse integer from empty string"
  | invalidDigit => "invalid digit found in string"
  | tooLarge => "number too large to fit in target type"
  | tooSmall => "number too small to fit in target type"
  | notInRange value largest =>
    (if value < 0 then "-" else "") ++ Nat.repr value.natAbs ++ " is not in 0..=" ++
      Nat.repr largest
  | emptyFloat => "cannot parse float from empty string"
  | invalidFloat => "invalid float literal"
  | noAssignment text => "expected PORT=VALUE, got `" ++ text ++ "`"

/-- The number of digits that follow a value already read, up to a largest number. At a digit that
would take the number beyond, the range is at fault. -/
def readDigits (largest : Nat) (beyond : ValueFault) : Nat → List Char → Except ValueFault Nat
  | value, [] => .ok value
  | value, digit :: rest =>
    if !digit.isDigit then .error .invalidDigit
    else
      let next := 10 * value + (digit.toNat - '0'.toNat)
      if largest < next then .error beyond else readDigits largest beyond next rest

/-- A number without minus sign, up to a largest one. -/
def readNatural (largest : Nat) (text : List Char) : Except ValueFault Nat :=
  match text with
  | [] => .error .emptyInteger
  | ['+'] => .error .invalidDigit
  | '+' :: digits => readDigits largest .tooLarge 0 digits
  | digits => readDigits largest .tooLarge 0 digits

def largestNatural : Nat := 0xFFFFFFFFFFFFFFFF

def largestScenario : Nat := 0xFFFFFFFF

def negativeIntegers : Nat := 0x8000000000000000

/-- A number with an optional sign, of sixty-four bits. -/
def readInteger (text : List Char) : Except ValueFault Int :=
  match text with
  | ['-'] => .error .invalidDigit
  | '-' :: digits => (readDigits negativeIntegers .tooSmall 0 digits).map fun n => -(n : Int)
  | text => (readNatural (negativeIntegers - 1) text).map Int.ofNat

/-- A number from zero to a largest one, of which every number of sixty-four bits is told apart
from what is no number. -/
def readRanged (largest : Nat) (text : List Char) : Except ValueFault Nat :=
  match readInteger text with
  | .error fault => .error fault
  | .ok value =>
    if 0 ≤ value ∧ value ≤ largest then .ok value.toNat else .error (.notInRange value largest)

/-- A binary64 value: an optional sign, then a decimal or, in letters of either case, infinity or
NaN. -/
def readFloat (text : List Char) : Except ValueFault Binary64 :=
  if text.isEmpty then .error .emptyFloat
  else
    let (negative, rest) := Decimal.takeSign text
    let word := rest.map Char.toLower
    if word = "inf".toList ∨ word = "infinity".toList then .ok (.infinity negative)
    else if word = "nan".toList then .ok .nan
    else match Decimal.read? rest with
      | some (decimal, []) => .ok (.ofDecimal negative decimal)
      | _ => .error .invalidFloat

/-- A port and the value for it, with an equals sign between them and white space around both. -/
def readAssignment (text : List Char) : Except ValueFault (Nat × Binary64) :=
  match cut '=' text with
  | (_, none) => .error (.noAssignment (String.ofList text))
  | (port, some value) => do
    let port ← readNatural largestNatural (trim isWhiteSpace port)
    let value ← readFloat (trim isWhiteSpace value)
    return (port, value)

end Dataflow.CommandLine
