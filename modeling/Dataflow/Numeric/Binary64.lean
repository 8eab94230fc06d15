set_option autoImplicit false

namespace Dataflow

/-- The bit pattern: a sign bit, eleven exponent bits and fifty-two fraction bits. Copying a value
never loses a bit of it, the payload of a NaN included. Comparisons are read off the pattern, and
only the arithmetic operations go through machine arithmetic. -/
structure Binary64 where
  bits : UInt64
deriving DecidableEq

namespace Binary64

/-- The pattern with only the sign bit set, which is also the number of magnitudes. -/
def signBit : Nat := 0x8000000000000000

/-- The magnitude of the infinities; every larger magnitude is a NaN. -/
def infinityMagnitude : Nat := 0x7FF0000000000000

/-- The pattern without its sign bit. -/
def magnitude (x : Binary64) : Nat := x.bits.toNat % signBit

def negative (x : Binary64) : Bool := signBit ≤ x.bits.toNat

/-- The value of a sign and a magnitude. -/
def ofMagnitude (negative : Bool) (magnitude : Nat) : Binary64 :=
  ⟨UInt64.ofNat ((if negative then signBit else 0) + magnitude)⟩

/-- The zero of positive sign, whose pattern has no bit set. -/
def zero : Binary64 := ⟨0⟩

instance : Inhabited Binary64 := ⟨zero⟩

def infinity (negative : Bool) : Binary64 := ofMagnitude negative infinityMagnitude

/-- The quiet NaN of positive sign without payload, which stands for every NaN in text. -/
def nan : Binary64 := ⟨0x7FF8000000000000⟩

def isNaN (x : Binary64) : Bool := infinityMagnitude < x.magnitude

def isInfinite (x : Binary64) : Bool := x.magnitude == infinityMagnitude

/-- Whether the value is zero, of either sign. -/
def isZero (x : Binary64) : Bool := x.magnitude == 0

/-- Whether the value is below zero; no zero and no NaN is. -/
def belowZero (x : Binary64) : Bool := x.negative && !x.isZero && !x.isNaN

/-- Whether the value is above zero; no zero and no NaN is. -/
def aboveZero (x : Binary64) : Bool := !x.negative && !x.isZero && !x.isNaN

/-- Numeric equality: the two zeros are equal, and a NaN equals nothing. -/
def equals (x y : Binary64) : Bool :=
  !x.isNaN && !y.isNaN && (x == y || (x.isZero && y.isZero))

def toFloat (x : Binary64) : Float := Float.ofBits x.bits

def ofFloat (x : Float) : Binary64 := ⟨x.toBits⟩

def add (x y : Binary64) : Binary64 := ofFloat (x.toFloat + y.toFloat)

def sub (x y : Binary64) : Binary64 := ofFloat (x.toFloat - y.toFloat)

def mul (x y : Binary64) : Binary64 := ofFloat (x.toFloat * y.toFloat)

def div (x y : Binary64) : Binary64 := ofFloat (x.toFloat / y.toFloat)

/-- The square root; NaN below zero. -/
def sqrt (x : Binary64) : Binary64 := ofFloat x.toFloat.sqrt

@[simp] theorem isZero_zero : zero.isZero = true := by decide

theorem ofMagnitude_magnitude (x : Binary64) : ofMagnitude x.negative x.magnitude = x := by
  have bound := x.bits.toNat_lt
  have whole : (if x.negative then signBit else 0) + x.magnitude = x.bits.toNat := by
    by_cases signed : signBit ≤ x.bits.toNat <;>
      simp only [negative, signed, decide_true, decide_false, Bool.false_eq_true, if_true, if_false,
        magnitude] <;> simp only [signBit] at * <;> omega
  simp only [ofMagnitude, whole, UInt64.ofNat_toNat]

end Binary64

end Dataflow
