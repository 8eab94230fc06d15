import Dataflow.Numeric.Decimal

set_option autoImplicit false

namespace Dataflow.Numeric.Decimal

/-- The number with its trailing zeros moved into the exponent. -/
def stripped (digits : Nat) (exponent : Int) : Decimal :=
  if digits ≠ 0 ∧ digits % 10 = 0 then stripped (digits / 10) (exponent + 1)
  else ⟨digits, exponent⟩
termination_by digits
decreasing_by omega

/-- The scale of a positive quotient: the least exponent of a power of ten above it. -/
def quotientScale (num den : Nat) : Int :=
  if den ≤ num then digitCount (num / den)
  else 1 - (digitCount ((den - 1) / num) : Int)

/-- The decimal on the grid `10 ^ exponent` that reads back to the magnitude of the quotient and
is nearest to it, if one of the quotient's two neighbours on the grid does. -/
def neighbour? (magnitude num den : Nat) (exponent : Int) : Option Decimal :=
  let num := num * powerOfTen (-exponent).toNat
  let den := den * powerOfTen exponent.toNat
  let lower : Decimal := ⟨num / den, exponent⟩
  let upper : Decimal := ⟨num / den + 1, exponent⟩
  let lowerReads := lower.magnitude == magnitude
  let upperReads := upper.magnitude == magnitude
  if lowerReads && upperReads then
    some (if 2 * (num % den) < den then lower else upper)
  else if lowerReads then some lower
  else if upperReads then some upper
  else none

/-- The exact value of a finite magnitude: a unit is `5 ^ 1074 * 10 ^ -1074`. -/
def exact (magnitude : Nat) : Decimal :=
  ⟨units magnitude * Nat.pow 5 unitExponent, -unitExponent⟩

def mostDigits : Nat := 17

/-- The shortest decimal that reads back to a finite magnitude, the nearest of several. With one
digit, two digits and so on, the value lies between two neighbours on the grid of such decimals, and
the first grid on which a neighbour reads back gives the answer. Seventeen digits always suffice;
the exact value stands ready if they should not. -/
def shortest (magnitude : Nat) : Decimal :=
  if magnitude = 0 then ⟨0, 0⟩
  else
    let num := units magnitude
    let scale := quotientScale num unitScale
    let found := (List.range mostDigits).findSome? fun (digits : Nat) =>
      neighbour? magnitude num unitScale (scale - (digits + 1))
    let chosen := found.getD (exact magnitude)
    stripped chosen.digits chosen.exponent

end Dataflow.Numeric.Decimal
