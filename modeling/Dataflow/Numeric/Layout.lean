import Dataflow.Numeric.Shortest

set_option autoImplicit false

namespace Dataflow

open Numeric

/-- The decisions that lay out a number. -/
structure Layout where
  /-- Whether numbers with a leading digit of this decimal exponent are written positionally.
  All others are written with an exponent. -/
  positional : Int → Bool
  /-- Whether a whole number written positionally ends in `.0`. -/
  keepsPoint : Bool

/-- In listings a point is kept, and numbers below `10 ^ -4` or from `10 ^ 16` take an exponent. -/
def Layout.listing : Layout := ⟨fun leading => -5 < leading && leading < 16, true⟩

/-- In reports every number is written out, and whole numbers without a point. -/
def Layout.report : Layout := ⟨fun _ => true, false⟩

namespace Numeric.Decimal

/-- The decimal with every digit in its place. -/
def positional (keepsPoint : Bool) (d : Decimal) : List Char :=
  let digits := Nat.toDigits 10 d.digits
  let places := (-d.exponent).toNat
  if places = 0 then
    digits ++ List.replicate d.exponent.toNat '0' ++ (if keepsPoint then ['.', '0'] else [])
  else if places < digits.length then
    digits.take (digits.length - places) ++ '.' :: digits.drop (digits.length - places)
  else '0' :: '.' :: (List.replicate (places - digits.length) '0' ++ digits)

/-- The decimal with one digit before the point and an exponent. -/
def scientific (d : Decimal) : List Char :=
  let digits := Nat.toDigits 10 d.digits
  let leading := d.scale - 1
  let sign := if leading < 0 then ['-'] else []
  digits.take 1 ++ (if digits.length = 1 then [] else '.' :: digits.drop 1) ++
    'e' :: (sign ++ Nat.toDigits 10 leading.natAbs)

def layOut (layout : Layout) (d : Decimal) : List Char :=
  if layout.positional (d.scale - 1) then d.positional layout.keepsPoint else d.scientific

end Numeric.Decimal

namespace Binary64

/-- The characters of a value. All NaN are written alike. -/
def characters (layout : Layout) (x : Binary64) : List Char :=
  if x.isNaN then ['N', 'a', 'N']
  else
    (if x.negative then ['-'] else []) ++
      if x.isInfinite then ['i', 'n', 'f']
      else (Decimal.shortest x.magnitude).layOut layout

def text (layout : Layout) (x : Binary64) : String := String.ofList (x.characters layout)

/-- The value nearest to a decimal with a sign. -/
def ofDecimal (negative : Bool) (d : Decimal) : Binary64 := ofMagnitude negative d.magnitude

end Binary64

end Dataflow
