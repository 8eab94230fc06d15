import Dataflow.Numeric.Rounding

set_option autoImplicit false

namespace Dataflow.Numeric

open Binary64 (infinityMagnitude)

/-- The number `digits * 10 ^ exponent`. -/
structure Decimal where
  digits : Nat
  exponent : Int
deriving DecidableEq

namespace Decimal

def digitCount (n : Nat) : Nat := (Nat.toDigits 10 n).length

/-- The exponent of the power of ten just above the number: `digits * 10 ^ exponent` is below
`10 ^ scale`, and not below a tenth of that unless it is zero. -/
def scale (d : Decimal) : Int := digitCount d.digits + d.exponent

/-- Every decimal other than zero with an exponent above this is larger than every finite value. -/
def largestExponent : Int := 400

/-- Every decimal of a scale below this is nearer to zero than to any other value. -/
def smallestScale : Int := -400

def powerOfTen (n : Nat) : Nat := Nat.pow 10 n

/-- The magnitude of the binary64 value nearest to the decimal. Decimals far outside the range are
answered without forming the power of ten; only a negative exponent can lead to a small scale. -/
def magnitude (d : Decimal) : Nat :=
  if d.digits = 0 then 0
  else if largestExponent < d.exponent then infinityMagnitude
  else if d.exponent < smallestScale ∧ d.scale < smallestScale then 0
  else nearestMagnitude (d.digits * powerOfTen d.exponent.toNat) (powerOfTen (-d.exponent).toNat)

def takeDigits (text : List Char) : List Char × List Char :=
  (text.takeWhile Char.isDigit, text.dropWhile Char.isDigit)

def ofDigits (digits : List Char) : Nat := Nat.ofDigitChars 10 digits 0

/-- An exponent grows no further once it has reached this. -/
def exponentLimit : Nat := 0x10000

/-- The number of the digits of an exponent. Digits behind a number that has reached the limit are
left out of it. -/
def exponentOfDigits (digits : List Char) : Nat :=
  digits.foldl
    (fun n digit => if n < exponentLimit then 10 * n + (digit.toNat - '0'.toNat) else n) 0

/-- An optional sign in front of a text: whether it is a minus sign, and what follows. -/
def takeSign : List Char → Bool × List Char
  | '-' :: rest => (true, rest)
  | '+' :: rest => (false, rest)
  | text => (false, text)

/-- The digits before and after an optional point, and what follows them. -/
def takePoint (text : List Char) : List Char × List Char × List Char :=
  let (whole, rest) := takeDigits text
  match rest with
  | '.' :: more =>
    let (fraction, rest) := takeDigits more
    (whole, fraction, rest)
  | _ => (whole, [], rest)

/-- An optional exponent and what follows it; `none` if a mark has no digits behind it. -/
def takeExponent? (text : List Char) : Option (Int × List Char) :=
  match text with
  | mark :: more =>
    if mark = 'e' ∨ mark = 'E' then
      let (negative, more) := takeSign more
      let (digits, rest) := takeDigits more
      if digits.isEmpty then none
      else some (
        if negative then -(exponentOfDigits digits : Int) else exponentOfDigits digits, rest)
    else some (0, text)
  | [] => some (0, [])

/-- The longest decimal at the front of a text, and what follows it. An exponent mark commits:
without digits behind it there is no decimal at all. -/
def read? (text : List Char) : Option (Decimal × List Char) :=
  let (whole, fraction, rest) := takePoint text
  if whole.isEmpty && fraction.isEmpty then none
  else
    (takeExponent? rest).map fun (exponent, rest) =>
      (⟨ofDigits (whole ++ fraction), exponent - fraction.length⟩, rest)

end Decimal

end Dataflow.Numeric
