import Dataflow.Numeric.Layout
import Dataflow.Proofs.ConstantGrammar
import Dataflow.Proofs.ShortestDecimal

set_option autoImplicit false

namespace Dataflow.Assembly

open Numeric Text Text.Parser Grammar

theorem someOf_toDigits (n : Nat) : SomeOf Char.isDigit (Nat.toDigits 10 n) :=
  ⟨Nat.toDigits_ne_nil, fun _ member => Nat.isDigit_of_mem_toDigits (by decide) (by decide) member⟩

theorem only_zeros (count : Nat) : Only Char.isDigit (List.replicate count '0') := by
  intro c member
  rw [List.eq_of_mem_replicate member]
  rfl

theorem DecimalForm.ofPoint {point digits : List Char} {places : Nat}
    (form : PointForm point digits places) :
    DecimalForm point ⟨Decimal.ofDigits digits, -(places : Int)⟩ := by
  have whole := DecimalForm.mk form .none
  rw [List.append_nil, Int.zero_sub] at whole
  exact whole

theorem ofDigits_toDigits (n : Nat) : Decimal.ofDigits (Nat.toDigits 10 n) = n :=
  Nat.ofDigitChars_ten_toDigits

theorem ofDigits_append_zeros (digits : List Char) (count : Nat) :
    Decimal.ofDigits (digits ++ List.replicate count '0') =
      Decimal.ofDigits digits * Decimal.powerOfTen count := by
  rw [Decimal.ofDigits, Nat.ofDigitChars_append, Nat.ofDigitChars_replicate_zero, Nat.mul_comm]
  rfl

theorem ofDigits_zeros_append (digits : List Char) (count : Nat) :
    Decimal.ofDigits (List.replicate count '0' ++ digits) = Decimal.ofDigits digits := by
  rw [Decimal.ofDigits, Nat.ofDigitChars_append, Nat.ofDigitChars_replicate_zero, Nat.mul_zero]
  rfl

/-- A decimal written out reads as one of its magnitude. -/
theorem positional_form (d : Decimal) :
    ∃ read, DecimalForm (d.positional true) read ∧ read.magnitude = d.magnitude := by
  obtain ⟨digits, exponent⟩ := d
  have someDigits := someOf_toDigits digits
  unfold Decimal.positional
  dsimp only
  split
  · rename_i whole
    -- A whole number: zeros up to the point and one behind it.
    refine ⟨⟨digits * Decimal.powerOfTen (exponent.toNat + 1), -1⟩, ?_, ?_⟩
    · have front : SomeOf Char.isDigit
          (Nat.toDigits 10 digits ++ List.replicate exponent.toNat '0') :=
        ⟨List.append_ne_nil_of_left_ne_nil someDigits.1 _, only_append someDigits.2 (only_zeros _)⟩
      have form := DecimalForm.ofPoint (.point front (only_zeros 1))
      have read : Decimal.ofDigits (Nat.toDigits 10 digits ++ List.replicate exponent.toNat '0' ++
          List.replicate 1 '0') = digits * Decimal.powerOfTen (exponent.toNat + 1) := by
        rw [List.append_assoc, List.replicate_append_replicate, ofDigits_append_zeros,
          ofDigits_toDigits]
      rw [read] at form
      exact form
    · rw [Decimal.magnitude_mul_powerOfTen]
      congr
      omega
  split
  · rename_i some inside
    -- The point stands among the digits.
    generalize cut : (Nat.toDigits 10 digits).length - (-exponent).toNat = count
    have front : SomeOf Char.isDigit ((Nat.toDigits 10 digits).take count) := by
      refine ⟨?_, fun c member => someDigits.2 c (List.mem_of_mem_take member)⟩
      apply List.ne_nil_of_length_pos
      rw [List.length_take]
      omega
    have behind : Only Char.isDigit ((Nat.toDigits 10 digits).drop count) :=
      fun c member => someDigits.2 c (List.mem_of_mem_drop member)
    have form := DecimalForm.ofPoint (.point front behind)
    have places : -(((Nat.toDigits 10 digits).drop count).length : Int) = exponent := by
      rw [List.length_drop]
      omega
    rw [List.take_append_drop, ofDigits_toDigits, places] at form
    exact ⟨⟨digits, exponent⟩, form, rfl⟩
  · rename_i some outside
    -- Zeros stand between the point and the digits.
    generalize gap : (-exponent).toNat - (Nat.toDigits 10 digits).length = count
    have form := DecimalForm.ofPoint
      (.point (someOf_toDigits 0) (only_append (only_zeros count) someDigits.2))
    have places : -((List.replicate count '0' ++ Nat.toDigits 10 digits).length : Int) =
        exponent := by
      rw [List.length_append, List.length_replicate]
      omega
    have read : Decimal.ofDigits
        (Nat.toDigits 10 0 ++ (List.replicate count '0' ++ Nat.toDigits 10 digits)) = digits := by
      rw [← List.append_assoc]
      show Decimal.ofDigits (List.replicate 1 '0' ++ List.replicate count '0' ++ _) = digits
      rw [List.replicate_append_replicate, ofDigits_zeros_append, ofDigits_toDigits]
    rw [read, places] at form
    exact ⟨⟨digits, exponent⟩, form, rfl⟩

/-- Exponents are read whole as long as they stay below the limit. -/
theorem exponentOfDigits_toDigits {n : Nat} (small : n < Decimal.exponentLimit) :
    Decimal.exponentOfDigits (Nat.toDigits 10 n) = n := by
  induction n using Nat.strongRecOn with
  | ind n ih =>
    by_cases one : n < 10
    · rw [Nat.toDigits_of_lt_base one]
      show 10 * 0 + (n.digitChar.toNat - 48) = n
      rw [Nat.toNat_digitChar_sub_48_of_lt_ten one]
      omega
    · have front := ih (n / 10) (by omega) (by omega)
      unfold Decimal.exponentOfDigits at front
      rw [Nat.toDigits_of_base_le (by decide) (by omega), Decimal.exponentOfDigits,
        List.foldl_append, front]
      show (if n / 10 < Decimal.exponentLimit then
        10 * (n / 10) + ((n % 10).digitChar.toNat - 48) else n / 10) = n
      have last : n % 10 < 10 := Nat.mod_lt n (by decide)
      rw [if_pos (by omega), Nat.toNat_digitChar_sub_48_of_lt_ten last]
      omega

theorem exponent_form {exponent : Int} (small : exponent.natAbs < Decimal.exponentLimit) :
    ExponentForm ('e' :: ((if exponent < 0 then ['-'] else []) ++ Nat.toDigits 10 exponent.natAbs))
      exponent := by
  have digits := someOf_toDigits exponent.natAbs
  by_cases negative : exponent < 0
  · have form : ExponentForm ('e' :: (['-'] ++ Nat.toDigits 10 exponent.natAbs))
        (-(Decimal.exponentOfDigits (Nat.toDigits 10 exponent.natAbs) : Int)) :=
      .some (.inl rfl) .minus digits
    have value : -(exponent.natAbs : Int) = exponent := by omega
    rw [exponentOfDigits_toDigits small, value] at form
    rw [if_pos negative]
    exact form
  · have form : ExponentForm ('e' :: ([] ++ Nat.toDigits 10 exponent.natAbs))
        (Decimal.exponentOfDigits (Nat.toDigits 10 exponent.natAbs) : Int) :=
      .some (.inl rfl) .none digits
    have value : (exponent.natAbs : Int) = exponent := by omega
    rw [exponentOfDigits_toDigits small, value] at form
    rw [if_neg negative]
    exact form

theorem scientific_form {d : Decimal} (small : (d.scale - 1).natAbs < Decimal.exponentLimit) :
    DecimalForm d.scientific d := by
  obtain ⟨digits, exponent⟩ := d
  have someDigits := someOf_toDigits digits
  have tail := exponent_form small
  have long : 0 < (Nat.toDigits 10 digits).length := Nat.length_toDigits_pos
  unfold Decimal.scientific
  dsimp only
  split
  · rename_i one
    have form := DecimalForm.mk (.whole someDigits) tail
    have value : Decimal.scale ⟨digits, exponent⟩ - 1 - (0 : Nat) = exponent := by
      simp only [Decimal.scale, Decimal.digitCount]
      omega
    rw [ofDigits_toDigits, value] at form
    rw [List.append_nil, List.take_of_length_le (by omega)]
    exact form
  · have front : SomeOf Char.isDigit ((Nat.toDigits 10 digits).take 1) := by
      refine ⟨?_, fun c member => someDigits.2 c (List.mem_of_mem_take member)⟩
      apply List.ne_nil_of_length_pos
      rw [List.length_take]
      omega
    have behind : Only Char.isDigit ((Nat.toDigits 10 digits).drop 1) :=
      fun c member => someDigits.2 c (List.mem_of_mem_drop member)
    have form := DecimalForm.mk (.point front behind) tail
    have value : Decimal.scale ⟨digits, exponent⟩ - 1 -
        (((Nat.toDigits 10 digits).drop 1).length : Nat) = exponent := by
      rw [List.length_drop]
      simp only [Decimal.scale, Decimal.digitCount]
      omega
    rw [List.take_append_drop, ofDigits_toDigits, value] at form
    exact form

theorem layOut_form {d : Decimal} (low : -400 ≤ d.scale) (high : d.scale ≤ 400) :
    ∃ read, DecimalForm (d.layOut .listing) read ∧ read.magnitude = d.magnitude := by
  unfold Decimal.layOut
  split
  · exact positional_form d
  · have small : (d.scale - 1).natAbs < Decimal.exponentLimit := by
      simp only [Decimal.exponentLimit]
      omega
    exact ⟨d, scientific_form small, rfl⟩

/-- The shortest decimal of a finite magnitude, as it is printed. -/
theorem shortest_form {m : Nat} (finite : m < Binary64.infinityMagnitude) :
    ∃ read, DecimalForm ((Decimal.shortest m).layOut .listing) read ∧ read.magnitude = m := by
  have same := Decimal.magnitude_shortest finite
  have bounds : -400 ≤ (Decimal.shortest m).scale ∧ (Decimal.shortest m).scale ≤ 400 := by
    by_cases zero : m = 0
    · rw [zero]
      decide
    · apply Decimal.scale_bounds <;> omega
  obtain ⟨read, form, magnitude⟩ := layOut_form bounds.1 bounds.2
  exact ⟨read, form, magnitude.trans same⟩

end Dataflow.Assembly

namespace Dataflow.Binary64

open Numeric Assembly Assembly.Grammar

/-- The value that its text stands for: itself, or the one NaN that stands for all. -/
def canonical (x : Binary64) : Binary64 := if x.isNaN then nan else x

/-- A value in a listing is a constant that reads back to it. -/
theorem characters_form (x : Binary64) : ConstantForm (x.characters .listing) x.canonical := by
  unfold characters canonical
  split
  · exact .nan
  rename_i number
  by_cases infinite : x.isInfinite = true
  · have magnitude : x.magnitude = infinityMagnitude := beq_iff_eq.mp infinite
    have same : infinity x.negative = x := by
      rw [infinity, ← magnitude, ofMagnitude_magnitude]
    rw [if_pos infinite]
    cases sign : x.negative with
    | false =>
      rw [sign] at same
      rw [← same]
      exact .infinity
    | true =>
      rw [sign] at same
      rw [← same]
      exact .negativeInfinity
  · have finite : x.magnitude < infinityMagnitude := by
      simp only [isNaN, decide_eq_true_eq] at number
      simp only [isInfinite, beq_iff_eq] at infinite
      omega
    obtain ⟨read, form, magnitude⟩ := shortest_form finite
    have same : ofDecimal x.negative read = x := by
      rw [ofDecimal, magnitude, ofMagnitude_magnitude]
    have sign : SignForm (if x.negative then ['-'] else []) x.negative := by
      cases x.negative
      · exact .none
      · exact .minus
    have constant := form.constant sign
    rw [same] at constant
    rw [if_neg infinite]
    exact constant

end Dataflow.Binary64
