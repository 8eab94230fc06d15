import Dataflow.Numeric.Shortest

set_option autoImplicit false

namespace Dataflow.Numeric.Decimal

open Binary64 (infinityMagnitude)

theorem powerOfTen_pos (n : Nat) : 0 < powerOfTen n := Nat.pow_pos (by decide)

theorem powerOfTen_add (m n : Nat) : powerOfTen (m + n) = powerOfTen m * powerOfTen n :=
  Nat.pow_add 10 m n

theorem powerOfTen_le {m n : Nat} (le : m ≤ n) : powerOfTen m ≤ powerOfTen n :=
  Nat.pow_le_pow_right (by decide) le

theorem digitCount_pos (n : Nat) : 0 < digitCount n := Nat.length_toDigits_pos

theorem digitCount_le_iff {n count : Nat} (positive : 0 < count) :
    digitCount n ≤ count ↔ n < powerOfTen count :=
  Nat.length_toDigits_le_iff (by decide) positive

theorem powerOfTen_le_of_digitCount {n count : Nat} (positive : 0 < n)
    (long : count < digitCount n) : powerOfTen count ≤ n := by
  by_cases none : count = 0
  · rw [none]
    exact positive
  · apply Nat.le_of_not_lt
    intro short
    have bound := (digitCount_le_iff (Nat.pos_of_ne_zero none)).mpr short
    omega

theorem digitCount_mul_ten {n : Nat} (positive : 0 < n) :
    digitCount (n * 10) = digitCount n + 1 := by
  have digits := Nat.toDigits_append_toDigits (b := 10) (by decide) positive (d := 0) (by decide)
  rw [digitCount, Nat.mul_comm, ← Nat.add_zero (10 * n), ← digits, List.length_append]
  rfl

theorem log2_le_of_le {m n : Nat} (positive : 0 < m) (le : m ≤ n) : m.log2 ≤ n.log2 := by
  have power := Nat.log2_self_le (Nat.ne_of_gt positive)
  exact (Nat.le_log2 (by omega)).mpr (Nat.le_trans power le)

theorem log2_largest : 2099 ≤ (powerOfTen 400 * unitScale).log2 := by
  decide +kernel

/-- Quotients from `10 ^ 400` on are beyond every finite value. -/
theorem nearestMagnitude_of_large {num den count : Nat} (positive : 0 < den) (far : 400 ≤ count)
    (large : den * powerOfTen count ≤ num) : nearestMagnitude num den = infinityMagnitude := by
  have whole : powerOfTen 400 * unitScale ≤ num * unitScale / den := by
    apply Nat.le_trans (Nat.mul_le_mul_right unitScale (powerOfTen_le far))
    rw [Nat.le_div_iff_mul_le positive, Nat.mul_right_comm, Nat.mul_comm _ den]
    exact Nat.mul_le_mul_right unitScale large
  have positive := Nat.mul_pos (powerOfTen_pos 400) unitScale_pos
  have log := Nat.le_trans log2_largest (log2_le_of_le positive whole)
  have step : 2047 ≤ (num * unitScale / den).log2 + 1 - significandBits := by
    simp only [significandBits]
    omega
  have carried := Nat.mul_le_mul_right fractions step
  have infinite : 2047 * fractions = infinityMagnitude := rfl
  unfold nearestMagnitude
  dsimp only
  apply Nat.min_eq_right
  omega

variable {digits : Nat} {exponent : Int}

theorem magnitude_of_zero (exponent : Int) : magnitude ⟨0, exponent⟩ = 0 := if_pos rfl

theorem magnitude_of_small (below : exponent < -400) (small : scale ⟨digits, exponent⟩ < -400) :
    magnitude ⟨digits, exponent⟩ = 0 := by
  unfold magnitude
  split
  · rfl
  have notHuge : ¬ largestExponent < exponent := by
    simp only [largestExponent]
    omega
  rw [if_neg notHuge, if_pos ⟨below, small⟩]

theorem magnitude_of_inRange (nonzero : digits ≠ 0) (notHuge : exponent ≤ 400)
    (notSmall : -400 ≤ exponent ∨ -400 ≤ scale ⟨digits, exponent⟩) :
    magnitude ⟨digits, exponent⟩ =
      nearestMagnitude (digits * powerOfTen exponent.toNat) (powerOfTen (-exponent).toNat) := by
  have inRange : ¬ largestExponent < exponent := by
    simp only [largestExponent]
    omega
  have kept : ¬ (exponent < smallestScale ∧ scale ⟨digits, exponent⟩ < smallestScale) := by
    simp only [smallestScale]
    omega
  rw [magnitude, if_neg nonzero, if_neg inRange, if_neg kept]

/-- Decimals from `10 ^ 400` on read as infinite, also those that are answered early. -/
theorem magnitude_of_large (nonzero : digits ≠ 0) (large : 400 < scale ⟨digits, exponent⟩) :
    magnitude ⟨digits, exponent⟩ = infinityMagnitude := by
  by_cases huge : 400 < exponent
  · have early : largestExponent < exponent := huge
    rw [magnitude, if_neg nonzero, if_pos early]
  rw [magnitude_of_inRange nonzero (by omega) (by omega)]
  -- An unknown number in place of the bound, so that nothing computes its power.
  obtain ⟨count, far, above⟩ : ∃ count : Nat, 400 ≤ count ∧
      (count : Int) < scale ⟨digits, exponent⟩ :=
    ⟨400, Nat.le_refl 400, large⟩
  apply nearestMagnitude_of_large (powerOfTen_pos _) far
  have long : digitCount digits - 1 < digitCount digits := by
    have count := digitCount_pos digits
    omega
  have leading := powerOfTen_le_of_digitCount (Nat.pos_of_ne_zero nonzero) long
  have places : (-exponent).toNat + count ≤ digitCount digits - 1 + exponent.toNat := by
    simp only [scale] at above
    omega
  rw [← powerOfTen_add]
  apply Nat.le_trans (powerOfTen_le places)
  rw [powerOfTen_add]
  exact Nat.mul_le_mul_right _ leading

/-- A factor of ten may stand in the digits or in the exponent of a quotient. -/
theorem nearestMagnitude_mul_ten (digits : Nat) (exponent : Int) :
    nearestMagnitude (digits * 10 * powerOfTen exponent.toNat) (powerOfTen (-exponent).toNat) =
      nearestMagnitude (digits * powerOfTen (exponent + 1).toNat)
        (powerOfTen (-(exponent + 1)).toNat) := by
  have one : powerOfTen 0 = 1 := rfl
  have ten : powerOfTen 1 = 10 := rfl
  by_cases positive : 0 ≤ exponent
  · have more : (exponent + 1).toNat = 1 + exponent.toNat := by omega
    have none : (-exponent).toNat = 0 := by omega
    have still : (-(exponent + 1)).toNat = 0 := by omega
    rw [more, none, still, powerOfTen_add, ten, Nat.mul_assoc]
  · have none : exponent.toNat = 0 := by omega
    have still : (exponent + 1).toNat = 0 := by omega
    have more : (-exponent).toNat = 1 + (-(exponent + 1)).toNat := by omega
    rw [more, none, still, powerOfTen_add, one, ten, Nat.mul_one, Nat.mul_one, Nat.mul_comm digits]
    exact nearestMagnitude_scale digits _ 10 (by decide)

theorem scale_mul_ten {digits : Nat} (positive : 0 < digits) (exponent : Int) :
    scale ⟨digits * 10, exponent⟩ = scale ⟨digits, exponent + 1⟩ := by
  simp only [scale, digitCount_mul_ten positive]
  omega

/-- Moving a trailing zero into the exponent keeps the magnitude. -/
theorem magnitude_mul_ten (digits : Nat) (exponent : Int) :
    magnitude ⟨digits * 10, exponent⟩ = magnitude ⟨digits, exponent + 1⟩ := by
  by_cases zero : digits = 0
  · rw [zero, Nat.zero_mul, magnitude_of_zero, magnitude_of_zero]
  have nonzero : digits * 10 ≠ 0 := by omega
  have scales := scale_mul_ten (Nat.pos_of_ne_zero zero) exponent
  have lowest : exponent + 2 ≤ scale ⟨digits, exponent + 1⟩ := by
    have count := digitCount_pos digits
    simp only [scale]
    omega
  by_cases large : 400 < scale ⟨digits, exponent + 1⟩
  · rw [magnitude_of_large zero large]
    exact magnitude_of_large nonzero (by omega)
  by_cases small : scale ⟨digits, exponent + 1⟩ < -400
  · rw [magnitude_of_small (by omega) small]
    exact magnitude_of_small (by omega) (by omega)
  rw [magnitude_of_inRange nonzero (by omega) (by omega),
    magnitude_of_inRange zero (by omega) (by omega)]
  exact nearestMagnitude_mul_ten digits exponent

theorem magnitude_mul_powerOfTen (digits : Nat) (exponent : Int) (count : Nat) :
    magnitude ⟨digits * powerOfTen count, exponent⟩ = magnitude ⟨digits, exponent + count⟩ := by
  induction count generalizing exponent with
  | zero =>
    have one : powerOfTen 0 = 1 := rfl
    rw [one, Nat.mul_one, Int.natCast_zero, Int.add_zero]
  | succ count ih =>
    have ten : powerOfTen 1 = 10 := rfl
    have exponents : exponent + 1 + count = exponent + (count + 1 : Nat) := by omega
    rw [powerOfTen_add, ten, ← Nat.mul_assoc, magnitude_mul_ten, ih, exponents]

theorem magnitude_stripped (digits : Nat) (exponent : Int) :
    (stripped digits exponent).magnitude = magnitude ⟨digits, exponent⟩ := by
  induction digits, exponent using stripped.induct with
  | case1 digits exponent trailing ih =>
    have whole : digits / 10 * 10 = digits := by omega
    rw [stripped, if_pos trailing, ih, ← magnitude_mul_ten, whole]
  | case2 digits exponent last =>
    rw [stripped, if_neg last]

theorem units_pos {m : Nat} (positive : 0 < m) : 0 < units m := by
  have nonzero : 0 < (significand m).1 := by
    unfold significand
    split
    · exact positive
    · exact Nat.add_pos_left (by decide) _
  show 0 < (significand m).1 <<< (significand m).2
  rw [Nat.shiftLeft_eq]
  exact Nat.mul_pos nonzero (Nat.two_pow_pos _)

theorem powerOfTen_eq (n : Nat) : powerOfTen n = Nat.pow 5 n * (1 <<< n) := by
  rw [Nat.one_shiftLeft]
  exact Nat.mul_pow 5 2 n

/-- The exact value reads back because a unit is a power of five over the same power of ten. -/
theorem magnitude_exact {m : Nat} (positive : 0 < m) (finite : m < infinityMagnitude) :
    (exact m).magnitude = m := by
  -- The power of five and its number of digits are large, and stay names from here on.
  obtain ⟨five, same⟩ : ∃ five, five = Nat.pow 5 unitExponent := ⟨_, rfl⟩
  obtain ⟨count, many, large⟩ : ∃ count, 674 ≤ count ∧ powerOfTen count ≤ five :=
    ⟨750, by decide, by rw [same]; decide +kernel⟩
  have ten : powerOfTen unitExponent = five * unitScale := by
    rw [same, unitScale, powerOfTen_eq]
  have fivePositive : 0 < five := Nat.lt_of_lt_of_le (powerOfTen_pos count) large
  have nonzero := Nat.ne_of_gt (Nat.mul_pos (units_pos positive) fivePositive)
  have long : count < digitCount (units m * five) := by
    apply Nat.lt_of_not_le
    intro short
    have below := (digitCount_le_iff (by omega)).mp short
    have above := Nat.le_mul_of_pos_left five (units_pos positive)
    omega
  have notHuge : -(unitExponent : Int) ≤ 400 := by decide
  have inRange : -400 ≤ scale ⟨units m * five, -unitExponent⟩ := by
    simp only [scale, unitExponent]
    omega
  have none : (-(unitExponent : Int)).toNat = 0 := by omega
  have all : (-(-(unitExponent : Int))).toNat = unitExponent := by omega
  have one : powerOfTen 0 = 1 := rfl
  rw [exact, ← same, magnitude_of_inRange nonzero notHuge (.inr inRange), none, all, one, ten,
    Nat.mul_one, Nat.mul_comm (units m), nearestMagnitude_scale _ _ _ fivePositive,
    nearestMagnitude_units m finite]

theorem magnitude_of_neighbour? {m num den : Nat} {exponent : Int} {d : Decimal}
    (found : neighbour? m num den exponent = some d) : d.magnitude = m := by
  unfold neighbour? at found
  dsimp only at found
  split at found
  · rename_i both
    obtain ⟨lower, upper⟩ := Bool.and_eq_true_iff.mp both
    split at found <;> cases found
    · exact beq_iff_eq.mp lower
    · exact beq_iff_eq.mp upper
  split at found
  · rename_i lower
    cases found
    exact beq_iff_eq.mp lower
  split at found
  · rename_i upper
    cases found
    exact beq_iff_eq.mp upper
  · cases found

/-- Whatever the search finds was checked to read back, and otherwise the exact value is left. -/
theorem magnitude_shortest {m : Nat} (finite : m < infinityMagnitude) :
    (shortest m).magnitude = m := by
  by_cases zero : m = 0
  · rw [zero]
    rfl
  rw [shortest, if_neg zero]
  dsimp only
  rw [magnitude_stripped]
  generalize search : (List.range mostDigits).findSome? _ = found
  cases found with
  | none => exact magnitude_exact (Nat.pos_of_ne_zero zero) finite
  | some d =>
    obtain ⟨digits, -, found⟩ := List.exists_of_findSome?_eq_some search
    exact magnitude_of_neighbour? found

/-- A decimal that reads as a finite value other than zero has a scale in this range. -/
theorem scale_bounds {d : Decimal} (positive : 0 < d.magnitude)
    (finite : d.magnitude < infinityMagnitude) : -400 ≤ d.scale ∧ d.scale ≤ 400 := by
  obtain ⟨digits, exponent⟩ := d
  constructor
  · apply Int.not_lt.mp
    intro small
    have below : exponent < -400 := by
      simp only [scale] at small
      omega
    rw [magnitude_of_small below small] at positive
    exact Nat.lt_irrefl 0 positive
  · apply Int.not_lt.mp
    intro large
    by_cases zero : digits = 0
    · rw [zero] at positive
      exact Nat.lt_irrefl 0 positive
    · rw [magnitude_of_large zero large] at finite
      exact Nat.lt_irrefl _ finite

end Dataflow.Numeric.Decimal
