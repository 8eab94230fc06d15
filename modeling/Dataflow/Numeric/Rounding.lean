import Dataflow.Numeric.Binary64

set_option autoImplicit false

namespace Dataflow.Numeric

open Binary64 (infinityMagnitude)

/-- The quotient rounded to the nearest natural number; a half goes to the even neighbour. -/
def roundHalfEven (num den : Nat) : Nat :=
  let below := num / den
  let rest := num % den
  if 2 * rest < den then below
  else if den < 2 * rest then below + 1
  else if below % 2 = 0 then below
  else below + 1

/-- Every finite value is a multiple of the unit `2 ^ -1074`. -/
def unitExponent : Nat := 1074

def unitScale : Nat := 1 <<< unitExponent

theorem unitScale_pos : 0 < unitScale := by
  rw [unitScale, Nat.one_shiftLeft]
  exact Nat.two_pow_pos unitExponent

/-- How many fractions there are, which is the distance from one exponent to the next. -/
def fractions : Nat := 0x10000000000000

/-- A significand has one binary digit more than a fraction. -/
def significandBits : Nat := 53

/-- The magnitude of the binary64 value nearest to a quotient, ties to even. Magnitudes are in order
of their values, so a carry out of the fraction moves to the next exponent by itself. -/
def nearestMagnitude (num den : Nat) : Nat :=
  let units := num * unitScale
  let step := (units / den).log2 + 1 - significandBits
  min (roundHalfEven units (den <<< step) + step * fractions) infinityMagnitude

/-- The significand and exponent step of a finite magnitude: its value is the significand times
`2 ^ step` units. -/
def significand (magnitude : Nat) : Nat × Nat :=
  if magnitude < fractions then (magnitude, 0)
  else (fractions + magnitude % fractions, magnitude / fractions - 1)

/-- How many units a finite magnitude has. -/
def units (magnitude : Nat) : Nat :=
  let (significand, step) := significand magnitude
  significand <<< step

theorem roundHalfEven_scale (num den factor : Nat) (positive : 0 < factor) :
    roundHalfEven (factor * num) (factor * den) = roundHalfEven num den := by
  have less : 2 * (factor * (num % den)) < factor * den ↔ 2 * (num % den) < den := by
    rw [Nat.mul_left_comm]
    exact Nat.mul_lt_mul_left positive
  have more : factor * den < 2 * (factor * (num % den)) ↔ den < 2 * (num % den) := by
    rw [Nat.mul_left_comm]
    exact Nat.mul_lt_mul_left positive
  simp only [roundHalfEven, Nat.mul_div_mul_left _ _ positive, Nat.mul_mod_mul_left, less, more]

theorem roundHalfEven_exact (quotient den : Nat) (positive : 0 < den) :
    roundHalfEven (quotient * den) den = quotient := by
  simp only [roundHalfEven, Nat.mul_div_cancel _ positive, Nat.mul_mod_left, Nat.mul_zero,
    positive, if_true]

/-- Rounding sees the quotient only. -/
theorem nearestMagnitude_scale (num den factor : Nat) (positive : 0 < factor) :
    nearestMagnitude (factor * num) (factor * den) = nearestMagnitude num den := by
  simp only [nearestMagnitude, Nat.shiftLeft_eq, Nat.mul_assoc,
    Nat.mul_div_mul_left _ _ positive, roundHalfEven_scale _ _ _ positive]

theorem log2_shiftLeft (n step : Nat) (positive : 0 < n) : (n <<< step).log2 = n.log2 + step := by
  have room := Nat.two_pow_pos step
  have nonzero : n * 2 ^ step ≠ 0 := Nat.ne_of_gt (Nat.mul_pos positive room)
  obtain ⟨lower, upper⟩ := (Nat.log2_eq_iff (Nat.ne_of_gt positive)).mp rfl
  rw [Nat.shiftLeft_eq, Nat.log2_eq_iff nonzero, Nat.add_right_comm, Nat.pow_add, Nat.pow_add]
  exact ⟨Nat.mul_le_mul_right _ lower, Nat.mul_lt_mul_of_pos_right upper room⟩

/-- A value that a finite magnitude holds exactly rounds to that magnitude. -/
theorem nearestMagnitude_units (magnitude : Nat) (finite : magnitude < infinityMagnitude) :
    nearestMagnitude (units magnitude) unitScale = magnitude := by
  have unit := unitScale_pos
  by_cases small : magnitude < fractions
  · have step : magnitude.log2 + 1 - significandBits = 0 := by
      by_cases zero : magnitude = 0
      · simp [zero, significandBits]
      · have := (Nat.log2_lt zero).mpr (show magnitude < 2 ^ 52 from small)
        simp only [significandBits]
        omega
    simp only [nearestMagnitude, units, significand, small, if_true, Nat.shiftLeft_zero,
      Nat.mul_div_cancel _ unit, step, Nat.zero_mul, Nat.add_zero,
      roundHalfEven_exact _ _ unit]
    omega
  · have log : (fractions + magnitude % fractions).log2 = 52 := by
      have low := Nat.mod_lt magnitude (show 0 < fractions by decide)
      rw [Nat.log2_eq_iff (by simp only [fractions]; omega)]
      simp only [fractions] at *
      omega
    have positive : 0 < fractions + magnitude % fractions := Nat.add_pos_left (by decide) _
    generalize exponent : magnitude / fractions - 1 = step
    have whole : fractions + magnitude % fractions + step * fractions = magnitude := by
      simp only [fractions] at *
      omega
    have same : 52 + step + 1 - significandBits = step := by
      simp only [significandBits]
      omega
    simp only [nearestMagnitude, units, significand, small, if_false, exponent,
      Nat.mul_div_cancel _ unit, log2_shiftLeft _ _ positive, log, same]
    rw [Nat.shiftLeft_eq, Nat.shiftLeft_eq, Nat.mul_assoc, Nat.mul_comm (2 ^ step),
      roundHalfEven_exact _ _ (Nat.mul_pos unit (Nat.two_pow_pos step)), whole]
    omega

theorem units_of_normal {magnitude : Nat} (normal : ¬ magnitude < fractions) :
    units magnitude =
      (fractions + magnitude % fractions) <<< (magnitude / fractions - 1) := by
  simp only [units, significand, normal, if_false]

/-- A whole number with few enough binary digits is held exactly. -/
theorem nearestMagnitude_natural {number exponent fraction : Nat} (finite : exponent < 1024)
    (below : fraction < fractions)
    (same : (fractions + fraction) <<< exponent = number * fractions) :
    nearestMagnitude number 1 = (1023 + exponent) * fractions + fraction := by
  have positive : 0 < fractions := by decide
  have normal : ¬ (1023 + exponent) * fractions + fraction < fractions := by
    simp only [fractions]
    omega
  -- A variable, since powers of so large a numeral are not to be evaluated.
  obtain ⟨bias, is⟩ : ∃ bias, bias = 1022 := ⟨_, rfl⟩
  have quotient : ((1023 + exponent) * fractions + fraction) / fractions - 1 = bias + exponent := by
    rw [Nat.add_comm, Nat.add_mul_div_right _ _ positive, Nat.div_eq_of_lt below]
    omega
  have remainder : ((1023 + exponent) * fractions + fraction) % fractions = fraction := by
    rw [Nat.add_comm, Nat.add_mul_mod_self_right, Nat.mod_eq_of_lt below]
  have exact : units ((1023 + exponent) * fractions + fraction) = unitScale * number := by
    have scale : unitScale = fractions * 2 ^ bias := by
      rw [unitScale, Nat.one_shiftLeft, show unitExponent = 52 + bias by rw [is, unitExponent],
        Nat.pow_add]
      rfl
    rw [units_of_normal normal, quotient, remainder]
    calc (fractions + fraction) <<< (bias + exponent)
        = (fractions + fraction) <<< exponent * 2 ^ bias := by
          rw [Nat.shiftLeft_eq, Nat.shiftLeft_eq, Nat.add_comm bias, Nat.pow_add, Nat.mul_assoc]
      _ = number * (fractions * 2 ^ bias) := by rw [same, Nat.mul_assoc]
      _ = unitScale * number := by rw [scale, Nat.mul_comm]
  have held := nearestMagnitude_units ((1023 + exponent) * fractions + fraction) (by
    simp only [fractions, infinityMagnitude] at *
    omega)
  have reduced := nearestMagnitude_scale number 1 unitScale unitScale_pos
  rw [Nat.mul_one, ← exact, held] at reduced
  exact reduced.symm

end Dataflow.Numeric
