import Dataflow.Instruction.Word

set_option autoImplicit false

namespace Dataflow.Instruction

/-- The word belongs to no operation, or to a comparison without a meaning. -/
def Undefined (word : Word) : Prop :=
  7 ≤ word.bits 28 4 ∨
    word.bits 28 4 = 0 ∧ (5 ≤ word.bits 24 4 ∨ word.bits 24 4 = 1 ∧ 5 ≤ word.bits 21 3)

/-- Every field fits, every operand lies in the bank of its operation, and an invalid instruction
holds an undefined word. -/
def Canonical : Instruction → Prop
  | .dual operation a b =>
    a.bank = operation.firstBank ∧ a.number < Address.range ∧
      b.bank = .memory ∧ b.number < Address.range
  | .single operation mode unused immediate source =>
    mode ≤ 7 ∧ (operation = .cmpz → mode ≤ 4) ∧ unused ≤ 1 ∧ immediate ≤ 63 ∧
      source.bank = operation.sourceBank ∧ source.number < Address.range
  | .invalid word => Undefined word

instance (word : Word) : Decidable (Undefined word) :=
  inferInstanceAs (Decidable (_ ∨ _ ∧ (_ ∨ _ ∧ _)))

instance : (instruction : Instruction) → Decidable instruction.Canonical
  | .dual .. => inferInstanceAs (Decidable (_ ∧ _ ∧ _ ∧ _))
  | .single .. => inferInstanceAs (Decidable (_ ∧ (_ → _) ∧ _ ∧ _ ∧ _ ∧ _))
  | .invalid word => inferInstanceAs (Decidable (Undefined word))

theorem ofWord_eq_invalid_iff (word : Word) : ofWord word = .invalid word ↔ Undefined word := by
  unfold ofWord Undefined
  split
  · rename_i single
    simp only [hasSingleLayout, beq_iff_eq] at single
    split
    · rename_i missing
      have code := SingleOperation.ofCode?_eq_none_iff.mp missing
      simp only [true_iff]
      omega
    · rename_i operation found
      have code := SingleOperation.ofCode?_eq_some_iff.mp found
      dsimp only
      split
      · rename_i undefined
        obtain ⟨rfl, missing⟩ := undefined
        have mode := CompareMode.ofCode?_eq_none_iff.mp missing
        simp only [SingleOperation.code] at code
        simp only [true_iff]
        omega
      · rename_i defined
        rw [CompareMode.ofCode?_eq_none_iff] at defined
        simp only [reduceCtorEq, false_iff]
        cases operation <;>
          simp only [SingleOperation.code, reduceCtorEq, false_and, true_and] at code defined <;>
          omega
  · rename_i dual
    simp only [hasSingleLayout, beq_iff_eq] at dual
    split
    · rename_i missing
      have code := DualOperation.ofCode?_eq_none_iff.mp missing
      simp only [true_iff]
      omega
    · rename_i operation found
      have code := DualOperation.ofCode?_eq_some_iff.mp found
      simp only [reduceCtorEq, false_iff]
      cases operation <;> simp only [DualOperation.code] at code <;> omega

theorem canonical_ofWord (word : Word) : (ofWord word).Canonical := by
  by_cases undefined : ofWord word = .invalid word
  · rw [undefined]
    exact (ofWord_eq_invalid_iff word).mp undefined
  · have mode := word.bits_lt 21 3
    have unused := word.bits_lt 20 1
    have immediate := word.bits_lt 14 6
    have low := word.bits_lt 0 14
    have high := word.bits_lt 14 14
    simp only [Nat.shiftLeft_eq] at mode unused immediate low high
    unfold ofWord at undefined ⊢
    split
    · rename_i single
      simp only [single, if_true] at undefined
      split
      · rename_i missing
        simp only [missing, not_true_eq_false] at undefined
      · rename_i operation found
        simp only [found] at undefined
        dsimp only
        split
        · rename_i nothing
          simp only [nothing, and_self, if_true, not_true_eq_false] at undefined
        · rename_i defined
          rw [CompareMode.ofCode?_eq_none_iff] at defined
          simp only [Canonical, Address.ofField, Address.range_eq, true_and]
          refine ⟨by omega, fun compare => ?_, by omega, by omega, by omega⟩
          simp only [compare, true_and] at defined
          omega
    · rename_i dual
      simp only [dual] at undefined
      split
      · rename_i missing
        simp only [missing, not_true_eq_false, Bool.false_eq_true, if_false] at undefined
      · simp only [Canonical, Address.ofField, Address.range_eq, true_and]
        omega

theorem bits_toWord_dual (operation : DualOperation) {a b : Address}
    (aFits : a.number < Address.range) (bFits : b.number < Address.range) :
    let word := toWord (.dual operation a b)
    word.bits 28 4 = operation.code ∧ word.bits 14 14 = a.number ∧ word.bits 0 14 = b.number := by
  have code : operation.code ≤ 6 := by
    cases operation <;> decide
  simp only [Address.range_eq] at aFits bFits
  simp only [toWord, Word.bits, Word.place, UInt32.toNat_ofNat', Nat.shiftLeft_eq,
    Nat.shiftRight_eq_div_pow]
  omega

theorem bits_toWord_single (operation : SingleOperation) {mode unused immediate : Nat}
    {source : Address} (modeFits : mode ≤ 7) (unusedFits : unused ≤ 1)
    (immediateFits : immediate ≤ 63) (sourceFits : source.number < Address.range) :
    let word := toWord (.single operation mode unused immediate source)
    word.bits 28 4 = 0 ∧ word.bits 24 4 = operation.code ∧ word.bits 21 3 = mode ∧
      word.bits 20 1 = unused ∧ word.bits 14 6 = immediate ∧ word.bits 0 14 = source.number := by
  have code : operation.code ≤ 4 := by
    cases operation <;> decide
  simp only [Address.range_eq] at sourceFits
  simp only [toWord, Word.bits, Word.place, UInt32.toNat_ofNat', Nat.shiftLeft_eq,
    Nat.shiftRight_eq_div_pow]
  omega

/-- A canonical instruction is the one that its word decodes to. -/
theorem ofWord_toWord {instruction : Instruction} (canonical : instruction.Canonical) :
    ofWord instruction.toWord = instruction := by
  cases instruction with
  | invalid word => exact (ofWord_eq_invalid_iff word).mpr canonical
  | dual operation a b =>
    obtain ⟨aBank, aFits, bBank, bFits⟩ := canonical
    obtain ⟨primary, first, second⟩ := bits_toWord_dual operation aFits bFits
    have dual : hasSingleLayout (toWord (.dual operation a b)) = false := by
      simp only [hasSingleLayout, primary]
      cases operation <;> decide
    simp only [ofWord, dual, Bool.false_eq_true, if_false, primary, DualOperation.ofCode?_code,
      Address.ofField, first, second, ← aBank, ← bBank]
  | single operation mode unused immediate source =>
    obtain ⟨modeFits, compare, unusedFits, immediateFits, bank, sourceFits⟩ := canonical
    obtain ⟨primary, secondary, modeField, unusedField, immediateField, sourceField⟩ :=
      bits_toWord_single operation modeFits unusedFits immediateFits sourceFits
    have single :
        hasSingleLayout (toWord (.single operation mode unused immediate source)) = true := by
      simp only [hasSingleLayout, primary, beq_self_eq_true]
    have defined : ¬ (operation = .cmpz ∧ CompareMode.ofCode? mode = none) := by
      rw [CompareMode.ofCode?_eq_none_iff]
      rintro ⟨isCompare, missing⟩
      have := compare isCompare
      omega
    simp only [ofWord, single, if_true, secondary, SingleOperation.ofCode?_code, modeField,
      defined, if_false, unusedField, immediateField, Address.ofField, sourceField, ← bank]

end Dataflow.Instruction
