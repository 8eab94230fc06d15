import Dataflow.Instruction.Canonical

set_option autoImplicit false

namespace Dataflow.Instruction

/-- Every operand number fits the address field of a word. -/
def Encodable (instruction : Instruction) : Prop :=
  ∀ operand ∈ instruction.operands, operand.number < Address.range

instance (instruction : Instruction) : Decidable instruction.Encodable :=
  inferInstanceAs (Decidable (∀ operand ∈ instruction.operands, operand.number < Address.range))

/-- The instruction with every field cut to its width in a word, and every operand in the bank of
its operation. -/
def cut : Instruction → Instruction
  | .dual operation a b =>
    .dual operation ⟨operation.firstBank, a.field⟩ ⟨.memory, b.field⟩
  | .single operation mode unused immediate source =>
    .single operation (mode % 8) (unused % 2) (immediate % 64) ⟨operation.sourceBank, source.field⟩
  | .invalid word => .invalid word

/-- An instruction without a meaning has a word without one: the mode of a comparison still names
nothing when it is cut, and an invalid instruction holds an undefined word. -/
def StaysUndefined : Instruction → Prop
  | .single .cmpz mode _ _ _ => mode ≤ 4 ∨ 5 ≤ mode % 8
  | .invalid word => Undefined word
  | .dual _ _ _ | .single _ _ _ _ _ => True

instance : (instruction : Instruction) → Decidable instruction.StaysUndefined
  | .dual _ _ _ => inferInstanceAs (Decidable True)
  | .invalid word => inferInstanceAs (Decidable (Undefined word))
  | .single operation mode _ _ _ =>
    match operation with
    | .cmpz => inferInstanceAs (Decidable (mode ≤ 4 ∨ 5 ≤ mode % 8))
    | .noop | .sqrt | .copy | .input => inferInstanceAs (Decidable True)

variable {instruction : Instruction}

theorem canonical_iff_exists_word : instruction.Canonical ↔ ∃ word, ofWord word = instruction := by
  constructor
  · intro canonical
    exact ⟨instruction.toWord, ofWord_toWord canonical⟩
  · rintro ⟨word, rfl⟩
    exact canonical_ofWord word

theorem ofWord_toWord_eq_self_iff :
    ofWord instruction.toWord = instruction ↔ instruction.Canonical := by
  constructor
  · intro back
    exact canonical_iff_exists_word.mpr ⟨instruction.toWord, back⟩
  · intro canonical
    exact ofWord_toWord canonical

theorem encodable_of_canonical (canonical : instruction.Canonical) : instruction.Encodable := by
  cases instruction with
  | dual operation a b =>
    obtain ⟨-, aFits, -, bFits⟩ := canonical
    exact List.forall_mem_cons.mpr ⟨aFits, List.forall_mem_singleton.mpr bFits⟩
  | single operation mode unused immediate source =>
    exact List.forall_mem_singleton.mpr canonical.2.2.2.2.2
  | invalid word => exact List.forall_mem_nil _

/-- Fields keep the low bits that they have room for. -/
theorem toWord_cut (instruction : Instruction) : instruction.cut.toWord = instruction.toWord := by
  cases instruction with
  | dual operation a b =>
    simp [cut, toWord, Word.place, Address.field]
  | single operation mode unused immediate source =>
    simp [cut, toWord, Word.place, Address.field]
  | invalid word => rfl

theorem isValid_cmpz_iff {mode unused immediate : Nat} {source : Address} :
    (single .cmpz mode unused immediate source).isValid = true ↔ mode ≤ 4 := by
  simp only [isValid]
  rw [Option.isSome_iff_ne_none, ne_eq, CompareMode.ofCode?_eq_none_iff]
  omega

theorem canonical_cut (valid : instruction.cut.isValid = true) : instruction.cut.Canonical := by
  cases instruction with
  | dual operation a b => exact ⟨rfl, a.field_lt, rfl, b.field_lt⟩
  | single operation mode unused immediate source =>
    refine ⟨by omega, ?_, by omega, by omega, rfl, source.field_lt⟩
    rintro rfl
    exact isValid_cmpz_iff.mp valid
  | invalid word => cases valid

theorem isValid_ofWord_iff (word : Word) : (ofWord word).isValid = true ↔ ¬ Undefined word := by
  rw [← ofWord_eq_invalid_iff]
  have canonical := canonical_ofWord word
  have kept := toWord_ofWord word
  generalize ofWord word = instruction at canonical kept
  cases instruction with
  | dual operation a b => simp [isValid]
  | invalid other =>
    subst kept
    simp [isValid, toWord]
  | single operation mode unused immediate source =>
    cases operation with
    | cmpz => simp [isValid_cmpz_iff, canonical.2.1 rfl]
    | _ => simp [isValid]

/-- The word of a cut instruction with a meaning decodes to the cut instruction. -/
theorem ofWord_toWord_of_cut (valid : instruction.cut.isValid = true) :
    ofWord instruction.toWord = instruction.cut := by
  rw [← toWord_cut, ofWord_toWord (canonical_cut valid)]

/-- The word of a comparison whose cut mode names nothing is undefined. -/
theorem undefined_toWord_cmpz {mode unused immediate : Nat} {source : Address}
    (undefined : 5 ≤ mode % 8) :
    Undefined (toWord (.single .cmpz mode unused immediate source)) := by
  rw [← toWord_cut]
  have modeFits : mode % 8 ≤ 7 := by omega
  have unusedFits : unused % 2 ≤ 1 := by omega
  have immediateFits : immediate % 64 ≤ 63 := by omega
  obtain ⟨primary, secondary, modeField, -⟩ :=
    bits_toWord_single .cmpz modeFits unusedFits immediateFits
      (show (⟨.memory, source.field⟩ : Address).number < Address.range from source.field_lt)
  exact .inr ⟨primary, .inr ⟨secondary, modeField.symm ▸ undefined⟩⟩

/-- What the word of a comparison decodes to has a meaning exactly if the cut mode has one. -/
theorem isValid_ofWord_toWord_cmpz {mode unused immediate : Nat} {source : Address} :
    (ofWord (toWord (.single .cmpz mode unused immediate source))).isValid = true ↔
      mode % 8 ≤ 4 := by
  by_cases defined : mode % 8 ≤ 4
  · have valid : (cut (.single .cmpz mode unused immediate source)).isValid = true :=
      isValid_cmpz_iff.mpr defined
    rw [ofWord_toWord_of_cut valid]
    exact iff_of_true valid defined
  · rw [isValid_ofWord_iff]
    have undefined : 5 ≤ mode % 8 := by omega
    exact iff_of_false (not_not_intro (undefined_toWord_cmpz undefined)) defined

/-- A word keeps whether its instruction has a meaning, unless the instruction has none and the
word has one. -/
theorem isValid_ofWord_toWord_iff (instruction : Instruction) :
    (ofWord instruction.toWord).isValid = instruction.isValid ↔ instruction.StaysUndefined := by
  cases instruction with
  | dual operation a b =>
    have valid : (cut (.dual operation a b)).isValid = true := rfl
    rw [ofWord_toWord_of_cut valid]
    exact iff_of_true rfl trivial
  | invalid word =>
    change (ofWord word).isValid = false ↔ Undefined word
    rw [← Bool.not_eq_true, isValid_ofWord_iff, Classical.not_not]
  | single operation mode unused immediate source =>
    cases operation with
    | cmpz =>
      rw [Bool.eq_iff_iff, isValid_ofWord_toWord_cmpz, isValid_cmpz_iff]
      simp only [StaysUndefined]
      omega
    | noop | sqrt | copy | input =>
      rw [ofWord_toWord_of_cut rfl]
      exact iff_of_true rfl trivial

/-- An instruction comes back from its word cut if it has a meaning, and as the word if it has
none. -/
theorem ofWord_toWord_of_staysUndefined (stays : instruction.StaysUndefined) :
    ofWord instruction.toWord =
      if instruction.isValid then instruction.cut else .invalid instruction.toWord := by
  have same := (isValid_ofWord_toWord_iff instruction).mpr stays
  cases valid : instruction.isValid with
  | false =>
    rw [valid, ← Bool.not_eq_true, isValid_ofWord_iff, Classical.not_not] at same
    exact (ofWord_eq_invalid_iff _).mpr same
  | true =>
    apply ofWord_toWord_of_cut
    cases instruction with
    | dual operation a b => rfl
    | invalid word => cases valid
    | single operation mode unused immediate source =>
      cases operation with
      | cmpz =>
        have defined := isValid_cmpz_iff.mp valid
        exact isValid_cmpz_iff.mpr (by omega)
      | noop | sqrt | copy | input => rfl

end Dataflow.Instruction
