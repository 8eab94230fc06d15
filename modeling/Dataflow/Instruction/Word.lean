import Dataflow.Instruction.Basic

set_option autoImplicit false

namespace Dataflow.Instruction

/-- Whether the top four bits of a word are zero, so that it has the layout of single operations. -/
def hasSingleLayout (word : Word) : Bool := word.bits 28 4 == 0

/-- The payload of a word: all but its top four bits. -/
def payload (word : Word) : Nat := word.bits 0 28

/-- A word has two overlapping layouts, and its top four bits choose between them.

* Not zero: the code of a dual operation, then two addresses of fourteen bits.
* Zero: the code of a single operation in the next four bits, then three bits of comparison mode,
  one unused bit, six bits of immediate and an address of fourteen bits.

The unused bit and the immediate have no meaning, and the mode has one for comparisons only. They
are kept all the same, so that an instruction gives back the word it came from. -/
def ofWord (word : Word) : Instruction :=
  if hasSingleLayout word then
    match SingleOperation.ofCode? (word.bits 24 4) with
    | none => .invalid word
    | some operation =>
      let mode := word.bits 21 3
      if operation = .cmpz ∧ CompareMode.ofCode? mode = none then .invalid word
      else
        .single operation mode (word.bits 20 1) (word.bits 14 6)
          (Address.ofField operation.sourceBank word 0)
  else
    match DualOperation.ofCode? (word.bits 28 4) with
    | none => .invalid word
    | some operation =>
      .dual operation (Address.ofField operation.firstBank word 14) (Address.ofField .memory word 0)

/-- The word of an instruction. A number too wide for its field loses its upper bits. -/
def toWord : Instruction → Word
  | .dual operation a b =>
    UInt32.ofNat (Word.place operation.code 28 4 + Word.place a.number 14 14 +
      Word.place b.number 0 14)
  | .single operation mode unused immediate source =>
    UInt32.ofNat (Word.place operation.code 24 4 + Word.place mode 21 3 + Word.place unused 20 1 +
      Word.place immediate 14 6 + Word.place source.number 0 14)
  | .invalid word => word

/-- An instruction gives back the word it came from, bits without a meaning included. -/
theorem toWord_ofWord (word : Word) : (ofWord word).toWord = word := by
  have bound := word.toNat_lt
  unfold ofWord
  split
  · rename_i single
    simp only [hasSingleLayout, beq_iff_eq] at single
    split
    · rfl
    · rename_i operation found
      have code := SingleOperation.ofCode?_eq_some_iff.mp found
      dsimp only
      split
      · rfl
      · apply UInt32.toNat_inj.mp
        simp only [toWord, Address.ofField, UInt32.toNat_ofNat', ← code]
        simp only [Word.bits, Word.place, Nat.shiftLeft_eq, Nat.shiftRight_eq_div_pow] at single ⊢
        omega
  · split
    · rfl
    · rename_i operation found
      have code := DualOperation.ofCode?_eq_some_iff.mp found
      apply UInt32.toNat_inj.mp
      simp only [toWord, Address.ofField, UInt32.toNat_ofNat', ← code]
      simp only [Word.bits, Word.place, Nat.shiftLeft_eq, Nat.shiftRight_eq_div_pow]
      omega

end Dataflow.Instruction
