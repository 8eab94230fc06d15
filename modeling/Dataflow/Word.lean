set_option autoImplicit false

namespace Dataflow

abbrev Word := UInt32

/-- The number in a field of a word: so many bits from a lowest one on. -/
def Word.bits (word : Word) (low width : Nat) : Nat := (word.toNat >>> low) % (1 <<< width)

/-- A number put into a field of a word that is otherwise zero. Bits that the field has no room for
are lost. -/
def Word.place (n low width : Nat) : Nat := (n % (1 <<< width)) <<< low

theorem Word.bits_lt (word : Word) (low width : Nat) : word.bits low width < 1 <<< width :=
  Nat.mod_lt _ (by simp only [Nat.shiftLeft_eq, Nat.one_mul, Nat.two_pow_pos])

end Dataflow
