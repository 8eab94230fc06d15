import Dataflow.Instruction.Canonical
import Dataflow.Program.Source
import Dataflow.Proofs.Encoding
import Dataflow.Proofs.RecordFormat
import Dataflow.Proofs.Relisting
import Mathlib.Data.List.Basic

set_option autoImplicit false

namespace Dataflow

open Assembly Assembly.Grammar Numeric

namespace Binary64

theorem magnitude_ofMagnitude (negative : Bool) {magnitude : Nat} (fits : magnitude < signBit) :
    (ofMagnitude negative magnitude).magnitude = magnitude := by
  cases negative <;>
    simp only [ofMagnitude, Binary64.magnitude, UInt64.toNat_ofNat', signBit, if_true,
      Bool.false_eq_true, if_false] at fits ⊢ <;>
    omega

end Binary64

theorem Numeric.Decimal.magnitude_le (d : Decimal) : d.magnitude ≤ Binary64.infinityMagnitude := by
  unfold magnitude
  split
  · exact Nat.zero_le _
  split
  · exact Nat.le_refl _
  split
  · exact Nat.zero_le _
  · exact Nat.min_le_right _ _

theorem Binary64.canonical_ofDecimal (negative : Bool) (d : Decimal) :
    (ofDecimal negative d).canonical = ofDecimal negative d := by
  have finite := d.magnitude_le
  have fits : d.magnitude < signBit := Nat.lt_of_le_of_lt finite (by decide)
  have number : (ofDecimal negative d).isNaN = false := by
    rw [isNaN, ofDecimal, magnitude_ofMagnitude negative fits]
    exact decide_eq_false (Nat.not_lt.mpr finite)
  rw [canonical, number]
  rfl

/-- The value of a constant is the one that its text in a listing stands for. -/
theorem canonical_of_constantForm {text : List Char} {value : Binary64}
    (form : ConstantForm text value) : value.canonical = value := by
  cases form with
  | nan => decide
  | infinity => decide
  | negativeInfinity => decide
  | decimal => exact Binary64.canonical_ofDecimal _ _

theorem canonical_of_optionalConstant {text : List Char} {value : Option Binary64}
    (form : OptionalConstant text value) : (value.getD .zero).canonical = value.getD .zero := by
  cases form with
  | none => decide
  | some before behind constant => exact canonical_of_constantForm constant

namespace Instruction

variable {instruction : Instruction} {statement : Statement}

/-- The instruction with zero in every field that its text does not show. -/
def bare : Instruction → Instruction
  | .single .noop _ _ _ _ => .noop
  | .single .cmpz mode _ _ source => .single .cmpz mode 0 0 source
  | .single operation _ _ _ source => .single operation 0 0 0 source
  | .dual operation a b => .dual operation a b
  | .invalid word => .invalid word

/-- A canonical instruction is read back from a listing without the fields that are not shown. -/
theorem relisted_of_canonical (canonical : instruction.Canonical) :
    Relisted instruction instruction.bare := by
  cases instruction with
  | dual operation a b =>
    obtain ⟨aBank, a⟩ := a
    obtain ⟨bBank, b⟩ := b
    obtain ⟨rfl, aFits, rfl, bFits⟩ := canonical
    exact .dual operation aFits bFits
  | invalid word =>
    have undefined : ofWord word = .invalid word := (ofWord_eq_invalid_iff word).mpr canonical
    have read := Relisted.invalid word
    rw [undefined] at read
    exact read
  | single operation mode unused immediate source =>
    obtain ⟨bank, number⟩ := source
    obtain ⟨-, compares, -, -, rfl, fits⟩ := canonical
    cases operation with
    | noop => exact .noop
    | sqrt | copy | input => exact .single (by decide) (by decide) fits
    | cmpz =>
      cases defined : CompareMode.ofCode? mode with
      | none =>
        -- Canonical comparisons name one, so that their text has no question mark.
        have large := CompareMode.ofCode?_eq_none_iff.mp defined
        have small := compares rfl
        omega
      | some comparison =>
        obtain rfl := CompareMode.ofCode?_eq_some_iff.mp defined
        exact .compare defined fits

theorem canonical_of_meaning (meaning : Meaning statement instruction) :
    instruction.Canonical := by
  cases meaning with
  | dual operation aFits bFits => exact ⟨rfl, aFits, rfl, bFits⟩
  | noop => decide
  | compare mode fits =>
    have code : mode.code ≤ 4 := by
      cases mode <;> decide
    exact ⟨by omega, fun _ => code, by omega, by omega, rfl, fits⟩
  | single operation notNoop notCmpz fits =>
    exact ⟨by omega, fun compares => absurd compares notCmpz, by omega, by omega, rfl, fits⟩
  | word word => exact canonical_ofWord word

/-- A statement sets no field that a listing does not show, unless it gives a word. -/
theorem bare_of_meaning (meaning : Meaning statement instruction) :
    instruction.bare = instruction ∨
      ∃ word constant, statement = ⟨wordStatement, [.word word], constant⟩ ∧
        instruction = ofWord word := by
  cases meaning with
  | dual | noop | compare => exact .inl rfl
  | single operation notNoop notCmpz =>
    cases operation with
    | noop => exact absurd rfl notNoop
    | cmpz => exact absurd rfl notCmpz
    | sqrt | copy | input => exact .inl rfl
  | word word => exact .inr ⟨word, _, rfl, rfl⟩

end Instruction

def Line.bare (line : Line) : Line := ⟨line.instruction.bare, line.constant⟩

theorem Line.bare_eq_self_of_instruction (line : Line)
    (same : line.instruction.bare = line.instruction) : line.bare = line := by
  rw [Line.bare, same]

theorem mem_assembleLines {lines : List (List Char × Nat)} {results : List (Option Line)}
    (assembled : assembleLines lines = .ok results) (result : Option Line) :
    result ∈ results ↔ ∃ source ∈ lines.map Prod.fst, assembleLine source = .ok result := by
  induction lines generalizing results with
  | nil =>
    cases assembled
    simp
  | cons source lines ih =>
    obtain ⟨text, number⟩ := source
    rw [assembleLines_cons] at assembled
    cases first : assembleLine text with
    | error fault =>
      rw [first] at assembled
      cases assembled
    | ok line =>
      rw [first] at assembled
      dsimp only at assembled
      cases others : assembleLines lines with
      | error cause =>
        rw [others] at assembled
        cases assembled
      | ok rest =>
        rw [others] at assembled
        cases assembled
        simp only [List.mem_cons, List.map_cons, ih others, exists_eq_or_imp, first,
          Except.ok.injEq]
        exact or_congr_left eq_comm

namespace Program

variable {text : String} {program : Program} {line : Line}

theorem mem_lines_ofAssembly (assembled : ofAssembly text = .ok program) :
    line ∈ program.lines ↔
      ∃ source ∈ Text.lines text.toList, assembleLine source = .ok (some line) := by
  have sources : ((Text.lines text.toList).zipIdx 1).map Prod.fst = Text.lines text.toList :=
    List.zipIdx_map_fst 1 _
  unfold ofAssembly at assembled
  cases results : assembleLines ((Text.lines text.toList).zipIdx 1) with
  | error cause =>
    rw [results] at assembled
    cases assembled
  | ok lines =>
    rw [results] at assembled
    cases assembled
    have each := mem_assembleLines results (some line)
    rw [sources] at each
    simp only [List.mem_filterMap, id_eq, exists_eq_right, each]

/-- Where a line of an assembled program comes from: a statement that stands for its instruction
and gives its constant. -/
theorem statement_of_mem_ofAssembly (assembled : ofAssembly text = .ok program)
    (member : line ∈ program.lines) :
    ∃ source ∈ Text.lines text.toList, ∃ statement, LineForm source (some statement) ∧
      Meaning statement line.instruction ∧ line.constant = statement.constant.getD .zero := by
  obtain ⟨source, inText, accepted⟩ := (mem_lines_ofAssembly assembled).mp member
  obtain ⟨reading, form, meaning⟩ := assembleLine_eq_ok_iff.mp accepted
  cases meaning with
  | some meaning => exact ⟨source, inText, _, form, meaning, rfl⟩

/-- Every instruction fits its word and comes back from it. -/
def Canonical (program : Program) : Prop :=
  ∀ line ∈ program.lines, line.instruction.Canonical

theorem canonical_of_ofAssembly (assembled : ofAssembly text = .ok program) :
    program.Canonical := by
  intro line member
  obtain ⟨source, -, statement, -, meaning, -⟩ := statement_of_mem_ofAssembly assembled member
  exact Instruction.canonical_of_meaning meaning

theorem canonical_ofBytes (bytes : List UInt8) : (ofBytes bytes).Canonical := by
  intro line member
  rw [lines_ofBytes, List.mem_map] at member
  obtain ⟨slot, -, rfl⟩ := member
  exact Instruction.canonical_ofWord _

theorem Canonical.ofBytes_toBytes (canonical : program.Canonical) :
    ofBytes program.toBytes = program := by
  obtain ⟨lines⟩ := program
  have same : ∀ line ∈ lines, line.reread = line := by
    intro line member
    rw [Line.reread, Instruction.ofWord_toWord (canonical line member)]
  have whole := lines_ofBytes_toBytes ⟨lines⟩
  rw [List.map_congr_left same, List.map_id'] at whole
  exact congrArg mk whole

/-- An assembled program is what its records are read as: the same instructions in every field,
the same constants in every bit, in the same slots, and no byte is left over. -/
theorem ofBytes_toBytes_of_ofAssembly (assembled : ofAssembly text = .ok program) :
    ofBytes program.toBytes = program ∧ leftover program.toBytes = [] ∧
      ∀ source : ByteSource, source.readAll = .ok program.toBytes →
        ofSource source = .ok program := by
  have whole := (canonical_of_ofAssembly assembled).ofBytes_toBytes
  refine ⟨whole, ?_, fun source delivered => ?_⟩
  · rw [leftover, readRecords_toBytes]
  · rw [ofSource, delivered]
    exact congrArg Except.ok whole

/-- A copy with a reserved field that is set, and an undefined word, both given as words. -/
theorem ofBytes_toBytes_of_ofAssembly_words :
    let text := "Invalid(0x0300400b) = inf\nInvalid(0xf0000001)\n"
    let program : Program :=
      ⟨[⟨.single .copy 0 0 1 ⟨.memory, 11⟩, .infinity false⟩, ⟨.invalid 0xf0000001, .zero⟩]⟩
    ofAssembly text = .ok program ∧ ofBytes program.toBytes = program := by
  intro text program
  have assembled : ofAssembly text = .ok program := by decide +kernel
  exact ⟨assembled, (ofBytes_toBytes_of_ofAssembly assembled).1⟩

/-- The program with zero in every field that its listing does not show. -/
def bare (program : Program) : Program := ⟨program.lines.map Line.bare⟩

theorem bare_eq_self_iff :
    program.bare = program ↔ ∀ line ∈ program.lines, line.bare = line := by
  obtain ⟨lines⟩ := program
  have self : lines.map Line.bare = lines ↔ lines.map Line.bare = lines.map id := by
    rw [List.map_id]
  rw [bare, mk.injEq, self, List.map_inj_left]
  rfl

/-- A canonical program is read back from its listing line by line, without the fields that the
listing does not show. -/
theorem Canonical.ofAssembly_listing_bare (canonical : program.Canonical)
    (constants : ∀ line ∈ program.lines, line.constant.canonical = line.constant) :
    ofAssembly program.listing = .ok program.bare := by
  have addressable : program.Addressable := by
    intro line member operand named
    have fits := Instruction.encodable_of_canonical (canonical line member) operand named
    exact Nat.lt_trans fits (by decide)
  apply ofAssembly_of_relistedAs addressable
  refine ⟨List.length_map _, fun slot line read given found => ?_⟩
  have member : line ∈ program.lines := List.mem_of_getElem? given
  have same : line.bare = read := by
    rw [bare, List.getElem?_map, given] at found
    exact Option.some.inj found
  subst same
  exact ⟨Instruction.relisted_of_canonical (canonical line member), (constants line member).symm⟩

theorem constants_of_ofAssembly (assembled : ofAssembly text = .ok program) :
    ∀ line ∈ program.lines, line.constant.canonical = line.constant := by
  intro line member
  obtain ⟨source, -, statement, form, -, same⟩ := statement_of_mem_ofAssembly assembled member
  rw [same]
  cases form with
  | some before statement behind comment =>
    cases statement with
    | mk name arguments constant => exact canonical_of_optionalConstant constant

theorem mem_of_wordStatement (assembled : ofAssembly text = .ok program) {source : List Char}
    (inText : source ∈ Text.lines text.toList) {word : Word} {constant : Option Binary64}
    (form : LineForm source (some ⟨wordStatement, [.word word], constant⟩)) :
    ⟨.ofWord word, constant.getD .zero⟩ ∈ program.lines :=
  (mem_lines_ofAssembly assembled).mpr
    ⟨source, inText, assembleLine_eq_ok_iff.mpr ⟨_, form, .some (.word word)⟩⟩

/-- An assembled program is assembled again from its listing: every line comes back in its slot
with its constant and with all fields that the listing shows. The whole program comes back exactly
if no statement of the text gives a word that sets another field. -/
theorem ofAssembly_listing_of_ofAssembly (assembled : ofAssembly text = .ok program) :
    ofAssembly program.listing = .ok program.bare ∧
      (ofAssembly program.listing = .ok program ↔
        ∀ source ∈ Text.lines text.toList, ∀ word constant,
          LineForm source (some ⟨wordStatement, [.word word], constant⟩) →
            (Instruction.ofWord word).bare = .ofWord word) := by
  have again : ofAssembly program.listing = .ok program.bare :=
    (canonical_of_ofAssembly assembled).ofAssembly_listing_bare (constants_of_ofAssembly assembled)
  refine ⟨again, ?_⟩
  rw [again, Except.ok.injEq, bare_eq_self_iff]
  constructor
  · intro whole source inText word constant form
    have same := whole _ (mem_of_wordStatement assembled inText form)
    exact congrArg Line.instruction same
  · intro words line member
    obtain ⟨source, inText, statement, form, meaning, -⟩ :=
      statement_of_mem_ofAssembly assembled member
    apply line.bare_eq_self_of_instruction
    rcases Instruction.bare_of_meaning meaning with plain | ⟨word, constant, rfl, given⟩
    · exact plain
    · rw [given]
      exact words source inText word constant form

/-- The copy comes back without its reserved field, the undefined word as it is. -/
theorem ofAssembly_listing_of_ofAssembly_words :
    let text := "Invalid(0x0300400b) = inf\nInvalid(0xf0000001)\n"
    let program : Program :=
      ⟨[⟨.single .copy 0 0 1 ⟨.memory, 11⟩, .infinity false⟩, ⟨.invalid 0xf0000001, .zero⟩]⟩
    let read : Program :=
      ⟨[⟨.single .copy 0 0 0 ⟨.memory, 11⟩, .infinity false⟩, ⟨.invalid 0xf0000001, .zero⟩]⟩
    ofAssembly text = .ok program ∧ ofAssembly program.listing = .ok read := by
  intro text program read
  have assembled : ofAssembly text = .ok program := by decide +kernel
  exact ⟨assembled, (ofAssembly_listing_of_ofAssembly assembled).1⟩

/-- An accepted text whose program is not what its own listing is assembled to: the copy of the
text has a reserved field that is set, the copy of the listing has not. -/
theorem ofAssembly_listing_reserved :
    let program : Program := ⟨[⟨.single .copy 0 0 1 ⟨.memory, 11⟩, .zero⟩]⟩
    ofAssembly "Invalid(0x0300400b)" = .ok program ∧ ofAssembly program.listing ≠ .ok program := by
  intro program
  have assembled : ofAssembly "Invalid(0x0300400b)" = .ok program := by decide +kernel
  refine ⟨assembled, fun same => ?_⟩
  have again := (canonical_of_ofAssembly assembled).ofAssembly_listing_bare
    (constants_of_ofAssembly assembled)
  rw [again, Except.ok.injEq, bare_eq_self_iff] at same
  exact absurd (same _ (List.mem_singleton_self _)) (by decide)

end Program

end Dataflow
