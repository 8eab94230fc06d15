import Dataflow.Proofs.SideBySide

set_option autoImplicit false

namespace Dataflow

/-- A bit of its words that the operation does not read. -/
def SingleOperation.Reserves (bit : Nat) : SingleOperation → Prop
  | noop => bit < 24
  | cmpz => 14 ≤ bit ∧ bit < 21
  | sqrt | copy | input => 14 ≤ bit ∧ bit < 24

instance (bit : Nat) : (operation : SingleOperation) → Decidable (operation.Reserves bit)
  | .noop => inferInstanceAs (Decidable (_ < _))
  | .cmpz => inferInstanceAs (Decidable (_ ∧ _))
  | .sqrt | .copy | .input => inferInstanceAs (Decidable (_ ∧ _))

theorem SingleOperation.Reserves.lt {operation : SingleOperation} {bit : Nat}
    (reserves : operation.Reserves bit) : bit < 24 := by
  cases operation with
  | noop => exact reserves
  | cmpz => exact Nat.lt_trans reserves.2 (by decide)
  | sqrt | copy | input => exact reserves.2

namespace Word

variable {word other : Word} {operation : SingleOperation}

/-- The word has a meaning, and it is that of a single operation. -/
structure IsSingle (word : Word) (operation : SingleOperation) : Prop where
  layout : word.bits 28 4 = 0
  code : word.bits 24 4 = operation.code
  defined : operation = .cmpz → word.bits 21 3 ≤ 4

instance (word : Word) (operation : SingleOperation) : Decidable (word.IsSingle operation) :=
  decidable_of_iff (word.bits 28 4 = 0 ∧ word.bits 24 4 = operation.code ∧
      (operation = .cmpz → word.bits 21 3 ≤ 4))
    ⟨fun ⟨layout, code, defined⟩ => ⟨layout, code, defined⟩,
      fun ⟨layout, code, defined⟩ => ⟨layout, code, defined⟩⟩

/-- A bit of the word is reserved: the word is that of an operation that does not read it. -/
def Reserved (word : Word) (bit : Nat) : Prop :=
  ∃ operation ∈ SingleOperation.all, word.IsSingle operation ∧ operation.Reserves bit

instance (word : Word) (bit : Nat) : Decidable (word.Reserved bit) :=
  inferInstanceAs (Decidable (∃ operation ∈ SingleOperation.all,
    word.IsSingle operation ∧ operation.Reserves bit))

/-- The words are equal except in reserved bits. -/
def SameButReserved (word other : Word) : Prop :=
  ∀ bit < 32, ¬ word.Reserved bit → word.toNat.testBit bit = other.toNat.testBit bit

instance (word other : Word) : Decidable (word.SameButReserved other) :=
  inferInstanceAs (Decidable (∀ bit < 32, ¬ word.Reserved bit →
    word.toNat.testBit bit = other.toNat.testBit bit))

theorem IsSingle.reserves (single : word.IsSingle operation) {bit : Nat}
    (reserved : word.Reserved bit) : operation.Reserves bit := by
  obtain ⟨same, -, also, reserves⟩ := reserved
  have found : some operation = some same := by
    rw [← operation.ofCode?_code, ← same.ofCode?_code, ← single.code, ← also.code]
  cases found
  exact reserves

theorem bits_eq_of_testBit {low width : Nat} (same : ∀ bit, low ≤ bit → bit < low + width →
    word.toNat.testBit bit = other.toNat.testBit bit) :
    word.bits low width = other.bits low width := by
  unfold bits
  rw [Nat.one_shiftLeft]
  apply Nat.eq_of_testBit_eq
  intro position
  rw [Nat.testBit_mod_two_pow, Nat.testBit_mod_two_pow, Nat.testBit_shiftRight,
    Nat.testBit_shiftRight]
  by_cases inside : position < width
  · rw [same (low + position) (by omega) (by omega)]
  · simp only [inside, decide_false, Bool.false_and]

theorem SameButReserved.bits_eq (same : word.SameButReserved other) {low width : Nat}
    (within : low + width ≤ 32)
    (free : ∀ bit, low ≤ bit → bit < low + width → ¬ word.Reserved bit) :
    word.bits low width = other.bits low width :=
  bits_eq_of_testBit fun bit lower upper =>
    same bit (Nat.lt_of_lt_of_le upper within) (free bit lower upper)

theorem SameButReserved.eq (same : word.SameButReserved other) (free : ∀ bit, ¬ word.Reserved bit) :
    word = other := by
  have whole : word.bits 0 32 = other.bits 0 32 :=
    same.bits_eq (Nat.le_refl 32) fun bit _ _ => free bit
  have bound := word.toNat_lt
  have otherBound := other.toNat_lt
  simp only [bits, Nat.shiftRight_zero, Nat.one_shiftLeft] at whole
  exact UInt32.toNat_inj.mp (by omega)

end Word

namespace Instruction

theorem ofWord_of_isSingle {word : Word} {operation : SingleOperation}
    (single : word.IsSingle operation) :
    ofWord word = .single operation (word.bits 21 3) (word.bits 20 1) (word.bits 14 6)
      ⟨operation.sourceBank, word.bits 0 14⟩ := by
  have layout : hasSingleLayout word = true := beq_iff_eq.mpr single.layout
  have meant : ¬ (operation = .cmpz ∧ CompareMode.ofCode? (word.bits 21 3) = none) := by
    rw [CompareMode.ofCode?_eq_none_iff]
    rintro ⟨compares, large⟩
    have small := single.defined compares
    omega
  rw [ofWord, if_pos layout, single.code, SingleOperation.ofCode?_code]
  exact if_neg meant

/-- Reserved bits are in no field that a listing shows. -/
theorem bare_ofWord_eq {word other : Word} (same : word.SameButReserved other) :
    (ofWord word).bare = (ofWord other).bare := by
  by_cases singles : ∃ operation, word.IsSingle operation
  · obtain ⟨operation, single⟩ := singles
    have field {low width : Nat} (within : low + width ≤ 32)
        (free : ∀ bit, low ≤ bit → bit < low + width → ¬ operation.Reserves bit) :
        word.bits low width = other.bits low width :=
      same.bits_eq within fun bit lower upper reserved =>
        free bit lower upper (single.reserves reserved)
    -- The codes decide which bits are reserved, and are never reserved themselves.
    have codes (low : Nat) (above : 24 ≤ low) (within : low + 4 ≤ 32) :
        word.bits low 4 = other.bits low 4 :=
      field within fun bit lower _ reserves => by
        have below := reserves.lt
        omega
    have layout := (codes 28 (by omega) (by omega)).symm.trans single.layout
    have code := (codes 24 (by omega) (by omega)).symm.trans single.code
    rw [ofWord_of_isSingle single]
    cases operation with
    | noop =>
      rw [ofWord_of_isSingle ⟨layout, code, nofun⟩]
      rfl
    | cmpz =>
      have mode : word.bits 21 3 = other.bits 21 3 :=
        field (by omega) fun bit lower _ reserves => absurd reserves.2 (by omega)
      have source : word.bits 0 14 = other.bits 0 14 :=
        field (by omega) fun bit _ upper reserves => absurd reserves.1 (by omega)
      rw [ofWord_of_isSingle ⟨layout, code, fun compares => mode ▸ single.defined compares⟩]
      simp only [bare, mode, source]
    | sqrt | copy | input =>
      have source : word.bits 0 14 = other.bits 0 14 :=
        field (by omega) fun bit _ upper reserves => absurd reserves.1 (by omega)
      rw [ofWord_of_isSingle ⟨layout, code, nofun⟩]
      simp only [bare, source]
  · have free (bit : Nat) : ¬ word.Reserved bit := by
      rintro ⟨operation, -, single, -⟩
      exact singles ⟨operation, single⟩
    rw [same.eq free]

theorem text_bare (instruction : Instruction) : instruction.bare.text = instruction.text := by
  cases instruction with
  | dual operation a b => rfl
  | invalid word => rfl
  | single operation mode unused immediate source => cases operation <;> rfl

/-- Only instructions with a meaning have fields that a listing does not show. -/
theorem Canonical.bare_eq_self {instruction : Instruction} (canonical : instruction.Canonical)
    (undefined : instruction.isValid = false) : instruction.bare = instruction := by
  cases instruction with
  | dual operation a b => rfl
  | invalid word => rfl
  | single operation mode unused immediate source =>
    cases operation with
    | noop | sqrt | copy | input => cases undefined
    | cmpz =>
      have small := canonical.2.1 rfl
      have large := CompareMode.ofCode?_eq_none_iff.mp
        (Option.isNone_iff_eq_none.mp (Option.isSome_eq_false_iff.mp undefined))
      omega

theorem isValid_bare (instruction : Instruction) :
    instruction.bare.isValid = instruction.isValid := by
  cases instruction with
  | dual operation a b => rfl
  | invalid word => rfl
  | single operation mode unused immediate source => cases operation <;> rfl

end Instruction

namespace Line

theorem text_bare (line : Line) : line.bare.text = line.text := by
  rw [text, bare, Instruction.text_bare, ← text]

theorem operation?_bare (line : Line) (slot : Nat) :
    line.bare.operation? slot = line.operation? slot := by
  obtain ⟨instruction, constant⟩ := line
  cases instruction with
  | dual operation a b => rfl
  | invalid word => rfl
  | single operation mode unused immediate source => cases operation <;> rfl

end Line

namespace Program

variable {program : Program} {bytes other : List UInt8}

theorem placed_bare (program : Program) :
    program.bare.placed = program.placed.map fun (line, slot) => (line.bare, slot) :=
  program.placed_map Line.bare

theorem listing_bare (program : Program) : program.bare.listing = program.listing := by
  simp only [listing, bare, List.map_map, Function.comp_def, Line.text_bare]

theorem numberedListing_bare (program : Program) :
    program.bare.numberedListing = program.numberedListing := by
  simp only [numberedListing, placed_bare, List.map_map, Function.comp_def, Line.text_bare]

theorem constants_bare (program : Program) : program.bare.constants = program.constants :=
  constants_map fun _ => rfl

theorem operations_bare (program : Program) : program.bare.operations = program.operations :=
  operations_map fun line _ => line.operation?_bare

/-- Lines without a meaning have no field that a listing does not show. -/
theorem Canonical.undefinedLines_bare (canonical : program.Canonical) :
    program.bare.undefinedLines = program.undefinedLines := by
  rw [undefinedLines, placed_bare, List.filter_map]
  simp only [Function.comp_def, Line.bare, Instruction.isValid_bare]
  refine (List.map_congr_left ?_).trans (List.map_id _)
  rintro ⟨line, slot⟩ kept
  obtain ⟨placed, undefined⟩ := List.mem_filter.mp kept
  have member : line ∈ program.lines :=
    List.mem_of_getElem? (List.mem_zipIdx_iff_getElem?.mp placed)
  have same := (canonical line member).bare_eq_self (by simpa using undefined)
  exact congrArg (·, slot) (line.bare_eq_self_of_instruction same)

/-- The constant in the record of a slot: the first eight bytes of the record in even slots, the
last eight in odd ones. -/
def constantAt (bytes : List UInt8) (slot : Nat) : Binary64 :=
  ⟨UInt64.ofNat (numberAt bytes (if slot % 2 = 0 then 12 * slot else 12 * slot + 4) 8)⟩

theorem inBytes_eq (bytes : List UInt8) (slot : Nat) :
    Line.inBytes bytes slot = ⟨.ofWord (wordAt bytes slot), constantAt bytes slot⟩ := rfl

/-- The byte strings are equally long, and their records hold the same constants and words that are
equal except in reserved bits. -/
structure SameButReserved (bytes other : List UInt8) : Prop where
  length : bytes.length = other.length
  constants : ∀ slot < bytes.length / 12, constantAt bytes slot = constantAt other slot
  words : ∀ slot < bytes.length / 12, (wordAt bytes slot).SameButReserved (wordAt other slot)

/-- Their programs differ in nothing that a listing shows. -/
theorem SameButReserved.bare_eq (same : SameButReserved bytes other) :
    (ofBytes bytes).bare = (ofBytes other).bare := by
  have lines : (List.range (bytes.length / 12)).map (Line.bare ∘ Line.inBytes bytes) =
      (List.range (bytes.length / 12)).map (Line.bare ∘ Line.inBytes other) := by
    refine List.map_congr_left fun slot named => ?_
    have inside := List.mem_range.mp named
    simp only [Function.comp_apply, inBytes_eq, Line.bare, same.constants slot inside,
      Instruction.bare_ofWord_eq (same.words slot inside)]
  rw [bare, bare, lines_ofBytes, lines_ofBytes, ← same.length, List.map_map, List.map_map]
  exact congrArg Program.mk lines

end Program

/-- The verdict on a canonical program depends only on what its listing shows. -/
theorem Config.verdict_bare (config : Config) {program : Program} (canonical : program.Canonical) :
    config.verdict program.bare = config.verdict program := by
  have length : program.bare.length = program.length := List.length_map _
  rw [verdict, verdict, length, canonical.undefinedLines_bare, program.operations_bare]

namespace Machine

variable {bytes other : List UInt8}

theorem perform_load {source : ByteSource} (delivered : source.readAll = .ok bytes)
    (machine : Machine) :
    machine.perform (.load source) = machine.perform (.install (.ofBytes bytes)) := by
  simp only [perform, loadSource, Program.ofSource, delivered]

/-- Reserved bits never influence execution. Byte strings whose records differ only in them have the
same listings, and loading them into machines of one valid configuration in one condition comes to
the same, whatever the host does next. -/
theorem load_sameButReserved (same : Program.SameButReserved bytes other) :
    (Program.ofBytes bytes).listing = (Program.ofBytes other).listing ∧
      (Program.ofBytes bytes).numberedListing = (Program.ofBytes other).numberedListing ∧
      ∀ {x y : Machine}, x.Reachable → x.config = y.config → x.Matches y →
        ∀ {source otherSource : ByteSource}, source.readAll = .ok bytes →
          otherSource.readAll = .ok other → ∀ later,
            x.SameOutcome y (.load source :: later) (.load otherSource :: later) := by
  have bare := same.bare_eq
  refine ⟨?_, ?_, fun {x y} reached config matched source otherSource read otherRead later => ?_⟩
  · rw [← Program.listing_bare, bare, Program.listing_bare]
  · rw [← Program.numberedListing_bare, bare, Program.numberedListing_bare]
  · have canonical := Program.canonical_ofBytes bytes
    have otherCanonical := Program.canonical_ofBytes other
    have verdict : x.accept (.ofBytes bytes) = y.accept (.ofBytes other) := by
      rw [accept_eq_verdict reached.valid matched.sized canonical.encodable,
        accept_eq_verdict (config ▸ reached.valid) matched.otherSized otherCanonical.encodable,
        ← Config.verdict_bare _ canonical, bare, Config.verdict_bare _ otherCanonical, config]
    have constants :
        (Program.ofBytes bytes).constants = (Program.ofBytes other).constants := by
      rw [← Program.constants_bare, bare, Program.constants_bare]
    refine matched.sameOutcome ?_ (.inl (congrArg Config.strict config))
    rw [perform_load read, perform_load otherRead]
    exact matched.install verdict constants

/-- A noop, a comparison and a copy, with all reserved bits at zero and with many of them set, and
two bytes behind the records that differ. The programs are not the same, and a machine cannot tell
them apart. -/
theorem load_sameButReserved_words :
    let one : List UInt8 := [0, 0, 0, 0, 0, 0, 0xf0, 0x3f]
    let records (noop compare copy leftover : List UInt8) : List UInt8 :=
      one ++ noop ++ (compare ++ one) ++ (one ++ copy) ++ leftover
    let bytes := records [0, 0, 0, 0] [1, 0, 0x40, 1] [1, 0, 0, 3] [7, 8]
    let other := records [0xef, 0xcd, 0xab, 0] [1, 0xc0, 0x5f, 1] [1, 0xc0, 0xff, 3] [8, 7]
    let machine := (build ⟨16384, 16384, true⟩).after [.write 7 ⟨0x3FF0000000000000⟩]
    Program.ofBytes bytes ≠ Program.ofBytes other ∧
      (Program.ofBytes bytes).listing = (Program.ofBytes other).listing ∧
      machine.SameOutcome machine [.load (.ofBytes bytes), .run 3]
        [.load (.ofBytes other), .run 3] := by
  intro one records bytes other machine
  have reached : machine.Reachable := ⟨_, _, by decide, rfl⟩
  have matched : machine.Matches machine := ((Matches.build rfl rfl).after (.inl rfl)).2
  have same : Program.SameButReserved bytes other :=
    ⟨rfl, by decide +kernel, by decide +kernel⟩
  obtain ⟨listing, -, alike⟩ := load_sameButReserved same
  exact ⟨by decide +kernel, listing, alike reached rfl matched (ByteSource.readAll_ofBytes _)
    (ByteSource.readAll_ofBytes _) [.run 3]⟩

end Machine

end Dataflow
