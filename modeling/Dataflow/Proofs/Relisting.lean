import Dataflow.Proofs.AssemblyLine
import Dataflow.Proofs.ListingText

set_option autoImplicit false

namespace Dataflow

open Assembly Assembly.Grammar Text Text.Parser

/-- Every operand number fits a machine word of sixty-four bits. -/
def Program.Addressable (program : Program) : Prop := ∀ line ∈ program.lines, line.Addressable

instance (program : Program) : Decidable program.Addressable :=
  inferInstanceAs (Decidable (∀ line ∈ program.lines, line.Addressable))

/-- The instructions that are read back from a listing, and what they are then. Fields that a
listing does not show are lost. -/
inductive Relisted : Instruction → Instruction → Prop
  | noop {mode unused immediate : Nat} {source : Address} :
      Relisted (.single .noop mode unused immediate source) .noop
  | dual (operation : DualOperation) {a b : Address} : a.number < Address.range →
      b.number < Address.range →
      Relisted (.dual operation a b) (.ofDual operation a.number b.number)
  | compare {code unused immediate : Nat} {source : Address} {mode : CompareMode} :
      CompareMode.ofCode? code = some mode → source.number < Address.range →
      Relisted (.single .cmpz code unused immediate source) (.compare mode source.number)
  | single {operation : SingleOperation} {mode unused immediate : Nat} {source : Address} :
      operation ≠ .noop → operation ≠ .cmpz → source.number < Address.range →
      Relisted (.single operation mode unused immediate source)
        (.ofSingle operation source.number)
  | invalid (word : Word) : Relisted (.invalid word) (.ofWord word)

/-- The lines that are not read back from a listing, and their faults. -/
inductive Unlisted : Line → AssemblyFault → Prop
  | mode {code unused immediate : Nat} {source : Address} {constant : Binary64} :
      CompareMode.ofCode? code = none →
      Unlisted ⟨.single .cmpz code unused immediate source, constant⟩
        (.unreadable (Line.text ⟨.single .cmpz code unused immediate source, constant⟩))
  | first (operation : DualOperation) {a b : Address} {constant : Binary64} :
      Address.range ≤ a.number →
      Unlisted ⟨.dual operation a b, constant⟩ (.badArgument (Nat.repr a.number))
  | second (operation : DualOperation) {a b : Address} {constant : Binary64} :
      a.number < Address.range → Address.range ≤ b.number →
      Unlisted ⟨.dual operation a b, constant⟩ (.badArgument (Nat.repr b.number))
  | compare {code unused immediate : Nat} {source : Address} {mode : CompareMode}
      {constant : Binary64} : CompareMode.ofCode? code = some mode →
      Address.range ≤ source.number →
      Unlisted ⟨.single .cmpz code unused immediate source, constant⟩
        (.badArgument (Nat.repr source.number))
  | single {operation : SingleOperation} {mode unused immediate : Nat} {source : Address}
      {constant : Binary64} : operation ≠ .noop → operation ≠ .cmpz →
      Address.range ≤ source.number →
      Unlisted ⟨.single operation mode unused immediate source, constant⟩
        (.badArgument (Nat.repr source.number))

theorem relisted_or_unlisted (line : Line) :
    (∃ read, Relisted line.instruction read) ∨ ∃ fault, Unlisted line fault := by
  obtain ⟨instruction, constant⟩ := line
  cases instruction with
  | dual operation a b =>
    by_cases aFits : a.number < Address.range
    · by_cases bFits : b.number < Address.range
      · exact .inl ⟨_, .dual operation aFits bFits⟩
      · exact .inr ⟨_, .second operation aFits (Nat.le_of_not_lt bFits)⟩
    · exact .inr ⟨_, .first operation (Nat.le_of_not_lt aFits)⟩
  | single operation mode unused immediate source =>
    by_cases isNoop : operation = .noop
    · rw [isNoop]
      exact .inl ⟨_, .noop⟩
    by_cases isCmpz : operation = .cmpz
    · rw [isCmpz]
      cases defined : CompareMode.ofCode? mode with
      | none => exact .inr ⟨_, .mode defined⟩
      | some mode =>
        by_cases addressable : source.number < Address.range
        · exact .inl ⟨_, .compare defined addressable⟩
        · exact .inr ⟨_, .compare defined (Nat.le_of_not_lt addressable)⟩
    by_cases addressable : source.number < Address.range
    · exact .inl ⟨_, .single isNoop isCmpz addressable⟩
    · exact .inr ⟨_, .single isNoop isCmpz (Nat.le_of_not_lt addressable)⟩
  | invalid word => exact .inl ⟨_, .invalid word⟩

variable {line : Line}

theorem spelling?_single {operation : SingleOperation} {mode unused immediate : Nat}
    {source : Address} (notNoop : operation ≠ .noop) (notCmpz : operation ≠ .cmpz) :
    spelling? (.single operation mode unused immediate source) =
      some (operation.name, [.number source.number]) := by
  cases operation with
  | noop => exact absurd rfl notNoop
  | cmpz => exact absurd rfl notCmpz
  | sqrt | copy | input => rfl

theorem assembleLine_spelled {name : String} {arguments : List Argument}
    (addressable : line.Addressable)
    (spelled : spelling? line.instruction = some (name, arguments)) :
    assembleLine line.text.toList =
      (Statement.instruction ⟨name, arguments, some line.constant.canonical⟩).bind
        fun instruction => .ok (some ⟨instruction, line.constant.canonical⟩) :=
  assembleLine_of_form (line_form addressable spelled)

theorem assembleLine_of_relisted {instruction : Instruction}
    (addressable : line.Addressable)
    (relisted : Relisted line.instruction instruction) :
    assembleLine line.text.toList = .ok (some ⟨instruction, line.constant.canonical⟩) := by
  have spelled : ∃ name arguments, spelling? line.instruction = some (name, arguments) ∧
      Meaning ⟨name, arguments, some line.constant.canonical⟩ instruction := by
    obtain ⟨given, constant⟩ := line
    cases relisted with
    | noop => exact ⟨_, _, rfl, .noop⟩
    | dual operation aFits bFits => exact ⟨_, _, rfl, .dual operation aFits bFits⟩
    | compare defined inRange =>
      refine ⟨_, _, ?_, .compare _ inRange⟩
      rw [spelling?, defined]
      rfl
    | single notNoop notCmpz inRange =>
      exact ⟨_, _, spelling?_single notNoop notCmpz, .single _ notNoop notCmpz inRange⟩
    | invalid word => exact ⟨_, _, rfl, .word word⟩
  obtain ⟨name, arguments, spelled, meaning⟩ := spelled
  rw [assembleLine_spelled addressable spelled, instruction_of_meaning meaning]
  rfl

/-- A line that is not read back because its mode is a question mark. -/
theorem assembleLine_of_noMode {code unused immediate : Nat} {source : Address}
    {constant : Binary64} (undefined : CompareMode.ofCode? code = none) :
    let line : Line := ⟨.single .cmpz code unused immediate source, constant⟩
    assembleLine line.text.toList = .error (.unreadable line.text) := by
  intro line
  obtain ⟨between, text⟩ : ∃ between, line.text.toList =
      "Cmpz(?".toList ++ between ++ constant.characters .listing := unspelled_form undefined
  have trimmed : trim isWhiteSpace line.text.toList = line.text.toList := by
    have front : Stops isWhiteSpace ("Cmpz(?".toList ++ between ++ constant.characters .listing) :=
      stops_cons (by decide)
    rw [text]
    exact trim_of_stops front (stops_reverse_constant constant.characters_form)
  have unread : readLine? line.text.toList = none := by
    rw [text, List.append_assoc, readLine?_questionMark]
  rw [assembleLine, unread, trimmed, String.ofList_toList]

/-- A line whose leftmost unsuitable operand is a number out of range. -/
theorem assembleLine_of_unsuitable {name : String} {arguments : List Argument}
    {parameters : List Parameter} {value : Nat}
    (addressable : line.Addressable)
    (spelled : spelling? line.instruction = some (name, arguments))
    (signature : Signature name parameters) (same : arguments.length = parameters.length)
    (first : firstUnsuitable? parameters arguments = some (.number value)) :
    assembleLine line.text.toList = .error (.badArgument (Nat.repr value)) := by
  have bad : Statement.instruction ⟨name, arguments, some line.constant.canonical⟩ =
      .error (.badArgument (Argument.number value).text) :=
    instruction_of_badArgument signature same first
  rw [assembleLine_spelled addressable spelled, bad]
  rfl

theorem assembleLine_of_unlisted {fault : AssemblyFault}
    (addressable : line.Addressable)
    (unlisted : Unlisted line fault) : assembleLine line.text.toList = .error fault := by
  have takes {value : Nat} (inRange : value < Address.range) :
      Parameter.address.takes (.number value) = true := decide_eq_true inRange
  have refuses {value : Nat} (outside : Address.range ≤ value) :
      Parameter.address.takes (.number value) = false := decide_eq_false (Nat.not_lt.mpr outside)
  have takesMode (mode : CompareMode) : Parameter.mode.takes (.name mode.name) = true := by
    cases mode <;> rfl
  cases unlisted with
  | mode undefined => exact assembleLine_of_noMode undefined
  | first operation outside =>
    apply assembleLine_of_unsuitable addressable rfl (.dual operation) rfl
    exact firstUnsuitable?_eq_some_iff.mpr (.inl ⟨refuses outside, rfl⟩)
  | second operation aFits outside =>
    apply assembleLine_of_unsuitable addressable rfl (.dual operation) rfl
    apply firstUnsuitable?_eq_some_iff.mpr
    exact .inr ⟨takes aFits, firstUnsuitable?_eq_some_iff.mpr (.inl ⟨refuses outside, rfl⟩)⟩
  | @compare code unused immediate source mode constant defined outside =>
    have spelled : spelling? (.single .cmpz code unused immediate source) =
        some (SingleOperation.cmpz.name, [.name mode.name, .number source.number]) := by
      rw [spelling?, defined]
      rfl
    apply assembleLine_of_unsuitable addressable spelled .cmpz rfl
    apply firstUnsuitable?_eq_some_iff.mpr
    exact .inr ⟨takesMode mode, firstUnsuitable?_eq_some_iff.mpr (.inl ⟨refuses outside, rfl⟩)⟩
  | @single operation mode unused immediate source constant notNoop notCmpz outside =>
    apply assembleLine_of_unsuitable addressable (spelling?_single notNoop notCmpz)
      (.single operation notNoop notCmpz) rfl
    exact firstUnsuitable?_eq_some_iff.mpr (.inl ⟨refuses outside, rfl⟩)

theorem assembleLines_cons (text : List Char) (number : Nat) (rest : List (List Char × Nat)) :
    assembleLines ((text, number) :: rest) =
      match assembleLine text with
      | .error fault => .error ⟨number, fault⟩
      | .ok line => (assembleLines rest).bind fun others => .ok (line :: others) := by
  unfold assembleLines
  rw [List.mapM_cons]
  dsimp only
  cases assembleLine text <;> rfl

def listed (lines : List Line) (number : Nat) : List (List Char × Nat) :=
  (lines.map fun line => line.text.toList).zipIdx number

theorem listed_cons (line : Line) (lines : List Line) (number : Nat) :
    listed (line :: lines) number = (line.text.toList, number) :: listed lines (number + 1) := rfl

/-- Lines and what they are read back as, one for one. -/
def RelistedAs (lines results : List Line) : Prop :=
  results.length = lines.length ∧
    ∀ (slot : Nat) (line read : Line), lines[slot]? = some line → results[slot]? = some read →
      Relisted line.instruction read.instruction ∧ read.constant = line.constant.canonical

/-- The first line that is not read back, and the error it leads to. -/
def FirstUnlisted (lines : List Line) (number : Nat) (error : AssemblyError) : Prop :=
  ∃ slot line, lines[slot]? = some line ∧ error.line = number + slot ∧ Unlisted line error.fault ∧
    ∀ earlier < slot, ∀ other, lines[earlier]? = some other →
      ∃ read, Relisted other.instruction read

theorem exists_relistedAs {lines : List Line}
    (all : ∀ line ∈ lines, ∃ read, Relisted line.instruction read) :
    ∃ results, RelistedAs lines results := by
  induction lines with
  | nil =>
    refine ⟨[], rfl, ?_⟩
    intro slot line read missing
    cases missing
  | cons line lines ih =>
    obtain ⟨⟨instruction, first⟩, others⟩ := List.forall_mem_cons.mp all
    obtain ⟨results, sameLength, each⟩ := ih others
    refine ⟨⟨instruction, line.constant.canonical⟩ :: results, ?_, ?_⟩
    · rw [List.length_cons, List.length_cons, sameLength]
    intro slot given read isGiven isRead
    cases slot with
    | zero =>
      cases isGiven
      cases isRead
      exact ⟨first, rfl⟩
    | succ slot => exact each slot given read isGiven isRead

theorem exists_firstUnlisted {lines : List Line}
    (unread : ¬ ∀ line ∈ lines, ∃ read, Relisted line.instruction read) (number : Nat) :
    ∃ error, FirstUnlisted lines number error := by
  induction lines generalizing number with
  | nil => exact absurd (List.forall_mem_nil _) unread
  | cons line lines ih =>
    rcases relisted_or_unlisted line with ⟨read, first⟩ | ⟨fault, first⟩
    · have others : ¬ ∀ other ∈ lines, ∃ read, Relisted other.instruction read := by
        intro all
        exact unread (List.forall_mem_cons.mpr ⟨⟨read, first⟩, all⟩)
      obtain ⟨error, slot, bad, isBad, numbered, unlisted, earlierRead⟩ := ih others (number + 1)
      refine ⟨error, slot + 1, bad, isBad, by omega, unlisted, ?_⟩
      intro earlier below other isOther
      cases earlier with
      | zero =>
        cases isOther
        exact ⟨read, first⟩
      | succ earlier => exact earlierRead earlier (by omega) other isOther
    · refine ⟨⟨number, fault⟩, 0, line, rfl, rfl, first, ?_⟩
      intro earlier below
      omega

theorem assembleLines_of_relistedAs {lines results : List Line}
    (addressable : ∀ line ∈ lines, line.Addressable)
    (relisted : RelistedAs lines results) (number : Nat) :
    assembleLines (listed lines number) = .ok (results.map some) := by
  obtain ⟨sameLength, each⟩ := relisted
  induction lines generalizing results number with
  | nil =>
    rw [List.length_eq_zero_iff.mp sameLength]
    rfl
  | cons line lines ih =>
    obtain ⟨firstAddressable, othersAddressable⟩ := List.forall_mem_cons.mp addressable
    cases results with
    | nil => cases sameLength
    | cons read results =>
      obtain ⟨instruction, constant⟩ := read
      obtain ⟨first, rfl⟩ := each 0 line _ rfl rfl
      have rest := ih othersAddressable (number + 1) (Nat.succ.inj sameLength) fun slot =>
        each (slot + 1)
      rw [listed_cons, assembleLines_cons, assembleLine_of_relisted firstAddressable first]
      dsimp only
      rw [rest]
      rfl

/-- The first line that is not read back decides the error, whatever follows it. -/
theorem assembleLines_of_firstUnlisted {lines : List Line} {error : AssemblyError}
    (addressable : ∀ line ∈ lines, line.Addressable)
    {number : Nat} (first : FirstUnlisted lines number error) :
    assembleLines (listed lines number) = .error error := by
  obtain ⟨slot, bad, isBad, numbered, unlisted, earlierRead⟩ := first
  induction lines generalizing slot number with
  | nil => cases isBad
  | cons line lines ih =>
    obtain ⟨firstAddressable, othersAddressable⟩ := List.forall_mem_cons.mp addressable
    rw [listed_cons, assembleLines_cons]
    cases slot with
    | zero =>
      cases isBad
      rw [assembleLine_of_unlisted firstAddressable unlisted]
      obtain ⟨position, fault⟩ := error
      dsimp only at numbered ⊢
      rw [numbered, Nat.add_zero]
    | succ slot =>
      obtain ⟨read, relisted⟩ := earlierRead 0 (Nat.succ_pos slot) line rfl
      rw [assembleLine_of_relisted firstAddressable relisted]
      dsimp only
      rw [ih othersAddressable slot isBad (by omega) fun earlier below other isOther =>
        earlierRead (earlier + 1) (by omega) other isOther]
      rfl

namespace Program

theorem ofAssembly_listing_eq (program : Program) :
    ofAssembly program.listing =
      (assembleLines (listed program.lines 1)).bind fun lines => .ok ⟨lines.filterMap id⟩ := by
  rw [ofAssembly, lines_listing]
  rfl

theorem ofAssembly_of_relistedAs {program result : Program} (addressable : program.Addressable)
    (relisted : RelistedAs program.lines result.lines) :
    ofAssembly program.listing = .ok result := by
  rw [ofAssembly_listing_eq, assembleLines_of_relistedAs addressable relisted]
  simp [Except.bind]

theorem ofAssembly_of_firstUnlisted {program : Program} {error : AssemblyError}
    (addressable : program.Addressable) (first : FirstUnlisted program.lines 1 error) :
    ofAssembly program.listing = .error error := by
  rw [ofAssembly_listing_eq, assembleLines_of_firstUnlisted addressable first]
  rfl

/-- A listing is assembled exactly if every line of it is read back, and then gives the program of
what the lines are read back as. Otherwise the first line that is not read back is at fault. -/
theorem ofAssembly_listing {program : Program} (addressable : program.Addressable) :
    ((∃ result, ofAssembly program.listing = .ok result) ↔
      ∀ line ∈ program.lines, ∃ read, Relisted line.instruction read) ∧
    (∀ result, ofAssembly program.listing = .ok result ↔
      RelistedAs program.lines result.lines) ∧
    ∀ error, ofAssembly program.listing = .error error ↔
      FirstUnlisted program.lines 1 error := by
  by_cases all : ∀ line ∈ program.lines, ∃ read, Relisted line.instruction read
  · obtain ⟨results, relisted⟩ := exists_relistedAs all
    have assembled : ofAssembly program.listing = .ok ⟨results⟩ :=
      ofAssembly_of_relistedAs addressable relisted
    refine ⟨⟨fun _ => all, fun _ => ⟨⟨results⟩, assembled⟩⟩, fun result => ⟨fun accepted => ?_,
      ofAssembly_of_relistedAs addressable⟩, fun error => ⟨fun refused => ?_,
      ofAssembly_of_firstUnlisted addressable⟩⟩
    · rw [assembled] at accepted
      cases accepted
      exact relisted
    · rw [assembled] at refused
      cases refused
  · obtain ⟨error, first⟩ := exists_firstUnlisted all 1
    have failed := ofAssembly_of_firstUnlisted addressable first
    refine ⟨⟨?_, fun relisted => absurd relisted all⟩, fun result => ⟨fun accepted => ?_,
      ofAssembly_of_relistedAs addressable⟩, fun other => ⟨fun refused => ?_,
      ofAssembly_of_firstUnlisted addressable⟩⟩
    · rintro ⟨result, accepted⟩
      rw [failed] at accepted
      cases accepted
    · rw [failed] at accepted
      cases accepted
    · rw [failed] at refused
      cases refused
      exact first

/-- A sum that starts at `0.1`, and a comparison that starts at a NaN. -/
theorem ofAssembly_listing_sum :
    let program : Program :=
      ⟨[⟨.ofDual .add 0 1, ⟨0x3FB999999999999A⟩⟩, ⟨.compare .ltz 0, ⟨0xFFF0000000000001⟩⟩]⟩
    program.Addressable ∧ ∃ result, ofAssembly program.listing = .ok result ∧
      RelistedAs program.lines result.lines := by
  intro program
  have addressable : program.Addressable := by decide
  have all : ∀ line ∈ program.lines, ∃ read, Relisted line.instruction read :=
    List.forall_mem_cons.mpr ⟨⟨_, .dual .add (by decide) (by decide)⟩,
      List.forall_mem_singleton.mpr ⟨_, .compare rfl (by decide)⟩⟩
  obtain ⟨accepted, relisted, -⟩ := ofAssembly_listing addressable
  obtain ⟨result, assembled⟩ := accepted.mpr all
  exact ⟨addressable, result, assembled, (relisted result).mp assembled⟩

end Program

end Dataflow
