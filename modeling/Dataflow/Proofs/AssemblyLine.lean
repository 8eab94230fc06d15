import Dataflow.Assembly.Assembler
import Dataflow.Proofs.LineGrammar

set_option autoImplicit false

namespace Dataflow.Assembly

open Numeric Text Grammar

inductive Parameter where
  | address
  | mode
  | word
deriving DecidableEq

def Parameter.takes : Parameter → Argument → Bool
  | .address, .number value => value < Address.range
  | .mode, .name letters => CompareMode.all.any (·.name = letters)
  | .word, .word _ => true
  | _, _ => false

def firstUnsuitable? : List Parameter → List Argument → Option Argument
  | parameter :: parameters, argument :: arguments =>
    if parameter.takes argument then firstUnsuitable? parameters arguments else some argument
  | _, _ => none

/-- A statement is held against the signature of its name: first its number of arguments, then each
argument against its parameter from left to right. -/
inductive Signature : String → List Parameter → Prop
  | dual (operation : DualOperation) : Signature operation.name [.address, .address]
  | noop : Signature SingleOperation.noop.name []
  | cmpz : Signature SingleOperation.cmpz.name [.mode, .address]
  | single (operation : SingleOperation) : operation ≠ .noop → operation ≠ .cmpz →
      Signature operation.name [.address]
  | word : Signature wordStatement [.word]

/-- The statements that stand for an instruction. -/
inductive Meaning : Statement → Instruction → Prop
  | dual (operation : DualOperation) {a b : Nat} {constant : Option Binary64} :
      a < Address.range → b < Address.range →
      Meaning ⟨operation.name, [.number a, .number b], constant⟩ (.ofDual operation a b)
  | noop {constant : Option Binary64} : Meaning ⟨SingleOperation.noop.name, [], constant⟩ .noop
  | compare (mode : CompareMode) {source : Nat} {constant : Option Binary64} :
      source < Address.range →
      Meaning ⟨SingleOperation.cmpz.name, [.name mode.name, .number source], constant⟩
        (.compare mode source)
  | single (operation : SingleOperation) {source : Nat} {constant : Option Binary64} :
      operation ≠ .noop → operation ≠ .cmpz → source < Address.range →
      Meaning ⟨operation.name, [.number source], constant⟩ (.ofSingle operation source)
  | word (word : Word) {constant : Option Binary64} :
      Meaning ⟨wordStatement, [.word word], constant⟩ (.ofWord word)

/-- The fault of a statement that stands for no instruction. -/
inductive Fault (statement : Statement) : AssemblyFault → Prop
  | notAnOperation : (∀ parameters, ¬ Signature statement.name parameters) →
      Fault statement (.notAnOperation statement.name)
  | wrongArity {parameters : List Parameter} : Signature statement.name parameters →
      statement.arguments.length ≠ parameters.length →
      Fault statement
        (.wrongArity statement.name parameters.length statement.arguments.length)
  | badArgument {parameters : List Parameter} {argument : Argument} :
      Signature statement.name parameters →
      statement.arguments.length = parameters.length →
      firstUnsuitable? parameters statement.arguments = some argument →
      Fault statement (.badArgument argument.text)

theorem address_of_takes {argument : Argument} (takes : Parameter.address.takes argument = true) :
    ∃ value, argument = .number value ∧ value < Address.range := by
  cases argument with
  | number value => exact ⟨value, rfl, of_decide_eq_true takes⟩
  | word => cases takes
  | name => cases takes

theorem mode_of_takes {argument : Argument} (takes : Parameter.mode.takes argument = true) :
    ∃ mode : CompareMode, argument = .name mode.name := by
  cases argument with
  | number => cases takes
  | word => cases takes
  | name letters =>
    obtain ⟨mode, -, same⟩ := List.any_eq_true.mp takes
    exact ⟨mode, by rw [of_decide_eq_true same]⟩

theorem word_of_takes {argument : Argument} (takes : Parameter.word.takes argument = true) :
    ∃ word, argument = .word word := by
  cases argument with
  | number => cases takes
  | word value => exact ⟨value, rfl⟩
  | name => cases takes

theorem address_of_lt {value : Nat} (fits : value < Address.range) :
    (Argument.number value).address = .ok value :=
  if_pos fits

theorem address_of_not_takes {argument : Argument}
    (unsuitable : Parameter.address.takes argument = false) :
    argument.address = .error (.badArgument argument.text) := by
  cases argument with
  | number value => exact if_neg (of_decide_eq_false unsuitable)
  | word => rfl
  | name => rfl

theorem compareMode_name (mode : CompareMode) :
    (Argument.name mode.name).compareMode = .ok mode := by
  rw [Argument.compareMode, CompareMode.ofName?_name]

theorem compareMode_of_not_takes {argument : Argument}
    (unsuitable : Parameter.mode.takes argument = false) :
    argument.compareMode = .error (.badArgument argument.text) := by
  cases argument with
  | number => rfl
  | word => rfl
  | name letters =>
    have missing : CompareMode.ofName? letters = none := by
      apply List.find?_eq_none.mpr
      intro mode member same
      have differs := List.any_eq_false.mp unsuitable mode member
      exact differs (decide_eq_true (beq_iff_eq.mp same))
    rw [Argument.compareMode, missing]
    rfl

variable {arguments : List Argument} {constant : Option Binary64}

theorem instruction_dual (operation : DualOperation) :
    Statement.instruction ⟨operation.name, arguments, constant⟩ =
      assembleDual operation arguments := by
  rw [Statement.instruction, DualOperation.ofName?_name]

theorem instruction_single (operation : SingleOperation) :
    Statement.instruction ⟨operation.name, arguments, constant⟩ =
      assembleSingle operation arguments := by
  have notDual : DualOperation.ofName? operation.name = none := by
    cases operation <;> rfl
  rw [Statement.instruction, notDual]
  dsimp only
  rw [SingleOperation.ofName?_name]

theorem instruction_word :
    Statement.instruction ⟨wordStatement, arguments, constant⟩ = assembleWord arguments := rfl

theorem assembleSingle_source {operation : SingleOperation} (notNoop : operation ≠ .noop)
    (notCmpz : operation ≠ .cmpz) (argument : Argument) :
    assembleSingle operation [argument] =
      argument.address.bind fun source => .ok (.ofSingle operation source) := by
  cases operation with
  | noop => exact absurd rfl notNoop
  | cmpz => exact absurd rfl notCmpz
  | sqrt | copy | input => rfl

theorem instruction_of_meaning {statement : Statement} {instruction : Instruction}
    (meaning : Meaning statement instruction) : statement.instruction = .ok instruction := by
  cases meaning with
  | dual operation aFits bFits =>
    rw [instruction_dual, assembleDual, address_of_lt aFits, address_of_lt bFits]
    rfl
  | noop => rfl
  | compare mode fits =>
    rw [instruction_single, assembleSingle, compareMode_name, address_of_lt fits]
    rfl
  | single operation notNoop notCmpz fits =>
    rw [instruction_single, assembleSingle_source notNoop notCmpz, address_of_lt fits]
    rfl
  | word word => rfl

theorem instruction_of_unknown {statement : Statement}
    (unknown : ∀ parameters, ¬ Signature statement.name parameters) :
    statement.instruction = .error (.notAnOperation statement.name) := by
  have notDual : DualOperation.ofName? statement.name = none := by
    cases found : DualOperation.ofName? statement.name with
    | none => rfl
    | some operation =>
      have same : operation.name = statement.name := by simpa using List.find?_some found
      exact absurd (same ▸ Signature.dual operation) (unknown _)
  have notSingle : SingleOperation.ofName? statement.name = none := by
    cases found : SingleOperation.ofName? statement.name with
    | none => rfl
    | some operation =>
      have same : operation.name = statement.name := by simpa using List.find?_some found
      rw [← same] at unknown
      cases operation with
      | noop => exact absurd .noop (unknown _)
      | cmpz => exact absurd .cmpz (unknown _)
      | sqrt | copy | input => exact absurd (.single _ (by decide) (by decide)) (unknown _)
  have notWord : statement.name ≠ wordStatement := by
    intro same
    rw [same] at unknown
    exact unknown _ .word
  rw [Statement.instruction, notDual]
  dsimp only
  rw [notSingle]
  exact if_neg notWord

/-- A statement with another number of arguments than its name has parameters. -/
theorem instruction_of_wrongArity {name : String} {parameters : List Parameter}
    (signature : Signature name parameters) (differs : arguments.length ≠ parameters.length) :
    Statement.instruction ⟨name, arguments, constant⟩ =
      .error (.wrongArity name parameters.length arguments.length) := by
  cases signature with
  | dual operation =>
    rw [instruction_dual]
    unfold assembleDual
    split
    · exact absurd rfl differs
    · rfl
  | noop =>
    rw [instruction_single]
    cases arguments with
    | nil => exact absurd rfl differs
    | cons => rfl
  | cmpz =>
    rw [instruction_single]
    match arguments with
    | [] | [_] | _ :: _ :: _ :: _ => rfl
    | [_, _] => exact absurd rfl differs
  | single operation notNoop notCmpz =>
    rw [instruction_single]
    cases operation with
    | noop => exact absurd rfl notNoop
    | cmpz => exact absurd rfl notCmpz
    | sqrt | copy | input =>
      match arguments with
      | [] | _ :: _ :: _ => rfl
      | [_] => exact absurd rfl differs
  | word =>
    rw [instruction_word]
    match arguments with
    | [] => rfl
    | [_] => exact absurd rfl differs
    | first :: _ :: _ => cases first <;> rfl

theorem firstUnsuitable?_eq_some_iff {parameter : Parameter} {parameters : List Parameter}
    {argument found : Argument} :
    firstUnsuitable? (parameter :: parameters) (argument :: arguments) = some found ↔
      parameter.takes argument = false ∧ argument = found ∨
        parameter.takes argument = true ∧ firstUnsuitable? parameters arguments = some found := by
  rw [firstUnsuitable?]
  cases parameter.takes argument <;> simp

theorem firstUnsuitable?_eq_none_iff {parameter : Parameter} {parameters : List Parameter}
    {argument : Argument} :
    firstUnsuitable? (parameter :: parameters) (argument :: arguments) = none ↔
      parameter.takes argument = true ∧ firstUnsuitable? parameters arguments = none := by
  rw [firstUnsuitable?]
  cases parameter.takes argument <;> simp

/-- The leftmost argument that does not suit its parameter is the one that is reported. -/
theorem instruction_of_badArgument {name : String} {parameters : List Parameter}
    {argument : Argument} (signature : Signature name parameters)
    (same : arguments.length = parameters.length)
    (first : firstUnsuitable? parameters arguments = some argument) :
    Statement.instruction ⟨name, arguments, constant⟩ = .error (.badArgument argument.text) := by
  cases signature with
  | dual operation =>
    match arguments, same with
    | [a, b], _ =>
      rw [instruction_dual, assembleDual]
      rcases firstUnsuitable?_eq_some_iff.mp first with ⟨unsuitable, rfl⟩ | ⟨aTakes, second⟩
      · rw [address_of_not_takes unsuitable]
        rfl
      obtain ⟨value, rfl, fits⟩ := address_of_takes aTakes
      rcases firstUnsuitable?_eq_some_iff.mp second with ⟨unsuitable, rfl⟩ | ⟨-, third⟩
      · rw [address_of_lt fits, address_of_not_takes unsuitable]
        rfl
      · cases third
  | noop =>
    rw [List.length_eq_zero_iff.mp same] at first
    cases first
  | cmpz =>
    match arguments, same with
    | [mode, source], _ =>
      rw [instruction_single, assembleSingle]
      rcases firstUnsuitable?_eq_some_iff.mp first with ⟨unsuitable, rfl⟩ | ⟨modeTakes, second⟩
      · rw [compareMode_of_not_takes unsuitable]
        rfl
      obtain ⟨mode, rfl⟩ := mode_of_takes modeTakes
      rcases firstUnsuitable?_eq_some_iff.mp second with ⟨unsuitable, rfl⟩ | ⟨-, third⟩
      · rw [compareMode_name, address_of_not_takes unsuitable]
        rfl
      · cases third
  | single operation notNoop notCmpz =>
    obtain ⟨source, rfl⟩ := List.length_eq_one_iff.mp same
    rw [instruction_single, assembleSingle_source notNoop notCmpz]
    rcases firstUnsuitable?_eq_some_iff.mp first with ⟨unsuitable, rfl⟩ | ⟨-, second⟩
    · rw [address_of_not_takes unsuitable]
      rfl
    · cases second
  | word =>
    obtain ⟨given, rfl⟩ := List.length_eq_one_iff.mp same
    rcases firstUnsuitable?_eq_some_iff.mp first with ⟨unsuitable, rfl⟩ | ⟨-, second⟩
    · cases given with
      | word => cases unsuitable
      | number => rfl
      | name => rfl
    · cases second

/-- Arguments that suit all parameters make an instruction. -/
theorem meaning_of_suitable {name : String} {parameters : List Parameter}
    (signature : Signature name parameters) (same : arguments.length = parameters.length)
    (suitable : firstUnsuitable? parameters arguments = none) :
    ∃ instruction, Meaning ⟨name, arguments, constant⟩ instruction := by
  cases signature with
  | dual operation =>
    match arguments, same with
    | [a, b], _ =>
      obtain ⟨aTakes, others⟩ := firstUnsuitable?_eq_none_iff.mp suitable
      obtain ⟨a, rfl, aFits⟩ := address_of_takes aTakes
      obtain ⟨b, rfl, bFits⟩ := address_of_takes (firstUnsuitable?_eq_none_iff.mp others).1
      exact ⟨_, .dual operation aFits bFits⟩
  | noop =>
    rw [List.length_eq_zero_iff.mp same]
    exact ⟨_, .noop⟩
  | cmpz =>
    match arguments, same with
    | [mode, source], _ =>
      obtain ⟨modeTakes, others⟩ := firstUnsuitable?_eq_none_iff.mp suitable
      obtain ⟨mode, rfl⟩ := mode_of_takes modeTakes
      obtain ⟨source, rfl, fits⟩ := address_of_takes (firstUnsuitable?_eq_none_iff.mp others).1
      exact ⟨_, .compare mode fits⟩
  | single operation notNoop notCmpz =>
    obtain ⟨source, rfl⟩ := List.length_eq_one_iff.mp same
    obtain ⟨source, rfl, fits⟩ := address_of_takes (firstUnsuitable?_eq_none_iff.mp suitable).1
    exact ⟨_, .single operation notNoop notCmpz fits⟩
  | word =>
    obtain ⟨given, rfl⟩ := List.length_eq_one_iff.mp same
    obtain ⟨word, rfl⟩ := word_of_takes (firstUnsuitable?_eq_none_iff.mp suitable).1
    exact ⟨_, .word word⟩

theorem instruction_of_fault {statement : Statement} {fault : AssemblyFault}
    (faulty : Fault statement fault) : statement.instruction = .error fault := by
  cases faulty with
  | notAnOperation unknown => exact instruction_of_unknown unknown
  | wrongArity signature differs => exact instruction_of_wrongArity signature differs
  | badArgument signature same first => exact instruction_of_badArgument signature same first

theorem meaning_or_fault (statement : Statement) :
    (∃ instruction, Meaning statement instruction) ∨ ∃ fault, Fault statement fault := by
  by_cases known : ∃ parameters, Signature statement.name parameters
  · obtain ⟨parameters, signature⟩ := known
    by_cases same : statement.arguments.length = parameters.length
    · cases first : firstUnsuitable? parameters statement.arguments with
      | none => exact .inl (meaning_of_suitable signature same first)
      | some argument => exact .inr ⟨_, .badArgument signature same first⟩
    · exact .inr ⟨_, .wrongArity signature same⟩
  · exact .inr ⟨_, .notAnOperation fun parameters signature => known ⟨parameters, signature⟩⟩

theorem instruction_eq_ok_iff {statement : Statement} {instruction : Instruction} :
    statement.instruction = .ok instruction ↔ Meaning statement instruction := by
  constructor
  · intro accepted
    rcases meaning_or_fault statement with ⟨other, meaning⟩ | ⟨fault, faulty⟩
    · rw [instruction_of_meaning meaning] at accepted
      cases accepted
      exact meaning
    · rw [instruction_of_fault faulty] at accepted
      cases accepted
  · exact instruction_of_meaning

theorem instruction_eq_error_iff {statement : Statement} {fault : AssemblyFault} :
    statement.instruction = .error fault ↔ Fault statement fault := by
  constructor
  · intro refused
    rcases meaning_or_fault statement with ⟨instruction, meaning⟩ | ⟨other, faulty⟩
    · rw [instruction_of_meaning meaning] at refused
      cases refused
    · rw [instruction_of_fault faulty] at refused
      cases refused
      exact faulty
  · exact instruction_of_fault

/-- The program line that a reading of a line of text stands for. -/
inductive LineMeaning : Option Statement → Option Line → Prop
  | none : LineMeaning none none
  | some {statement : Statement} {instruction : Instruction} : Meaning statement instruction →
      LineMeaning (some statement) (some ⟨instruction, statement.constant.getD .zero⟩)

variable {line : List Char}

theorem assembleLine_of_form {reading : Option Statement} (form : LineForm line reading) :
    assembleLine line =
      match reading with
      | none => .ok none
      | some statement => statement.instruction.bind fun instruction =>
        .ok (some ⟨instruction, statement.constant.getD .zero⟩) := by
  rw [assembleLine, readLine?_eq_some_iff.mpr form]
  cases reading <;> rfl

theorem assembleLine_of_noForm (noForm : ∀ reading, ¬ LineForm line reading) :
    assembleLine line = .error (.unreadable (String.ofList (trim isWhiteSpace line))) := by
  have unread : readLine? line = none := by
    cases read : readLine? line with
    | none => rfl
    | some reading => exact absurd (readLine?_eq_some_iff.mp read) (noForm reading)
  rw [assembleLine, unread]

theorem assembleLine_eq_ok_iff {result : Option Line} : assembleLine line = .ok result ↔
    ∃ reading, LineForm line reading ∧ LineMeaning reading result := by
  constructor
  · intro accepted
    by_cases formed : ∃ reading, LineForm line reading
    · obtain ⟨reading, form⟩ := formed
      rw [assembleLine_of_form form] at accepted
      refine ⟨reading, form, ?_⟩
      cases reading with
      | none =>
        cases accepted
        exact .none
      | some statement =>
        dsimp only at accepted
        cases made : statement.instruction with
        | error fault =>
          rw [made] at accepted
          cases accepted
        | ok instruction =>
          rw [made] at accepted
          cases accepted
          exact .some (instruction_eq_ok_iff.mp made)
    · rw [assembleLine_of_noForm fun reading form => formed ⟨reading, form⟩] at accepted
      cases accepted
  · rintro ⟨reading, form, meaning⟩
    rw [assembleLine_of_form form]
    cases meaning with
    | none => rfl
    | some meaning =>
      dsimp only
      rw [instruction_eq_ok_iff.mpr meaning]
      rfl

theorem assembleLine_eq_error_iff {fault : AssemblyFault} : assembleLine line = .error fault ↔
    ((∀ reading, ¬ LineForm line reading) ∧
      fault = .unreadable (String.ofList (trim isWhiteSpace line))) ∨
    ∃ statement, LineForm line (some statement) ∧ Fault statement fault := by
  constructor
  · intro refused
    by_cases formed : ∃ reading, LineForm line reading
    · obtain ⟨reading, form⟩ := formed
      rw [assembleLine_of_form form] at refused
      cases reading with
      | none => cases refused
      | some statement =>
        dsimp only at refused
        refine .inr ⟨statement, form, ?_⟩
        cases made : statement.instruction with
        | error other =>
          rw [made] at refused
          cases refused
          exact instruction_eq_error_iff.mp made
        | ok instruction =>
          rw [made] at refused
          cases refused
    · have noForm : ∀ reading, ¬ LineForm line reading := fun reading form => formed ⟨reading, form⟩
      rw [assembleLine_of_noForm noForm] at refused
      cases refused
      exact .inl ⟨noForm, rfl⟩
  · rintro (⟨noForm, rfl⟩ | ⟨statement, form, faulty⟩)
    · exact assembleLine_of_noForm noForm
    · rw [assembleLine_of_form form]
      dsimp only
      rw [instruction_eq_error_iff.mpr faulty]
      rfl

/-- The assembler accepts exactly the lines of the grammar whose statement stands for an
instruction, each as its only reading. It reports a line without a reading as its trimmed text, and
a statement that stands for no instruction by its fault. -/
theorem assembleLine_grammar (line : List Char) :
    (∀ result, assembleLine line = .ok result ↔
      ∃ reading, LineForm line reading ∧ LineMeaning reading result) ∧
    (∀ first second, LineForm line first → LineForm line second → first = second) ∧
    ∀ fault, assembleLine line = .error fault ↔
      ((∀ reading, ¬ LineForm line reading) ∧
        fault = .unreadable (String.ofList (trim isWhiteSpace line))) ∨
      ∃ statement, LineForm line (some statement) ∧ Fault statement fault := by
  refine ⟨fun result => assembleLine_eq_ok_iff, ?_, fun fault => assembleLine_eq_error_iff⟩
  intro first second firstForm secondForm
  have read := readLine?_eq_some_iff.mpr firstForm
  rw [readLine?_eq_some_iff.mpr secondForm] at read
  exact (Option.some.inj read).symm

end Dataflow.Assembly
