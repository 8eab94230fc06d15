import Dataflow.Program.Listing
import Dataflow.Proofs.ConstantText
import Dataflow.Assembly.Assembler
import Dataflow.Proofs.LineGrammar

set_option autoImplicit false

/-- Every operand number of the line fits a machine word of sixty-four bits. -/
def Dataflow.Line.Addressable (line : Line) : Prop :=
  ∀ operand ∈ line.instruction.operands, operand.number < Assembly.Argument.numberLimit

instance (line : Dataflow.Line) : Decidable line.Addressable :=
  inferInstanceAs (Decidable (∀ operand ∈ line.instruction.operands,
    operand.number < Dataflow.Assembly.Argument.numberLimit))

namespace Dataflow.Assembly

open Numeric Text Text.Parser Grammar

theorem digitChar_hex {n : Nat} (small : n < 16) :
    isHexDigit n.digitChar = true ∧ hexDigitValue n.digitChar = n := by
  have all : ∀ n < 16, isHexDigit n.digitChar = true ∧ hexDigitValue n.digitChar = n := by decide
  exact all n small

theorem toDigits_hex (n : Nat) :
    Only isHexDigit (Nat.toDigits 16 n) ∧ ofHexDigits (Nat.toDigits 16 n) = n := by
  induction n using Nat.strongRecOn with
  | ind n ih =>
    by_cases one : n < 16
    · obtain ⟨digit, value⟩ := digitChar_hex one
      rw [Nat.toDigits_of_lt_base one]
      refine ⟨fun c member => ?_, ?_⟩
      · rw [List.mem_singleton.mp member]
        exact digit
      · show 16 * 0 + hexDigitValue n.digitChar = n
        rw [value, Nat.mul_zero, Nat.zero_add]
    · obtain ⟨front, whole⟩ := ih (n / 16) (by omega)
      obtain ⟨digit, value⟩ := digitChar_hex (Nat.mod_lt n (by decide) : n % 16 < 16)
      rw [Nat.toDigits_of_base_le (by decide) (by omega)]
      refine ⟨only_append front fun c member => ?_, ?_⟩
      · rw [List.mem_singleton.mp member]
        exact digit
      · unfold ofHexDigits at whole ⊢
        rw [List.foldl_append, whole]
        show 16 * (n / 16) + hexDigitValue (n % 16).digitChar = n
        rw [value]
        omega

theorem ofHexDigits_zeros_append (count : Nat) (digits : List Char) :
    ofHexDigits (List.replicate count '0' ++ digits) = ofHexDigits digits := by
  have zeros : (List.replicate count '0').foldl
      (fun value digit => 16 * value + hexDigitValue digit) 0 = 0 := by
    induction count with
    | zero => rfl
    | succ count ih => exact ih
  rw [ofHexDigits, List.foldl_append, zeros]
  rfl

theorem hexadecimal_form (word : Word) (width : Nat) :
    ArgumentForm (hexadecimal width word.toNat).toList (.word word) := by
  obtain ⟨only, value⟩ := toDigits_hex word.toNat
  generalize count : width - (Nat.toDigits 16 word.toNat).length = zeros
  have digits : SomeOf isHexDigit (List.replicate zeros '0' ++ Nat.toDigits 16 word.toNat) := by
    refine ⟨List.append_ne_nil_of_right_ne_nil _ Nat.toDigits_ne_nil, only_append ?_ only⟩
    intro c member
    rw [List.eq_of_mem_replicate member]
    rfl
  have read : ofHexDigits (List.replicate zeros '0' ++ Nat.toDigits 16 word.toNat) =
      word.toNat := by
    rw [ofHexDigits_zeros_append, value]
  have form := ArgumentForm.word _ digits (by rw [read]; exact word.toNat_lt)
  rw [read, UInt32.ofNat_toNat] at form
  rw [hexadecimal, count, String.toList_append, String.toList_ofList, String.toList_ofList]
  exact form

theorem repr_form {n : Nat} (fits : n < Argument.numberLimit) :
    ArgumentForm (Nat.repr n).toList (.number n) := by
  have value := ofDigits_toDigits n
  have form := ArgumentForm.number _ (someOf_toDigits n) (by rw [value]; exact fits)
  rw [value] at form
  rw [Nat.toList_repr]
  exact form

theorem name_form {name : String} (letters : SomeOf Char.isAlpha name.toList) :
    ArgumentForm name.toList (.name name) := by
  have form := ArgumentForm.name _ letters
  rw [String.ofList_toList] at form
  exact form

theorem someOf_modeName (mode : CompareMode) : SomeOf Char.isAlpha mode.name.toList := by
  cases mode <;> exact ⟨by decide, by decide⟩

theorem someOf_dualName (operation : DualOperation) :
    SomeOf Char.isAlpha operation.name.toList := by
  cases operation <;> exact ⟨by decide, by decide⟩

theorem someOf_singleName (operation : SingleOperation) :
    SomeOf Char.isAlpha operation.name.toList := by
  cases operation <;> exact ⟨by decide, by decide⟩

theorem someOf_wordStatement : SomeOf Char.isAlpha wordStatement.toList :=
  ⟨by decide, by decide⟩

/-- The name and the arguments that spell an instruction in a listing. A comparison without a
meaning has no spelling. -/
def spelling? : Instruction → Option (String × List Argument)
  | .dual operation a b => some (operation.name, [.number a.number, .number b.number])
  | .single .noop _ _ _ _ => some (SingleOperation.noop.name, [])
  | .single .cmpz mode _ _ source =>
    (CompareMode.ofCode? mode).map fun mode =>
      (SingleOperation.cmpz.name, [.name mode.name, .number source.number])
  | .single operation _ _ _ source => some (operation.name, [.number source.number])
  | .invalid word => some (wordStatement, [.word word])

theorem optionalArguments_one {text : List Char} {argument : Argument}
    (form : ArgumentForm text argument) :
    OptionalArguments ('(' :: (text ++ [')'])) [argument] := by
  have none : Blanks [] := List.forall_mem_nil _
  have list := OptionalArguments.some none (.list none (.one form) none)
  rw [List.append_nil] at list
  exact list

theorem optionalArguments_two {text other : List Char} {argument second : Argument}
    (form : ArgumentForm text argument) (secondForm : ArgumentForm other second) :
    OptionalArguments ('(' :: (text ++ ',' :: ' ' :: (other ++ [')']))) [argument, second] := by
  have none : Blanks [] := List.forall_mem_nil _
  have space : Blanks [' '] := by decide
  have list := OptionalArguments.some none
    (.list none (.more form none space (.one secondForm)) none)
  simpa using list

/-- A spelled instruction and its constant are a line of assembly. -/
theorem spelled_form {name : String} {arguments : List Argument} {list text : List Char}
    {value : Binary64} (letters : SomeOf Char.isAlpha name.toList)
    (argumentsForm : OptionalArguments list arguments) (form : ConstantForm text value) :
    LineForm (name.toList ++ list ++ ' ' :: '=' :: ' ' :: text)
      (some ⟨name, arguments, some value⟩) := by
  have none : Blanks [] := List.forall_mem_nil _
  have space : Blanks [' '] := by decide
  have statement := StatementForm.mk letters argumentsForm (.some space space form)
  have line := LineForm.some none statement none .none
  rw [String.ofList_toList] at line
  simpa using line

variable {line : Line}

theorem line_form {name : String} {arguments : List Argument}
    (addressable : line.Addressable)
    (spelled : spelling? line.instruction = some (name, arguments)) :
    LineForm line.text.toList (some ⟨name, arguments, some line.constant.canonical⟩) := by
  obtain ⟨instruction, constant⟩ := line
  have form := constant.characters_form
  cases instruction with
  | dual operation a b =>
    cases spelled
    have list := optionalArguments_two (repr_form (addressable a (by simp [Instruction.operands])))
      (repr_form (addressable b (by simp [Instruction.operands])))
    have whole := spelled_form (someOf_dualName operation) list form
    simpa [Line.text, Instruction.text, Binary64.text] using whole
  | single operation mode unused immediate source =>
    have number := repr_form (addressable source (by simp [Instruction.operands]))
    have list := optionalArguments_one number
    have whole := spelled_form (someOf_singleName operation) list form
    cases operation with
    | noop =>
      cases spelled
      have whole := spelled_form (someOf_singleName .noop) .none form
      simpa [Line.text, Instruction.text, Binary64.text] using whole
    | cmpz =>
      cases defined : CompareMode.ofCode? mode with
      | none => simp [spelling?, defined] at spelled
      | some mode =>
        simp only [spelling?, defined, Option.map_some] at spelled
        cases spelled
        have list := optionalArguments_two (name_form (someOf_modeName mode)) number
        have whole := spelled_form (someOf_singleName .cmpz) list form
        simpa [Line.text, Instruction.text, Binary64.text, defined] using whole
    | sqrt | copy | input =>
      cases spelled
      simpa [Line.text, Instruction.text, Binary64.text] using whole
  | invalid word =>
    cases spelled
    have list := optionalArguments_one (hexadecimal_form word 8)
    have whole := spelled_form someOf_wordStatement list form
    simpa [Line.text, Instruction.text, Binary64.text, wordStatement] using whole

theorem readLine?_questionMark (rest : List Char) :
    readLine? ("Cmpz(?".toList ++ rest) = none := rfl

theorem unspelled_form {mode unused immediate : Nat} {source : Address} {constant : Binary64}
    (undefined : CompareMode.ofCode? mode = none) :
    ∃ between, (Line.text ⟨.single .cmpz mode unused immediate source, constant⟩).toList =
      "Cmpz(?".toList ++ between ++ constant.characters .listing := by
  refine ⟨", ".toList ++ (Nat.repr source.number).toList ++ ") = ".toList, ?_⟩
  simp [Line.text, Instruction.text, Binary64.text, undefined, SingleOperation.name]
  rfl

/-- The visible characters of ASCII. -/
def isInk (c : Char) : Bool := 0x21 ≤ c.toNat && c.toNat ≤ 0x7E

def isInkOrSpace (c : Char) : Bool := isInk c || c = ' '

theorem isInk_of_isAlphanum (c : Char) (letter : c.isAlphanum = true) : isInk c = true := by
  simp only [isInk, Bool.and_eq_true, decide_eq_true_eq]
  rcases Bool.or_eq_true_iff.mp letter with letter | digit
  · have range := isAlpha_iff_toNat.mp letter
    omega
  · have range : 48 ≤ c.toNat ∧ c.toNat ≤ 57 := Char.isDigit_iff_toNat.mp digit
    omega

theorem not_isWhiteSpace_of_isInk {c : Char} (ink : isInk c = true) : isWhiteSpace c = false := by
  simp only [isInk, Bool.and_eq_true, decide_eq_true_eq] at ink
  apply Bool.eq_false_iff.mpr
  intro white
  simp only [isWhiteSpace, Bool.or_eq_true, Bool.and_eq_true, decide_eq_true_eq,
    beq_iff_eq] at white
  omega

theorem inked_digits {text : List Char} (only : Only Char.isDigit text) : Only isInk text :=
  only_mono only fun c digit => isInk_of_isAlphanum c (isAlphanum_of_isDigit c digit)

theorem inked_sign {text : List Char} {negative : Bool} (form : SignForm text negative) :
    Only isInk text := by
  cases form <;> decide

theorem inked_point {text digits : List Char} {places : Nat} (form : PointForm text digits places) :
    Only isInk text := by
  have dot : Only isInk ['.'] := by decide
  cases form with
  | whole some => exact inked_digits some.2
  | point some only =>
    exact only_append (inked_digits some.2) (only_append dot (inked_digits only))
  | fraction some => exact only_append dot (inked_digits some.2)

theorem inked_exponent {text : List Char} {exponent : Int} (form : ExponentForm text exponent) :
    Only isInk text := by
  cases form with
  | none => decide
  | @some mark sign digits negative isMark signForm some =>
    have first : Only isInk [mark] := by
      rcases isMark with rfl | rfl <;> decide
    exact only_append first (only_append (inked_sign signForm) (inked_digits some.2))

theorem inked_constant {text : List Char} {value : Binary64} (form : ConstantForm text value) :
    Only isInk text := by
  cases form with
  | nan => decide
  | infinity => decide
  | negativeInfinity => decide
  | decimal signForm pointForm exponentForm =>
    have point := only_append (inked_sign signForm) (inked_point pointForm)
    exact only_append point (inked_exponent exponentForm)

theorem constant_ne_nil {text : List Char} {value : Binary64} (form : ConstantForm text value) :
    text ≠ [] := by
  cases form with
  | nan => exact List.cons_ne_nil _ _
  | infinity => exact List.cons_ne_nil _ _
  | negativeInfinity => exact List.cons_ne_nil _ _
  | decimal signForm pointForm exponentForm =>
    obtain ⟨c, more, same, -⟩ := (DecimalForm.mk pointForm exponentForm).head
    rw [List.append_assoc, same]
    exact List.append_ne_nil_of_right_ne_nil _ (List.cons_ne_nil c more)

theorem dropWhile_of_stops {inClass : Char → Bool} {text : List Char} (stops : Stops inClass text) :
    text.dropWhile inClass = text := by
  have none : Only inClass [] := List.forall_mem_nil _
  exact dropWhile_append none stops

theorem trim_of_stops {inClass : Char → Bool} {text : List Char} (front : Stops inClass text)
    (back : Stops inClass text.reverse) : trim inClass text = text := by
  rw [trim, dropWhile_of_stops front, dropWhile_of_stops back, List.reverse_reverse]

/-- Nothing is trimmed behind a constant. -/
theorem stops_reverse_constant {text before : List Char} {value : Binary64}
    (form : ConstantForm text value) : Stops isWhiteSpace (before ++ text).reverse := by
  have present : text.reverse ≠ [] := List.reverse_ne_nil_iff.mpr (constant_ne_nil form)
  obtain ⟨c, more, same⟩ := List.exists_cons_of_ne_nil present
  have member : c ∈ text.reverse := by
    rw [same]
    exact List.mem_cons_self
  rw [List.reverse_append, same]
  apply stops_cons
  exact not_isWhiteSpace_of_isInk (inked_constant form c (List.mem_reverse.mp member))

/-- A text of visible characters and spaces, which is one line. -/
def Inked (text : String) : Prop := Only isInkOrSpace text.toList

instance (text : String) : Decidable (Inked text) :=
  inferInstanceAs (Decidable (Only isInkOrSpace text.toList))

theorem inked_append {text other : String} (first : Inked text) (second : Inked other) :
    Inked (text ++ other) := by
  unfold Inked
  rw [String.toList_append]
  exact only_append first second

theorem inked_of_isInk {text : String} (only : Only isInk text.toList) : Inked text := by
  apply only_mono only
  intro c ink
  rw [isInkOrSpace, ink, Bool.true_or]

theorem inked_repr (n : Nat) : Inked (Nat.repr n) := by
  apply inked_of_isInk
  rw [Nat.toList_repr]
  exact inked_digits (someOf_toDigits n).2

theorem inked_argument {text : List Char} {argument : Argument}
    (form : ArgumentForm text argument) : Only isInk text := by
  have mark : Only isInk ['0', 'x'] := by decide
  cases form with
  | number _ some => exact inked_digits some.2
  | word _ some =>
    exact only_append mark (only_mono some.2 fun c digit =>
      isInk_of_isAlphanum c (isAlphanum_of_isHexDigit c digit))
  | name _ some =>
    exact only_mono some.2 fun c letter => isInk_of_isAlphanum c (isAlphanum_of_isAlpha c letter)

theorem inked_instruction (instruction : Instruction) : Inked instruction.text := by
  cases instruction with
  | dual operation a b =>
    have name : Inked operation.name := by
      cases operation <;> decide
    have first := inked_append (inked_append name (by decide : Inked "(")) (inked_repr a.number)
    have second := inked_append (inked_append first (by decide : Inked ", ")) (inked_repr b.number)
    exact inked_append second (by decide : Inked ")")
  | single operation mode unused immediate source =>
    have name : Inked operation.name := by
      cases operation <;> decide
    have opened := inked_append name (by decide : Inked "(")
    cases operation with
    | noop => exact name
    | cmpz =>
      unfold Instruction.text
      dsimp only
      refine inked_append (inked_append (inked_append (inked_append opened ?_) ?_)
        (inked_repr source.number)) ?_
      · split
        · rename_i mode _
          cases mode <;> decide
        · decide
      · decide
      · decide
    | sqrt | copy | input =>
      exact inked_append (inked_append opened (inked_repr source.number)) (by decide : Inked ")")
  | invalid word =>
    have name : Inked "Invalid(" := by decide
    have digits := inked_of_isInk (inked_argument (hexadecimal_form word 8))
    exact inked_append (inked_append name digits) (by decide : Inked ")")

theorem inked_line (line : Line) : Inked line.text := by
  have constant : Inked (line.constant.text .listing) := by
    apply inked_of_isInk
    rw [Binary64.text, String.toList_ofList]
    exact inked_constant line.constant.characters_form
  exact inked_append (inked_append (inked_instruction line.instruction) (by decide : Inked " = "))
    constant

theorem split_of_not_mem {mark : Char} {text : List Char} (absent : mark ∉ text) :
    split mark text = [text] := by
  induction text with
  | nil => rfl
  | cons c text ih =>
    have different : c ≠ mark := fun same => absent (same ▸ List.mem_cons_self)
    rw [split_cons, ih fun member => absent (List.mem_cons_of_mem c member)]
    exact if_neg different

theorem dropReturn_of_not_mem {text : List Char} (absent : '\r' ∉ text) :
    dropReturn text = text := by
  apply if_neg
  intro last
  exact absent (List.mem_of_getLast? last)

/-- All parts but the last end in a line feed. -/
theorem linesOfParts_append (parts : List (List Char)) {rest : List (List Char)}
    (more : rest ≠ []) :
    linesOfParts (parts ++ rest) = parts.map dropReturn ++ linesOfParts rest := by
  induction parts with
  | nil => rfl
  | cons part parts ih =>
    obtain ⟨next, others, same⟩ :=
      List.exists_cons_of_ne_nil (List.append_ne_nil_of_right_ne_nil parts more)
    rw [List.cons_append, List.map_cons, List.cons_append, ← ih, same]
    rfl

/-- The first line of a text, and those behind it. -/
theorem lines_line {line : List Char} (noFeed : '\n' ∉ line) (rest : List Char) :
    lines (line ++ '\n' :: rest) = dropReturn line :: lines rest := by
  rw [lines, split_append_mark, split_of_not_mem noFeed,
    linesOfParts_append _ (split_ne_nil _ rest)]
  rfl

/-- Texts that are one line each are the lines of the text that has them with their ends. -/
theorem lines_flatMap {texts : List (List Char)}
    (plain : ∀ text ∈ texts, Only isInkOrSpace text) :
    lines (texts.flatMap (· ++ ['\n'])) = texts := by
  induction texts with
  | nil => rfl
  | cons text texts ih =>
    have inked := plain text List.mem_cons_self
    have noFeed : '\n' ∉ text := by
      intro member
      cases inked _ member
    have noReturn : '\r' ∉ text := by
      intro member
      cases inked _ member
    have rest := ih fun other member => plain other (List.mem_cons_of_mem text member)
    rw [List.flatMap_cons, List.append_assoc, List.singleton_append, lines_line noFeed,
      dropReturn_of_not_mem noReturn, rest]

theorem lines_listing (program : Program) :
    lines program.listing.toList = program.lines.map fun line => line.text.toList := by
  have plain : ∀ text ∈ program.lines.map (fun line => line.text.toList),
      Only isInkOrSpace text := by
    intro text member
    obtain ⟨line, -, rfl⟩ := List.mem_map.mp member
    exact inked_line line
  rw [← lines_flatMap plain, Program.listing, String.toList_join, List.flatMap_map,
    List.flatMap_map]
  congr 1
  simp

end Dataflow.Assembly
