import Dataflow.Proofs.ArgumentGrammar
import Dataflow.Proofs.ConstantGrammar

set_option autoImplicit false

namespace Dataflow.Assembly

open Numeric Text Text.Parser Grammar

variable {text rest : List Char} {marks : List Char}

/-- Behind blanks, a text ends or goes on with one of these marks. -/
def Opens (marks : List Char) (text : List Char) : Prop :=
  ∃ before more, text = before ++ more ∧ Blanks before ∧ ∀ c ∈ more.head?, c ∈ marks

def lineMarks : List Char := ['(', '=', '#']

theorem not_isBlank_of_lineMark {c : Char} (mark : c ∈ lineMarks) : isBlank c = false := by
  simp only [lineMarks, List.mem_cons, List.not_mem_nil, or_false] at mark
  rcases mark with rfl | rfl | rfl <;> rfl

theorem opens_of_mark {before : List Char} {mark : Char} (only : Blanks before)
    (isMark : mark ∈ marks) : Opens marks (before ++ mark :: rest) := by
  refine ⟨before, mark :: rest, rfl, only, ?_⟩
  intro c first
  cases first
  exact isMark

theorem Opens.mono {others : List Char} (opens : Opens marks text) (more : marks ⊆ others) :
    Opens others text := by
  obtain ⟨before, tail, rfl, only, mark⟩ := opens
  exact ⟨before, tail, rfl, only, fun c first => more (mark c first)⟩

theorem Opens.stops {inClass : Char → Bool} (opens : Opens marks text)
    (blank : ∀ c, isBlank c = true → inClass c = false) (outside : marks.all (!inClass ·) = true) :
    Stops inClass text := by
  obtain ⟨before, more, rfl, only, isMark⟩ := opens
  apply stops_blanks_append only blank
  intro c first
  have mark := List.all_eq_true.mp outside c (isMark c first)
  rw [Bool.not_eq_true'] at mark
  exact mark

/-- A part behind blanks that begins with another mark is absent. -/
theorem Opens.refused {α : Type} {mark : Char} {next : Unit → Parser α} (opens : Opens marks text)
    (known : marks ⊆ lineMarks) (other : mark ∉ marks) :
    (blanks >>= fun _ => char mark >>= next) text = .refused := by
  obtain ⟨before, more, rfl, only, isMark⟩ := opens
  have stops : Stops isBlank more := by
    intro c first
    exact not_isBlank_of_lineMark (known (isMark c first))
  apply refused_behind_blanks only stops
  apply refused_of_bind
  apply char_refused
  rintro behind rfl
  exact other (isMark mark rfl)

theorem stops_comment {inClass : Char → Bool} (form : CommentForm text)
    (outside : inClass '#' = false) : Stops inClass text := by
  cases form with
  | none => exact stops_nil
  | some => exact stops_cons outside

theorem opens_of_comment {before comment : List Char} (only : Blanks before)
    (form : CommentForm comment) : Opens ['#'] (before ++ comment) := by
  cases form with
  | none => exact ⟨before, [], rfl, only, by simp⟩
  | some => exact opens_of_mark only (by decide)

theorem opens_of_constant {front : List Char} {value : Option Binary64}
    (form : OptionalConstant front value) (opens : Opens ['#'] rest) :
    Opens ['=', '#'] (front ++ rest) := by
  cases form with
  | none => exact opens.mono (by simp)
  | some only =>
    rw [List.append_assoc]
    exact opens_of_mark only (by decide)

theorem opens_of_arguments {front : List Char} {arguments : List Argument}
    (form : OptionalArguments front arguments) (opens : Opens ['=', '#'] rest) :
    Opens lineMarks (front ++ rest) := by
  cases form with
  | none => exact opens.mono (by simp [lineMarks])
  | some only form =>
    cases form <;>
    · rw [List.append_assoc]
      exact opens_of_mark only (by decide)

theorem assignedPart_sound {value : Binary64} (read : assignedPart text = .done value rest) :
    ∃ front, text = front ++ rest ∧ OptionalConstant front (some value) := by
  obtain ⟨before, start, first, marked⟩ := bind_eq_done_iff.mp read
  obtain ⟨_, inner, mark, spaced⟩ := bind_eq_done_iff.mp marked
  obtain ⟨behind, last, second, constant⟩ := bind_eq_done_iff.mp spaced
  obtain ⟨rfl, onlyBefore, -⟩ := blanks_eq_done_iff.mp first
  obtain rfl := char_eq_done_iff.mp mark
  obtain ⟨rfl, onlyBehind, -⟩ := blanks_eq_done_iff.mp second
  obtain ⟨front, rfl, form⟩ := constantPart_sound constant
  exact ⟨before ++ '=' :: (behind ++ front), by simp, .some onlyBefore onlyBehind form⟩

theorem stops_isBlank_of_constant {front : List Char} {value : Binary64}
    (form : ConstantForm front value) : Stops isBlank (front ++ rest) := by
  cases form with
  | nan => exact stops_cons rfl
  | infinity => exact stops_cons rfl
  | negativeInfinity => exact stops_cons rfl
  | decimal signForm pointForm exponentForm =>
    obtain ⟨c, more, same, continues⟩ := (DecimalForm.mk pointForm exponentForm).head
    rw [List.append_assoc _ _ rest, List.append_assoc, ← List.append_assoc _ _ rest, same]
    cases signForm with
    | plus => exact stops_cons rfl
    | minus => exact stops_cons rfl
    | none =>
      apply stops_cons
      rcases Bool.or_eq_true_iff.mp continues with digit | point
      · exact not_isBlank_of_isAlphanum (isAlphanum_of_isDigit c digit)
      · rw [of_decide_eq_true point]
        rfl

theorem assignedPart_complete {before behind front : List Char} {value : Binary64}
    (onlyBefore : Blanks before) (onlyBehind : Blanks behind) (form : ConstantForm front value)
    (stops : Stops continuesDecimal rest) :
    assignedPart (before ++ '=' :: (behind ++ (front ++ rest))) = .done value rest := by
  refine bind_eq_done_iff.mpr ⟨before, _, blanks_append onlyBefore (stops_cons rfl), ?_⟩
  refine bind_eq_done_iff.mpr ⟨(), _, char_eq_done_iff.mpr rfl, bind_eq_done_iff.mpr ?_⟩
  exact ⟨behind, front ++ rest, blanks_append onlyBehind (stops_isBlank_of_constant form),
    constantPart_complete form stops⟩

theorem optionalConstant_sound {value : Option Binary64}
    (read : assignedPart.optional text = .done value rest) :
    ∃ front, text = front ++ rest ∧ OptionalConstant front value := by
  rcases optional_eq_done_iff.mp read with ⟨present, rfl, assigned⟩ | ⟨rfl, rfl, -⟩
  · exact assignedPart_sound assigned
  · exact ⟨[], rfl, .none⟩

/-- Whatever continues a decimal is neither blank nor the mark of a comment. -/
theorem Opens.stops_continuesDecimal (opens : Opens ['#'] text) : Stops continuesDecimal text := by
  apply opens.stops
  · intro c blank
    rcases Bool.or_eq_true_iff.mp blank with space | tab
    · rw [of_decide_eq_true space]
      rfl
    · rw [of_decide_eq_true tab]
      rfl
  · decide

theorem optionalConstant_complete {front : List Char} {value : Option Binary64}
    (form : OptionalConstant front value) (opens : Opens ['#'] rest) :
    assignedPart.optional (front ++ rest) = .done value rest := by
  cases form with
  | none => exact optional_of_refused (opens.refused (by decide) (by decide))
  | some onlyBefore onlyBehind form =>
    rw [List.append_assoc, List.cons_append, List.append_assoc]
    apply optional_of_done
    exact assignedPart_complete onlyBefore onlyBehind form opens.stops_continuesDecimal

def spacedArguments : Parser (List Argument) := do
  let _ ← blanks
  argumentsPart

theorem optionalArguments_sound {given : Option (List Argument)}
    (read : spacedArguments.optional text = .done given rest) :
    ∃ front, text = front ++ rest ∧ OptionalArguments front (given.getD []) := by
  rcases optional_eq_done_iff.mp read with ⟨present, rfl, spaced⟩ | ⟨rfl, rfl, -⟩
  · obtain ⟨before, opening, first, list⟩ := bind_eq_done_iff.mp spaced
    obtain ⟨rfl, only, -⟩ := blanks_eq_done_iff.mp first
    obtain ⟨front, rfl, form⟩ := argumentsPart_sound list
    exact ⟨before ++ front, by simp, .some only form⟩
  · exact ⟨[], rfl, .none⟩

theorem optionalArguments_complete {front : List Char} {arguments : List Argument}
    (form : OptionalArguments front arguments) (opens : Opens ['=', '#'] rest) :
    ∃ given, given.getD [] = arguments ∧
      spacedArguments.optional (front ++ rest) = .done given rest := by
  cases form with
  | none => exact ⟨none, rfl, optional_of_refused (opens.refused (by decide) (by decide))⟩
  | @some before text _ only form =>
    have stops : Stops isBlank (text ++ rest) := by
      cases form <;> exact stops_cons rfl
    rw [List.append_assoc]
    refine ⟨_, rfl, optional_of_done (bind_eq_done_iff.mpr ?_)⟩
    exact ⟨before, text ++ rest, blanks_append only stops, argumentsPart_complete form⟩

theorem statementPart_sound {statement : Statement}
    (read : statementPart text = .done statement rest) :
    ∃ front, text = front ++ rest ∧ StatementForm front statement := by
  obtain ⟨name, start, letters, listed⟩ := bind_eq_done_iff.mp read
  obtain ⟨given, inner, list, assigned⟩ := bind_eq_done_iff.mp listed
  obtain ⟨value, last, constant, result⟩ := bind_eq_done_iff.mp assigned
  cases result
  obtain ⟨rfl, some, -⟩ := someOf_eq_done_iff.mp letters
  obtain ⟨arguments, rfl, argumentsForm⟩ := optionalArguments_sound list
  obtain ⟨tail, rfl, constantForm⟩ := optionalConstant_sound constant
  exact ⟨name ++ arguments ++ tail, by simp, .mk some argumentsForm constantForm⟩

theorem statementPart_complete {front : List Char} {statement : Statement}
    (form : StatementForm front statement) (opens : Opens ['#'] rest) :
    statementPart (front ++ rest) = .done statement rest := by
  cases form with
  | @mk name arguments tail list value some argumentsForm constantForm =>
    have opensConstant := opens_of_constant constantForm opens
    have opensArguments := opens_of_arguments argumentsForm opensConstant
    have stops : Stops Char.isAlphanum (arguments ++ (tail ++ rest)) :=
      opensArguments.stops not_isAlphanum_of_isBlank (by decide)
    have letters : someOf Char.isAlpha (name ++ (arguments ++ (tail ++ rest))) =
        .done name (arguments ++ (tail ++ rest)) :=
      someOf_eq_done_iff.mpr ⟨rfl, some, stops.mono isAlphanum_of_isAlpha⟩
    obtain ⟨given, rfl, listed⟩ := optionalArguments_complete argumentsForm opensConstant
    have constant := optionalConstant_complete constantForm opens
    rw [List.append_assoc, List.append_assoc]
    refine bind_eq_done_iff.mpr ⟨name, arguments ++ (tail ++ rest), letters, ?_⟩
    refine bind_eq_done_iff.mpr ⟨given, tail ++ rest, listed, ?_⟩
    exact bind_eq_done_iff.mpr ⟨value, rest, constant, rfl⟩

theorem stops_isBlank_of_statement {front : List Char} {statement : Statement}
    (form : StatementForm front statement) : Stops isBlank (front ++ rest) := by
  cases form with
  | mk some =>
    obtain ⟨c, more, rfl⟩ := List.exists_cons_of_ne_nil some.1
    have letter := some.2 c List.mem_cons_self
    exact stops_cons (not_isBlank_of_isAlphanum (isAlphanum_of_isAlpha c letter))

theorem comment_sound {present : Option Unit}
    (read : commentPart.optional text = .done present []) : CommentForm text := by
  rcases optional_eq_done_iff.mp read with ⟨_, -, comment⟩ | ⟨-, rfl, -⟩
  · obtain ⟨_, behind, mark, -⟩ := bind_eq_done_iff.mp comment
    obtain rfl := char_eq_done_iff.mp mark
    exact .some behind
  · exact .none

theorem comment_complete (form : CommentForm text) :
    ∃ present, commentPart.optional text = .done present [] := by
  cases form with
  | none => exact ⟨none, optional_of_refused (refused_of_bind rfl)⟩
  | some behind =>
    have rest : many (fun _ => true) behind = .done behind [] :=
      many_eq_done_iff.mpr ⟨by simp, fun _ _ => rfl, stops_nil⟩
    refine ⟨some (), optional_of_done ?_⟩
    refine bind_eq_done_iff.mpr ⟨(), behind, char_eq_done_iff.mpr rfl, ?_⟩
    exact bind_eq_done_iff.mpr ⟨behind, [], rest, rfl⟩

theorem linePart_sound {reading : Option Statement} (read : linePart text = .done reading []) :
    LineForm text reading := by
  obtain ⟨before, start, first, opened⟩ := bind_eq_done_iff.mp read
  obtain ⟨statement, inner, state, spaced⟩ := bind_eq_done_iff.mp opened
  obtain ⟨behind, last, second, commented⟩ := bind_eq_done_iff.mp spaced
  obtain ⟨present, tail, comment, result⟩ := bind_eq_done_iff.mp commented
  cases result
  obtain ⟨rfl, onlyBefore, -⟩ := blanks_eq_done_iff.mp first
  obtain ⟨rfl, onlyBehind, -⟩ := blanks_eq_done_iff.mp second
  have form := comment_sound comment
  rcases optional_eq_done_iff.mp state with ⟨found, rfl, stated⟩ | ⟨rfl, rfl, -⟩
  · obtain ⟨front, rfl, statementForm⟩ := statementPart_sound stated
    rw [← List.append_assoc, ← List.append_assoc]
    exact .some onlyBefore statementForm onlyBehind form
  · rw [← List.append_assoc]
    exact .none (only_append onlyBefore onlyBehind) form

theorem linePart_of_parts {before start inner behind last : List Char}
    {reading : Option Statement} (first : blanks text = .done before start)
    (state : statementPart.optional start = .done reading inner)
    (second : blanks inner = .done behind last) (form : CommentForm last) :
    linePart text = .done reading [] := by
  obtain ⟨present, comment⟩ := comment_complete form
  refine bind_eq_done_iff.mpr ⟨before, start, first, ?_⟩
  refine bind_eq_done_iff.mpr ⟨reading, inner, state, ?_⟩
  refine bind_eq_done_iff.mpr ⟨behind, last, second, ?_⟩
  exact bind_eq_done_iff.mpr ⟨present, [], comment, rfl⟩

theorem linePart_complete {reading : Option Statement} (form : LineForm text reading) :
    linePart text = .done reading [] := by
  cases form with
  | @none before comment only form =>
    have stops : Stops isBlank comment := stops_comment form rfl
    have absent : statementPart comment = .refused :=
      refused_of_bind (someOf_refused (stops_comment form rfl))
    exact linePart_of_parts (blanks_append only stops) (optional_of_refused absent)
      (blanks_absent stops) form
  | @some before front behind comment statement onlyBefore statementForm onlyBehind form =>
    rw [List.append_assoc, List.append_assoc]
    have state := statementPart_complete statementForm (opens_of_comment onlyBehind form)
    have stops : Stops isBlank (front ++ (behind ++ comment)) :=
      stops_isBlank_of_statement statementForm
    have second := blanks_append onlyBehind (stops_comment form rfl)
    exact linePart_of_parts (blanks_append onlyBefore stops) (optional_of_done state) second form

/-- The reader accepts exactly the lines of the grammar. -/
theorem readLine?_eq_some_iff {line : List Char} {reading : Option Statement} :
    readLine? line = some reading ↔ LineForm line reading := by
  unfold readLine? whole?
  constructor
  · intro read
    split at read
    · rename_i done
      cases read
      exact linePart_sound done
    · cases read
  · intro form
    rw [linePart_complete form]

end Dataflow.Assembly
