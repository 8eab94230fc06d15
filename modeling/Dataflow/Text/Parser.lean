set_option autoImplicit false

namespace Dataflow.Text

/-- What a parser makes of a text. -/
inductive Reading (α : Type) where
  /-- A value, and what follows the part that was read. -/
  | done (value : α) (rest : List Char)
  /-- Another choice may be tried. -/
  | refused
  /-- Every other choice is ruled out too. -/
  | aborted

def Reading.map {α β : Type} (f : α → β) : Reading α → Reading β
  | done value rest => done (f value) rest
  | refused => refused
  | aborted => aborted

def Parser (α : Type) : Type := List Char → Reading α

namespace Parser

variable {α β : Type}

protected def bind (first : Parser α) (next : α → Parser β) : Parser β := fun text =>
  match first text with
  | .done value rest => next value rest
  | .refused => .refused
  | .aborted => .aborted

instance : Monad Parser where
  pure value := fun text => .done value text
  bind := Parser.bind

def refuse : Parser α := fun _ => .refused

/-- The first of two choices that does not refuse. -/
def orElse (first second : Parser α) : Parser α := fun text =>
  match first text with
  | .refused => second text
  | reading => reading

def optional (part : Parser α) : Parser (Option α) := fun text =>
  match part text with
  | .done value rest => .done (some value) rest
  | .refused => .done none text
  | .aborted => .aborted

/-- A part whose value has to pass a test. -/
def filterMap (part : Parser α) (f : α → Option β) : Parser β := do
  match f (← part) with
  | some value => pure value
  | none => refuse

def char (mark : Char) : Parser Unit
  | c :: rest => if c = mark then .done () rest else .refused
  | [] => .refused

def word (letters : List Char) : Parser Unit := fun text =>
  if letters.isPrefixOf text then .done () (text.drop letters.length) else .refused

/-- All characters of a class up to the first other one. -/
def many (inClass : Char → Bool) : Parser (List Char) := fun text =>
  .done (text.takeWhile inClass) (text.dropWhile inClass)

/-- All characters of a class up to the first other one, of which there must be one. -/
def someOf (inClass : Char → Bool) : Parser (List Char) :=
  (many inClass).filterMap fun characters => if characters.isEmpty then none else some characters

/-- The items behind a first one, each with a separator before it. A separator without an item is
left where it is. -/
def furtherItems (separator : Parser Unit) (item : Parser α) (text : List Char) :
    Reading (List α) :=
  match separator text with
  | .refused => .done [] text
  | .aborted => .aborted
  | .done () behind =>
    match item behind with
    | .refused => .done [] text
    | .aborted => .aborted
    | .done value rest =>
      if rest.length < text.length then (furtherItems separator item rest).map (value :: ·)
      else .refused
termination_by text.length

/-- Items with a separator between any two, possibly none. -/
def separated (separator : Parser Unit) (item : Parser α) : Parser (List α) := fun text =>
  match item text with
  | .refused => .done [] text
  | .aborted => .aborted
  | .done value rest => (furtherItems separator item rest).map (value :: ·)

def whole? (parser : Parser α) (text : List Char) : Option α :=
  match parser text with
  | .done value [] => some value
  | _ => none

@[simp] theorem pure_apply (value : α) (text : List Char) :
    (pure value : Parser α) text = .done value text := rfl

theorem bind_eq_done_iff {first : Parser α} {next : α → Parser β} {text rest : List Char}
    {result : β} : (first >>= next) text = .done result rest ↔
      ∃ value behind, first text = .done value behind ∧ next value behind = .done result rest := by
  change first.bind next text = _ ↔ _
  unfold Parser.bind
  cases first text <;> simp [and_assoc]

theorem orElse_eq_done_iff {first second : Parser α} {text rest : List Char} {value : α} :
    first.orElse second text = .done value rest ↔
      first text = .done value rest ∨ first text = .refused ∧ second text = .done value rest := by
  unfold orElse
  cases first text <;> simp

theorem optional_eq_done_iff {part : Parser α} {text rest : List Char} {value : Option α} :
    part.optional text = .done value rest ↔
      (∃ present, value = some present ∧ part text = .done present rest) ∨
        value = none ∧ rest = text ∧ part text = .refused := by
  unfold optional
  cases part text with
  | done present behind =>
    simp only [Reading.done.injEq, reduceCtorEq, and_false, or_false]
    constructor
    · rintro ⟨rfl, rfl⟩
      exact ⟨present, rfl, rfl, rfl⟩
    · rintro ⟨_, rfl, rfl, rfl⟩
      exact ⟨rfl, rfl⟩
  | refused => simp [eq_comm]
  | aborted => simp

theorem filterMap_eq_done_iff {part : Parser α} {f : α → Option β} {text rest : List Char}
    {result : β} : part.filterMap f text = .done result rest ↔
      ∃ value, part text = .done value rest ∧ f value = some result := by
  rw [filterMap, bind_eq_done_iff]
  constructor
  · rintro ⟨value, behind, read, passed⟩
    cases test : f value with
    | none => simp [test, refuse] at passed
    | some accepted =>
      simp only [test, pure_apply, Reading.done.injEq] at passed
      obtain ⟨rfl, rfl⟩ := passed
      exact ⟨value, read, test⟩
  · rintro ⟨value, read, test⟩
    exact ⟨value, rest, read, by simp [test]⟩

end Parser

end Dataflow.Text
