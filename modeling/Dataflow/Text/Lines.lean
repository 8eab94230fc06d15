set_option autoImplicit false

namespace Dataflow.Text

/-- What stands before the first of a mark, and what stands after it if there is one. -/
def cut (mark : Char) (text : List Char) : List Char × Option (List Char) :=
  (text.takeWhile (· != mark), (text.dropWhile (· != mark)).tail?)

def addToParts (mark c : Char) (parts : List (List Char)) : List (List Char) :=
  if c = mark then [] :: parts
  else match parts with
    | [] => [[c]]
    | part :: rest => (c :: part) :: rest

/-- The parts of a text between its marks: one part more than there are marks. -/
def split (mark : Char) (text : List Char) : List (List Char) :=
  text.foldr (addToParts mark) [[]]

/-- A line without the carriage return at its end. -/
def dropReturn (line : List Char) : List Char :=
  if line.getLast? = some '\r' then line.dropLast else line

/-- The lines of parts between line feeds. -/
def linesOfParts : List (List Char) → List (List Char)
  | [] => []
  | [last] => if last.isEmpty then [] else [last]
  | part :: rest => dropReturn part :: linesOfParts rest

/-- The lines of a text, without their ends. A carriage return directly before a line feed belongs
to the end of the line, and behind the last line feed there is no empty line. -/
def lines (text : List Char) : List (List Char) := linesOfParts (split '\n' text)

theorem eq_append_of_cut {mark : Char} {text front rest : List Char}
    (parts : cut mark text = (front, some rest)) : mark ∉ front ∧ text = front ++ mark :: rest := by
  induction text generalizing front with
  | nil => cases parts
  | cons c text ih =>
    by_cases same : c = mark
    · subst same
      have here : cut c (c :: text) = ([], some text) := by simp [cut]
      rw [here] at parts
      cases parts
      exact ⟨List.not_mem_nil, rfl⟩
    · have later : cut mark (c :: text) = (c :: (cut mark text).1, (cut mark text).2) := by
        simp [cut, same]
      rw [later] at parts
      obtain ⟨rfl, behind⟩ := Prod.mk.inj parts
      obtain ⟨apart, whole⟩ := ih (Prod.ext rfl behind)
      exact ⟨by simpa [Ne.symm same] using apart, congrArg (c :: ·) whole⟩

@[simp] theorem split_nil (mark : Char) : split mark [] = [[]] := rfl

@[simp] theorem split_cons (mark c : Char) (text : List Char) :
    split mark (c :: text) = addToParts mark c (split mark text) := rfl

theorem split_ne_nil (mark : Char) (text : List Char) : split mark text ≠ [] := by
  cases text with
  | nil => simp
  | cons c rest =>
    rw [split_cons]
    unfold addToParts
    split
    · simp
    · split <;> simp

/-- The parts around a mark are split on their own. -/
theorem split_append_mark (mark : Char) (text rest : List Char) :
    split mark (text ++ mark :: rest) = split mark text ++ split mark rest := by
  induction text with
  | nil => simp [addToParts]
  | cons c text ih =>
    rw [List.cons_append, split_cons, split_cons, ih]
    unfold addToParts
    split
    · rfl
    · cases parts : split mark text with
      | nil => exact absurd parts (split_ne_nil mark text)
      | cons part others => rfl

end Dataflow.Text
