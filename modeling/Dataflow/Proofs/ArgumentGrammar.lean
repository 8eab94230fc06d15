import Dataflow.Proofs.Parsing

set_option autoImplicit false

namespace Dataflow.Assembly

open Text Text.Parser Grammar

variable {text rest : List Char}

theorem blanks_eq_done_iff {front : List Char} :
    blanks text = .done front rest ↔ text = front ++ rest ∧ Blanks front ∧ Stops isBlank rest :=
  many_eq_done_iff

theorem blanks_append {before : List Char} (only : Blanks before) (stops : Stops isBlank rest) :
    blanks (before ++ rest) = .done before rest :=
  blanks_eq_done_iff.mpr ⟨rfl, only, stops⟩

theorem blanks_absent (stops : Stops isBlank text) : blanks text = .done [] text :=
  blanks_append (List.forall_mem_nil _) stops

theorem stops_blanks_append {inClass : Char → Bool} {before : List Char} (only : Blanks before)
    (outside : ∀ c, isBlank c = true → inClass c = false) (stops : Stops inClass rest) :
    Stops inClass (before ++ rest) := by
  cases before with
  | nil => exact stops
  | cons c before => exact stops_cons (outside c (only c List.mem_cons_self))

theorem not_isBlank_of_isAlphanum {c : Char} (letter : c.isAlphanum = true) :
    isBlank c = false := by
  apply Bool.eq_false_iff.mpr
  intro blank
  rcases Bool.or_eq_true_iff.mp blank with space | tab
  · rw [of_decide_eq_true space] at letter
    cases letter
  · rw [of_decide_eq_true tab] at letter
    cases letter

theorem not_isAlphanum_of_isBlank (c : Char) (blank : isBlank c = true) :
    c.isAlphanum = false := by
  apply Bool.eq_false_iff.mpr
  intro letter
  rw [not_isBlank_of_isAlphanum letter] at blank
  cases blank

theorem isAlphanum_of_isDigit (c : Char) (digit : c.isDigit = true) : c.isAlphanum = true := by
  rw [Char.isAlphanum, digit, Bool.or_true]

theorem isAlphanum_of_isAlpha (c : Char) (letter : c.isAlpha = true) : c.isAlphanum = true := by
  rw [Char.isAlphanum, letter, Bool.true_or]

theorem isAlpha_iff_toNat {c : Char} : c.isAlpha = true ↔
    65 ≤ c.toNat ∧ c.toNat ≤ 90 ∨ 97 ≤ c.toNat ∧ c.toNat ≤ 122 := by
  have upper : c.isUpper = true ↔ 65 ≤ c.toNat ∧ c.toNat ≤ 90 := decide_eq_true_iff
  have lower : c.isLower = true ↔ 97 ≤ c.toNat ∧ c.toNat ≤ 122 := by
    show (decide ('a'.val ≤ c.val) && decide (c.val ≤ 'z'.val)) = true ↔ _
    rw [Bool.and_eq_true, decide_eq_true_iff, decide_eq_true_iff]
    exact Iff.rfl
  show (c.isUpper || c.isLower) = true ↔ _
  rw [Bool.or_eq_true, upper, lower]

theorem isAlphanum_of_isHexDigit (c : Char) (digit : isHexDigit c = true) :
    c.isAlphanum = true := by
  simp only [isHexDigit, Bool.or_eq_true, Bool.and_eq_true, decide_eq_true_eq] at digit
  rcases digit with (digit | ⟨low, high⟩) | ⟨low, high⟩
  · exact isAlphanum_of_isDigit c digit
  · have low : 97 ≤ c.toNat := low
    have high : c.toNat ≤ 102 := high
    exact isAlphanum_of_isAlpha c (isAlpha_iff_toNat.mpr (by omega))
  · have low : 65 ≤ c.toNat := low
    have high : c.toNat ≤ 70 := high
    exact isAlphanum_of_isAlpha c (isAlpha_iff_toNat.mpr (by omega))

theorem not_isDigit_of_isAlpha {c : Char} (letter : c.isAlpha = true) : c.isDigit = false := by
  apply Bool.eq_false_iff.mpr
  intro digit
  have letterRange := isAlpha_iff_toNat.mp letter
  have digitRange : 48 ≤ c.toNat ∧ c.toNat ≤ 57 := Char.isDigit_iff_toNat.mp digit
  omega

namespace Argument

theorem part_sound {argument : Argument} (read : part text = .done argument rest) :
    ∃ front, text = front ++ rest ∧ ArgumentForm front argument := by
  rcases orElse_eq_done_iff.mp read with word | ⟨-, read⟩
  · obtain ⟨digits, marked, valued⟩ := filterMap_eq_done_iff.mp word
    obtain ⟨_, behind, mark, some⟩ := bind_eq_done_iff.mp marked
    have front := word_eq_done_iff.mp mark
    obtain ⟨rfl, some, -⟩ := someOf_eq_done_iff.mp some
    unfold ofHexDigits? at valued
    split at valued
    · rename_i fits
      cases valued
      exact ⟨'0' :: 'x' :: digits, front, .word digits some fits⟩
    · cases valued
  rcases orElse_eq_done_iff.mp read with number | ⟨-, name⟩
  · obtain ⟨digits, some, valued⟩ := filterMap_eq_done_iff.mp number
    obtain ⟨rfl, some, -⟩ := someOf_eq_done_iff.mp some
    unfold ofDigits? at valued
    split at valued
    · rename_i fits
      cases valued
      exact ⟨digits, rfl, .number digits some fits⟩
    · cases valued
  · obtain ⟨letters, behind, some, result⟩ := bind_eq_done_iff.mp name
    cases result
    obtain ⟨rfl, some, -⟩ := someOf_eq_done_iff.mp some
    exact ⟨letters, rfl, .name letters some⟩

theorem wordPart_refused (other : ∀ behind, text ≠ '0' :: 'x' :: behind) :
    wordPart text = .refused :=
  refused_of_filterMap (refused_of_bind (word_refused other))

theorem numberPart_refused (stops : Stops Char.isDigit text) : numberPart text = .refused :=
  refused_of_filterMap (someOf_refused stops)

theorem part_complete {front : List Char} {argument : Argument} (form : ArgumentForm front argument)
    (stops : Stops Char.isAlphanum rest) : part (front ++ rest) = .done argument rest := by
  cases form with
  | word digits some fits =>
    apply orElse_of_done
    refine filterMap_eq_done_iff.mpr ⟨digits, ?_, if_pos fits⟩
    refine bind_eq_done_iff.mpr ⟨(), digits ++ rest, word_eq_done_iff.mpr rfl, ?_⟩
    exact someOf_eq_done_iff.mpr ⟨rfl, some, stops.mono isAlphanum_of_isHexDigit⟩
  | number _ some fits =>
    have noMark : ∀ behind, front ++ rest ≠ '0' :: 'x' :: behind := by
      intro behind same
      obtain ⟨present, only⟩ := some
      match front with
      | [] => exact present rfl
      | [_] =>
        rw [List.cons_append, List.nil_append] at same
        rw [(List.cons.inj same).2] at stops
        cases stops 'x' rfl
      | _ :: second :: _ =>
        have digit := only second (by simp)
        obtain rfl : second = 'x' := (List.cons.inj (List.cons.inj same).2).1
        cases digit
    rw [part, orElse_of_refused (wordPart_refused noMark)]
    apply orElse_of_done
    refine filterMap_eq_done_iff.mpr ⟨front, ?_, if_pos fits⟩
    exact someOf_eq_done_iff.mpr ⟨rfl, some, stops.mono isAlphanum_of_isDigit⟩
  | name _ some =>
    obtain ⟨first, more, rfl⟩ := List.exists_cons_of_ne_nil some.1
    have letter := some.2 first List.mem_cons_self
    have noMark : ∀ behind, first :: more ++ rest ≠ '0' :: 'x' :: behind := by
      intro behind same
      rw [(List.cons.inj same).1] at letter
      cases letter
    have noDigit : Stops Char.isDigit (first :: more ++ rest) :=
      stops_cons (not_isDigit_of_isAlpha letter)
    rw [part, orElse_of_refused (wordPart_refused noMark),
      orElse_of_refused (numberPart_refused noDigit)]
    refine bind_eq_done_iff.mpr ⟨first :: more, rest, ?_, rfl⟩
    exact someOf_eq_done_iff.mpr ⟨rfl, some, stops.mono isAlphanum_of_isAlpha⟩

theorem head_of_form {argument : Argument} (form : ArgumentForm text argument) :
    ∃ c more, text = c :: more ∧ c.isAlphanum = true := by
  cases form with
  | number _ some =>
    obtain ⟨c, more, rfl⟩ := List.exists_cons_of_ne_nil some.1
    exact ⟨c, more, rfl, isAlphanum_of_isDigit c (some.2 c List.mem_cons_self)⟩
  | word digits => exact ⟨'0', _, rfl, rfl⟩
  | name _ some =>
    obtain ⟨c, more, rfl⟩ := List.exists_cons_of_ne_nil some.1
    exact ⟨c, more, rfl, isAlphanum_of_isAlpha c (some.2 c List.mem_cons_self)⟩

theorem part_refused (stops : Stops Char.isAlphanum text) : part text = .refused := by
  have noMark : ∀ behind, text ≠ '0' :: 'x' :: behind := by
    rintro behind rfl
    cases stops '0' rfl
  rw [part, orElse_of_refused (wordPart_refused noMark),
    orElse_of_refused (numberPart_refused (stops.mono isAlphanum_of_isDigit))]
  exact refused_of_bind (someOf_refused (stops.mono isAlphanum_of_isAlpha))

end Argument

theorem comma_eq_done_iff : comma text = .done () rest ↔
    ∃ before behind, text = before ++ ',' :: (behind ++ rest) ∧ Blanks before ∧ Blanks behind ∧
      Stops isBlank rest := by
  constructor
  · intro read
    obtain ⟨before, marked, first, read⟩ := bind_eq_done_iff.mp read
    obtain ⟨_, more, mark, read⟩ := bind_eq_done_iff.mp read
    obtain ⟨behind, last, second, result⟩ := bind_eq_done_iff.mp read
    cases result
    obtain ⟨rfl, onlyBefore, -⟩ := blanks_eq_done_iff.mp first
    obtain rfl := char_eq_done_iff.mp mark
    obtain ⟨rfl, onlyBehind, stops⟩ := blanks_eq_done_iff.mp second
    exact ⟨before, behind, rfl, onlyBefore, onlyBehind, stops⟩
  · rintro ⟨before, behind, rfl, onlyBefore, onlyBehind, stops⟩
    refine bind_eq_done_iff.mpr ⟨before, _, blanks_append onlyBefore (stops_cons rfl), ?_⟩
    refine bind_eq_done_iff.mpr ⟨(), behind ++ rest, char_eq_done_iff.mpr rfl, ?_⟩
    exact bind_eq_done_iff.mpr ⟨behind, rest, blanks_append onlyBehind stops, rfl⟩

/-- A part behind blanks refuses where it refuses behind all of them. -/
theorem refused_behind_blanks {α : Type} {before : List Char} {next : Parser α}
    (only : Blanks before) (stops : Stops isBlank rest) (refuses : next rest = .refused) :
    (blanks >>= fun _ => next) (before ++ rest) = .refused :=
  refused_of_next (blanks_append only stops) refuses

theorem comma_refused {before : List Char} (only : Blanks before) (stops : Stops isBlank rest)
    (other : ∀ behind, rest ≠ ',' :: behind) : comma (before ++ rest) = .refused :=
  refused_behind_blanks only stops (refused_of_bind (char_refused other))

theorem Grammar.ListForm.head {arguments : List Argument} (form : ListForm text arguments) :
    ∃ c more, text = c :: more ∧ c.isAlphanum = true := by
  cases form with
  | one form => exact Argument.head_of_form form
  | more form =>
    obtain ⟨c, more, rfl, letter⟩ := Argument.head_of_form form
    exact ⟨c, _, rfl, letter⟩

theorem stops_isBlank_of_list {arguments : List Argument} (form : ListForm text arguments) :
    Stops isBlank (text ++ rest) := by
  obtain ⟨c, more, rfl, letter⟩ := form.head
  exact stops_cons (not_isBlank_of_isAlphanum letter)

theorem Grammar.ListForm.cons {front before behind list : List Char} {argument : Argument}
    {others : List Argument} (first : ArgumentForm front argument) (onlyBefore : Blanks before)
    (onlyBehind : Blanks behind) (form : ListForm list others) :
    ListForm (front ++ (before ++ ',' :: (behind ++ list))) (argument :: others) := by
  rw [← List.append_assoc]
  exact .more first onlyBefore onlyBehind form

theorem furtherItems_sound {front : List Char} {argument : Argument} {others : List Argument}
    (first : ArgumentForm front argument)
    (read : furtherItems comma Argument.part text = .done others rest) :
    ∃ list, front ++ text = list ++ rest ∧ ListForm list (argument :: others) := by
  induction others generalizing front argument text with
  | nil =>
    obtain ⟨rfl, -⟩ := furtherItems_eq_nil_iff.mp read
    exact ⟨front, rfl, .one first⟩
  | cons second others ih =>
    obtain ⟨behind, last, separated, item, -, more⟩ := furtherItems_eq_cons_iff.mp read
    obtain ⟨before, blanks, rfl, onlyBefore, onlyBlanks, -⟩ := comma_eq_done_iff.mp separated
    obtain ⟨next, rfl, form⟩ := Argument.part_sound item
    obtain ⟨list, same, listForm⟩ := ih form more
    refine ⟨front ++ (before ++ ',' :: (blanks ++ list)), ?_,
      listForm.cons first onlyBefore onlyBlanks⟩
    simp [same]

theorem arguments_sound {arguments : List Argument}
    (read : separated comma Argument.part text = .done arguments rest) :
    arguments = [] ∧ text = rest ∨ ∃ list, text = list ++ rest ∧ ListForm list arguments := by
  cases arguments with
  | nil =>
    obtain ⟨rfl, -⟩ := separated_eq_nil_iff.mp read
    exact .inl ⟨rfl, rfl⟩
  | cons argument others =>
    obtain ⟨behind, item, more⟩ := separated_eq_cons_iff.mp read
    obtain ⟨front, rfl, form⟩ := Argument.part_sound item
    obtain ⟨list, same, listForm⟩ := furtherItems_sound form more
    exact .inr ⟨list, same, listForm⟩

theorem arguments_complete {list : List Char} {arguments : List Argument}
    (form : ListForm list arguments) (stops : Stops Char.isAlphanum rest)
    (noComma : comma rest = .refused) :
    separated comma Argument.part (list ++ rest) = .done arguments rest := by
  induction form with
  | one form =>
    have last : furtherItems comma Argument.part rest = .done [] rest :=
      furtherItems_eq_nil_iff.mpr ⟨rfl, .inl noComma⟩
    exact separated_eq_cons_iff.mpr ⟨rest, Argument.part_complete form stops, last⟩
  | @more front before behind list argument others first onlyBefore onlyBehind form ih =>
    rw [List.append_assoc, List.append_assoc, List.cons_append, List.append_assoc]
    have nonempty : others ≠ [] := by
      cases form <;> exact List.cons_ne_nil _ _
    obtain ⟨second, later, rfl⟩ := List.exists_cons_of_ne_nil nonempty
    obtain ⟨last, item, more⟩ := separated_eq_cons_iff.mp ih
    obtain ⟨next, same, -⟩ := Argument.part_sound item
    have follows : Stops Char.isAlphanum (before ++ ',' :: (behind ++ (list ++ rest))) :=
      stops_blanks_append onlyBefore not_isAlphanum_of_isBlank (stops_cons rfl)
    have separated : comma (before ++ ',' :: (behind ++ (list ++ rest))) =
        .done () (list ++ rest) :=
      comma_eq_done_iff.mpr
        ⟨before, behind, rfl, onlyBefore, onlyBehind, stops_isBlank_of_list form⟩
    have shorter : last.length < (before ++ ',' :: (behind ++ (list ++ rest))).length := by
      simp only [same, List.length_append, List.length_cons]
      omega
    have further := furtherItems_eq_cons_iff.mpr
      ⟨list ++ rest, last, separated, item, shorter, more⟩
    exact separated_eq_cons_iff.mpr ⟨_, Argument.part_complete first follows, further⟩

theorem argumentsPart_sound {arguments : List Argument}
    (read : argumentsPart text = .done arguments rest) :
    ∃ front, text = front ++ rest ∧ ArgumentsForm front arguments := by
  obtain ⟨_, inner, opened, read⟩ := bind_eq_done_iff.mp read
  obtain ⟨before, start, first, read⟩ := bind_eq_done_iff.mp read
  obtain ⟨given, stop, list, read⟩ := bind_eq_done_iff.mp read
  obtain ⟨behind, last, second, read⟩ := bind_eq_done_iff.mp read
  obtain ⟨_, tail, closed, result⟩ := bind_eq_done_iff.mp read
  cases result
  obtain rfl := char_eq_done_iff.mp opened
  obtain ⟨rfl, onlyBefore, -⟩ := blanks_eq_done_iff.mp first
  obtain ⟨rfl, onlyBehind, -⟩ := blanks_eq_done_iff.mp second
  obtain rfl := char_eq_done_iff.mp closed
  rcases arguments_sound list with ⟨rfl, rfl⟩ | ⟨front, rfl, form⟩
  · exact ⟨'(' :: (before ++ behind ++ [')']), by simp, .none (only_append onlyBefore onlyBehind)⟩
  · exact ⟨'(' :: (before ++ front ++ behind ++ [')']), by simp, .list onlyBefore form onlyBehind⟩

theorem argumentsPart_of_parts {before behind start stop : List Char} {arguments : List Argument}
    (first : blanks text = .done before start)
    (list : separated comma Argument.part start = .done arguments stop)
    (second : blanks stop = .done behind (')' :: rest)) :
    argumentsPart ('(' :: text) = .done arguments rest := by
  refine bind_eq_done_iff.mpr ⟨(), text, char_eq_done_iff.mpr rfl, ?_⟩
  refine bind_eq_done_iff.mpr ⟨before, start, first, ?_⟩
  refine bind_eq_done_iff.mpr ⟨arguments, stop, list, ?_⟩
  refine bind_eq_done_iff.mpr ⟨behind, ')' :: rest, second, ?_⟩
  exact bind_eq_done_iff.mpr ⟨(), rest, char_eq_done_iff.mpr rfl, rfl⟩

theorem argumentsPart_complete {front : List Char} {arguments : List Argument}
    (form : ArgumentsForm front arguments) :
    argumentsPart (front ++ rest) = .done arguments rest := by
  have closes : ∀ behind : List Char, ')' :: rest ≠ ',' :: behind := by
    rintro behind ⟨⟩
  cases form with
  | @none before only =>
    have first : blanks (before ++ ')' :: rest) = .done before (')' :: rest) :=
      blanks_append only (stops_cons rfl)
    have list : separated comma Argument.part (')' :: rest) = .done [] (')' :: rest) :=
      separated_eq_nil_iff.mpr ⟨rfl, Argument.part_refused (stops_cons rfl)⟩
    have second : blanks (')' :: rest) = .done [] (')' :: rest) := blanks_absent (stops_cons rfl)
    rw [List.cons_append, List.append_assoc]
    exact argumentsPart_of_parts first list second
  | @list before list behind _ onlyBefore form onlyBehind =>
    have follows : Stops Char.isAlphanum (behind ++ ')' :: rest) :=
      stops_blanks_append onlyBehind not_isAlphanum_of_isBlank (stops_cons rfl)
    have items := arguments_complete form follows
      (comma_refused onlyBehind (stops_cons rfl) closes)
    have second : blanks (behind ++ ')' :: rest) = .done behind (')' :: rest) :=
      blanks_append onlyBehind (stops_cons rfl)
    rw [List.cons_append, List.append_assoc, List.append_assoc, List.append_assoc]
    exact argumentsPart_of_parts (blanks_append onlyBefore (stops_isBlank_of_list form)) items
      second

end Dataflow.Assembly
