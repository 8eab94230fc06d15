import Dataflow.Assembly.Grammar
import Dataflow.Text.Parser

set_option autoImplicit false

namespace Dataflow.Text.Parser

open Assembly.Grammar (Only SomeOf)

variable {α β : Type} {text rest : List Char} {inClass : Char → Bool}

/-- A text that does not go on with a character of a class. -/
def Stops (inClass : Char → Bool) (text : List Char) : Prop :=
  ∀ c ∈ text.head?, inClass c = false

instance (inClass : Char → Bool) (text : List Char) : Decidable (Only inClass text) :=
  List.decidableBAll (fun c => inClass c = true) text

theorem only_mono {other : Char → Bool} (only : Only inClass text)
    (wider : ∀ c, inClass c = true → other c = true) : Only other text :=
  fun c member => wider c (only c member)

theorem only_append {front : List Char} (first : Only inClass front) (second : Only inClass rest) :
    Only inClass (front ++ rest) := by
  intro c member
  rcases List.mem_append.mp member with inFront | inRest
  · exact first c inFront
  · exact second c inRest

theorem stops_nil : Stops inClass [] := by
  intro c member
  cases member

theorem stops_cons {c : Char} (outside : inClass c = false) : Stops inClass (c :: rest) := by
  intro first same
  obtain rfl : c = first := Option.some.inj same
  exact outside

theorem Stops.mono {other : Char → Bool} (stops : Stops inClass text)
    (wider : ∀ c, other c = true → inClass c = true) : Stops other text := by
  intro c first
  have outside := stops c first
  cases inside : other c with
  | false => rfl
  | true =>
    rw [wider c inside] at outside
    cases outside

theorem stops_dropWhile (inClass : Char → Bool) (text : List Char) :
    Stops inClass (text.dropWhile inClass) := by
  intro c first
  induction text with
  | nil => cases first
  | cons d text ih =>
    rw [List.dropWhile_cons] at first
    cases inside : inClass d with
    | true => exact ih (by simpa only [inside, if_true] using first)
    | false =>
      simp only [inside, Bool.false_eq_true, if_false, List.head?_cons,
        Option.mem_some_iff] at first
      exact first ▸ inside

/-- The longest front of a class is determined by what follows it. -/
theorem takeWhile_append {front : List Char} (only : Only inClass front)
    (stops : Stops inClass rest) : (front ++ rest).takeWhile inClass = front := by
  induction front with
  | nil =>
    cases rest with
    | nil => rfl
    | cons c rest => simp [stops c rfl]
  | cons c front ih =>
    simp [only c List.mem_cons_self, ih fun d member => only d (List.mem_cons_of_mem c member)]

theorem dropWhile_append {front : List Char} (only : Only inClass front)
    (stops : Stops inClass rest) : (front ++ rest).dropWhile inClass = rest := by
  have whole := List.takeWhile_append_dropWhile (p := inClass) (l := front ++ rest)
  rw [takeWhile_append only stops] at whole
  exact List.append_cancel_left whole

theorem many_eq_done_iff {front : List Char} :
    many inClass text = .done front rest ↔
      text = front ++ rest ∧ Only inClass front ∧ Stops inClass rest := by
  constructor
  · intro read
    obtain ⟨rfl, rfl⟩ := Reading.done.inj read
    exact ⟨List.takeWhile_append_dropWhile.symm, List.all_eq_true.mp List.all_takeWhile,
      stops_dropWhile inClass text⟩
  · rintro ⟨rfl, only, stops⟩
    rw [many, takeWhile_append only stops, dropWhile_append only stops]

theorem someOf_eq_done_iff {front : List Char} :
    someOf inClass text = .done front rest ↔
      text = front ++ rest ∧ SomeOf inClass front ∧ Stops inClass rest := by
  simp only [someOf, filterMap_eq_done_iff, many_eq_done_iff]
  constructor
  · rintro ⟨characters, ⟨rfl, only, stops⟩, present⟩
    split at present
    · cases present
    · rename_i nonempty
      cases present
      exact ⟨rfl, ⟨by simpa using nonempty, only⟩, stops⟩
  · rintro ⟨rfl, ⟨nonempty, only⟩, stops⟩
    exact ⟨front, ⟨rfl, only, stops⟩, by simp [nonempty]⟩

theorem char_eq_done_iff {mark : Char} : char mark text = .done () rest ↔ text = mark :: rest := by
  cases text with
  | nil => simp [char]
  | cons c text =>
    by_cases same : c = mark <;> simp [char, same]

theorem word_eq_done_iff {letters : List Char} :
    word letters text = .done () rest ↔ text = letters ++ rest := by
  unfold word
  split
  · rename_i front
    obtain ⟨behind, rfl⟩ := List.isPrefixOf_iff_prefix.mp front
    simp
  · rename_i absent
    simp only [reduceCtorEq, false_iff]
    rintro rfl
    exact absent (List.isPrefixOf_iff_prefix.mpr (List.prefix_append letters rest))

/-! Which choice is taken, and which parts are absent. -/

theorem refused_of_bind {first : Parser α} {next : α → Parser β}
    (refuses : first text = .refused) : (first >>= next) text = .refused := by
  change first.bind next text = _
  rw [Parser.bind, refuses]

theorem refused_of_next {first : Parser α} {next : α → Parser β} {value : α} {behind : List Char}
    (reads : first text = .done value behind) (refuses : next value behind = .refused) :
    (first >>= next) text = .refused := by
  change first.bind next text = _
  rw [Parser.bind, reads]
  exact refuses

theorem refused_of_filterMap {part : Parser α} {f : α → Option β}
    (refuses : part text = .refused) : part.filterMap f text = .refused :=
  refused_of_bind refuses

theorem orElse_of_refused {first second : Parser α} (refuses : first text = .refused) :
    first.orElse second text = second text := by
  rw [orElse, refuses]

theorem orElse_of_done {first second : Parser α} {value : α}
    (reads : first text = .done value rest) : first.orElse second text = .done value rest := by
  rw [orElse, reads]

theorem optional_of_done {part : Parser α} {value : α}
    (reads : part text = .done value rest) : part.optional text = .done (some value) rest :=
  optional_eq_done_iff.mpr (.inl ⟨value, rfl, reads⟩)

theorem optional_of_refused {part : Parser α} (refuses : part text = .refused) :
    part.optional text = .done none text :=
  optional_eq_done_iff.mpr (.inr ⟨rfl, rfl, refuses⟩)

theorem someOf_refused (stops : Stops inClass text) : someOf inClass text = .refused := by
  have none : many inClass text = .done [] text :=
    many_eq_done_iff.mpr ⟨rfl, List.forall_mem_nil _, stops⟩
  exact refused_of_next none rfl

theorem char_refused {mark : Char} (other : ∀ behind, text ≠ mark :: behind) :
    char mark text = .refused := by
  cases text with
  | nil => rfl
  | cons c text =>
    have different : c ≠ mark := fun same => other text (same ▸ rfl)
    simp [char, different]

theorem word_refused {letters : List Char} (other : ∀ behind, text ≠ letters ++ behind) :
    word letters text = .refused := by
  unfold word
  split
  · rename_i front
    obtain ⟨behind, same⟩ := List.isPrefixOf_iff_prefix.mp front
    exact absurd same.symm (other behind)
  · rfl

/-! Items between separators. -/

theorem map_eq_done_iff {f : α → β} {reading : Reading α} {result : β} :
    reading.map f = .done result rest ↔ ∃ value, reading = .done value rest ∧ f value = result := by
  cases reading with
  | done value behind =>
    simp only [Reading.map, Reading.done.injEq]
    constructor
    · rintro ⟨rfl, rfl⟩
      exact ⟨value, ⟨rfl, rfl⟩, rfl⟩
    · rintro ⟨_, ⟨rfl, rfl⟩, rfl⟩
      exact ⟨rfl, rfl⟩
  | refused => simp [Reading.map]
  | aborted => simp [Reading.map]

variable {separator : Parser Unit} {item : Parser α}

theorem furtherItems_eq_nil_iff : furtherItems separator item text = .done [] rest ↔
    rest = text ∧ (separator text = .refused ∨
      ∃ behind, separator text = .done () behind ∧ item behind = .refused) := by
  rw [furtherItems]
  cases separator text with
  | refused => simp [eq_comm]
  | aborted => simp
  | done _ behind =>
    cases read : item behind with
    | refused => simp [read, eq_comm]
    | aborted => simp [read]
    | done value last =>
      by_cases shorter : last.length < text.length <;> simp [read, shorter, map_eq_done_iff]

theorem furtherItems_eq_cons_iff {value : α} {others : List α} :
    furtherItems separator item text = .done (value :: others) rest ↔
      ∃ behind last, separator text = .done () behind ∧ item behind = .done value last ∧
        last.length < text.length ∧ furtherItems separator item last = .done others rest := by
  rw [furtherItems]
  cases separator text with
  | refused => simp
  | aborted => simp
  | done _ behind =>
    cases read : item behind with
    | refused => simp [read]
    | aborted => simp [read]
    | done found last =>
      by_cases shorter : last.length < text.length
      · simp only [read, shorter, if_true, map_eq_done_iff, List.cons.injEq]
        constructor
        · rintro ⟨_, more, rfl, rfl⟩
          exact ⟨behind, last, rfl, read, shorter, more⟩
        · rintro ⟨_, _, ⟨⟩, again, -, more⟩
          rw [read] at again
          cases again
          exact ⟨others, more, rfl, rfl⟩
      · simp only [read, shorter, if_false, reduceCtorEq, false_iff]
        rintro ⟨_, _, ⟨⟩, again, shorter', -⟩
        rw [read] at again
        cases again
        exact shorter shorter'

theorem separated_eq_nil_iff : separated separator item text = .done [] rest ↔
    rest = text ∧ item text = .refused := by
  unfold separated
  cases item text with
  | refused => simp [eq_comm]
  | aborted => simp
  | done value behind => simp [map_eq_done_iff]

theorem separated_eq_cons_iff {value : α} {others : List α} :
    separated separator item text = .done (value :: others) rest ↔
      ∃ behind, item text = .done value behind ∧
        furtherItems separator item behind = .done others rest := by
  unfold separated
  cases item text with
  | refused => simp
  | aborted => simp
  | done found behind =>
    simp only [map_eq_done_iff, List.cons.injEq, Reading.done.injEq]
    constructor
    · rintro ⟨_, more, rfl, rfl⟩
      exact ⟨behind, ⟨rfl, rfl⟩, more⟩
    · rintro ⟨_, ⟨rfl, rfl⟩, more⟩
      exact ⟨others, more, rfl, rfl⟩

end Dataflow.Text.Parser
