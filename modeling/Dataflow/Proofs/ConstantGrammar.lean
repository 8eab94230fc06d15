import Dataflow.Proofs.Parsing

set_option autoImplicit false

namespace Dataflow.Assembly

open Numeric Text Text.Parser Grammar

variable {text rest : List Char}

theorem takeDigits_eq_iff {digits : List Char} :
    Decimal.takeDigits text = (digits, rest) ↔
      text = digits ++ rest ∧ Only Char.isDigit digits ∧ Stops Char.isDigit rest := by
  rw [← many_eq_done_iff]
  unfold Decimal.takeDigits many
  constructor <;> rintro ⟨⟩ <;> rfl

/-- The characters that can continue digits with a point. -/
def continuesPoint (c : Char) : Bool := c.isDigit || c = '.'

def continuesDecimal (c : Char) : Bool := continuesPoint c || c = 'e' || c = 'E'

theorem stops_isDigit_of_continuesPoint (stops : Stops continuesPoint text) :
    Stops Char.isDigit text := by
  apply stops.mono
  intro c digit
  rw [continuesPoint, digit, Bool.true_or]

theorem stops_continuesPoint_of_continuesDecimal (stops : Stops continuesDecimal text) :
    Stops continuesPoint text := by
  apply stops.mono
  intro c continues
  rw [continuesDecimal, continues, Bool.true_or, Bool.true_or]

theorem point_of_takePoint {whole fraction : List Char}
    (taken : Decimal.takePoint text = (whole, fraction, rest))
    (present : (whole.isEmpty && fraction.isEmpty) = false) :
    ∃ point, text = point ++ rest ∧ PointForm point (whole ++ fraction) fraction.length := by
  rcases front : Decimal.takeDigits text with ⟨digits, behind⟩
  obtain ⟨rfl, onlyWhole, -⟩ := takeDigits_eq_iff.mp front
  unfold Decimal.takePoint at taken
  rw [front] at taken
  dsimp only at taken
  split at taken
  · rename_i more
    rcases back : Decimal.takeDigits more with ⟨places, last⟩
    obtain ⟨rfl, onlyFraction, -⟩ := takeDigits_eq_iff.mp back
    rw [back] at taken
    cases taken
    cases whole with
    | nil =>
      refine ⟨'.' :: places, rfl, .fraction ⟨?_, onlyFraction⟩⟩
      rintro rfl
      cases present
    | cons digit whole =>
      refine ⟨digit :: whole ++ '.' :: places, by simp, .point ⟨?_, onlyWhole⟩ onlyFraction⟩
      exact List.cons_ne_nil digit whole
  · cases taken
    refine ⟨whole, rfl, ?_⟩
    rw [List.append_nil]
    refine .whole ⟨?_, onlyWhole⟩
    rintro rfl
    cases present

theorem takePoint_of_whole {digits : List Char} (only : Only Char.isDigit digits)
    (stops : Stops continuesPoint rest) :
    Decimal.takePoint (digits ++ rest) = (digits, [], rest) := by
  have taken : Decimal.takeDigits (digits ++ rest) = (digits, rest) :=
    takeDigits_eq_iff.mpr ⟨rfl, only, stops_isDigit_of_continuesPoint stops⟩
  unfold Decimal.takePoint
  rw [taken]
  dsimp only
  split
  · cases stops '.' rfl
  · rfl

theorem takePoint_of_fraction {digits fraction : List Char} (only : Only Char.isDigit digits)
    (onlyFraction : Only Char.isDigit fraction) (stops : Stops continuesPoint rest) :
    Decimal.takePoint (digits ++ '.' :: (fraction ++ rest)) = (digits, fraction, rest) := by
  have taken : Decimal.takeDigits (digits ++ '.' :: (fraction ++ rest)) =
      (digits, '.' :: (fraction ++ rest)) :=
    takeDigits_eq_iff.mpr ⟨rfl, only, stops_cons rfl⟩
  have behind : Decimal.takeDigits (fraction ++ rest) = (fraction, rest) :=
    takeDigits_eq_iff.mpr ⟨rfl, onlyFraction, stops_isDigit_of_continuesPoint stops⟩
  simp only [Decimal.takePoint, taken, behind]

theorem takePoint_of_point {point digits : List Char} {places : Nat}
    (form : PointForm point digits places) (stops : Stops continuesPoint rest) :
    ∃ whole fraction, Decimal.takePoint (point ++ rest) = (whole, fraction, rest) ∧
      (whole.isEmpty && fraction.isEmpty) = false ∧ digits = whole ++ fraction ∧
      places = fraction.length := by
  cases form with
  | whole digits =>
    exact ⟨_, [], takePoint_of_whole digits.2 stops, by simp [digits.1], by simp, rfl⟩
  | @point digits fraction some only =>
    rw [List.append_assoc, List.cons_append]
    exact ⟨digits, fraction, takePoint_of_fraction some.2 only stops, by simp [some.1], rfl, rfl⟩
  | fraction some =>
    have nothing : Only Char.isDigit [] := List.forall_mem_nil _
    exact ⟨[], digits, takePoint_of_fraction nothing some.2 stops, by simp [some.1], rfl, rfl⟩

def isSign (c : Char) : Bool := c = '+' || c = '-'

theorem isSign_of_continuesPoint {c : Char} (continues : continuesPoint c = true) :
    isSign c = false := by
  apply Bool.eq_false_iff.mpr
  intro signed
  rcases Bool.or_eq_true_iff.mp signed with plus | minus
  · rw [of_decide_eq_true plus] at continues
    cases continues
  · rw [of_decide_eq_true minus] at continues
    cases continues

theorem sign_of_takeSign {negative : Bool} (taken : Decimal.takeSign text = (negative, rest)) :
    ∃ sign, text = sign ++ rest ∧ SignForm sign negative := by
  unfold Decimal.takeSign at taken
  split at taken <;> cases taken
  · exact ⟨['-'], rfl, .minus⟩
  · exact ⟨['+'], rfl, .plus⟩
  · exact ⟨[], rfl, .none⟩

theorem takeSign_of_sign {sign : List Char} {negative : Bool} (form : SignForm sign negative)
    (stops : Stops isSign rest) : Decimal.takeSign (sign ++ rest) = (negative, rest) := by
  cases form with
  | none =>
    unfold Decimal.takeSign
    rw [List.nil_append]
    split
    · cases stops '-' rfl
    · cases stops '+' rfl
    · rfl
  | plus => rfl
  | minus => rfl

theorem exponent_of_takeExponent? {exponent : Int}
    (taken : Decimal.takeExponent? text = some (exponent, rest)) :
    ∃ front, text = front ++ rest ∧ ExponentForm front exponent := by
  cases text with
  | nil =>
    cases taken
    exact ⟨[], rfl, .none⟩
  | cons mark more =>
    unfold Decimal.takeExponent? at taken
    dsimp only at taken
    split at taken
    · rename_i isMark
      rcases signed : Decimal.takeSign more with ⟨negative, behind⟩
      obtain ⟨sign, rfl, signForm⟩ := sign_of_takeSign signed
      rcases back : Decimal.takeDigits behind with ⟨digits, last⟩
      obtain ⟨rfl, only, -⟩ := takeDigits_eq_iff.mp back
      rw [signed] at taken
      dsimp only at taken
      rw [back] at taken
      dsimp only at taken
      split at taken
      · cases taken
      · rename_i present
        cases taken
        refine ⟨mark :: (sign ++ digits), by simp, .some isMark signForm ⟨?_, only⟩⟩
        rintro rfl
        exact present rfl
    · cases taken
      exact ⟨[], rfl, .none⟩

theorem stops_isSign_of_digits {digits : List Char} (some : SomeOf Char.isDigit digits) :
    Stops isSign (digits ++ rest) := by
  obtain ⟨present, only⟩ := some
  cases digits with
  | nil => exact absurd rfl present
  | cons digit digits =>
    have isDigit := only digit List.mem_cons_self
    exact stops_cons (isSign_of_continuesPoint (by rw [continuesPoint, isDigit, Bool.true_or]))

theorem takeExponent?_of_exponent {front : List Char} {exponent : Int}
    (form : ExponentForm front exponent) (stops : Stops continuesDecimal rest) :
    Decimal.takeExponent? (front ++ rest) = some (exponent, rest) := by
  cases form with
  | none =>
    cases rest with
    | nil => rfl
    | cons c rest =>
      have noMark : ¬ (c = 'e' ∨ c = 'E') := by
        rintro (rfl | rfl)
        · cases stops 'e' rfl
        · cases stops 'E' rfl
      simp only [List.nil_append, Decimal.takeExponent?, noMark, if_false]
  | @some mark sign digits negative isMark signForm some =>
    have signed : Decimal.takeSign (sign ++ (digits ++ rest)) = (negative, digits ++ rest) :=
      takeSign_of_sign signForm (stops_isSign_of_digits some)
    have behind : Decimal.takeDigits (digits ++ rest) = (digits, rest) := by
      have stopsPoint := stops_continuesPoint_of_continuesDecimal stops
      exact takeDigits_eq_iff.mpr ⟨rfl, some.2, stops_isDigit_of_continuesPoint stopsPoint⟩
    have present : digits.isEmpty = false := by
      simp [some.1]
    rw [List.cons_append, List.append_assoc]
    simp only [Decimal.takeExponent?, isMark, if_true, signed, behind, present,
      Bool.false_eq_true, if_false]

inductive DecimalForm : List Char → Decimal → Prop
  | mk {point exponentText digits : List Char} {places : Nat} {exponent : Int} :
      PointForm point digits places → ExponentForm exponentText exponent →
      DecimalForm (point ++ exponentText) ⟨Decimal.ofDigits digits, exponent - places⟩

theorem DecimalForm.constant {sign : List Char} {negative : Bool} {d : Decimal}
    (form : DecimalForm text d) (signForm : SignForm sign negative) :
    ConstantForm (sign ++ text) (.ofDecimal negative d) := by
  cases form with
  | mk pointForm exponentForm =>
    rw [← List.append_assoc]
    exact .decimal signForm pointForm exponentForm

theorem DecimalForm.head {d : Decimal} (form : DecimalForm text d) :
    ∃ c more, text = c :: more ∧ continuesPoint c = true := by
  have begins {point digits : List Char} {places : Nat} (form : PointForm point digits places) :
      ∃ c more, point = c :: more ∧ continuesPoint c = true := by
    have ofDigits {digits : List Char} (some : SomeOf Char.isDigit digits) :
        ∃ c more, digits = c :: more ∧ continuesPoint c = true := by
      obtain ⟨c, more, rfl⟩ := List.exists_cons_of_ne_nil some.1
      exact ⟨c, more, rfl, by rw [continuesPoint, some.2 c List.mem_cons_self, Bool.true_or]⟩
    cases form with
    | whole some => exact ofDigits some
    | point some =>
      obtain ⟨c, more, rfl, continues⟩ := ofDigits some
      exact ⟨c, _, rfl, continues⟩
    | fraction => exact ⟨'.', _, rfl, rfl⟩
  cases form with
  | mk pointForm exponentForm =>
    obtain ⟨c, more, rfl, continues⟩ := begins pointForm
    exact ⟨c, _, rfl, continues⟩

theorem decimalPart_sound {d : Decimal} (read : decimalPart text = .done d rest) :
    ∃ front, text = front ++ rest ∧ DecimalForm front d := by
  rcases taken : Decimal.takePoint text with ⟨whole, fraction, behind⟩
  unfold decimalPart at read
  rw [taken] at read
  dsimp only at read
  split at read
  · cases read
  · rename_i present
    split at read
    · rename_i exponent last tail
      cases read
      obtain ⟨point, rfl, pointForm⟩ := point_of_takePoint taken (Bool.eq_false_iff.mpr present)
      obtain ⟨exponentText, rfl, exponentForm⟩ := exponent_of_takeExponent? tail
      exact ⟨point ++ exponentText, by simp, .mk pointForm exponentForm⟩
    · cases read

theorem decimalPart_complete {front : List Char} {d : Decimal} (form : DecimalForm front d)
    (stops : Stops continuesDecimal rest) : decimalPart (front ++ rest) = .done d rest := by
  cases form with
  | @mk point exponentText digits places exponent pointForm exponentForm =>
    have behind : Stops continuesPoint (exponentText ++ rest) := by
      cases exponentForm with
      | none => exact stops_continuesPoint_of_continuesDecimal stops
      | some isMark => rcases isMark with rfl | rfl <;> exact stops_cons rfl
    obtain ⟨whole, fraction, taken, present, rfl, rfl⟩ := takePoint_of_point pointForm behind
    have tail := takeExponent?_of_exponent exponentForm stops
    rw [List.append_assoc]
    simp only [decimalPart, taken, present, Bool.false_eq_true, if_false, tail]

theorem numeralPart_sound {value : Binary64} (read : numeralPart text = .done value rest) :
    ∃ front, text = front ++ rest ∧ ConstantForm front value := by
  obtain ⟨negative, behind, signed, last⟩ := bind_eq_done_iff.mp read
  obtain ⟨d, tail, decimal, result⟩ := bind_eq_done_iff.mp last
  cases result
  cases taken : Decimal.takeSign text with
  | mk minus more =>
    simp only [signPart, taken] at signed
    cases signed
    obtain ⟨sign, rfl, signForm⟩ := sign_of_takeSign taken
    obtain ⟨front, rfl, form⟩ := decimalPart_sound decimal
    exact ⟨sign ++ front, by simp, form.constant signForm⟩

theorem constantPart_sound {value : Binary64} (read : constantPart text = .done value rest) :
    ∃ front, text = front ++ rest ∧ ConstantForm front value := by
  have named {name : String} {value given : Binary64}
      (read : namedPart name given text = .done value rest) :
      text = name.toList ++ rest ∧ value = given := by
    obtain ⟨_, behind, letters, result⟩ := bind_eq_done_iff.mp read
    cases result
    exact ⟨word_eq_done_iff.mp letters, rfl⟩
  rcases orElse_eq_done_iff.mp read with nan | ⟨-, read⟩
  · obtain ⟨rfl, rfl⟩ := named nan
    exact ⟨_, rfl, .nan⟩
  rcases orElse_eq_done_iff.mp read with infinity | ⟨-, read⟩
  · obtain ⟨rfl, rfl⟩ := named infinity
    exact ⟨_, rfl, .infinity⟩
  rcases orElse_eq_done_iff.mp read with infinity | ⟨-, read⟩
  · obtain ⟨rfl, rfl⟩ := named infinity
    exact ⟨_, rfl, .negativeInfinity⟩
  exact numeralPart_sound read

theorem namedPart_refused {name : String} {value : Binary64}
    (other : ∀ behind, text ≠ name.toList ++ behind) : namedPart name value text = .refused :=
  refused_of_bind (word_refused other)

theorem namedPart_done {name : String} {value : Binary64} :
    namedPart name value (name.toList ++ rest) = .done value rest :=
  bind_eq_done_iff.mpr ⟨(), rest, word_eq_done_iff.mpr rfl, rfl⟩

theorem numeralPart_complete {sign front : List Char} {negative : Bool} {d : Decimal}
    (signForm : SignForm sign negative) (form : DecimalForm front d)
    (stops : Stops continuesDecimal rest) :
    numeralPart (sign ++ (front ++ rest)) = .done (.ofDecimal negative d) rest := by
  have noSign : Stops isSign (front ++ rest) := by
    obtain ⟨c, more, rfl, continues⟩ := form.head
    exact stops_cons (isSign_of_continuesPoint continues)
  refine bind_eq_done_iff.mpr ⟨negative, front ++ rest, ?_, ?_⟩
  · simp only [signPart, takeSign_of_sign signForm noSign]
  · exact bind_eq_done_iff.mpr ⟨d, rest, decimalPart_complete form stops, rfl⟩

/-- A decimal is none of the names of other constants. -/
theorem named_ne_decimal {sign front name : List Char} {negative : Bool} {d : Decimal}
    (signForm : SignForm sign negative) (form : DecimalForm front d) {c : Char}
    {more : List Char} (shape : name = c :: more ∨ name = '-' :: c :: more)
    (outside : continuesPoint c = false) (noSign : isSign c = false) (behind : List Char) :
    sign ++ (front ++ rest) ≠ name ++ behind := by
  obtain ⟨first, tail, rfl, continues⟩ := form.head
  intro same
  have different : first ≠ c := by
    rintro rfl
    rw [outside] at continues
    cases continues
  have noMinus : first ≠ '-' := by
    rintro rfl
    cases continues
  cases signForm <;> rcases shape with rfl | rfl <;>
    simp only [List.nil_append, List.cons_append, List.cons.injEq] at same
  · exact different same.1
  · exact noMinus same.1
  · rw [← same.1] at noSign
    cases noSign
  · cases same.1
  · rw [← same.1] at noSign
    cases noSign
  · exact different same.2.1

theorem constantPart_complete {front : List Char} {value : Binary64}
    (form : ConstantForm front value) (stops : Stops continuesDecimal rest) :
    constantPart (front ++ rest) = .done value rest := by
  cases form with
  | nan => exact orElse_of_done namedPart_done
  | infinity =>
    rw [constantPart, orElse_of_refused (namedPart_refused (by rintro behind ⟨⟩))]
    exact orElse_of_done namedPart_done
  | negativeInfinity =>
    rw [constantPart, orElse_of_refused (namedPart_refused (by rintro behind ⟨⟩)),
      orElse_of_refused (namedPart_refused (by rintro behind ⟨⟩))]
    exact orElse_of_done namedPart_done
  | @decimal sign point exponentText digits negative places exponent signForm pointForm
      exponentForm =>
    have form := DecimalForm.mk pointForm exponentForm
    have other {name : String} {c : Char} {more : List Char}
        (shape : name.toList = c :: more ∨ name.toList = '-' :: c :: more)
        (outside : continuesPoint c = false) (noSign : isSign c = false) (given : Binary64) :
        namedPart name given (sign ++ (point ++ exponentText ++ rest)) = .refused :=
      namedPart_refused (named_ne_decimal signForm form shape outside noSign)
    rw [List.append_assoc sign, List.append_assoc sign, constantPart,
      orElse_of_refused (other (.inl rfl) (by decide) (by decide) _),
      orElse_of_refused (other (.inl rfl) (by decide) (by decide) _),
      orElse_of_refused (other (.inr rfl) (by decide) (by decide) _)]
    exact numeralPart_complete signForm form stops

end Dataflow.Assembly
