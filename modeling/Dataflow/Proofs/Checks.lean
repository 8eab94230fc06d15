set_option autoImplicit false

namespace Dataflow

variable {ε α β : Type}

theorem bind_eq_ok_iff {first : Except ε α} {next : α → Except ε β} {result : β} :
    first >>= next = .ok result ↔ ∃ value, first = .ok value ∧ next value = .ok result := by
  cases first <;> simp [bind, Except.bind]

theorem bind_eq_error_iff {first : Except ε α} {next : α → Except ε β} {cause : ε} :
    first >>= next = .error cause ↔
      first = .error cause ∨ ∃ value, first = .ok value ∧ next value = .error cause := by
  cases first <;> simp [bind, Except.bind]

theorem mapError_eq_ok_iff {ε' : Type} {rename : ε → ε'} {answer : Except ε α} {value : α} :
    answer.mapError rename = .ok value ↔ answer = .ok value := by
  cases answer with
  | error cause => exact ⟨nofun, nofun⟩
  | ok result =>
    change Except.ok result = .ok value ↔ _
    simp only [Except.ok.injEq]

theorem map_eq_ok_iff {answer : Except ε α} {f : α → β} {result : β} :
    answer.map f = .ok result ↔ ∃ value, answer = .ok value ∧ f value = result := by
  cases answer <;> simp [Except.map]

theorem toOption_eq_some_iff {answer : Except ε α} {value : α} :
    answer.toOption = some value ↔ answer = .ok value := by
  cases answer with
  | error cause => exact ⟨nofun, nofun⟩
  | ok result =>
    change some result = some value ↔ _
    simp only [Option.some.injEq, Except.ok.injEq]

theorem foldlM_cons_eq_ok_iff {step : β → α → Except ε β} {item : α} {rest : List α}
    {start result : β} :
    (item :: rest).foldlM step start = .ok result ↔
      ∃ next, step start item = .ok next ∧ rest.foldlM step next = .ok result := by
  rw [List.foldlM_cons, bind_eq_ok_iff]

theorem mapM_eq_ok_iff {inputs : List α} {outputs : List β} {f : α → Except ε β}
    {accepts : α → Prop} {g : α → β}
    (one : ∀ input output, f input = .ok output ↔ accepts input ∧ output = g input) :
    inputs.mapM f = .ok outputs ↔ (∀ input ∈ inputs, accepts input) ∧ outputs = inputs.map g := by
  induction inputs generalizing outputs with
  | nil =>
    simp only [List.mapM_nil, pure, Except.pure, Except.ok.injEq, List.map_nil, List.not_mem_nil,
      false_implies, implies_true, true_and]
    exact eq_comm
  | cons input rest ih =>
    simp only [List.mapM_cons, bind_eq_ok_iff, one, ih, List.forall_mem_cons, List.map_cons, pure,
      Except.pure, Except.ok.injEq]
    constructor
    · rintro ⟨_, ⟨accepted, rfl⟩, _, ⟨all, rfl⟩, rfl⟩
      exact ⟨⟨accepted, all⟩, rfl⟩
    · rintro ⟨⟨accepted, all⟩, rfl⟩
      exact ⟨_, ⟨accepted, rfl⟩, _, ⟨all, rfl⟩, rfl⟩

/-- The first item of a list with a property, and its place in the list. -/
structure FirstWith (property : α → Prop) (items : List α) (place : Nat) (item : α) : Prop where
  found : items[place]? = some item
  holds : property item
  earlier : ∀ before < place, ∀ other, items[before]? = some other → ¬ property other

variable {property : α → Prop} {items : List α} {place : Nat} {item : α}

theorem FirstWith.head (holds : property item) : FirstWith property (item :: items) 0 item :=
  ⟨rfl, holds, fun _ below => absurd below (Nat.not_lt_zero _)⟩

theorem FirstWith.cons {head : α} (first : FirstWith property items place item)
    (without : ¬ property head) : FirstWith property (head :: items) (place + 1) item := by
  refine ⟨first.found, first.holds, fun before below other isOther => ?_⟩
  cases before with
  | zero =>
    cases isOther
    exact without
  | succ before => exact first.earlier before (Nat.lt_of_succ_lt_succ below) other isOther

theorem firstWith_cons_iff {head : α} : FirstWith property (head :: items) place item ↔
    (place = 0 ∧ item = head ∧ property head) ∨
      ∃ behind, place = behind + 1 ∧ ¬ property head ∧ FirstWith property items behind item := by
  constructor
  · intro first
    cases place with
    | zero =>
      obtain rfl : head = item := Option.some.inj first.found
      exact .inl ⟨rfl, rfl, first.holds⟩
    | succ behind =>
      have without := first.earlier 0 (Nat.succ_pos behind) head rfl
      refine .inr ⟨behind, rfl, without, first.found, first.holds, fun before below => ?_⟩
      exact first.earlier (before + 1) (Nat.succ_lt_succ below)
  · rintro (⟨rfl, rfl, holds⟩ | ⟨behind, rfl, without, first⟩)
    · exact .head holds
    · exact first.cons without

theorem exists_firstWith (some : ∃ item ∈ items, property item) :
    ∃ place item, FirstWith property items place item := by
  induction items with
  | nil =>
    obtain ⟨item, member, -⟩ := some
    cases member
  | cons head items ih =>
    by_cases holds : property head
    · exact ⟨0, head, .head holds⟩
    · obtain ⟨item, member, behind⟩ := some
      rcases List.mem_cons.mp member with rfl | member
      · exact absurd behind holds
      · obtain ⟨place, item, first⟩ := ih ⟨item, member, behind⟩
        exact ⟨place + 1, item, first.cons holds⟩

theorem FirstWith.congr {other : α → Prop} (same : ∀ item ∈ items, property item ↔ other item)
    (first : FirstWith property items place item) : FirstWith other items place item where
  found := first.found
  holds := (same item (List.mem_of_getElem? first.found)).mp first.holds
  earlier before below between isBetween has :=
    first.earlier before below between isBetween
      ((same between (List.mem_of_getElem? isBetween)).mpr has)

/-- The first of numbered items is the first of the items, with its number. -/
theorem firstWith_zipIdx_iff {start number : Nat} :
    FirstWith (fun numbered => property numbered.1) (items.zipIdx start) place (item, number) ↔
      number = start + place ∧ FirstWith property items place item := by
  have numbered (position : Nat) (other : α) (given : Nat) :
      (items.zipIdx start)[position]? = some (other, given) ↔
        given = start + position ∧ items[position]? = some other := by
    rw [List.getElem?_zipIdx, Option.map_eq_some_iff]
    constructor
    · rintro ⟨_, isOther, same⟩
      cases same
      exact ⟨rfl, isOther⟩
    · rintro ⟨rfl, isOther⟩
      exact ⟨other, isOther, rfl⟩
  constructor
  · intro first
    obtain ⟨counted, found⟩ := (numbered place item number).mp first.found
    refine ⟨counted, found, first.holds, fun before below other isOther => ?_⟩
    exact first.earlier before below _ ((numbered before other _).mpr ⟨rfl, isOther⟩)
  · rintro ⟨counted, first⟩
    refine ⟨(numbered place item number).mpr ⟨counted, first.found⟩, first.holds, ?_⟩
    rintro before below ⟨other, given⟩ isOther
    exact first.earlier before below other ((numbered before other given).mp isOther).2

theorem find?_eq_some_iff_firstWith {test : α → Bool} :
    items.find? test = some item ↔
      ∃ place, FirstWith (fun item => test item = true) items place item := by
  rw [List.find?_eq_some_iff_getElem]
  constructor
  · rintro ⟨holds, place, inside, rfl, earlier⟩
    refine ⟨place, List.getElem?_eq_getElem inside, holds, fun before below other isOther => ?_⟩
    obtain ⟨within, rfl⟩ := List.getElem?_eq_some_iff.mp isOther
    simpa using earlier before below
  · rintro ⟨place, first⟩
    obtain ⟨inside, same⟩ := List.getElem?_eq_some_iff.mp first.found
    refine ⟨first.holds, place, inside, same, fun before below => ?_⟩
    have present : before < items.length := Nat.lt_trans below inside
    simpa using first.earlier before below _ (List.getElem?_eq_getElem present)

/-- A list stops at the first element that a fallible function refuses. -/
theorem mapM_eq_error_iff {inputs : List α} {f : α → Except ε β} {cause : ε} :
    inputs.mapM f = .error cause ↔
      ∃ place input, FirstWith (fun input => ∃ cause, f input = .error cause) inputs place input ∧
        f input = .error cause := by
  induction inputs with
  | nil =>
    constructor
    · intro refused
      cases refused
    · rintro ⟨place, input, first, -⟩
      cases first.found
  | cons input inputs ih =>
    rw [List.mapM_cons]
    cases outcome : f input with
    | error fault =>
      constructor
      · intro refused
        cases refused
        exact ⟨0, input, .head ⟨_, outcome⟩, outcome⟩
      · rintro ⟨place, other, first, refused⟩
        rcases firstWith_cons_iff.mp first with ⟨-, rfl, -⟩ | ⟨-, -, passes, -⟩
        · rw [outcome] at refused
          exact congrArg Except.error (Except.error.inj refused)
        · exact absurd ⟨fault, outcome⟩ passes
    | ok output =>
      have passes : ¬ ∃ cause, f input = .error cause := by
        rw [outcome]
        exact nofun
      have rest : (inputs.mapM f >>= fun outputs => pure (output :: outputs)) = .error cause ↔
          inputs.mapM f = .error cause := by
        simp only [bind_eq_error_iff, pure, Except.pure, reduceCtorEq, and_false, exists_false,
          or_false]
      refine rest.trans (ih.trans ⟨?_, ?_⟩)
      · rintro ⟨place, other, first, refused⟩
        exact ⟨place + 1, other, first.cons passes, refused⟩
      · rintro ⟨place, other, first, refused⟩
        rcases firstWith_cons_iff.mp first with ⟨-, -, fails⟩ | ⟨behind, -, -, later⟩
        · exact absurd fails passes
        · exact ⟨behind, other, later, refused⟩

end Dataflow
