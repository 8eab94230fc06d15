import Dataflow.Proofs.Unwritten
import Mathlib.Data.Set.Basic

set_option autoImplicit false

namespace Dataflow

namespace Instruction

/-- The instruction, if it writes the slot of its line. -/
def writer? (instruction : Instruction) : Option Instruction :=
  if instruction.writesSlot then some instruction else none

def isPhi : Instruction → Bool
  | .dual .phi _ _ => true
  | _ => false

def inputFrom? : Instruction → Option Nat
  | .single .input _ _ _ source => some source.number
  | _ => none

def silenced : Instruction → Instruction
  | .dual .output _ _ => noop
  | instruction => instruction

theorem writer?_eq_some_iff {instruction writer : Instruction} :
    instruction.writer? = some writer ↔ instruction.writesSlot = true ∧ instruction = writer := by
  simp [writer?]

theorem writer?_eq_none_iff {instruction : Instruction} :
    instruction.writer? = none ↔ instruction.writesSlot = false := by
  simp [writer?]

/-- An output writes no slot, so nothing can stand in its place. -/
theorem writer?_silenced (instruction : Instruction) :
    instruction.silenced.writer? = instruction.writer? := by
  unfold silenced
  split <;> rfl

theorem comparison?_silenced (instruction : Instruction) :
    instruction.silenced.comparison? = instruction.comparison? := by
  unfold silenced
  split <;> rfl

end Instruction

/-- What is looked at in a state: some slots, some input ports, and maybe the status. -/
structure View where
  slots : Set Nat
  ports : Set Nat
  status : Prop

/-- Two states are the same as far as is looked. -/
structure State.AgreesOn (view : View) (x y : State) : Prop where
  slots : ∀ slot ∈ view.slots, x.slot slot = y.slot slot
  input : ∀ port ∈ view.ports, x.input.value port = y.input.value port
  status : view.status → x.status = y.status

/-- All that an instruction reads is looked at. -/
structure View.Covers (view : View) (instruction : Instruction) : Prop where
  slots : ∀ operand ∈ instruction.operands, operand.bank = .memory → operand.number ∈ view.slots
  ports : ∀ port, instruction.inputFrom? = some port → port ∈ view.ports
  status : instruction.isPhi = true → view.status

structure Line.Alike (view : View) (slot : Nat) (line other : Line) : Prop where
  writers : slot ∈ view.slots → line.instruction.writer? = other.instruction.writer?
  reads : slot ∈ view.slots → line.instruction.writesSlot = true → view.Covers line.instruction
  comparisons : view.status → line.instruction.comparison? = other.instruction.comparison?
  sources : view.status → ∀ mode source, line.instruction.comparison? = some (mode, source) →
    source ∈ view.slots

namespace State

variable {view : View} {x y : State} {config : Config}

/-- A line that writes its slot writes the same on states that agree on what it reads. -/
theorem AgreesOn.slot_interpret_own (agrees : AgreesOn view x y) (fits : x.Fits config)
    (otherFits : y.Fits config) {slot : Nat} (room : slot < config.memorySlots)
    (looked : slot ∈ view.slots) {line : Line} (typed : line.instruction.Typed)
    (covers : view.Covers line.instruction) :
    (line.interpret slot x).slot slot = (line.interpret slot y).slot slot := by
  have own (value : Binary64) : (x.store slot value).slot slot = value := by
    rw [slot_store _ _ _ _ (fits.memory ▸ room), if_pos rfl]
  have otherOwn (value : Binary64) : (y.store slot value).slot slot = value := by
    rw [slot_store _ _ _ _ (otherFits.memory ▸ room), if_pos rfl]
  have before : x.slot slot = y.slot slot := agrees.slots slot looked
  obtain ⟨instruction, constant⟩ := line
  have read (operand : Address) (named : operand ∈ instruction.operands)
      (memory : operand.bank = .memory) : x.slot operand.number = y.slot operand.number :=
    agrees.slots _ (covers.slots operand named memory)
  cases instruction with
  | invalid word => exact before
  | dual operation a b =>
    obtain ⟨aBank, bBank⟩ := typed
    have second := read b (by simp [Instruction.operands]) bBank
    cases operation with
    | output => exact before
    | div =>
      have first := read a (by simp [Instruction.operands]) aBank
      simp only [Line.interpret, DualOperation.interpret, first, second]
      split
      -- A skipped division leaves what was there, so the line reads its own slot too.
      · exact before
      · rw [own, otherOwn]
    | phi =>
      have first := read a (by simp [Instruction.operands]) aBank
      have status : x.status = y.status := agrees.status (covers.status rfl)
      simp only [Line.interpret, DualOperation.interpret, own, otherOwn, first, second, status]
    | add | sub | mult =>
      have first := read a (by simp [Instruction.operands]) aBank
      simp only [Line.interpret, DualOperation.interpret, own, otherOwn, first, second]
  | single operation mode unused immediate source =>
    cases operation with
    | noop => exact before
    | cmpz =>
      simp only [Line.interpret, SingleOperation.interpret]
      cases CompareMode.ofCode? mode <;> exact before
    | input =>
      have port := agrees.input source.number (covers.ports source.number rfl)
      simp only [Line.interpret, SingleOperation.interpret, own, otherOwn, port]
    | sqrt | copy =>
      have only := read source (by simp [Instruction.operands]) typed
      simp only [Line.interpret, SingleOperation.interpret, own, otherOwn, only]

/-- Lines that are alike keep two states in agreement. -/
theorem AgreesOn.interpret (agrees : AgreesOn view x y) (fits : x.Fits config)
    (otherFits : y.Fits config) {slot : Nat} (room : slot < config.memorySlots) {line other : Line}
    (typed : line.instruction.Typed) (alike : line.Alike view slot other) :
    AgreesOn view (line.interpret slot x) (other.interpret slot y) where
  slots shown looked := by
    by_cases same : shown = slot
    · subst same
      have writers := alike.writers looked
      cases silent : line.instruction.writesSlot with
      | false =>
        -- The other line may be a different one, but it does not write the slot either.
        rw [Instruction.writer?_eq_none_iff.mpr silent, eq_comm,
          Instruction.writer?_eq_none_iff] at writers
        rw [Line.slot_interpret_of_silent silent, Line.slot_interpret_of_silent writers]
        exact agrees.slots shown looked
      | true =>
        rw [Instruction.writer?_eq_some_iff.mpr ⟨silent, rfl⟩, eq_comm,
          Instruction.writer?_eq_some_iff] at writers
        have written := agrees.slot_interpret_own fits otherFits room looked typed
          (alike.reads looked silent)
        rw [written, Line.interpret, Line.interpret, writers.2]
    · rw [Line.slot_interpret_ne _ _ same, Line.slot_interpret_ne _ _ same]
      exact agrees.slots shown looked
  input port looked := by
    rw [Line.input_interpret, Line.input_interpret]
    exact agrees.input port looked
  status looked := by
    rw [Line.status_interpret, Line.status_interpret, ← alike.comparisons looked]
    cases compared : line.instruction.comparison? with
    | none => exact agrees.status looked
    | some comparison =>
      obtain ⟨mode, source⟩ := comparison
      exact congrArg mode.holds (agrees.slots source (alike.sources looked mode source compared))

end State

namespace Program

variable {p q : Program} {view : View} {x y : State} {config : Config}

/-- The lines of two programs are alike, slot by slot. -/
structure Alike (view : View) (p q : Program) : Prop where
  length : p.length = q.length
  lines : ∀ slot (line other : Line), p.lines[slot]? = some line → q.lines[slot]? = some other →
    line.Alike view slot other

theorem Alike.interpretTo (alike : p.Alike view q) (typed : p.Typed)
    (room : p.length ≤ config.memorySlots) (fits : x.Fits config) (otherFits : y.Fits config)
    (agrees : x.AgreesOn view y) {bound : Nat} (inside : bound ≤ p.lines.length) :
    (p.interpretTo x bound).AgreesOn view (q.interpretTo y bound) := by
  induction bound with
  | zero => exact agrees
  | succ slot ih =>
    have here : slot < p.lines.length := inside
    have there : slot < q.lines.length := Nat.lt_of_lt_of_eq here alike.length
    have pair := alike.lines slot _ _ (List.getElem?_eq_getElem here)
      (List.getElem?_eq_getElem there)
    rw [interpretTo_succ here, interpretTo_succ there]
    exact (ih (Nat.le_of_lt here)).interpret (fits_interpretTo fits (Nat.le_of_lt here))
      (fits_interpretTo otherFits (Nat.le_of_lt there)) (Nat.lt_of_lt_of_le here room)
      (typed _ (List.getElem_mem here)) pair

/-- Passes over programs that are alike keep two states in agreement. -/
theorem Alike.iterate (alike : p.Alike view q) (typed : p.Typed)
    (room : p.length ≤ config.memorySlots) (fits : x.Fits config) (otherFits : y.Fits config)
    (agrees : x.AgreesOn view y) (count : Nat) :
    (p.interpret^[count] x).AgreesOn view (q.interpret^[count] y) := by
  induction count generalizing x y with
  | zero => exact agrees
  | succ count ih =>
    -- Programs of one length end their passes at the same slot.
    have pass := alike.interpretTo typed room fits otherFits agrees (Nat.le_refl _)
    have length : p.lines.length = q.lines.length := alike.length
    rw [interpretTo_length, length, interpretTo_length] at pass
    exact ih (p.fits_interpret fits) (q.fits_interpret otherFits) pass

/-- Some line of a set of slots chooses by the status. -/
def SelectsIn (program : Program) (slots : Set Nat) : Prop :=
  ∃ slot ∈ slots, ∃ line, program.lines[slot]? = some line ∧ line.instruction.isPhi = true

/-- What a set of slots depends on: the slots, the ports that their lines read, and the status if
one of their lines chooses by it. -/
def slice (program : Program) (slots : Set Nat) : View where
  slots := slots
  ports := { port | ∃ slot ∈ slots, program.answer? Instruction.inputFrom? slot = some port }
  status := program.SelectsIn slots

/-- Two programs have the same instructions in a set of slots, and what these read is in the set.
If one of them chooses by the status, the programs also make the same comparisons, of slots in the
set. -/
structure SameSlice (p q : Program) (slots : Set Nat) : Prop where
  length : p.length = q.length
  lines : ∀ slot ∈ slots,
    p.lines[slot]?.map (·.instruction) = q.lines[slot]?.map (·.instruction)
  reads : ∀ slot ∈ slots, ∀ line, p.lines[slot]? = some line →
    line.instruction.writesSlot = true →
      ∀ operand ∈ line.instruction.operands, operand.bank = .memory → operand.number ∈ slots
  comparisons : p.SelectsIn slots →
    ∀ slot, p.answer? Instruction.comparison? slot = q.answer? Instruction.comparison? slot
  sources : p.SelectsIn slots → ∀ slot mode source,
    p.answer? Instruction.comparison? slot = some (mode, source) → source ∈ slots

theorem answer?_of_getElem? {α : Type} {program : Program} {slot : Nat} {line : Line}
    (found : program.lines[slot]? = some line) (ask : Instruction → Option α) :
    program.answer? ask slot = ask line.instruction := by
  rw [answer?, found, Option.bind_some]

theorem SameSlice.alike {slots : Set Nat} (same : p.SameSlice q slots) :
    p.Alike (p.slice slots) q where
  length := same.length
  lines slot line other found otherFound := by
    refine ⟨fun looked => ?_, fun looked writes => ⟨?_, fun port reads => ?_, fun phi => ?_⟩,
      fun selects => ?_, fun selects mode source => ?_⟩
    · have equal := same.lines slot looked
      rw [found, otherFound] at equal
      exact congrArg Instruction.writer? (Option.some.inj equal)
    · exact same.reads slot looked line found writes
    · exact ⟨slot, looked, (answer?_of_getElem? found _).trans reads⟩
    · exact ⟨slot, looked, line, found, phi⟩
    · rw [← answer?_of_getElem? found Instruction.comparison?,
        ← answer?_of_getElem? otherFound Instruction.comparison?]
      exact same.comparisons selects slot
    · rw [← answer?_of_getElem? found Instruction.comparison?]
      exact same.sources selects slot mode source

/-- The instructions of a program, with nothing in place of the outputs. -/
def silenced (program : Program) : List Instruction :=
  program.lines.map (·.instruction.silenced)

/-- What the memory and the status depend on: both, and the ports that some line reads. -/
def whole (program : Program) : View where
  slots := Set.univ
  ports := { port | ∃ slot, program.answer? Instruction.inputFrom? slot = some port }
  status := True

/-- Programs that differ in their outputs only are alike. -/
theorem alike_of_silenced (same : p.silenced = q.silenced) : p.Alike p.whole q where
  length := by simpa [silenced, length] using congrArg List.length same
  lines slot line other found otherFound := by
    have equal : line.instruction.silenced = other.instruction.silenced := by
      have placed := congrArg (·[slot]?) same
      simpa [silenced, found, otherFound] using placed
    refine ⟨fun _ => ?_, fun _ _ => ⟨fun _ _ _ => trivial, fun port reads => ⟨slot, ?_⟩,
      fun _ => trivial⟩, fun _ => ?_, fun _ _ _ _ => trivial⟩
    · rw [← Instruction.writer?_silenced, equal, Instruction.writer?_silenced]
    · rw [answer?_of_getElem? found, reads]
    · rw [← Instruction.comparison?_silenced, equal, Instruction.comparison?_silenced]

end Program

namespace Machine

variable {machine other : Machine} {p q : Program}

/-- The machine has loaded a program and may have gone on since: its state is any that has its
sizes. -/
structure Holds (machine : Machine) (program : Program) : Prop where
  sized : machine.Sized
  loaded : ∃ start loaded : Machine, start.Sized ∧ (load program).run start = (.ok (), loaded) ∧
    machine = { loaded with state := machine.state, cycles := machine.cycles }

theorem Step.holds {action : Action} {answer : Answer} {next : Machine}
    (step : machine.Step action answer next) (sized : machine.Sized)
    (holds : machine.cycle.isSome = true → machine.Holds machine.program)
    (present : next.cycle.isSome = true) : next.Holds next.program := by
  have nextSized : next.Sized := step.sized sized
  refine ⟨nextSized, ?_⟩
  cases step with
  | refused error => exact (holds present).loaded
  | idle asked => exact (holds present).loaded
  | @installed program cycle brought accepted =>
    exact ⟨machine, _, sized, run_load_eq_ok_iff.mpr ⟨cycle, accepted, rfl⟩, rfl⟩
  | @advanced count cycle asked _ _ | @crashed count cycle asked _ _ =>
    obtain ⟨start, loaded, startSized, accepted, same⟩ := (holds present).loaded
    exact ⟨start, loaded, startSized, accepted,
      congrArg (fun machine : Machine => { machine with
        state := (machine.advancedBy cycle count).state
        cycles := (machine.advancedBy cycle count).cycles }) same⟩
  | @written port value input named stored =>
    obtain ⟨start, loaded, startSized, accepted, same⟩ := (holds present).loaded
    exact ⟨start, loaded, startSized, accepted, congrArg (·.withInput input) same⟩

theorem Reachable.holds (reachable : machine.Reachable) (present : machine.cycle.isSome = true) :
    machine.Holds machine.program := by
  obtain ⟨config, history, -, rfl⟩ := reachable
  let Kept (machine : Machine) : Prop :=
    machine.Sized ∧ (machine.cycle.isSome = true → machine.Holds machine.program)
  have both : Kept ((build config).after history) :=
    kept_after Kept ⟨sized_build config, fun absent => by cases absent⟩
      fun _ step kept => ⟨step.sized kept.1, step.holds kept.1 kept.2⟩
  exact both.2 present

/-- Running a machine that holds a typed program is carrying out the lines of the program, which all
have slots. -/
theorem Holds.run (holds : machine.Holds p) (typed : p.Typed) (count : Nat) :
    p.length ≤ machine.config.memorySlots ∧
      (Machine.run count).run machine = (.ok (), { machine with
        state := p.interpret^[count] machine.state
        cycles := machine.cycles + count }) := by
  obtain ⟨start, loaded, sized, succeeded, same⟩ := holds.loaded
  obtain ⟨cycle, accepted, rfl⟩ := run_load_eq_ok_iff.mp succeeded
  obtain ⟨room, -, resolved⟩ := accept_eq_ok_iff.mp accepted
  have config : machine.config = start.config := congrArg (·.config) same
  have present : machine.cycle = some cycle := congrArg (·.cycle) same
  have fits : machine.state.Fits start.config := config ▸ holds.sized
  exact ⟨config ▸ room,
    run_run_of_passes present (Cycle.passes_eq_interpret typed sized resolved fits count)⟩

/-- What lies outside of a set of slots and what they read changes nothing in them, over any number
of cycles. In particular memory and status depend on no output, on no output port, and on no input
port that no line reads. -/
theorem run_sameSlice (holds : machine.Holds p) (otherHolds : other.Holds q)
    (config : machine.config = other.config) (typed : p.Typed) (otherTyped : q.Typed)
    (count : Nat) :
    ∃ after otherAfter, (Machine.run count).run machine = (.ok (), after) ∧
      (Machine.run count).run other = (.ok (), otherAfter) ∧
      (∀ slots, p.SameSlice q slots → machine.state.AgreesOn (p.slice slots) other.state →
        ∀ slot ∈ slots, after.state.slot slot = otherAfter.state.slot slot) ∧
      (p.silenced = q.silenced → machine.state.AgreesOn p.whole other.state →
        (∀ slot, after.state.slot slot = otherAfter.state.slot slot) ∧
          after.state.status = otherAfter.state.status) := by
  obtain ⟨room, runs⟩ := holds.run typed count
  obtain ⟨-, otherRuns⟩ := otherHolds.run otherTyped count
  have fits : machine.state.Fits machine.config := holds.sized
  have otherFits : other.state.Fits machine.config := config ▸ otherHolds.sized
  refine ⟨_, _, runs, otherRuns, fun slots same agrees => ?_, fun same agrees => ?_⟩
  · exact (same.alike.iterate typed room fits otherFits agrees count).slots
  · have kept := (Program.alike_of_silenced same).iterate typed room fits otherFits agrees count
    exact ⟨fun slot => kept.slots slot trivial, kept.status trivial⟩

/-- A choice between an input and an older choice: a machine with other lines, another constant and
other inputs behind it, and a machine with an output where there was nothing. -/
theorem run_sameSlice_choice :
    let one : Binary64 := ⟨0x3FF0000000000000⟩
    let two : Binary64 := ⟨0x4000000000000000⟩
    let choice : List Line :=
      [⟨.ofSingle .input 7, .zero⟩, ⟨.compare .gtz 0, .zero⟩, ⟨.ofDual .phi 0 2, .zero⟩]
    let plain : Program := ⟨choice ++ [⟨.ofSingle .copy 2, .zero⟩, ⟨.noop, .nan⟩]⟩
    let changed : Program := ⟨choice ++ [⟨.ofDual .output 5 0, .zero⟩, ⟨.ofDual .add 3 3, one⟩]⟩
    let loud : Program := ⟨choice ++ [⟨.ofSingle .copy 2, .zero⟩, ⟨.ofDual .output 5 0, .nan⟩]⟩
    let ofPlain := (build .default).after [.write 7 one, .install plain]
    let ofChanged := (build .default).after [.write 7 one, .write 3 two, .install changed]
    let ofLoud := (build .default).after [.write 3 one, .write 7 one, .install loud]
    ∃ after afterChanged afterLoud, (Machine.run 3).run ofPlain = (.ok (), after) ∧
      (Machine.run 3).run ofChanged = (.ok (), afterChanged) ∧
      (Machine.run 3).run ofLoud = (.ok (), afterLoud) ∧
      after.state.slot 2 = afterChanged.state.slot 2 ∧
      ∀ slot, after.state.slot slot = afterLoud.state.slot slot := by
  intro one two choice plain changed loud ofPlain ofChanged ofLoud
  have reachable (history : List Action) : ((build .default).after history).Reachable :=
    ⟨.default, history, by decide, rfl⟩
  have holds : ofPlain.Holds plain := (reachable _).holds rfl
  have holdsChanged : ofChanged.Holds changed := (reachable _).holds rfl
  have holdsLoud : ofLoud.Holds loud := (reachable _).holds rfl
  have sameSlice : plain.SameSlice changed {0, 2} := by
    refine ⟨rfl, ?_, ?_, fun _ slot => ?_, fun _ slot mode source compares => ?_⟩
    · rintro slot (rfl | rfl) <;> rfl
    · rintro slot (rfl | rfl) line found - operand named memory
      · cases found
        cases List.mem_singleton.mp named
        cases memory
      · cases found
        rcases List.mem_pair.mp named with rfl | rfl
        · exact Or.inl rfl
        · exact Or.inr rfl
    · rcases slot with _ | _ | _ | _ | _ | slot <;> rfl
    · rcases slot with _ | _ | _ | _ | _ | slot <;> cases compares
      exact Or.inl rfl
  have agrees : ofPlain.state.AgreesOn (plain.slice {0, 2}) ofChanged.state := by
    have values : (ofPlain.state.slot 0 = ofChanged.state.slot 0 ∧
        ofPlain.state.slot 2 = ofChanged.state.slot 2) ∧
        ofPlain.state.input.value 7 = ofChanged.state.input.value 7 ∧
        ofPlain.state.status = ofChanged.state.status := by decide +kernel
    obtain ⟨⟨first, last⟩, input, status⟩ := values
    refine ⟨?_, ?_, fun _ => status⟩
    · rintro slot (rfl | rfl)
      · exact first
      · exact last
    · rintro port ⟨slot, (rfl | rfl), reads⟩ <;> cases reads
      exact input
  have whole : ofPlain.state.AgreesOn plain.whole ofLoud.state := by
    have values : ofPlain.state.memory = ofLoud.state.memory ∧
        ofPlain.state.input.value 7 = ofLoud.state.input.value 7 ∧
        ofPlain.state.status = ofLoud.state.status := by decide +kernel
    obtain ⟨memory, input, status⟩ := values
    refine ⟨fun slot _ => congrArg (·.get slot) memory, ?_, fun _ => status⟩
    rintro port ⟨slot, reads⟩
    rcases slot with _ | _ | _ | _ | _ | slot <;> cases reads
    exact input
  obtain ⟨after, afterChanged, ran, ranChanged, slices, -⟩ :=
    run_sameSlice holds holdsChanged rfl (by decide) (by decide) 3
  obtain ⟨same, afterLoud, ranSame, ranLoud, -, outputs⟩ :=
    run_sameSlice holds holdsLoud rfl (by decide) (by decide) 3
  obtain rfl : after = same := congrArg Prod.snd (ran.symm.trans ranSame)
  exact ⟨after, afterChanged, afterLoud, ran, ranChanged, ranLoud,
    slices {0, 2} sameSlice agrees 2 (Or.inr rfl), (outputs rfl whole).1⟩

end Machine

end Dataflow
