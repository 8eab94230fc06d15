import Dataflow.Proofs.Accesses

set_option autoImplicit false

namespace Dataflow

/-- What a line finds in a slot when its turn comes, given the states around the cycle. A slot is
written by its own line only, so no states between the two are needed. -/
def seenBy (before after : State) (line slot : Nat) : Binary64 :=
  if slot < line then after.slot slot else before.slot slot

namespace Instruction

/-- The comparison that an instruction makes, and the slot that it compares. -/
def comparison? : Instruction → Option (CompareMode × Nat)
  | .single .cmpz mode _ _ source => (CompareMode.ofCode? mode).map (·, source.number)
  | _ => none

/-- The slot that an instruction puts out to a port. -/
def outputTo? (port : Nat) : Instruction → Option Nat
  | .dual .output a b => if a.number = port then some b.number else none
  | _ => none

end Instruction

namespace Program

variable {α : Type}

def answer? (program : Program) (ask : Instruction → Option α) (line : Nat) : Option α :=
  program.lines[line]?.bind fun line => ask line.instruction

/-- The last line below a number whose instruction answers, and its answer. -/
def lastBelow? (program : Program) (ask : Instruction → Option α) : Nat → Option (Nat × α)
  | 0 => none
  | bound + 1 =>
    match program.answer? ask bound with
    | some answer => some (bound, answer)
    | none => program.lastBelow? ask bound

theorem lastBelow?_eq_none_iff {program : Program} {ask : Instruction → Option α} {bound : Nat} :
    program.lastBelow? ask bound = none ↔ ∀ line < bound, program.answer? ask line = none := by
  induction bound with
  | zero => simp [lastBelow?]
  | succ bound ih =>
    simp only [lastBelow?, Nat.forall_lt_succ_right, ← ih]
    cases program.answer? ask bound <;> simp

theorem lastBelow?_eq_some_iff {program : Program} {ask : Instruction → Option α}
    {bound line : Nat} {answer : α} :
    program.lastBelow? ask bound = some (line, answer) ↔
      line < bound ∧ program.answer? ask line = some answer ∧
        ∀ other < bound, line < other → program.answer? ask other = none := by
  induction bound with
  | zero => simp [lastBelow?]
  | succ bound ih =>
    simp only [lastBelow?]
    cases here : program.answer? ask bound with
    | some own =>
      simp only [Option.some.injEq, Prod.mk.injEq]
      constructor
      · rintro ⟨rfl, rfl⟩
        exact ⟨Nat.lt_succ_self _, here, fun other below above => by omega⟩
      · rintro ⟨below, answers, silent⟩
        rcases Nat.lt_or_ge line bound with earlier | reached
        · have := silent bound (Nat.lt_succ_self _) earlier
          simp only [here, reduceCtorEq] at this
        · have last : line = bound := by omega
          subst last
          exact ⟨rfl, Option.some.inj (here.symm.trans answers)⟩
    | none =>
      simp only [ih]
      constructor
      · rintro ⟨below, answers, silent⟩
        refine ⟨Nat.lt_succ_of_lt below, answers, fun other small above => ?_⟩
        by_cases last : other = bound
        · rw [last, here]
        · exact silent other (by omega) above
      · rintro ⟨below, answers, silent⟩
        have different : line ≠ bound := by
          rintro rfl
          simp only [here, reduceCtorEq] at answers
        exact ⟨by omega, answers, fun other small => silent other (by omega)⟩

/-- The status that a line finds: the result of the last comparison above it, and the status
before the cycle if there is none. -/
def statusAt (program : Program) (before after : State) (line : Nat) : Bool :=
  match program.lastBelow? Instruction.comparison? line with
  | some (earlier, mode, source) => mode.holds (seenBy before after earlier source)
  | none => before.status

/-- The value that a port holds after the lines above a number: that of the last output to it, and
the value before the cycle if there is none. -/
def outputAt (program : Program) (before after : State) (port line : Nat) : Binary64 :=
  match program.lastBelow? (Instruction.outputTo? port) line with
  | some (earlier, source) => seenBy before after earlier source
  | none => before.output.value port

end Program

/-- The content of the slot of a line after the cycle. -/
def Instruction.result (instruction : Instruction) (program : Program) (before after : State)
    (line : Nat) : Binary64 :=
  let seen := seenBy before after line
  match instruction with
  | .dual .add a b => (seen a.number).add (seen b.number)
  | .dual .sub a b => (seen a.number).sub (seen b.number)
  | .dual .mult a b => (seen a.number).mul (seen b.number)
  | .dual .div a b =>
    if (seen b.number).isZero then before.slot line else (seen a.number).div (seen b.number)
  | .dual .phi a b =>
    if program.statusAt before after line then seen a.number else seen b.number
  | .single .sqrt _ _ _ source => (seen source.number).sqrt
  | .single .copy _ _ _ source => seen source.number
  | .single .input _ _ _ source => before.input.value source.number
  | .dual .output _ _ | .single .noop .. | .single .cmpz .. | .invalid _ => before.slot line

/-- The states before and after one unbuffered pass over the lines of a program. -/
structure SinglePass (program : Program) (before after : State) : Prop where
  written : ∀ line (inside : line < program.lines.length),
    after.slot line = program.lines[line].instruction.result program before after line
  beyond : ∀ slot, program.lines.length ≤ slot → after.slot slot = before.slot slot
  status : after.status = program.statusAt before after program.lines.length
  output : ∀ port, after.output.value port =
    program.outputAt before after port program.lines.length
  input : after.input = before.input

namespace Cells

theorem set_outside {cells : Cells} {number : Nat} (value : Binary64)
    (outside : cells.size ≤ number) : cells.set number value = cells := by
  obtain ⟨size, kept, kept_le⟩ := cells
  have behind : ¬ number < kept.size := by
    dsimp only at outside
    omega
  simp only [set, behind, dif_neg, not_false_eq_true, Nat.not_lt.mpr outside]

theorem get_set_ne (cells : Cells) {number other : Nat} (value : Binary64)
    (different : other ≠ number) : (cells.set number value).get other = cells.get other := by
  by_cases inside : number < cells.size
  · rw [get_set cells number other value inside, if_neg different]
  · rw [set_outside value (Nat.le_of_not_lt inside)]

end Cells

theorem Line.slot_interpret_ne (line : Line) {slot other : Nat} (state : State)
    (different : other ≠ slot) : (line.interpret slot state).slot other = state.slot other := by
  obtain ⟨instruction, constant⟩ := line
  have store (value : Binary64) : (state.store slot value).slot other = state.slot other :=
    state.memory.get_set_ne value different
  cases instruction with
  | dual operation a b =>
    cases operation with
    | div =>
      simp only [Line.interpret, DualOperation.interpret]
      split
      · rfl
      · exact store _
    | output => rfl
    | _ => exact store _
  | single operation mode unused immediate source =>
    cases operation with
    | noop => rfl
    | cmpz =>
      simp only [Line.interpret, SingleOperation.interpret]
      cases CompareMode.ofCode? mode <;> rfl
    | _ => exact store _
  | invalid word => rfl

theorem Line.input_interpret (line : Line) (slot : Nat) (state : State) :
    (line.interpret slot state).input = state.input := by
  obtain ⟨instruction, constant⟩ := line
  cases instruction with
  | dual operation a b =>
    cases operation <;> simp only [Line.interpret, DualOperation.interpret] <;> try rfl
    split <;> rfl
  | single operation mode unused immediate source =>
    cases operation <;> simp only [Line.interpret, SingleOperation.interpret] <;> try rfl
    cases CompareMode.ofCode? mode <;> rfl
  | invalid word => rfl

theorem Line.status_interpret (line : Line) (slot : Nat) (state : State) :
    (line.interpret slot state).status =
      match line.instruction.comparison? with
      | some (mode, source) => mode.holds (state.slot source)
      | none => state.status := by
  obtain ⟨instruction, constant⟩ := line
  cases instruction with
  | dual operation a b =>
    cases operation <;> simp only [Line.interpret, DualOperation.interpret] <;> try rfl
    split <;> rfl
  | single operation mode unused immediate source =>
    cases operation <;> simp only [Line.interpret, SingleOperation.interpret] <;> try rfl
    simp only [Instruction.comparison?]
    cases CompareMode.ofCode? mode <;> rfl
  | invalid word => rfl

/-- The value of a port after a line that puts out to ports of the bank only. -/
theorem Line.output_interpret (line : Line) (slot port : Nat) (state : State)
    (inside : ∀ a b, line.instruction = .dual .output a b → a.number < state.output.size) :
    (line.interpret slot state).output.value port =
      match line.instruction.outputTo? port with
      | some source => state.slot source
      | none => state.output.value port := by
  obtain ⟨instruction, constant⟩ := line
  cases instruction with
  | dual operation a b =>
    cases operation with
    | output =>
      simp only [Line.interpret, DualOperation.interpret, Instruction.outputTo?]
      rw [Ports.value_store _ _ _ _ (inside a b rfl)]
      by_cases same : port = a.number
      · simp only [same, if_true]
      · simp only [same, Ne.symm same, if_false]
    | div =>
      simp only [Line.interpret, DualOperation.interpret]
      split <;> rfl
    | _ => rfl
  | single operation mode unused immediate source =>
    cases operation <;> simp only [Line.interpret, SingleOperation.interpret] <;> try rfl
    cases CompareMode.ofCode? mode <;> rfl
  | invalid word => rfl

theorem State.Fits.interpret {state : State} {config : Config} (fits : state.Fits config)
    (line : Line) (slot : Nat) : (line.interpret slot state).Fits config := by
  rw [← Cycle.apply_operation?]
  cases line.operation? slot with
  | none => exact fits
  | some operation => exact fits.apply operation

namespace Program

variable {program : Program} {before : State} {config : Config}

def interpretTo (program : Program) (before : State) (bound : Nat) : State :=
  (program.placed.take bound).foldl (fun state (line, slot) => line.interpret slot state) before

theorem interpretTo_length :
    program.interpretTo before program.lines.length = program.interpret before := by
  rw [interpretTo, List.take_of_length_le (by simp [placed]), interpret]

theorem interpretTo_succ {line : Nat} (inside : line < program.lines.length) :
    program.interpretTo before (line + 1) =
      program.lines[line].interpret line (program.interpretTo before line) := by
  have present : line < program.placed.length := by simpa [placed] using inside
  rw [interpretTo, List.take_succ_eq_append_getElem present, List.foldl_append]
  simp [interpretTo, placed]

theorem fits_interpretTo (fits : before.Fits config) {bound : Nat}
    (inside : bound ≤ program.lines.length) : (program.interpretTo before bound).Fits config := by
  induction bound with
  | zero => exact fits
  | succ line ih =>
    rw [interpretTo_succ inside]
    exact (ih (Nat.le_of_succ_le inside)).interpret _ line

theorem fits_interpret (program : Program) (fits : before.Fits config) :
    (program.interpret before).Fits config := by
  rw [← interpretTo_length]
  exact fits_interpretTo fits (Nat.le_refl _)

/-- A slot changes only when the turn of its own line comes. -/
theorem slot_interpretTo {first last slot : Nat} (order : first ≤ last)
    (inside : last ≤ program.lines.length) (apart : slot < first ∨ last ≤ slot) :
    (program.interpretTo before last).slot slot = (program.interpretTo before first).slot slot := by
  induction order with
  | refl => rfl
  | step between ih =>
    rename_i line
    have different : slot ≠ line := by
      have := Nat.le_of_succ_le_succ (Nat.succ_le_succ between)
      omega
    rw [interpretTo_succ inside, Line.slot_interpret_ne _ _ different]
    exact ih (Nat.le_of_succ_le inside) (by omega)

/-- What a line finds in a slot is what the lines above it left there. -/
theorem seenBy_interpret {line : Nat} (inside : line ≤ program.lines.length) (slot : Nat) :
    seenBy before (program.interpret before) line slot =
      (program.interpretTo before line).slot slot := by
  rw [← interpretTo_length, seenBy]
  split
  · rename_i earlier
    exact slot_interpretTo inside (Nat.le_refl _) (Or.inl earlier)
  · rename_i own
    exact (slot_interpretTo (Nat.zero_le line) inside (Or.inr (Nat.le_of_not_lt own))).symm

theorem status_interpretTo {bound : Nat} (inside : bound ≤ program.lines.length) :
    (program.interpretTo before bound).status =
      program.statusAt before (program.interpret before) bound := by
  induction bound with
  | zero => rfl
  | succ line ih =>
    have here : line < program.lines.length := inside
    rw [interpretTo_succ here, Line.status_interpret, ih (Nat.le_of_lt here)]
    simp only [statusAt, lastBelow?, answer?, List.getElem?_eq_getElem here, Option.bind_some]
    cases program.lines[line].instruction.comparison? with
    | none => rfl
    | some comparison =>
      obtain ⟨mode, source⟩ := comparison
      exact congrArg mode.holds (seenBy_interpret (Nat.le_of_lt here) source).symm

theorem output_interpretTo (fits : before.Fits config)
    (named : ∀ line ∈ program.lines, ∀ a b, line.instruction = .dual .output a b →
      a.number < config.portCount) (port : Nat) {bound : Nat}
    (inside : bound ≤ program.lines.length) :
    (program.interpretTo before bound).output.value port =
      program.outputAt before (program.interpret before) port bound := by
  induction bound with
  | zero => rfl
  | succ line ih =>
    have here : line < program.lines.length := inside
    have within := named _ (List.getElem_mem here)
    have size := (fits_interpretTo fits (Nat.le_of_lt here)).output
    rw [interpretTo_succ here,
      Line.output_interpret _ _ _ _ (fun a b output => size ▸ within a b output),
      ih (Nat.le_of_lt here)]
    simp only [outputAt, lastBelow?, answer?, List.getElem?_eq_getElem here, Option.bind_some]
    cases program.lines[line].instruction.outputTo? port with
    | none => rfl
    | some source => exact (seenBy_interpret (Nat.le_of_lt here) _).symm

theorem input_interpretTo {bound : Nat} (inside : bound ≤ program.lines.length) :
    (program.interpretTo before bound).input = before.input := by
  induction bound with
  | zero => rfl
  | succ line ih =>
    rw [interpretTo_succ inside, Line.input_interpret]
    exact ih (Nat.le_of_succ_le inside)

/-- The content of the slot of a line, once its turn has come. -/
theorem slot_interpretTo_own (fits : before.Fits config) {line : Nat}
    (inside : line < program.lines.length) (room : line < config.memorySlots) :
    (program.interpretTo before (line + 1)).slot line =
      program.lines[line].instruction.result program before (program.interpret before) line := by
  have earlier := Nat.le_of_lt inside
  have input : (program.interpretTo before line).input = before.input := input_interpretTo earlier
  have status : (program.interpretTo before line).status =
      program.statusAt before (program.interpret before) line := status_interpretTo earlier
  have old : (program.interpretTo before line).slot line = before.slot line :=
    slot_interpretTo (Nat.zero_le line) earlier (Or.inr (Nat.le_refl line))
  have size := (fits_interpretTo fits earlier).memory
  rw [interpretTo_succ inside]
  generalize program.lines[line] = own
  obtain ⟨instruction, constant⟩ := own
  simp only [Instruction.result, seenBy_interpret earlier, ← status, ← old, ← input]
  generalize program.interpretTo before line = state at size ⊢
  have store (value : Binary64) : (state.store line value).slot line = value := by
    rw [State.slot_store _ _ _ _ (size ▸ room), if_pos rfl]
  cases instruction with
  | dual operation a b =>
    cases operation with
    | div =>
      simp only [Line.interpret, DualOperation.interpret]
      split
      · rfl
      · exact store _
    | output => rfl
    | _ => exact store _
  | single operation mode unused immediate source =>
    cases operation with
    | noop => rfl
    | cmpz =>
      simp only [Line.interpret, SingleOperation.interpret]
      cases CompareMode.ofCode? mode <;> rfl
    | _ => exact store _
  | invalid word => rfl

/-- Carrying out the lines of a program is a single pass, if every line has a slot and every
output a port. -/
theorem singlePass_interpret (fits : before.Fits config)
    (room : program.lines.length ≤ config.memorySlots)
    (named : ∀ line ∈ program.lines, ∀ a b, line.instruction = .dual .output a b →
      a.number < config.portCount) :
    SinglePass program before (program.interpret before) where
  written line inside := by
    rw [← slot_interpretTo_own fits inside (Nat.lt_of_lt_of_le inside room), ← interpretTo_length]
    exact slot_interpretTo inside (Nat.le_refl _) (Or.inl (Nat.lt_succ_self line))
  beyond slot behind := by
    rw [← interpretTo_length]
    exact slot_interpretTo (Nat.zero_le _) (Nat.le_refl _) (Or.inr behind)
  status := by rw [← status_interpretTo (Nat.le_refl _), interpretTo_length]
  output port := by rw [← output_interpretTo fits named port (Nat.le_refl _), interpretTo_length]
  input := by rw [← interpretTo_length, input_interpretTo (Nat.le_refl _)]

end Program

namespace Machine

/-- A line that puts out names a port of the bank, if its program was accepted and is typed. -/
theorem output_of_accept {machine : Machine} {program : Program} {cycle : Cycle}
    (sized : machine.Sized) (accepted : machine.accept program = .ok cycle)
    (typed : program.Typed) : ∀ line ∈ program.lines, ∀ a b, line.instruction = .dual .output a b →
      a.number < machine.config.portCount := by
  obtain ⟨-, -, resolved⟩ := accept_eq_ok_iff.mp accepted
  obtain ⟨within, -⟩ := Cycle.ofProgram_eq_ok_iff.mp resolved
  intro line member a b output
  obtain ⟨slot, inside, rfl⟩ := List.getElem_of_mem member
  have placed : (program.lines[slot], slot) ∈ program.placed :=
    List.mk_mem_zipIdx_iff_getElem?.mpr (List.getElem?_eq_getElem inside)
  have bound := (within _ placed).2 a (by simp [output, Instruction.operands])
  have kind := typed _ member
  rw [output] at kind
  rwa [State.Fits.limit sized, kind.1] at bound

/-- One cycle of a loaded program, from any state of the configured sizes, succeeds and is a
single unbuffered pass over the lines. -/
theorem runCycle_singlePass {machine loaded : Machine} {program : Program} {before : State}
    (sized : machine.Sized) (accepted : (load program).run machine = (.ok (), loaded))
    (typed : program.Typed) (fits : before.Fits machine.config) :
    ∃ after, runCycle.run { loaded with state := before } =
        (.ok (), { loaded with state := after, cycles := loaded.cycles + 1 }) ∧
      after.Fits machine.config ∧ SinglePass program before after := by
  rw [run_load] at accepted
  cases lowered : machine.accept program with
  | error cause =>
    rw [lowered] at accepted
    cases accepted
  | ok cycle =>
    rw [lowered] at accepted
    obtain rfl : machine.installed program cycle = loaded := congrArg Prod.snd accepted
    obtain ⟨room, -, resolved⟩ := accept_eq_ok_iff.mp lowered
    refine ⟨program.interpret before, ?_, program.fits_interpret fits,
      Program.singlePass_interpret fits room (output_of_accept sized lowered typed)⟩
    rw [runCycle_eq_run_one]
    exact run_run_of_passes rfl (Cycle.passes_eq_interpret typed sized resolved fits 1)

/-- A sum that grows by an input, from a state where the last input was one. -/
theorem runCycle_singlePass_sum :
    let program : Program :=
      ⟨[⟨.ofDual .add 0 1, .zero⟩, ⟨.ofSingle .input 7, .zero⟩, ⟨.ofDual .output 3 0, .zero⟩]⟩
    let loaded := ((load program).run (build .default)).2
    let before := (build .default).state.store 1 ⟨0x3FF0000000000000⟩
    ∃ after, runCycle.run { loaded with state := before } =
        (.ok (), { loaded with state := after, cycles := loaded.cycles + 1 }) ∧
      after.Fits Config.default ∧ SinglePass program before after :=
  runCycle_singlePass (sized_build .default) rfl (by decide)
    ((State.fits_ofSizes .default).store 1 _)

end Machine

end Dataflow
