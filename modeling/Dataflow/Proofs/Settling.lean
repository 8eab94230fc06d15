import Dataflow.Proofs.Contents
import Dataflow.Proofs.Slices
import Dataflow.Proofs.Tracing

set_option autoImplicit false

namespace Dataflow

namespace Instruction

variable {instruction : Instruction}

theorem isEffective_of_writesSlot (writes : instruction.writesSlot = true) :
    instruction.isEffective = true := by
  cases instruction with
  | dual operation a b => rfl
  | single operation mode unused immediate source =>
    cases operation with
    | noop | cmpz => cases writes
    | sqrt | copy | input => rfl
  | invalid word => cases writes

theorem names_of_comparison? (typed : instruction.Typed) {mode : CompareMode} {source : Nat}
    (compares : instruction.comparison? = some (mode, source)) :
    instruction.isEffective = true ∧ ⟨.memory, source⟩ ∈ instruction.operands := by
  cases instruction with
  | dual operation a b => cases compares
  | single operation code unused immediate address =>
    cases operation with
    | cmpz =>
      obtain ⟨known, meaning, same⟩ := Option.map_eq_some_iff.mp compares
      obtain ⟨rfl, rfl⟩ := Prod.mk.inj same
      have bank : address.bank = .memory := typed
      refine ⟨?_, List.mem_singleton.mpr ?_⟩
      · simp [isEffective, isValid, isNoop, meaning]
      · rw [← bank]
    | noop | sqrt | copy | input => cases compares
  | invalid word => cases compares

theorem names_of_outputTo? (typed : instruction.Typed) {port source : Nat}
    (shows : instruction.outputTo? port = some source) :
    instruction.isEffective = true ∧ ⟨.memory, source⟩ ∈ instruction.operands := by
  cases instruction with
  | dual operation a b =>
    cases operation with
    | output =>
      obtain ⟨-, same⟩ := Option.ite_none_right_eq_some.mp shows
      obtain rfl := Option.some.inj same
      have bank : b.bank = .memory := typed.2
      refine ⟨rfl, ?_⟩
      rw [← bank]
      exact List.mem_cons_of_mem _ (List.mem_singleton_self _)
    | add | sub | mult | div | phi => cases shows
  | single operation mode unused immediate address => cases shows
  | invalid word => cases shows

/-- An instruction that does not write its slot leaves there what it finds. -/
theorem result_of_silent (silent : instruction.writesSlot = false) (program : Program)
    (before after : State) (line : Nat) :
    instruction.result program before after line = before.slot line := by
  cases instruction with
  | dual operation a b =>
    cases operation with
    | output => rfl
    | add | sub | mult | div | phi => cases silent
  | single operation mode unused immediate source =>
    cases operation with
    | noop | cmpz => rfl
    | sqrt | copy | input => cases silent
  | invalid word => rfl

/-- An instruction that sees in a second cycle what it saw in the first one computes the same. A
division that is skipped leaves what the first cycle left, whatever that one did. -/
theorem result_again (typed : instruction.Typed) {program : Program} {before once twice : State}
    {line : Nat} (held : once.slot line = instruction.result program before once line)
    (seen : ∀ slot, ⟨.memory, slot⟩ ∈ instruction.operands →
      seenBy once twice line slot = seenBy before once line slot)
    (input : once.input = before.input)
    (status : instruction.isPhi = true →
      program.statusAt once twice line = program.statusAt before once line) :
    instruction.result program once twice line = once.slot line := by
  have read (operand : Address) (named : operand ∈ instruction.operands)
      (memory : operand.bank = .memory) :
      seenBy once twice line operand.number = seenBy before once line operand.number := by
    apply seen
    rw [← memory]
    exact named
  cases instruction with
  | dual operation a b =>
    obtain ⟨aBank, bBank⟩ := typed
    have second := read b (by simp [operands]) bBank
    cases operation with
    | output => rfl
    | div =>
      have first := read a (by simp [operands]) aBank
      simp only [result, first, second] at held ⊢
      split
      · rfl
      · rename_i divides
        rw [held, if_neg divides]
    | phi =>
      have first := read a (by simp [operands]) aBank
      rw [held]
      simp only [result, first, second, status rfl]
    | add | sub | mult =>
      have first := read a (by simp [operands]) aBank
      rw [held]
      simp only [result, first, second]
  | single operation mode unused immediate source =>
    cases operation with
    | noop | cmpz => rfl
    | input =>
      rw [held]
      simp only [result, input]
    | sqrt | copy =>
      have only := read source (by simp [operands]) typed
      rw [held]
      simp only [result, only]
  | invalid word => rfl

end Instruction

namespace Program

variable {program : Program} {before once twice : State}

instance (slot : Nat) : Decidable (program.Unwritten slot) :=
  decidable_of_iff (program.lines[slot]?.all fun line => !line.instruction.writesSlot)
    (by simp [Unwritten, Option.all_eq_true])

/-- Every line that does something reads only slots of earlier lines and slots that no line writes,
and every choice has a comparison above it. A line that reads another slot would find what the cycle
before left there. -/
structure FeedForward (program : Program) : Prop where
  reads : ∀ placed ∈ program.effectiveLines, ∀ operand ∈ placed.1.instruction.operands,
    operand.bank = .memory → operand.number < placed.2 ∨ program.Unwritten operand.number
  choices : ∀ placed ∈ program.placed, placed.1.instruction.isPhi = true →
    ∃ earlier < placed.2, (program.answer? Instruction.comparison? earlier).isSome = true

instance : Decidable program.FeedForward :=
  decidable_of_iff (_ ∧ _) ⟨fun ⟨reads, choices⟩ => ⟨reads, choices⟩,
    fun feedForward => ⟨feedForward.reads, feedForward.choices⟩⟩

/-- A line does something, and reads a slot for it. -/
def ReadsAt (program : Program) (line slot : Nat) : Prop :=
  ∃ own, program.lines[line]? = some own ∧ own.instruction.isEffective = true ∧
    ⟨.memory, slot⟩ ∈ own.instruction.operands

theorem FeedForward.earlier_or_unwritten (feedForward : program.FeedForward) {line slot : Nat}
    (reads : program.ReadsAt line slot) : slot < line ∨ program.Unwritten slot := by
  obtain ⟨own, found, effective, named⟩ := reads
  have placed : (own, line) ∈ program.effectiveLines :=
    List.mem_filter.mpr ⟨List.mk_mem_zipIdx_iff_getElem?.mpr found, effective⟩
  exact feedForward.reads _ placed _ named rfl

theorem Typed.readsAt_of_comparison? (typed : program.Typed) {line source : Nat}
    {mode : CompareMode}
    (compares : program.answer? Instruction.comparison? line = some (mode, source)) :
    program.ReadsAt line source := by
  obtain ⟨own, found, compares⟩ := Option.bind_eq_some_iff.mp compares
  have names := Instruction.names_of_comparison? (typed own (List.mem_of_getElem? found)) compares
  exact ⟨own, found, names⟩

theorem Typed.readsAt_of_outputTo? (typed : program.Typed) {line port source : Nat}
    (shows : program.answer? (Instruction.outputTo? port) line = some source) :
    program.ReadsAt line source := by
  obtain ⟨own, found, shows⟩ := Option.bind_eq_some_iff.mp shows
  have names := Instruction.names_of_outputTo? (typed own (List.mem_of_getElem? found)) shows
  exact ⟨own, found, names⟩

end Program

namespace SinglePass

variable {program : Program} {before once twice : State}

theorem slot_of_unwritten (pass : SinglePass program before once) {slot : Nat}
    (unwritten : program.Unwritten slot) : once.slot slot = before.slot slot := by
  rcases Nat.lt_or_ge slot program.lines.length with inside | behind
  · have silent := unwritten _ (List.getElem?_eq_getElem inside)
    rw [pass.written slot inside, Instruction.result_of_silent silent]
  · exact pass.beyond slot behind

/-- What a line of a program without feedback reads is in a second pass what it was in the first, as
far as the slots above the line are. -/
theorem seenBy_again (first : SinglePass program before once) (feedForward : program.FeedForward)
    {line slot : Nat} (reads : program.ReadsAt line slot)
    (above : ∀ earlier < line, twice.slot earlier = once.slot earlier) :
    seenBy once twice line slot = seenBy before once line slot := by
  simp only [seenBy]
  split
  · rename_i earlier
    exact above slot earlier
  · rename_i later
    have unwritten := (feedForward.earlier_or_unwritten reads).resolve_left later
    exact first.slot_of_unwritten unwritten

/-- The status below a comparison is in a second pass what it was in the first. -/
theorem statusAt_again (first : SinglePass program before once)
    (feedForward : program.FeedForward) (typed : program.Typed) {bound : Nat}
    (compared : ∃ earlier < bound, (program.answer? Instruction.comparison? earlier).isSome = true)
    (above : ∀ earlier < bound, twice.slot earlier = once.slot earlier) :
    program.statusAt once twice bound = program.statusAt before once bound := by
  cases last : program.lastBelow? Instruction.comparison? bound with
  | none =>
    obtain ⟨earlier, inside, compares⟩ := compared
    rw [Program.lastBelow?_eq_none_iff.mp last earlier inside] at compares
    cases compares
  | some found =>
    obtain ⟨line, mode, source⟩ := found
    obtain ⟨inside, compares, -⟩ := Program.lastBelow?_eq_some_iff.mp last
    have seen := first.seenBy_again feedForward (typed.readsAt_of_comparison? compares)
      fun earlier below => above earlier (Nat.lt_trans below inside)
    simp only [Program.statusAt, last, seen]

theorem slot_again (first : SinglePass program before once)
    (second : SinglePass program once twice) (feedForward : program.FeedForward)
    (typed : program.Typed) (slot : Nat) : twice.slot slot = once.slot slot := by
  -- What the line of a slot reads has the numbers of earlier slots, or is never written.
  induction slot using Nat.strongRecOn with
  | ind line above =>
  rcases Nat.lt_or_ge line program.lines.length with inside | behind
  · have found : program.lines[line]? = some program.lines[line] := List.getElem?_eq_getElem inside
    have own := typed _ (List.getElem_mem inside)
    rw [second.written line inside]
    cases writes : program.lines[line].instruction.writesSlot with
    | false => exact Instruction.result_of_silent writes _ _ _ _
    | true =>
      have effective := Instruction.isEffective_of_writesSlot writes
      refine Instruction.result_again own (first.written line inside) (fun slot named => ?_)
        first.input fun phi => ?_
      · exact first.seenBy_again feedForward ⟨_, found, effective, named⟩ above
      · have placed : (program.lines[line], line) ∈ program.placed :=
          List.mk_mem_zipIdx_iff_getElem?.mpr found
        exact first.statusAt_again feedForward typed (feedForward.choices _ placed phi) above
  · exact second.beyond line behind

/-- The second of two passes over a program without feedback leaves everything as it was. -/
theorem sameContents_again (first : SinglePass program before once)
    (second : SinglePass program once twice) (feedForward : program.FeedForward)
    (typed : program.Typed) : twice.SameContents once where
  slots := first.slot_again second feedForward typed
  input port := by rw [second.input]
  output port := by
    have slots := first.slot_again second feedForward typed
    rw [second.output, first.output]
    cases last : program.lastBelow? (Instruction.outputTo? port) program.lines.length with
    | none =>
      have kept := first.output port
      simp only [Program.outputAt, last] at kept ⊢
      exact kept
    | some found =>
      obtain ⟨line, source⟩ := found
      obtain ⟨-, shows, -⟩ := Program.lastBelow?_eq_some_iff.mp last
      have seen := first.seenBy_again feedForward (typed.readsAt_of_outputTo? shows)
        fun earlier _ => slots earlier
      simp only [Program.outputAt, last, seen]
  status := by
    have slots := first.slot_again second feedForward typed
    cases last : program.lastBelow? Instruction.comparison? program.lines.length with
    | none =>
      have kept := second.status
      simp only [Program.statusAt, last] at kept
      exact kept
    | some found =>
      obtain ⟨line, mode, source⟩ := found
      obtain ⟨inside, compares, -⟩ := Program.lastBelow?_eq_some_iff.mp last
      have compared : (program.answer? Instruction.comparison? line).isSome = true := by
        rw [compares]
        rfl
      rw [second.status, first.status]
      exact first.statusAt_again feedForward typed ⟨line, inside, compared⟩ fun earlier _ =>
        slots earlier

end SinglePass

namespace Machine

variable {machine : Machine} {program : Program}

/-- The outputs of a program that a machine holds name ports of the machine. -/
theorem Holds.output (holds : machine.Holds program) (typed : program.Typed) :
    ∀ line ∈ program.lines, ∀ a b, line.instruction = .dual .output a b →
      a.number < machine.config.portCount := by
  obtain ⟨start, loaded, sized, succeeded, same⟩ := holds.loaded
  obtain ⟨cycle, accepted, rfl⟩ := run_load_eq_ok_iff.mp succeeded
  have config : machine.config = start.config := congrArg (·.config) same
  rw [config]
  exact output_of_accept sized accepted typed

/-- Passes over a program without feedback leave from any state what the first of them leaves. -/
theorem Holds.settles (holds : machine.Holds program) (typed : program.Typed)
    (feedForward : program.FeedForward) {state : State} (fits : state.Fits machine.config)
    (count : Nat) :
    (program.interpret^[count + 1] state).SameContents (program.interpret state) := by
  obtain ⟨room, -⟩ := holds.run typed count
  have pass {start : State} (fits : start.Fits machine.config) :=
    Program.singlePass_interpret fits room (holds.output typed)
  induction count generalizing state with
  | zero => exact State.SameContents.refl _
  | succ count ih =>
    -- All cycles but the first start from what a cycle left, so the second changes nothing.
    have next := program.fits_interpret fits
    exact (ih next).trans ((pass fits).sameContents_again (pass next) feedForward typed)

/-- A program without feedback settles in one cycle: from every state of a machine that holds it,
any number of cycles leaves what one cycle leaves. -/
theorem run_settles (holds : machine.Holds program) (typed : program.Typed)
    (feedForward : program.FeedForward) {count : Nat} (positive : 0 < count) :
    ∃ once after, runCycle.run machine = (.ok (), once) ∧
      (run count).run machine = (.ok (), after) ∧ after.state.SameContents once.state := by
  obtain ⟨rest, rfl⟩ := Nat.exists_eq_succ_of_ne_zero (Nat.ne_of_gt positive)
  have single := (holds.run typed 1).2
  rw [← runCycle_eq_run_one] at single
  exact ⟨_, _, single, (holds.run typed (rest + 1)).2,
    holds.settles typed feedForward holds.sized rest⟩

/-- A choice below a comparison, a division by a slot that holds zero and is never written, and an
output that reads its own slot, from the state after some cycles and another input. -/
theorem run_settles_choice :
    let one : Binary64 := ⟨0x3FF0000000000000⟩
    let program : Program :=
      ⟨[⟨.ofSingle .input 7, .zero⟩, ⟨.compare .gtz 0, .zero⟩, ⟨.ofDual .phi 0 6, .zero⟩,
        ⟨.ofDual .div 2 9, .nan⟩, ⟨.ofDual .output 5 4, one⟩, ⟨.noop, one⟩, ⟨.invalid 5, one⟩]⟩
    let machine := (build .default).after
      [.write 7 one, .install program, .run 3, .write 7 .nan]
    ∃ once after, runCycle.run machine = (.ok (), once) ∧ (run 4).run machine = (.ok (), after) ∧
      after.state.SameContents once.state := by
  intro one program machine
  have reachable : machine.Reachable :=
    ⟨.default, [.write 7 one, .install program, .run 3, .write 7 .nan], by decide, rfl⟩
  have held : machine.program = program := by decide +kernel
  have present : machine.cycle.isSome = true := by decide +kernel
  have holds : machine.Holds program := by
    rw [← held]
    exact reachable.holds present
  have feedForward : program.FeedForward := by decide
  exact run_settles holds (by decide) feedForward (by decide)

end Machine

end Dataflow
