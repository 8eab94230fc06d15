import Dataflow.Proofs.Lowering
import Dataflow.Proofs.Sizes

set_option autoImplicit false

namespace Dataflow

/-- A fold with checks passes all of them if something that every step keeps makes them pass. -/
theorem foldlM_eq_some {α β : Type} (kept : α → Prop) {checked : α → β → Option α}
    {step : α → β → α} {items : List β} {start : α} (initially : kept start)
    (passes : ∀ state, kept state → ∀ item ∈ items,
      checked state item = some (step state item) ∧ kept (step state item)) :
    items.foldlM checked start = some (items.foldl step start) := by
  induction items generalizing start with
  | nil => rfl
  | cons item rest ih =>
    obtain ⟨first, next⟩ := passes start initially item List.mem_cons_self
    rw [List.foldlM_cons, first, List.foldl_cons]
    exact ih next fun state holds other member =>
      passes state holds other (List.mem_cons_of_mem _ member)

namespace State

def install? (state : State) (program : Program) : Option State :=
  program.placed.foldlM (fun state (line, slot) => state.store? slot line.constant) state

theorem install?_eq_some {state : State} {program : Program}
    (room : program.length ≤ state.memory.size) :
    state.install? program = some (state.install program) := by
  refine foldlM_eq_some (fun other => other.memory.size = state.memory.size) rfl ?_
  rintro other size ⟨line, slot⟩ member
  have own : slot < other.memory.size := by
    have below : slot < program.length := List.snd_lt_of_mem_zipIdx member
    omega
  exact ⟨by simp only [store?, own, if_true], (size_store other slot line.constant).trans size⟩

end State

namespace Operation

/-- Every number of the operation lies in the bank in which it names something. -/
def InBounds (state : State) : Operation → Prop
  | add slot a b | sub slot a b | mult slot a b | div slot a b | phi slot a b =>
    slot < state.memory.size ∧ a < state.memory.size ∧ b < state.memory.size
  | output port source => port < state.output.size ∧ source < state.memory.size
  | cmpz _ source => source < state.memory.size
  | sqrt slot source | copy slot source =>
    slot < state.memory.size ∧ source < state.memory.size
  | input slot port => slot < state.memory.size ∧ port < state.input.size

/-- Whether an operation is within bounds is a matter of sizes only. -/
theorem InBounds.of_fits {operation : Operation} {state other : State} {config : Config}
    (inBounds : operation.InBounds state) (fits : state.Fits config)
    (otherFits : other.Fits config) : operation.InBounds other := by
  cases operation <;>
    simpa only [InBounds, fits.memory, fits.input, fits.output, otherFits.memory,
      otherFits.input, otherFits.output] using inBounds

theorem InBounds.safe {operation : Operation} {state : State}
    (inBounds : operation.InBounds state) : operation.Safe state := by
  cases operation with
  | add slot a b | sub slot a b | mult slot a b =>
    obtain ⟨own, first, second⟩ := inBounds
    exact ⟨first, second, own⟩
  | div slot a b =>
    obtain ⟨own, first, second⟩ := inBounds
    exact ⟨second, fun _ => ⟨first, own⟩⟩
  | phi slot a b =>
    obtain ⟨own, first, second⟩ := inBounds
    refine ⟨?_, own⟩
    split
    · exact first
    · exact second
  | output port source => exact inBounds.symm
  | cmpz mode source => exact inBounds
  | sqrt slot source | copy slot source => exact inBounds.symm
  | input slot port => exact inBounds.symm

theorem run?_eq_some {operation : Operation} {state : State}
    (inBounds : operation.InBounds state) :
    operation.run? state = some (operation.apply state) :=
  run?_eq_some_iff.mpr ⟨inBounds.safe, rfl⟩

end Operation

namespace Cycle

/-- A pass over operations within bounds fails no check. -/
theorem run?_eq_some {cycle : Cycle} {state : State} {config : Config} (fits : state.Fits config)
    (inBounds : ∀ operation ∈ cycle.operations, operation.InBounds state) :
    cycle.run? state = some (cycle.run state) := by
  refine foldlM_eq_some (fun other => other.Fits config) fits ?_
  intro other otherFits operation member
  have here := (inBounds operation member).of_fits fits otherFits
  exact ⟨Operation.run?_eq_some here, State.Fits.apply otherFits operation⟩

theorem passes_eq {cycle : Cycle} {state : State} {config : Config} (fits : state.Fits config)
    (inBounds : ∀ operation ∈ cycle.operations, operation.InBounds state) (count : Nat) :
    cycle.passes count state = ⟨count, cycle.run^[count] state⟩ := by
  induction count generalizing state with
  | zero => rfl
  | succ count ih =>
    have next := fits.run cycle
    have still : ∀ operation ∈ cycle.operations, operation.InBounds (cycle.run state) :=
      fun operation member => (inBounds operation member).of_fits fits next
    rw [passes, run?_eq_some fits inBounds]
    simp only [ih next still, Function.iterate_succ_apply]

end Cycle

/-- The operation of a typed line is within bounds: the bank that an operand was checked against
is the one that the operation uses. -/
theorem Line.inBounds_of_within {line : Line} {slot : Nat} {operation : Operation} {state : State}
    (typed : line.instruction.Typed) (within : line.Within state.limit slot)
    (lowered : line.operation? slot = some operation) : operation.InBounds state := by
  obtain ⟨instruction, constant⟩ := line
  obtain ⟨own, operands⟩ := within
  cases instruction with
  | invalid word => cases lowered
  | dual dual a b =>
    obtain ⟨aBank, bBank⟩ := typed
    have first := operands a (by simp [Instruction.operands])
    have second := operands b (by simp [Instruction.operands])
    rw [aBank] at first
    rw [bBank] at second
    obtain rfl : dual.at slot a.number b.number = operation := Option.some.inj lowered
    -- A port was checked against the smaller of the two port banks.
    cases dual with
    | output => exact ⟨(Nat.lt_min.mp first).2, second⟩
    | _ => exact ⟨own, first, second⟩
  | single single mode unused immediate source =>
    have only := operands source (by simp [Instruction.operands])
    rw [show source.bank = single.sourceBank from typed] at only
    cases single with
    | noop => cases lowered
    | cmpz =>
      obtain ⟨mode, -, rfl⟩ := Option.map_eq_some_iff.mp lowered
      exact only
    | input =>
      obtain rfl := Option.some.inj lowered
      exact ⟨own, (Nat.lt_min.mp only).1⟩
    | _ =>
      obtain rfl := Option.some.inj lowered
      exact ⟨own, only⟩

/-- A typed program that resolves for the sizes of a state has all its operations within bounds. -/
theorem Cycle.inBounds_of_ofProgram {program : Program} {cycle : Cycle} {state : State}
    (typed : program.Typed) (resolved : ofProgram state.limit program = .ok cycle) :
    ∀ operation ∈ cycle.operations, operation.InBounds state := by
  obtain ⟨within, -⟩ := ofProgram_eq_ok_iff.mp resolved
  intro operation member
  obtain ⟨line, slot, placed, lowered⟩ := exists_line_of_mem resolved member
  exact line.inBounds_of_within (typed line (List.fst_mem_of_mem_zipIdx placed)) (within _ placed)
    lowered

/-- Any number of passes of a typed program comes to its end, on every state of the sizes that the
program was resolved for. -/
theorem Cycle.passes_eq_interpret {program : Program} {cycle : Cycle} {start state : State}
    {config : Config} (typed : program.Typed) (fits : start.Fits config)
    (resolved : ofProgram start.limit program = .ok cycle) (stateFits : state.Fits config)
    (count : Nat) : cycle.passes count state = ⟨count, program.interpret^[count] state⟩ := by
  have inBounds := inBounds_of_ofProgram typed resolved
  have lines : cycle.run = program.interpret := funext (run_eq_interpret resolved)
  rw [passes_eq stateFits fun operation member =>
    (inBounds operation member).of_fits fits stateFits, lines]

namespace Machine

variable {machine : Machine}

theorem run_run_of_passes {cycle : Cycle} (present : machine.cycle = some cycle) {count : Nat}
    {state : State} (whole : cycle.passes count machine.state = ⟨count, state⟩) :
    (run count).run machine =
      (.ok (), { machine with state := state, cycles := machine.cycles + count }) := by
  rw [run_run_of_cycle present, advancedBy, whole, if_pos rfl]

end Machine

end Dataflow
