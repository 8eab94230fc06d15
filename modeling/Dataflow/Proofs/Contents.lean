import Dataflow.Machine.Display
import Dataflow.Proofs.Accesses
import Dataflow.Proofs.PortHistory
import Dataflow.Proofs.Unwritten

set_option autoImplicit false

namespace Dataflow

namespace Cells

theorem get_of_size_le {cells : Cells} {number : Nat} (outside : cells.size ≤ number) :
    cells.get number = .zero := by
  have behind : cells.kept.size ≤ number := Nat.le_trans cells.kept_le outside
  rw [get, Array.getD_eq_getD_getElem?, Array.getElem?_eq_none behind, Option.getD_none]

/-- Cells that hold the same do so after a store to a cell that both have or neither has. -/
theorem get_set_congr {x y : Cells} (same : ∀ number, x.get number = y.get number) {number : Nat}
    (alike : number < x.size ↔ number < y.size) (value : Binary64) (other : Nat) :
    (x.set number value).get other = (y.set number value).get other := by
  by_cases inside : number < x.size
  · rw [get_set x number other value inside, get_set y number other value (alike.mp inside), same]
  · have otherOutside : ¬ number < y.size := mt alike.mpr inside
    rw [set_outside value (Nat.le_of_not_lt inside),
      set_outside value (Nat.le_of_not_lt otherOutside), same]

/-- The first cells that do not hold zero, told from what each of them holds. -/
theorem activeAmong_eq_range (cells : Cells) (count : Nat) :
    cells.activeAmong count = activeEntries ((List.range count).map cells.get) := by
  have padded : (List.range count).map cells.get =
      cells.kept.toList.take count ++ List.replicate (count - cells.kept.size) .zero := by
    apply List.ext_getElem
    · simp
      omega
    · intro number inside _
      rw [List.length_map, List.length_range] at inside
      rw [List.getElem_map, List.getElem_range, List.getElem_append]
      split
      · rename_i held
        have kept : number < cells.kept.size := by
          rw [List.length_take, Array.length_toList] at held
          omega
        simp [get, kept]
      · rename_i dropped
        have behind : cells.kept.size ≤ number := by
          rw [List.length_take, Array.length_toList] at dropped
          omega
        simp [get, Array.getD_eq_getD_getElem?, Array.getElem?_eq_none behind]
  rw [activeAmong, padded, activeEntries_append_zeros]

theorem activeAmong_of_size_le {cells : Cells} {count : Nat} (all : cells.size ≤ count) :
    cells.activeAmong count = cells.active := by
  have kept : cells.kept.toList.length ≤ cells.size := cells.kept_le
  rw [active, activeAmong, activeAmong, List.take_of_length_le (Nat.le_trans kept all),
    List.take_of_length_le kept]

/-- Cells that hold the same have the same active entries, however many cells there are. -/
theorem active_eq_of_get {x y : Cells} (same : ∀ number, x.get number = y.get number) :
    x.active = y.active := by
  rw [← activeAmong_of_size_le (Nat.le_max_left x.size y.size),
    ← activeAmong_of_size_le (Nat.le_max_right x.size y.size), activeAmong_eq_range,
    activeAmong_eq_range, funext same]

/-- Cells that hold the same hold zero wherever one of the two has no cell. -/
theorem get_of_min_le {x y : Cells} (same : ∀ number, x.get number = y.get number) {number : Nat}
    (beyond : min x.size y.size ≤ number) : x.get number = .zero ∧ y.get number = .zero := by
  have ended : x.size ≤ number ∨ y.size ≤ number := by omega
  rcases ended with own | other
  · have zero := get_of_size_le own
    exact ⟨zero, (same number).symm.trans zero⟩
  · have zero := get_of_size_le other
    exact ⟨(same number).trans zero, zero⟩

end Cells

namespace State

/-- Two states hold the same in all slots and ports, and have the same status. A cell that a bank
does not have counts as zero, so banks of different sizes can hold the same. -/
structure SameContents (x y : State) : Prop where
  slots : ∀ slot, x.slot slot = y.slot slot
  input : ∀ port, x.input.value port = y.input.value port
  output : ∀ port, x.output.value port = y.output.value port
  status : x.status = y.status

variable {x y z : State} {config other : Config}

theorem SameContents.refl (x : State) : x.SameContents x :=
  ⟨fun _ => rfl, fun _ => rfl, fun _ => rfl, rfl⟩

theorem SameContents.trans (first : x.SameContents y) (second : y.SameContents z) :
    x.SameContents z where
  slots slot := (first.slots slot).trans (second.slots slot)
  input port := (first.input port).trans (second.input port)
  output port := (first.output port).trans (second.output port)
  status := first.status.trans second.status

theorem sameContents_ofSizes (slots ports others morePorts : Nat) :
    (ofSizes slots ports).SameContents (ofSizes others morePorts) where
  slots slot := (Cells.get_ofCount slots slot).trans (Cells.get_ofCount others slot).symm
  input port := (Cells.get_ofCount ports port).trans (Cells.get_ofCount morePorts port).symm
  output port := (Cells.get_ofCount ports port).trans (Cells.get_ofCount morePorts port).symm
  status := rfl

theorem SameContents.store (same : x.SameContents y) {slot : Nat}
    (alike : slot < x.memory.size ↔ slot < y.memory.size) (value : Binary64) :
    (x.store slot value).SameContents (y.store slot value) where
  slots := Cells.get_set_congr same.slots alike value
  input := same.input
  output := same.output
  status := same.status

theorem SameContents.storeOutput (same : x.SameContents y) {port : Nat}
    (alike : port < x.output.size ↔ port < y.output.size) (value : Binary64) :
    { x with output := x.output.store port value }.SameContents
      { y with output := y.output.store port value } where
  slots := same.slots
  input := same.input
  output := Cells.get_set_congr same.output alike value
  status := same.status

theorem SameContents.storeInput (same : x.SameContents y) {port : Nat}
    (alike : port < x.input.size ↔ port < y.input.size) (value : Binary64) :
    { x with input := x.input.store port value }.SameContents
      { y with input := y.input.store port value } where
  slots := same.slots
  input := Cells.get_set_congr same.input alike value
  output := same.output
  status := same.status

end State

namespace Operation

def slots : Operation → List Nat
  | add slot a b | sub slot a b | mult slot a b | div slot a b | phi slot a b => [slot, a, b]
  | sqrt slot source | copy slot source => [slot, source]
  | output _ source | cmpz _ source => [source]
  | input slot _ => [slot]

def ports : Operation → List Nat
  | output port _ | input _ port => [port]
  | _ => []

/-- Whatever the operation names exists for both configurations or for neither. -/
structure SameBounds (config other : Config) (operation : Operation) : Prop where
  slots : ∀ slot ∈ operation.slots, slot < config.memorySlots ↔ slot < other.memorySlots
  ports : ∀ port ∈ operation.ports, port < config.portCount ↔ port < other.portCount

variable {operation : Operation} {x y : State} {config other : Config}

theorem sameBounds_of_sizes (memorySlots : config.memorySlots = other.memorySlots)
    (portCount : config.portCount = other.portCount) : operation.SameBounds config other where
  slots slot _ := by rw [memorySlots]
  ports port _ := by rw [portCount]

theorem InBounds.within (inBounds : operation.InBounds x) (fits : x.Fits config) :
    (∀ slot ∈ operation.slots, slot < config.memorySlots) ∧
      ∀ port ∈ operation.ports, port < config.portCount := by
  cases operation <;>
    simpa [InBounds, Operation.slots, Operation.ports, fits.memory, fits.input, fits.output,
      and_comm] using inBounds

theorem InBounds.sameBounds (inBounds : operation.InBounds x) (otherInBounds : operation.InBounds y)
    (fits : x.Fits config) (otherFits : y.Fits other) : operation.SameBounds config other := by
  obtain ⟨slots, ports⟩ := inBounds.within fits
  obtain ⟨otherSlots, otherPorts⟩ := otherInBounds.within otherFits
  exact ⟨fun slot member => iff_of_true (slots slot member) (otherSlots slot member),
    fun port member => iff_of_true (ports port member) (otherPorts port member)⟩

theorem SameBounds.safe_iff (alike : operation.SameBounds config other) (same : x.SameContents y)
    (fits : x.Fits config) (otherFits : y.Fits other) : operation.Safe x ↔ operation.Safe y := by
  obtain ⟨slots, ports⟩ := alike
  cases operation with
  | phi slot a b =>
    simp only [Operation.slots, List.forall_mem_cons] at slots
    simp only [Safe, fits.memory, otherFits.memory, same.status, slots.1]
    split <;> simp only [slots.2.1, slots.2.2.1]
  | _ =>
    simp only [Operation.slots, Operation.ports, List.forall_mem_cons] at slots ports
    simp [Safe, fits.memory, fits.input, fits.output, otherFits.memory, otherFits.input,
      otherFits.output, same.slots, slots, ports]

end Operation

namespace State

variable {x y : State} {config other : Config}

theorem SameContents.apply (same : x.SameContents y) (fits : x.Fits config)
    (otherFits : y.Fits other) {operation : Operation}
    (alike : operation.SameBounds config other) :
    (operation.apply x).SameContents (operation.apply y) := by
  obtain ⟨slots, ports⟩ := alike
  have store {slot : Nat} (alike : slot < config.memorySlots ↔ slot < other.memorySlots)
      (value : Binary64) : (x.store slot value).SameContents (y.store slot value) := by
    rw [← fits.memory, ← otherFits.memory] at alike
    exact same.store alike value
  cases operation with
  | add slot a b | sub slot a b | mult slot a b =>
    simp only [Operation.apply, same.slots a, same.slots b]
    exact store (slots slot List.mem_cons_self) _
  | div slot a b =>
    simp only [Operation.apply, same.slots a, same.slots b]
    split
    · exact same
    · exact store (slots slot List.mem_cons_self) _
  | phi slot a b =>
    simp only [Operation.apply, same.status, same.slots]
    exact store (slots slot List.mem_cons_self) _
  | sqrt slot source | copy slot source =>
    simp only [Operation.apply, same.slots source]
    exact store (slots slot List.mem_cons_self) _
  | input slot port =>
    simp only [Operation.apply, same.input port]
    exact store (slots slot List.mem_cons_self) _
  | output port source =>
    have alike : port < x.output.size ↔ port < y.output.size := by
      rw [fits.output, otherFits.output]
      exact ports port List.mem_cons_self
    simp only [Operation.apply, same.slots source]
    exact same.storeOutput alike _
  | cmpz mode source =>
    refine ⟨same.slots, same.input, same.output, ?_⟩
    simp only [Operation.apply, same.slots source]

/-- Operations whose numbers both states have or neither has come to their end on both or on
neither, and do the same to both. -/
theorem SameContents.left (same : x.SameContents y) (fits : x.Fits config)
    (otherFits : y.Fits other) {cycle : Cycle}
    (alike : ∀ operation ∈ cycle.operations, operation.SameBounds config other) :
    (cycle.run? x).isSome = (cycle.run? y).isSome ∧ (cycle.left x).SameContents (cycle.left y) := by
  obtain ⟨operations⟩ := cycle
  induction operations generalizing x y with
  | nil => exact ⟨rfl, same⟩
  | cons operation rest ih =>
    obtain ⟨first, others⟩ := List.forall_mem_cons.mp alike
    have safe := first.safe_iff same fits otherFits
    simp only [Cycle.run?, Cycle.left, Cycle.leftBy, List.foldlM_cons]
    by_cases own : operation.Safe x
    · rw [Operation.run?_eq_some_iff.mpr ⟨own, rfl⟩,
        Operation.run?_eq_some_iff.mpr ⟨safe.mp own, rfl⟩]
      exact ih (same.apply fits otherFits first) (fits.apply operation) (otherFits.apply operation)
        others
    · rw [Operation.run?_eq_none_iff.mpr own, Operation.run?_eq_none_iff.mpr (mt safe.mpr own)]
      exact ⟨rfl, same⟩

theorem SameContents.passes (same : x.SameContents y) (fits : x.Fits config)
    (otherFits : y.Fits other) {cycle : Cycle}
    (alike : ∀ operation ∈ cycle.operations, operation.SameBounds config other) (count : Nat) :
    (cycle.passes count x).completed = (cycle.passes count y).completed ∧
      (cycle.passes count x).left.SameContents (cycle.passes count y).left := by
  induction count generalizing x y with
  | zero => exact ⟨rfl, same⟩
  | succ count ih =>
    obtain ⟨ends, left⟩ := same.left fits otherFits alike
    unfold Cycle.passes
    cases ran : cycle.run? x with
    | none =>
      rw [ran, Option.isSome_none, eq_comm, Option.isSome_eq_false_iff,
        Option.isNone_iff_eq_none] at ends
      rw [ends]
      exact ⟨rfl, left⟩
    | some next =>
      rw [ran, Option.isSome_some, eq_comm] at ends
      obtain ⟨otherNext, otherRan⟩ := Option.isSome_iff_exists.mp ends
      obtain rfl := Cycle.left_of_run? ran
      obtain rfl := Cycle.left_of_run? otherRan
      rw [otherRan]
      obtain ⟨completed, last⟩ := ih left (fits.left cycle) (otherFits.left cycle)
      exact ⟨congrArg (· + 1) completed, last⟩

/-- The constants of a program that has room in both states do the same to both. -/
theorem SameContents.install (same : x.SameContents y) (fits : x.Fits config)
    (otherFits : y.Fits other) {program : Program} (room : program.length ≤ config.memorySlots)
    (otherRoom : program.length ≤ other.memorySlots) :
    (x.install program).SameContents (y.install program) where
  slots slot := by
    rw [fits.slot_install room, otherFits.slot_install otherRoom, same.slots]
  input port := by
    rw [(x.frame_install program).1, (y.frame_install program).1, same.input]
  output port := by
    rw [(x.frame_install program).2.1, (y.frame_install program).2.1, same.output]
  status := by
    rw [(x.frame_install program).2.2, (y.frame_install program).2.2, same.status]

end State

end Dataflow
