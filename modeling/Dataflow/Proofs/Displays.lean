import Dataflow.Proofs.Contents
import Dataflow.Proofs.TableText

set_option autoImplicit false

namespace Dataflow

open Text (Table Within)

/-- The values that equal zero are the two zeros; a NaN does not. -/
theorem Binary64.equals_zero (x : Binary64) : x.equals .zero = x.isZero := by
  cases same : x.isZero with
  | true =>
    have magnitude : x.magnitude = 0 := by simpa [isZero] using same
    have number : x.isNaN = false := by simp [isNaN, magnitude]
    have zeroNumber : zero.isNaN = false := by decide
    simp [equals, number, zeroNumber, same]
  | false =>
    have other : (x == .zero) = false := by
      rw [beq_eq_false_iff_ne]
      rintro rfl
      cases same
    simp [equals, other, same]

namespace Cells

/-- Active entries stand in ascending order of their numbers. -/
theorem ascending_activeEntries (values : List Binary64) :
    ((activeEntries values).map Prod.snd).Pairwise (· < ·) := by
  have numbers : (values.zipIdx.map Prod.snd).Pairwise (· < ·) := by
    rw [List.zipIdx_map_snd]
    exact List.pairwise_lt_range'
  exact numbers.sublist (List.filter_sublist.map Prod.snd)

theorem mem_active_iff {cells : Cells} {value : Binary64} {number : Nat} :
    (value, number) ∈ cells.active ↔
      number < cells.size ∧ cells.get number = value ∧ value.equals .zero = false := by
  rw [active_eq, activeEntries, List.mem_filter, List.mk_mem_zipIdx_iff_getElem?,
    Binary64.equals_zero, Bool.not_eq_true', ← and_assoc]
  refine and_congr_left fun _ => ?_
  by_cases inside : number < cells.size
  · rw [getElem?_toList cells number inside, Option.some.injEq, and_iff_right inside]
  · simp [inside]

/-- Looking at the first cells only shows all active ones, if the others hold zero. -/
theorem activeAmong_eq_active {cells : Cells} {count : Nat}
    (blank : ∀ number, count ≤ number → cells.get number = .zero) :
    cells.activeAmong count = cells.active := by
  have whole : cells.size ≤ count + (cells.size - count) := by omega
  have zeros : (List.range (cells.size - count)).map (fun number => cells.get (count + number)) =
      List.replicate (cells.size - count) .zero := by
    rw [List.eq_replicate_iff]
    refine ⟨by simp, fun value member => ?_⟩
    obtain ⟨number, -, rfl⟩ := List.mem_map.mp member
    exact blank _ (Nat.le_add_right count number)
  rw [← activeAmong_of_size_le whole, activeAmong_eq_range, activeAmong_eq_range, List.range_add,
    List.map_append, List.map_map, Function.comp_def, zeros, activeEntries_append_zeros]

/-- The table has a row for every cell that does not equal zero, in ascending order and each once,
and no other row. All of them stand in the text. -/
structure ShownIn (cells : Cells) (label : Nat → String) (table : Table) (text : String) :
    Prop where
  rows : ∃ numbers : List Nat, numbers.Pairwise (· < ·) ∧
    (∀ number, number ∈ numbers ↔
      number < cells.size ∧ (cells.get number).equals .zero = false) ∧
    table.rows = numbers.map fun number =>
      [.right (label number), .left ((cells.get number).text .report)]
  stands : ∀ number < cells.size, (cells.get number).equals .zero = false →
    Within (label number ++ " │ " ++ (cells.get number).text .report) text

/-- A table of the active entries shows the cells wherever its lines stand. -/
theorem shownIn_of_active {cells : Cells} {label : Nat → String} {table : Table} {text : String}
    (rows : table.rows = cells.active.map fun (value, number) =>
      [.right (label number), .left (value.text .report)])
    (lines : ∀ line ∈ table.lines, Within line text) : cells.ShownIn label table text where
  rows := by
    refine ⟨cells.active.map Prod.snd, ?_, fun number => ?_, ?_⟩
    · rw [active_eq]
      exact ascending_activeEntries _
    · rw [List.mem_map]
      constructor
      · rintro ⟨⟨value, number⟩, member, rfl⟩
        obtain ⟨inside, rfl, live⟩ := mem_active_iff.mp member
        exact ⟨inside, live⟩
      · rintro ⟨inside, live⟩
        exact ⟨(cells.get number, number), mem_active_iff.mpr ⟨inside, rfl, live⟩, rfl⟩
    · rw [rows, List.map_map]
      refine List.map_congr_left fun (value, number) member => ?_
      obtain ⟨-, held, -⟩ := mem_active_iff.mp member
      rw [Function.comp_apply, held]
  stands number inside live := by
    have active : (cells.get number, number) ∈ cells.active :=
      mem_active_iff.mpr ⟨inside, rfl, live⟩
    have entry : [.right (label number), .left ((cells.get number).text .report)] ∈ table.rows := by
      rw [rows]
      exact List.mem_map.mpr ⟨_, active, rfl⟩
    obtain ⟨line, member, within⟩ := Table.exists_line_of_entry entry
    exact within.trans (lines line member)

end Cells

namespace Machine

variable {machine : Machine}

def memoryTable (machine : Machine) : Table := registerTable "M" machine.activeSlots

def outputTable (machine : Machine) : Table := registerTable "O" machine.activeOutputs

def registerLabel (letter : String) (number : Nat) : String :=
  letter ++ "[" ++ Nat.repr number ++ "] ="

theorem rows_registers (machine : Machine) :
    machine.registers.rows = [[⟨.left, machine.memoryTable.lines.toArray⟩,
      ⟨.left, machine.outputTable.lines.toArray⟩]] := rfl

/-- A display holds the lines of both of its tables. -/
theorem within_display_of_line {line : String}
    (member : line ∈ machine.memoryTable.lines ∨ line ∈ machine.outputTable.lines) :
    Within line machine.display := by
  have pair : [⟨.left, machine.memoryTable.lines.toArray⟩,
      ⟨.left, machine.outputTable.lines.toArray⟩] ∈ machine.registers.rows := by
    rw [rows_registers]
    exact List.mem_singleton_self _
  have shown : Within line machine.registers.text :=
    Table.within_text_of_pair pair (by simpa using member)
  exact shown.trans (Text.within_end _ _)

theorem Retains.slot_behind (retains : machine.Retains) {slot : Nat}
    (behind : machine.program.length ≤ slot) : machine.state.slot slot = .zero := by
  have missing : machine.program.lines[slot]? = none := List.getElem?_eq_none behind
  have unwritten : machine.program.Unwritten slot := fun line found => by
    cases missing.symm.trans found
  rw [retains slot unwritten, Program.initial, missing, Option.elim_none]

/-- The slots of the program are all that a display has to look at. -/
theorem Retains.activeSlots_eq_active (retains : machine.Retains) :
    machine.activeSlots = machine.state.memory.active :=
  Cells.activeAmong_eq_active fun _ => retains.slot_behind

/-- A display is made of two tables, one with a row for every slot of the whole memory and one with
a row for every output port that does not equal zero. A report has a row for every such port. -/
structure ShowsAll (machine : Machine) : Prop where
  registers : machine.registers.rows = [[⟨.left, machine.memoryTable.lines.toArray⟩,
    ⟨.left, machine.outputTable.lines.toArray⟩]]
  memory : machine.state.memory.ShownIn (registerLabel "M") machine.memoryTable machine.display
  output : machine.state.output.cells.ShownIn (registerLabel "O") machine.outputTable
    machine.display
  report : machine.state.output.cells.ShownIn Nat.repr machine.report machine.report.text

theorem Retains.showsAll (retains : machine.Retains) : machine.ShowsAll where
  registers := machine.rows_registers
  memory := by
    refine Cells.shownIn_of_active ?_ fun line member => within_display_of_line (.inl member)
    rw [← retains.activeSlots_eq_active]
    rfl
  output := Cells.shownIn_of_active rfl fun line member => within_display_of_line (.inr member)
  report := Cells.shownIn_of_active rfl fun line => Table.within_text

/-- After every history, a machine shows exactly the values that do not equal zero, of its whole
memory and of all its output ports. -/
theorem after_display {config : Config} {fresh : Machine} (made : ofConfig config = .ok fresh)
    (history : List Action) :
    (fresh.after history).state.Fits config ∧ (fresh.after history).ShowsAll := by
  obtain ⟨-, rfl⟩ := ofConfig_eq_ok_iff.mp made
  have same : ((build config).after history).config = config := config_after _ history
  have sized : ((build config).after history).Sized := (sized_build config).after history
  have retains : ((build config).after history).Retains :=
    (wellFormed_build config).retains_after (fun _ _ => Cells.get_ofCount _ _) history
  rw [Sized, same] at sized
  exact ⟨sized, retains.showsAll⟩

/-- A short program that replaces a longer one and is followed by one that is refused. Of what it
holds, the zero of negative sign is not shown, and the NaN is. -/
theorem after_display_shorter :
    let one : Binary64 := ⟨0x3FF0000000000000⟩
    let long : Program := ⟨List.replicate 5 ⟨.ofSingle .copy 4, one⟩⟩
    let short : Program := ⟨[⟨.ofSingle .input 7, .zero⟩, ⟨.noop, ⟨0x8000000000000000⟩⟩,
      ⟨.ofDual .output 3 2, .nan⟩]⟩
    let outside : Program := ⟨[⟨.ofSingle .input 32768, one⟩]⟩
    let machine := (build .default).after
      [.install long, .run 2, .install short, .write 7 one, .cycle, .install outside]
    machine.memoryTable.rows =
        [[.right "M[0] =", .left "1"], [.right "M[2] =", .left "NaN"]] ∧
      Within "M[2] = │ NaN" machine.display ∧ Within "3 │ NaN" machine.report.text ∧
      machine.ShowsAll := by
  intro one long short outside machine
  have made : ofConfig .default = .ok (build .default) := rfl
  obtain ⟨fits, shows⟩ : machine.state.Fits .default ∧ machine.ShowsAll := after_display made _
  have rows : machine.memoryTable.rows =
      [[.right "M[0] =", .left "1"], [.right "M[2] =", .left "NaN"]] := by decide +kernel
  have slot : machine.state.memory.get 2 = .nan := by decide +kernel
  have port : machine.state.output.cells.get 3 = .nan := by decide +kernel
  clear_value machine
  have slotInside : 2 < machine.state.memory.size := fits.memory ▸ (by decide)
  have portInside : 3 < machine.state.output.size := fits.output ▸ (by decide)
  have slotShown := shows.memory.stands 2 slotInside (slot ▸ by decide)
  have portShown := shows.report.stands 3 portInside (port ▸ by decide)
  rw [slot] at slotShown
  rw [port] at portShown
  exact ⟨rows, slotShown, portShown, shows⟩

end Machine

end Dataflow
