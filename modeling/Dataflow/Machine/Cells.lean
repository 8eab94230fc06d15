import Dataflow.Numeric.Binary64

set_option autoImplicit false

namespace Dataflow

/-- A fixed number of cells, which all hold zero at first. Only those up to the last one stored to
are kept, so cells in any number take no room before they are used. -/
structure Cells where
  size : Nat
  /-- The cells up to the last one stored to; all behind them hold zero. -/
  kept : Array Binary64
  kept_le : kept.size ≤ size
deriving DecidableEq

namespace Cells

/-- So many cells, each holding zero. -/
def ofCount (count : Nat) : Cells := ⟨count, #[], Nat.zero_le count⟩

/-- The value in a cell; zero where there is no cell. -/
def get (cells : Cells) (number : Nat) : Binary64 := cells.kept.getD number .zero

/-- An array with a value behind it at an index, and zero in between. -/
def appendAt (values : Array Binary64) (index : Nat) (value : Binary64) : Array Binary64 :=
  (values ++ Array.replicate (index - values.size) Binary64.zero).push value

/-- The cells with a value stored in one of them; where there is no cell nothing is stored. -/
def set (cells : Cells) (number : Nat) (value : Binary64) : Cells :=
  match cells with
  | ⟨size, kept, kept_le⟩ =>
    if held : number < kept.size then
      ⟨size, kept.setIfInBounds number value, by simpa using kept_le⟩
    else if inside : number < size then
      ⟨size, appendAt kept number value, by simp only [appendAt, Array.size_push,
        Array.size_append, Array.size_replicate]; omega⟩
    else ⟨size, kept, kept_le⟩

def toList (cells : Cells) : List Binary64 :=
  cells.kept.toList ++ List.replicate (cells.size - cells.kept.size) .zero

/-- The entries that do not hold zero, with their numbers, in order. -/
def activeEntries (values : List Binary64) : List (Binary64 × Nat) :=
  values.zipIdx.filter fun (value, _) => !value.isZero

/-- The cells among the first ones that do not hold zero, with their numbers, in order. -/
def activeAmong (cells : Cells) (count : Nat) : List (Binary64 × Nat) :=
  activeEntries (cells.kept.toList.take count)

def active (cells : Cells) : List (Binary64 × Nat) := cells.activeAmong cells.size

/-- Numeric equality cell by cell, so that cells with a NaN equal nothing. -/
def equals (x y : Cells) : Bool :=
  x.size == y.size &&
    (List.range (max x.kept.size y.kept.size)).all fun number =>
      (x.get number).equals (y.get number)

@[simp] theorem get_ofCount (count number : Nat) : (ofCount count).get number = .zero := by
  simp [ofCount, get]

@[simp] theorem size_set (cells : Cells) (number : Nat) (value : Binary64) :
    (cells.set number value).size = cells.size := by
  obtain ⟨size, kept, kept_le⟩ := cells
  by_cases held : number < kept.size
  · simp only [set, held, dif_pos]
  · by_cases inside : number < size <;>
      simp only [set, held, inside, dif_pos, dif_neg, not_false_eq_true]

theorem getD_appendAt (values : Array Binary64) (index other : Nat) (value : Binary64)
    (behind : values.size ≤ index) :
    (appendAt values index value).getD other .zero =
      if other = index then value else values.getD other .zero := by
  simp only [appendAt, Array.getD_eq_getD_getElem?, Array.getElem?_push, Array.size_append,
    Array.size_replicate, Array.getElem?_append, Array.getElem?_replicate]
  by_cases here : other = index
  · have last : other = values.size + (index - values.size) := by omega
    rw [if_pos last, if_pos here]
    rfl
  · have last : other ≠ values.size + (index - values.size) := by omega
    simp only [last, here, if_false]
    by_cases held : other < values.size
    · simp only [held, if_true]
    · simp only [held, if_false, Array.getElem?_eq_none (Nat.le_of_not_lt held)]
      split <;> rfl

/-- A stored value is read where it was stored, and no other cell changes. -/
theorem get_set (cells : Cells) (number other : Nat) (value : Binary64)
    (inside : number < cells.size) :
    (cells.set number value).get other = if other = number then value else cells.get other := by
  obtain ⟨size, kept, kept_le⟩ := cells
  by_cases held : number < kept.size
  · simp only [set, get, held, dif_pos]
    by_cases same : number = other
    · subst same
      simp [held]
    · simp [same, Ne.symm same]
  · simp only [set, get, held, dif_neg, not_false_eq_true, show number < size from inside, dif_pos]
    exact getD_appendAt kept number other value (Nat.le_of_not_lt held)

@[simp] theorem length_toList (cells : Cells) : cells.toList.length = cells.size := by
  have := cells.kept_le
  simp only [toList, List.length_append, Array.length_toList, List.length_replicate]
  omega

/-- The list holds what the cells hold. -/
theorem getElem?_toList (cells : Cells) (number : Nat) (inside : number < cells.size) :
    cells.toList[number]? = some (cells.get number) := by
  simp only [toList, List.getElem?_append, Array.length_toList, List.getElem?_replicate, get,
    Array.getD_eq_getD_getElem?]
  by_cases held : number < cells.kept.size
  · simp [held]
  · have more : number - cells.kept.size < cells.size - cells.kept.size := by omega
    simp [held, more]

/-- Zeros behind other values are no active entries. -/
theorem activeEntries_append_zeros (values : List Binary64) (count : Nat) :
    activeEntries (values ++ List.replicate count .zero) = activeEntries values := by
  have zeros : ((List.replicate count Binary64.zero).zipIdx values.length).filter
      (fun (value, _) => !value.isZero) = [] := by
    rw [List.filter_eq_nil_iff]
    rintro ⟨value, number⟩ member
    have zero : value = .zero := List.eq_of_mem_replicate (List.fst_mem_of_mem_zipIdx member)
    simp [zero]
  simp only [activeEntries, List.zipIdx_append, List.filter_append, Nat.zero_add, zeros,
    List.append_nil]

theorem activeAmong_eq (cells : Cells) (count : Nat) :
    cells.activeAmong count = activeEntries (cells.toList.take count) := by
  rw [activeAmong, toList, List.take_append, List.take_replicate, activeEntries_append_zeros]

theorem active_eq (cells : Cells) : cells.active = activeEntries cells.toList := by
  rw [active, activeAmong_eq, List.take_of_length_le (Nat.le_of_eq cells.length_toList)]

end Cells

end Dataflow
