import Dataflow.Program.Basic

set_option autoImplicit false

namespace Dataflow

/-- The number of a byte string whose lowest byte comes first. -/
def ofLittleEndian (bytes : List UInt8) : Nat :=
  bytes.foldr (fun byte rest => byte.toNat + 256 * rest) 0

/-- A number as so many bytes, lowest first. -/
def toLittleEndian : Nat → Nat → List UInt8
  | 0, _ => []
  | width + 1, n => UInt8.ofNat (n % 256) :: toLittleEndian width (n / 256)

/-- So many bytes at the front of a byte string, and what follows them, if there are as many. -/
def takeBytes? : Nat → List UInt8 → Option (List UInt8 × List UInt8)
  | 0, bytes => some ([], bytes)
  | _ + 1, [] => none
  | count + 1, byte :: bytes =>
    (takeBytes? count bytes).map fun (front, rest) => (byte :: front, rest)

/-- The number in so many bytes at the front of a byte string, and what follows them. -/
def takeNumber? (width : Nat) (bytes : List UInt8) : Option (Nat × List UInt8) :=
  (takeBytes? width bytes).map fun (front, rest) => (ofLittleEndian front, rest)

def takePair? (width other : Nat) (bytes : List UInt8) : Option ((Nat × Nat) × List UInt8) := do
  let (first, bytes) ← takeNumber? width bytes
  let (second, bytes) ← takeNumber? other bytes
  return ((first, second), bytes)

namespace Line

def recordSize : Nat := 12

/-- The line whose instruction word and constant have these numbers. -/
def ofNumbers (word constant : Nat) : Line :=
  ⟨.ofWord (UInt32.ofNat word), ⟨UInt64.ofNat constant⟩⟩

/-- The line of the record at the front of a byte string, for a slot, and what follows the
record. -/
def takeRecord? (slot : Nat) (bytes : List UInt8) : Option (Line × List UInt8) :=
  if slot % 2 = 0 then
    (takePair? 8 4 bytes).map fun ((constant, word), rest) => (ofNumbers word constant, rest)
  else (takePair? 4 8 bytes).map fun ((word, constant), rest) => (ofNumbers word constant, rest)

def toRecord (slot : Nat) (line : Line) : List UInt8 :=
  let word := toLittleEndian 4 line.instruction.toWord.toNat
  let constant := toLittleEndian 8 line.constant.bits.toNat
  if slot % 2 = 0 then constant ++ word else word ++ constant

end Line

theorem takeBytes?_eq (count : Nat) (bytes : List UInt8) :
    takeBytes? count bytes =
      if count ≤ bytes.length then some (bytes.take count, bytes.drop count) else none := by
  induction count generalizing bytes with
  | zero => simp [takeBytes?]
  | succ count ih =>
    cases bytes with
    | nil => simp [takeBytes?]
    | cons byte bytes =>
      simp only [takeBytes?, ih, List.length_cons, Nat.add_le_add_iff_right]
      split <;> simp

theorem takeNumber?_eq (width : Nat) (bytes : List UInt8) :
    takeNumber? width bytes =
      if width ≤ bytes.length then some (ofLittleEndian (bytes.take width), bytes.drop width)
      else none := by
  simp only [takeNumber?, takeBytes?_eq]
  split <;> rfl

theorem takePair?_eq (width other : Nat) (bytes : List UInt8) :
    takePair? width other bytes =
      if width + other ≤ bytes.length then
        some ((ofLittleEndian (bytes.take width), ofLittleEndian ((bytes.drop width).take other)),
          bytes.drop (width + other))
      else none := by
  rw [takePair?, takeNumber?_eq]
  by_cases front : width ≤ bytes.length
  · have both : other ≤ bytes.length - width ↔ width + other ≤ bytes.length := by omega
    simp only [front, if_true, bind, Option.bind_some, takeNumber?_eq, List.length_drop,
      List.drop_drop, both]
    split <;> rfl
  · rw [if_neg front, if_neg (show ¬ width + other ≤ bytes.length by omega)]
    rfl

theorem Line.takeRecord?_eq_some_iff {slot : Nat} {bytes rest : List UInt8} {line : Line} :
    takeRecord? slot bytes = some (line, rest) ↔
      recordSize ≤ bytes.length ∧ rest = bytes.drop recordSize ∧
        line = if slot % 2 = 0 then
          ofNumbers (ofLittleEndian ((bytes.drop 8).take 4)) (ofLittleEndian (bytes.take 8))
        else
          ofNumbers (ofLittleEndian (bytes.take 4)) (ofLittleEndian ((bytes.drop 4).take 8)) := by
  unfold takeRecord?
  by_cases enough : 12 ≤ bytes.length <;> split <;>
    simp [takePair?_eq, enough, recordSize, eq_comm, and_comm]

theorem Line.takeRecord?_eq_none_iff {slot : Nat} {bytes : List UInt8} :
    takeRecord? slot bytes = none ↔ bytes.length < recordSize := by
  unfold takeRecord?
  split <;> simp [takePair?_eq, recordSize]

namespace Program

/-- The lines read so far with those of the records of a byte string behind them, and the bytes
behind the last whole record. The slot of the next record is the number of lines before it. -/
def readRecords (lines : Array Line) (bytes : List UInt8) : Array Line × List UInt8 :=
  match _taken : Line.takeRecord? lines.size bytes with
  | some (line, rest) => readRecords (lines.push line) rest
  | none => (lines, bytes)
termination_by bytes.length
decreasing_by
  obtain ⟨enough, rfl, -⟩ := Line.takeRecord?_eq_some_iff.mp _taken
  simp only [Line.recordSize, List.length_drop] at enough ⊢
  omega

/-- The program of the whole records of a byte string. -/
def ofBytes (bytes : List UInt8) : Program := ⟨(readRecords #[] bytes).1.toList⟩

/-- The bytes after the last whole record, which belong to no line. -/
def leftover (bytes : List UInt8) : List UInt8 := (readRecords #[] bytes).2

/-- The records of the lines, in order. In even slots the constant comes first, in odd slots the
word. -/
def toBytes (program : Program) : List UInt8 :=
  program.placed.flatMap fun (line, slot) => line.toRecord slot

end Program

end Dataflow
