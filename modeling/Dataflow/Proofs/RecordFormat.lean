import Dataflow.Program.Record

set_option autoImplicit false

namespace Dataflow

/-- The number whose bytes stand from an offset on, lowest first. -/
def numberAt (bytes : List UInt8) (offset : Nat) : Nat → Nat
  | 0 => 0
  | width + 1 =>
    numberAt bytes offset width + (bytes.getD (offset + width) 0).toNat <<< (8 * width)

theorem ofLittleEndian_concat (bytes : List UInt8) (last : UInt8) :
    ofLittleEndian (bytes ++ [last]) =
      ofLittleEndian bytes + last.toNat <<< (8 * bytes.length) := by
  induction bytes with
  | nil => simp [ofLittleEndian]
  | cons first rest ih =>
    change first.toNat + 256 * ofLittleEndian (rest ++ [last]) =
      first.toNat + 256 * ofLittleEndian rest + last.toNat <<< (8 * (rest.length + 1))
    have more : 2 ^ (8 * (rest.length + 1)) = 256 * 2 ^ (8 * rest.length) := by
      rw [Nat.mul_add, Nat.pow_add, Nat.mul_comm]
    rw [ih, Nat.shiftLeft_eq, Nat.shiftLeft_eq, more, Nat.mul_add, Nat.mul_left_comm 256]
    omega

/-- The bytes of a slice stand for the number at its offset. -/
theorem ofLittleEndian_slice {bytes : List UInt8} {offset width : Nat}
    (inside : offset + width ≤ bytes.length) :
    ofLittleEndian ((bytes.drop offset).take width) = numberAt bytes offset width := by
  induction width with
  | zero => simp [ofLittleEndian, numberAt]
  | succ width ih =>
    have before : offset + width < bytes.length := inside
    have present : width < (bytes.drop offset).length := by
      rw [List.length_drop]
      omega
    have size : ((bytes.drop offset).take width).length = width :=
      List.length_take_of_le (Nat.le_of_lt present)
    rw [List.take_succ_eq_append_getElem present, ofLittleEndian_concat, size,
      ih (Nat.le_of_lt before)]
    simp [numberAt, List.getElem_drop, before]

@[simp] theorem length_toLittleEndian (width n : Nat) :
    (toLittleEndian width n).length = width := by
  induction width generalizing n with
  | zero => rfl
  | succ width ih => simp only [toLittleEndian, List.length_cons, ih]

/-- Bytes are those of their number. -/
theorem toLittleEndian_ofLittleEndian (bytes : List UInt8) :
    toLittleEndian bytes.length (ofLittleEndian bytes) = bytes := by
  induction bytes with
  | nil => rfl
  | cons first rest ih =>
    have small := first.toNat_lt
    have low : (first.toNat + 256 * ofLittleEndian rest) % 256 = first.toNat := by omega
    have high : (first.toNat + 256 * ofLittleEndian rest) / 256 = ofLittleEndian rest := by omega
    change UInt8.ofNat ((first.toNat + 256 * ofLittleEndian rest) % 256) ::
      toLittleEndian rest.length ((first.toNat + 256 * ofLittleEndian rest) / 256) = _
    rw [low, high, ih, UInt8.ofNat_toNat]

theorem ofLittleEndian_toLittleEndian {width n : Nat} (fits : n < 1 <<< (8 * width)) :
    ofLittleEndian (toLittleEndian width n) = n := by
  rw [Nat.one_shiftLeft] at fits
  induction width generalizing n with
  | zero =>
    have zero : n = 0 := by omega
    rw [zero]
    rfl
  | succ width ih =>
    have more : 2 ^ (8 * (width + 1)) = 256 * 2 ^ (8 * width) := by
      rw [Nat.mul_add, Nat.pow_add, Nat.mul_comm]
    have high : n / 256 < 2 ^ (8 * width) := by omega
    have low : (UInt8.ofNat (n % 256)).toNat = n % 256 := by
      rw [UInt8.toNat_ofNat']
      omega
    change (UInt8.ofNat (n % 256)).toNat + 256 * ofLittleEndian (toLittleEndian width (n / 256)) = n
    rw [low, ih high]
    omega

theorem ofLittleEndian_lt (bytes : List UInt8) :
    ofLittleEndian bytes < 1 <<< (8 * bytes.length) := by
  rw [Nat.one_shiftLeft]
  induction bytes with
  | nil => decide
  | cons first rest ih =>
    have small := first.toNat_lt
    have more : 2 ^ (8 * (rest.length + 1)) = 256 * 2 ^ (8 * rest.length) := by
      rw [Nat.mul_add, Nat.pow_add, Nat.mul_comm]
    change first.toNat + 256 * ofLittleEndian rest < 2 ^ (8 * (rest.length + 1))
    omega

namespace Line

/-- The line that a byte string holds for a slot. -/
def inBytes (bytes : List UInt8) (slot : Nat) : Line :=
  ofNumbers (numberAt bytes (if slot % 2 = 0 then 12 * slot + 8 else 12 * slot) 4)
    (numberAt bytes (if slot % 2 = 0 then 12 * slot else 12 * slot + 4) 8)

theorem toRecord_ofNumbers (slot : Nat) {word constant : List UInt8} (wordSize : word.length = 4)
    (constantSize : constant.length = 8) :
    (ofNumbers (ofLittleEndian word) (ofLittleEndian constant)).toRecord slot =
      if slot % 2 = 0 then constant ++ word else word ++ constant := by
  have wordFits : ofLittleEndian word < 2 ^ 32 := by simpa [wordSize] using ofLittleEndian_lt word
  have constantFits : ofLittleEndian constant < 2 ^ 64 := by
    simpa [constantSize] using ofLittleEndian_lt constant
  have wordBytes := toLittleEndian_ofLittleEndian word
  have constantBytes := toLittleEndian_ofLittleEndian constant
  rw [wordSize] at wordBytes
  rw [constantSize] at constantBytes
  simp only [toRecord, ofNumbers, Instruction.toWord_ofWord, UInt32.toNat_ofNat',
    UInt64.toNat_ofNat', Nat.mod_eq_of_lt wordFits, Nat.mod_eq_of_lt constantFits, wordBytes,
    constantBytes]

/-- The record of a line gives back the bytes that it was read from. -/
theorem toRecord_inBytes {bytes : List UInt8} {slot : Nat}
    (inside : 12 * (slot + 1) ≤ bytes.length) :
    (inBytes bytes slot).toRecord slot = (bytes.drop (12 * slot)).take 12 := by
  have slice (offset width : Nat) (fits : offset + width ≤ bytes.length) :
      ((bytes.drop offset).take width).length = width := by
    rw [List.length_take, List.length_drop]
    omega
  unfold inBytes
  split <;> rename_i parity <;>
    rw [← ofLittleEndian_slice (by omega), ← ofLittleEndian_slice (by omega),
      toRecord_ofNumbers slot (slice _ _ (by omega)) (slice _ _ (by omega))]
  · rw [if_pos parity, ← List.drop_drop]
    exact (List.take_add).symm
  · rw [if_neg parity, ← List.drop_drop]
    exact (List.take_add).symm

/-- The line that the record of a line stands for: its instruction is that of its word. -/
def reread (line : Line) : Line := ⟨.ofWord line.instruction.toWord, line.constant⟩

theorem length_toRecord (line : Line) (slot : Nat) : (line.toRecord slot).length = recordSize := by
  unfold toRecord
  split <;> simp [recordSize]

theorem ofNumbers_littleEndian (line : Line) :
    ofNumbers (ofLittleEndian (toLittleEndian 4 line.instruction.toWord.toNat))
      (ofLittleEndian (toLittleEndian 8 line.constant.bits.toNat)) = line.reread := by
  rw [ofLittleEndian_toLittleEndian line.instruction.toWord.toNat_lt,
    ofLittleEndian_toLittleEndian line.constant.bits.toNat_lt, ofNumbers, UInt32.ofNat_toNat,
    UInt64.ofNat_toNat]
  rfl

/-- The record of a line is taken whole, whatever follows it. -/
theorem takeRecord?_toRecord_append (line : Line) (slot : Nat) (rest : List UInt8) :
    takeRecord? slot (line.toRecord slot ++ rest) = some (line.reread, rest) := by
  have size := line.length_toRecord slot
  have enough : recordSize ≤ (line.toRecord slot ++ rest).length := by
    rw [List.length_append]
    omega
  apply takeRecord?_eq_some_iff.mpr
  refine ⟨enough, (List.drop_left' size).symm, ?_⟩
  rw [← line.ofNumbers_littleEndian]
  unfold toRecord
  split <;> simp

end Line

namespace Program

/-- The lines read and the bytes left, at any time while a byte string is read. The count of lines
tells which field of a record comes first and how many bytes are consumed. -/
structure ReadSoFar (whole : List UInt8) (lines : Array Line) (bytes : List UInt8) : Prop where
  consumed : 12 * lines.size ≤ whole.length
  left : bytes = whole.drop (12 * lines.size)
  read : ∀ slot (inside : slot < lines.size), lines[slot] = Line.inBytes whole slot

variable {whole bytes : List UInt8} {lines : Array Line}

theorem readSoFar_start (whole : List UInt8) : ReadSoFar whole #[] whole :=
  ⟨Nat.zero_le _, by simp, by simp⟩

/-- One record further, the count of lines still tells how many bytes are consumed. -/
theorem ReadSoFar.step (soFar : ReadSoFar whole lines bytes) {line : Line} {rest : List UInt8}
    (taken : Line.takeRecord? lines.size bytes = some (line, rest)) :
    ReadSoFar whole (lines.push line) rest := by
  obtain ⟨enough, rfl, rfl⟩ := Line.takeRecord?_eq_some_iff.mp taken
  obtain ⟨consumed, rfl, read⟩ := soFar
  simp only [Line.recordSize, List.length_drop] at enough
  refine ⟨?_, ?_, ?_⟩
  · rw [Array.size_push]
    omega
  · rw [Array.size_push, List.drop_drop, Line.recordSize, Nat.mul_succ]
  · intro slot inside
    rw [Array.getElem_push]
    split
    · exact read slot _
    · have last : slot = lines.size := by
        rw [Array.size_push] at inside
        omega
      subst last
      unfold Line.inBytes
      split <;>
        rw [← ofLittleEndian_slice (by omega), ← ofLittleEndian_slice (by omega), List.drop_drop]

/-- All records are read, and fewer bytes than a record has are left. -/
theorem ReadSoFar.readRecords (soFar : ReadSoFar whole lines bytes) :
    ReadSoFar whole (Program.readRecords lines bytes).1 (Program.readRecords lines bytes).2 ∧
      (Program.readRecords lines bytes).2.length < 12 := by
  fun_induction Program.readRecords lines bytes with
  | case1 lines bytes line rest taken ih => exact ih (soFar.step taken)
  | case2 lines bytes taken => exact ⟨soFar, Line.takeRecord?_eq_none_iff.mp taken⟩

theorem lines_ofBytes (bytes : List UInt8) :
    (ofBytes bytes).lines =
      (List.range (bytes.length / 12)).map fun slot => Line.inBytes bytes slot := by
  obtain ⟨⟨consumed, left, read⟩, rest⟩ := (readSoFar_start bytes).readRecords
  have count : (readRecords #[] bytes).1.size = bytes.length / 12 := by
    rw [left, List.length_drop] at rest
    omega
  apply List.ext_getElem
  · simpa [ofBytes] using count
  · intro slot inside _
    have line := read slot (by simpa [ofBytes] using inside)
    simp only [ofBytes, Array.getElem_toList, List.getElem_map, List.getElem_range]
    exact line

/-- The records of the first lines in a byte string are its first bytes. -/
theorem flatMap_toRecord_inBytes (bytes : List UInt8) {count : Nat}
    (inside : 12 * count ≤ bytes.length) :
    (((List.range count).map (Line.inBytes bytes)).zipIdx).flatMap
      (fun (line, slot) => line.toRecord slot) = bytes.take (12 * count) := by
  induction count with
  | zero => simp
  | succ count ih =>
    have record := Line.toRecord_inBytes inside
    rw [List.range_succ, List.map_append, List.zipIdx_append, List.flatMap_append,
      ih (by omega), Nat.mul_succ, List.take_add, ← record]
    simp

/-- Reading records loses nothing: every whole record becomes the line of its slot, with the
constant and the word at their places in the record, and writing gives back all whole records. -/
theorem ofBytes_lossless (bytes : List UInt8) :
    (ofBytes bytes).length = bytes.length / 12 ∧
      (∀ slot < bytes.length / 12, (ofBytes bytes).placed[slot]? = some
        (⟨.ofWord (UInt32.ofNat
            (numberAt bytes (if slot % 2 = 0 then 12 * slot + 8 else 12 * slot) 4)),
          ⟨UInt64.ofNat
            (numberAt bytes (if slot % 2 = 0 then 12 * slot else 12 * slot + 4) 8)⟩⟩, slot)) ∧
      (ofBytes bytes).toBytes = bytes.take (12 * (bytes.length / 12)) := by
  refine ⟨by simp [length, lines_ofBytes], fun slot inside => ?_, ?_⟩
  · simp [placed, lines_ofBytes, inside, Line.inBytes, Line.ofNumbers]
  · rw [toBytes, placed, lines_ofBytes]
    exact flatMap_toRecord_inBytes bytes (Nat.mul_div_le _ _)

/-- The records of lines, the first of which has a given slot. -/
def records (slot : Nat) (lines : List Line) : List UInt8 :=
  (lines.zipIdx slot).flatMap fun (line, slot) => line.toRecord slot

theorem readRecords_records (before : Array Line) (lines : List Line) :
    readRecords before (records before.size lines) =
      ((before.toList ++ lines.map Line.reread).toArray, []) := by
  induction lines generalizing before with
  | nil =>
    have nothing : Line.takeRecord? before.size (records before.size []) = none :=
      Line.takeRecord?_eq_none_iff.mpr (show 0 < Line.recordSize by decide)
    rw [readRecords]
    split <;> rename_i taken <;> rw [nothing] at taken <;> cases taken
    simp [records]
  | cons line lines ih =>
    -- The slot of the next record is the number of lines before it, in writing as in reading.
    have first : Line.takeRecord? before.size (records before.size (line :: lines)) =
        some (line.reread, records (before.size + 1) lines) :=
      line.takeRecord?_toRecord_append before.size _
    have rest := ih (before.push line.reread)
    rw [Array.size_push] at rest
    rw [readRecords]
    split <;> rename_i taken <;> rw [first] at taken <;> cases taken
    rw [rest]
    simp

/-- A program that was written is read whole, each line with the instruction of its word. -/
theorem readRecords_toBytes (program : Program) :
    readRecords #[] program.toBytes = ((program.lines.map Line.reread).toArray, []) :=
  readRecords_records #[] program.lines

theorem lines_ofBytes_toBytes (program : Program) :
    (ofBytes program.toBytes).lines = program.lines.map Line.reread := by
  rw [ofBytes, readRecords_toBytes]

end Program

end Dataflow
