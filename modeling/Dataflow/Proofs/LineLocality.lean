import Dataflow.Proofs.Assembled
import Dataflow.Proofs.Checks

set_option autoImplicit false

namespace Dataflow

open Assembly Assembly.Grammar

namespace Text

/-- The text is empty or ends with the end of a line. -/
def Ended (text : List Char) : Prop := text = [] ∨ text.getLast? = some '\n'

instance (text : List Char) : Decidable (Ended text) :=
  inferInstanceAs (Decidable (_ ∨ _))

/-- The text with a carriage return before every line feed. -/
def withReturns (text : List Char) : List Char :=
  text.flatMap fun c => if c = '\n' then ['\r', '\n'] else [c]

theorem withReturns_feed (text : List Char) :
    withReturns ('\n' :: text) = '\r' :: '\n' :: withReturns text := rfl

theorem withReturns_cons {c : Char} (noFeed : c ≠ '\n') (text : List Char) :
    withReturns (c :: text) = c :: withReturns text := by
  rw [withReturns, List.flatMap_cons, if_neg noFeed]
  rfl

theorem length_split (mark : Char) (text : List Char) :
    (split mark text).length = text.count mark + 1 := by
  induction text with
  | nil => rfl
  | cons c text ih =>
    obtain ⟨part, parts, same⟩ := List.exists_cons_of_ne_nil (split_ne_nil mark text)
    rw [split_cons, List.count_cons, Nat.add_right_comm, ← ih, same]
    unfold addToParts
    split
    · rename_i isMark
      rw [if_pos (beq_iff_eq.mpr isMark)]
      rfl
    · rename_i other
      rw [if_neg (other ∘ beq_iff_eq.mp)]
      rfl

variable {text : List Char}

/-- The lines of an ended text are the parts before its line feeds. -/
theorem lines_concat (before : List Char) :
    lines (before ++ ['\n']) = (split '\n' before).map dropReturn := by
  rw [lines, split_append_mark, linesOfParts_append _ (split_ne_nil _ [])]
  exact List.append_nil _

theorem Ended.eq_nil_or_concat (ended : Ended text) :
    text = [] ∨ ∃ before, text = before ++ ['\n'] :=
  ended.imp_right List.getLast?_eq_some_iff.mp

/-- What stands behind the end of a line does not change the lines before it. -/
theorem Ended.lines_append (ended : Ended text) (rest : List Char) :
    lines (text ++ rest) = lines text ++ lines rest := by
  obtain rfl | ⟨before, rfl⟩ := ended.eq_nil_or_concat
  · rfl
  · rw [lines_concat, List.append_assoc, List.singleton_append, lines, split_append_mark,
      linesOfParts_append _ (split_ne_nil _ rest), ← lines]

theorem Ended.length_lines (ended : Ended text) : (lines text).length = text.count '\n' := by
  obtain rfl | ⟨before, rfl⟩ := ended.eq_nil_or_concat
  · rfl
  · rw [lines_concat, List.length_map, length_split, List.count_append]
    rfl

/-- Behind the start of a line, carriage returns before the line feeds change no line. -/
theorem lines_append_withReturns {start : List Char} (noFeed : '\n' ∉ start)
    (noReturn : '\r' ∉ start) (plain : '\r' ∉ text) :
    lines (start ++ withReturns text) = lines (start ++ text) := by
  induction text generalizing start with
  | nil => rfl
  | cons c text ih =>
    have rest : '\r' ∉ text := fun member => plain (List.mem_cons_of_mem c member)
    by_cases feed : c = '\n'
    · -- The line ends here, with one return too many, which is dropped.
      have ended : '\n' ∉ start ++ ['\r'] := by
        rw [List.mem_append, List.mem_singleton]
        exact fun member => member.elim noFeed (by decide)
      have dropped : dropReturn (start ++ ['\r']) = start := by
        rw [dropReturn, List.getLast?_concat, if_pos rfl, List.dropLast_concat]
      have behind : lines (withReturns text) = lines text :=
        ih List.not_mem_nil List.not_mem_nil rest
      rw [feed, withReturns_feed, List.append_cons, lines_line ended, lines_line noFeed, dropped,
        dropReturn_of_not_mem noReturn, behind]
    · have noFeedYet : '\n' ∉ start ++ [c] := by
        rw [List.mem_append, List.mem_singleton]
        exact fun member => member.elim noFeed fun same => feed same.symm
      have noReturnYet : '\r' ∉ start ++ [c] := by
        rw [List.mem_append, List.mem_singleton]
        exact fun member => member.elim noReturn fun same => plain (same ▸ List.mem_cons_self)
      rw [withReturns_cons feed, List.append_cons, List.append_cons start c text]
      exact ih noFeedYet noReturnYet rest

/-- Ending lines with a carriage return too does not change them, in a text without returns. -/
theorem lines_withReturns (plain : '\r' ∉ text) : lines (withReturns text) = lines text :=
  lines_append_withReturns List.not_mem_nil List.not_mem_nil plain

end Text

/-- The error with a line number that is so much higher. -/
def AssemblyError.raised (error : AssemblyError) (count : Nat) : AssemblyError :=
  ⟨error.line + count, error.fault⟩

theorem AssemblyError.raised_comm (error : AssemblyError) (count further : Nat) :
    (error.raised count).raised further = (error.raised further).raised count :=
  congrArg (mk · error.fault) (Nat.add_right_comm _ _ _)

namespace Assembly

def Faulty (line : List Char) : Prop := ∃ fault, assembleLine line = .error fault

/-- The result of a line, with its number in an error. -/
def assembleNumbered (numbered : List Char × Nat) : Except AssemblyError (Option Line) :=
  (assembleLine numbered.1).mapError (⟨numbered.2, ·⟩)

theorem assembleLines_eq_mapM (lines : List (List Char × Nat)) :
    assembleLines lines = lines.mapM assembleNumbered := by
  rw [assembleLines]
  congr 1
  funext ⟨line, number⟩
  rw [assembleNumbered]
  dsimp only
  cases assembleLine line <;> rfl

theorem assembleNumbered_eq_error_iff {numbered : List Char × Nat} {error : AssemblyError} :
    assembleNumbered numbered = .error error ↔
      error.line = numbered.2 ∧ assembleLine numbered.1 = .error error.fault := by
  obtain ⟨number, fault⟩ := error
  rw [assembleNumbered]
  cases assembleLine numbered.1 <;> simp [Except.mapError, eq_comm]

theorem exists_assembleNumbered_eq_error_iff (numbered : List Char × Nat) :
    (∃ error, assembleNumbered numbered = .error error) ↔ Faulty numbered.1 := by
  simp only [assembleNumbered_eq_error_iff]
  constructor
  · rintro ⟨error, -, refused⟩
    exact ⟨error.fault, refused⟩
  · rintro ⟨fault, refused⟩
    exact ⟨⟨numbered.2, fault⟩, rfl, refused⟩

theorem assembleLines_append (first second : List (List Char × Nat)) :
    assembleLines (first ++ second) =
      match assembleLines first, assembleLines second with
      | .error error, _ => .error error
      | .ok _, .error error => .error error
      | .ok results, .ok others => .ok (results ++ others) := by
  have whole : assembleLines (first ++ second) =
      (do return (← assembleLines first) ++ (← assembleLines second)) := List.mapM_append
  rw [whole]
  cases assembleLines first with
  | error error => rfl
  | ok results => cases assembleLines second <;> rfl

/-- Lines with higher numbers give the same results, and errors with higher numbers. -/
theorem assembleLines_zipIdx_add (lines : List (List Char)) (start count : Nat) :
    assembleLines (lines.zipIdx (start + count)) =
      (assembleLines (lines.zipIdx start)).mapError (·.raised count) := by
  induction lines generalizing start with
  | nil => rfl
  | cons line lines ih =>
    rw [List.zipIdx_cons, List.zipIdx_cons, assembleLines_cons, assembleLines_cons,
      Nat.add_right_comm, ih]
    cases assembleLine line with
    | error fault => rfl
    | ok result => cases assembleLines (lines.zipIdx (start + 1)) <;> rfl

/-- The first refused line decides the error, and its number is the one that is named. -/
theorem assembleLines_zipIdx_eq_error_iff {lines : List (List Char)} {start : Nat}
    {error : AssemblyError} : assembleLines (lines.zipIdx start) = .error error ↔
      ∃ place line, FirstWith Faulty lines place line ∧ error.line = start + place ∧
        assembleLine line = .error error.fault := by
  rw [assembleLines_eq_mapM, mapM_eq_error_iff]
  constructor
  · rintro ⟨place, ⟨line, number⟩, first, refused⟩
    obtain ⟨counted, first⟩ := firstWith_zipIdx_iff.mp
      (first.congr fun numbered _ => exists_assembleNumbered_eq_error_iff numbered)
    obtain ⟨named, fault⟩ := assembleNumbered_eq_error_iff.mp refused
    exact ⟨place, line, first, named.trans counted, fault⟩
  · rintro ⟨place, line, first, named, fault⟩
    have numbered : FirstWith (fun numbered => Faulty numbered.1) (lines.zipIdx start) place
        (line, start + place) := firstWith_zipIdx_iff.mpr ⟨rfl, first⟩
    exact ⟨place, (line, start + place),
      numbered.congr fun numbered _ => (exists_assembleNumbered_eq_error_iff numbered).symm,
      assembleNumbered_eq_error_iff.mpr ⟨named, fault⟩⟩

end Assembly

namespace Program

variable {first second blank : String}

theorem ofAssembly_eq_error_iff {text : String} {error : AssemblyError} :
    ofAssembly text = .error error ↔
      ∃ place line, FirstWith Faulty (Text.lines text.toList) place line ∧
        error.line = place + 1 ∧ assembleLine line = .error error.fault := by
  simp only [ofAssembly, bind_eq_error_iff, pure, Except.pure, reduceCtorEq, and_false,
    exists_false, or_false, assembleLines_zipIdx_eq_error_iff, Nat.add_comm 1]

/-- A text behind the end of a line is assembled on its own. -/
theorem ofAssembly_append_eq (ended : Text.Ended first.toList) (second : String) :
    ofAssembly (first ++ second) =
      match ofAssembly first, ofAssembly second with
      | .error error, _ => .error error
      | .ok _, .error error => .error (error.raised (Text.lines first.toList).length)
      | .ok program, .ok rest => .ok (program.append rest.lines) := by
  rw [ofAssembly, ofAssembly, ofAssembly, String.toList_append, ended.lines_append,
    List.zipIdx_append, assembleLines_append, assembleLines_zipIdx_add]
  cases assembleLines ((Text.lines first.toList).zipIdx 1) with
  | error error => rfl
  | ok results =>
    cases assembleLines ((Text.lines second.toList).zipIdx 1) with
    | error error => rfl
    | ok others =>
      show Except.ok (⟨(results ++ others).filterMap id⟩ : Program) = _
      rw [List.filterMap_append]
      rfl

theorem ofAssembly_eq_empty
    (skipped : ∀ line ∈ Text.lines blank.toList, LineForm line none) :
    ofAssembly blank = .ok .empty := by
  have nothing (line : List Char) (member : line ∈ Text.lines blank.toList) :
      assembleLine line = .ok none :=
    assembleLine_of_form (skipped line member)
  cases assembled : ofAssembly blank with
  | error error =>
    obtain ⟨place, line, first, -, refused⟩ := ofAssembly_eq_error_iff.mp assembled
    rw [nothing line (List.mem_of_getElem? first.found)] at refused
    cases refused
  | ok program =>
    have empty : program.lines = [] := by
      refine List.eq_nil_iff_forall_not_mem.mpr fun line member => ?_
      obtain ⟨source, inText, made⟩ := (mem_lines_ofAssembly assembled).mp member
      rw [nothing source inText] at made
      cases made
    exact congrArg (fun lines => Except.ok (mk lines)) empty

theorem line_of_error {text : String} {error : AssemblyError}
    (refused : ofAssembly text = .error error) :
    0 < error.line ∧ error.line ≤ (Text.lines text.toList).length := by
  obtain ⟨place, line, first, numbered, -⟩ := ofAssembly_eq_error_iff.mp refused
  obtain ⟨inside, -⟩ := List.getElem?_eq_some_iff.mp first.found
  omega

/-- Lines without statements take no slot, and raise the numbers of the lines behind them. -/
theorem ofAssembly_insert (ended : Text.Ended first.toList) (alsoEnded : Text.Ended blank.toList)
    (skipped : ∀ line ∈ Text.lines blank.toList, LineForm line none) (second : String) :
    (∀ program, ofAssembly (first ++ second) = .ok program →
      ofAssembly (first ++ blank ++ second) = .ok program) ∧
    ∀ error, ofAssembly (first ++ second) = .error error →
      ofAssembly (first ++ blank ++ second) =
        .error (if error.line ≤ (Text.lines first.toList).length then error
          else error.raised (Text.lines blank.toList).length) := by
  have behind : ofAssembly (blank ++ second) =
      (ofAssembly second).mapError (·.raised (Text.lines blank.toList).length) := by
    rw [ofAssembly_append_eq alsoEnded, ofAssembly_eq_empty skipped]
    cases ofAssembly second <;> rfl
  rw [String.append_assoc, ofAssembly_append_eq ended, ofAssembly_append_eq ended, behind]
  cases before : ofAssembly first with
  | error error =>
    refine ⟨nofun, fun other same => ?_⟩
    cases same
    rw [if_pos (line_of_error before).2]
  | ok program =>
    cases after : ofAssembly second with
    | ok rest => exact ⟨fun _ same => same, nofun⟩
    | error error =>
      refine ⟨nofun, fun other same => ?_⟩
      cases same
      have counted := (line_of_error after).1
      have beyond : ¬ (error.raised (Text.lines first.toList).length).line ≤
          (Text.lines first.toList).length := by
        show ¬ error.line + _ ≤ _
        omega
      rw [if_neg beyond, error.raised_comm]
      rfl

theorem placed_append (program : Program) (lines : List Line) :
    (program.append lines).placed = program.placed ++
      (mk lines).placed.map fun (line, slot) => (line, program.length + slot) := by
  rw [placed, append, List.zipIdx_append, Nat.zero_add]
  exact congrArg (program.placed ++ ·) List.zipIdx_eq_map_add

/-- Assembly is line-local. A text behind the end of a line is assembled on its own: its lines
follow those before it in the next slots, and its error counts the lines before it, unless one of
these is refused. Lines without a statement take no slot but are counted. The error is that of the
first refused line, and ending lines with a carriage return too changes nothing. -/
theorem ofAssembly_lineLocal :
    (∀ {first : String}, Text.Ended first.toList →
      (Text.lines first.toList).length = first.toList.count '\n' ∧
      ∀ second : String,
        (∀ error, ofAssembly first = .error error →
          ofAssembly (first ++ second) = .error error) ∧
        ∀ program, ofAssembly first = .ok program →
          (∀ error, ofAssembly second = .error error →
            ofAssembly (first ++ second) =
              .error (error.raised (Text.lines first.toList).length)) ∧
          ∀ rest, ofAssembly second = .ok rest →
            ofAssembly (first ++ second) = .ok (program.append rest.lines) ∧
              (program.append rest.lines).placed = program.placed ++
                rest.placed.map fun (line, slot) => (line, program.length + slot)) ∧
    (∀ {blank : String}, (∀ line ∈ Text.lines blank.toList, LineForm line none) →
      ofAssembly blank = .ok .empty ∧
      ∀ {first : String} (second : String), Text.Ended first.toList → Text.Ended blank.toList →
        (∀ program, ofAssembly (first ++ second) = .ok program →
          ofAssembly (first ++ blank ++ second) = .ok program) ∧
        ∀ error, ofAssembly (first ++ second) = .error error →
          ofAssembly (first ++ blank ++ second) =
            .error (if error.line ≤ (Text.lines first.toList).length then error
              else error.raised (Text.lines blank.toList).length)) ∧
    (∀ text error, ofAssembly text = .error error ↔
      ∃ place line, FirstWith Faulty (Text.lines text.toList) place line ∧
        error.line = place + 1 ∧ assembleLine line = .error error.fault) ∧
    ∀ text : String, '\r' ∉ text.toList →
      ofAssembly (String.ofList (Text.withReturns text.toList)) = ofAssembly text := by
  refine ⟨fun ended => ⟨ended.length_lines, fun second => ⟨?_, ?_⟩⟩,
    fun skipped => ⟨ofAssembly_eq_empty skipped, ?_⟩, fun _ _ => ofAssembly_eq_error_iff, ?_⟩
  · intro error refused
    rw [ofAssembly_append_eq ended, refused]
  · intro program begun
    refine ⟨fun error refused => ?_, fun rest behind => ⟨?_, placed_append program rest.lines⟩⟩
    · rw [ofAssembly_append_eq ended, begun, refused]
    · rw [ofAssembly_append_eq ended, begun, behind]
  · intro first second ended alsoEnded
    exact ofAssembly_insert ended alsoEnded skipped second
  · intro text plain
    rw [ofAssembly, ofAssembly, String.toList_ofList, Text.lines_withReturns plain]

/-- A comment and a sum, with a statement behind them, with a refused one, behind a refused one,
with lines without a statement in between, and with carriage returns. -/
theorem ofAssembly_lineLocal_sum :
    let first := "# sum\nAdd(0, 1)\n"
    let blank := "\n  # none\n"
    let faulty := "Noop\nJump(3)\n"
    let sum : Line := ⟨.ofDual .add 0 1, .zero⟩
    let copy : Line := ⟨.ofSingle .copy 2, ⟨0x3FF8000000000000⟩⟩
    let jump := AssemblyFault.notAnOperation "Jump"
    ofAssembly (first ++ "Copy(2) = 1.5") = .ok ⟨[sum, copy]⟩ ∧
      ofAssembly (first ++ faulty) = .error ⟨4, jump⟩ ∧
      ofAssembly (faulty ++ first) = .error ⟨2, jump⟩ ∧
      ofAssembly (first ++ blank ++ faulty) = .error ⟨6, jump⟩ ∧
      ofAssembly (String.ofList (Text.withReturns first.toList)) = .ok ⟨[sum]⟩ := by
  intro first blank faulty sum copy jump
  have begun : ofAssembly first = .ok ⟨[sum]⟩ := by decide +kernel
  have behind : ofAssembly "Copy(2) = 1.5" = .ok ⟨[copy]⟩ := by decide +kernel
  have refused : ofAssembly faulty = .error ⟨2, jump⟩ := by decide +kernel
  have ended : Text.Ended first.toList := by decide +kernel
  have read : ∀ line ∈ Text.lines blank.toList, readLine? line = some none := by decide +kernel
  have lines : (Text.lines first.toList).length = 2 := by decide +kernel
  have blankLines : (Text.lines blank.toList).length = 2 := by decide +kernel
  obtain ⟨append, insert, -, returns⟩ := ofAssembly_lineLocal
  obtain ⟨-, behindFirst⟩ := append ended
  obtain ⟨-, behindFaulty⟩ := append (show Text.Ended faulty.toList by decide +kernel)
  have failed := ((behindFirst faulty).2 _ begun).1 _ refused
  have skipped := insert fun line member => readLine?_eq_some_iff.mp (read line member)
  have inserted := (skipped.2 faulty ended (by decide +kernel)).2 _ failed
  rw [lines, blankLines] at inserted
  rw [lines] at failed
  refine ⟨(((behindFirst _).2 _ begun).2 _ behind).1, failed, (behindFaulty first).1 _ refused,
    inserted, ?_⟩
  rw [returns first (by decide +kernel), begun]

end Program

end Dataflow
