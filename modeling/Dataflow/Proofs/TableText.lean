import Dataflow.Text.Table

set_option autoImplicit false

namespace Dataflow.Text

def Within (part text : String) : Prop := part.toList <:+: text.toList

theorem Within.trans {part line text : String} (first : Within part line)
    (second : Within line text) : Within part text :=
  List.IsInfix.trans first second

theorem within_between (start part rest : String) : Within part (start ++ part ++ rest) := by
  simp only [Within, String.toList_append]
  exact List.infix_append _ _ _

theorem within_start (part rest : String) : Within part (part ++ rest) := by
  simpa using within_between "" part rest

theorem within_end (start part : String) : Within part (start ++ part) := by
  simpa using within_between start part ""

theorem within_join {part : String} {parts : List String} (member : part ∈ parts) :
    Within part (String.join parts) := by
  rw [Within, String.toList_join, List.flatMap_def]
  exact List.infix_of_mem_flatten (List.mem_map_of_mem member)

namespace Cell

/-- Filling a line up puts blanks on one side of it. -/
theorem within_fill (alignment : Alignment) (width : Nat) (line : String) :
    Within line (fill alignment width line) := by
  cases alignment with
  | left => exact within_start _ _
  | right => exact within_end _ _

theorem within_line (cell : Cell) (width : Nat) {index : Nat} {line : String}
    (held : cell.lines.getD index "" = line) : Within line (cell.line width index) := by
  rw [Cell.line, held]
  exact (within_fill _ _ _).trans (within_between _ _ _)

end Cell

namespace Table

theorem length_widen (widths others : List Nat) :
    (widen widths others).length = max widths.length others.length := by
  fun_induction widen widths others with
  | case1 others => simp
  | case2 widths nonempty => simp
  | case3 width rest other others ih => simp only [List.length_cons, ih, Nat.succ_max_succ]

theorem length_le_widths (table : Table) {row : List Cell} (member : row ∈ table.rows) :
    row.length ≤ table.widths.length := by
  have grown (rows : List (List Cell)) (start : List Nat) :
      start.length ≤
          (rows.foldl (fun widths row => widen widths (row.map Cell.width)) start).length ∧
        ∀ row ∈ rows, row.length ≤
          (rows.foldl (fun widths row => widen widths (row.map Cell.width)) start).length := by
    induction rows generalizing start with
    | nil => exact ⟨Nat.le_refl _, fun _ member => by cases member⟩
    | cons first rest ih =>
      obtain ⟨kept, wide⟩ := ih (widen start (first.map Cell.width))
      rw [length_widen, List.length_map] at kept
      refine ⟨Nat.le_trans (Nat.le_max_left _ _) kept, fun row member => ?_⟩
      rcases List.mem_cons.mp member with rfl | member
      · exact Nat.le_trans (Nat.le_max_right _ _) kept
      · exact wide row member
  exact (grown table.rows _).2 row member

/-- The lines of a row of two cells stand in the table side by side, as far as one of the cells
has any. -/
theorem mem_lines_of_pair {table : Table} {first second : Cell}
    (member : [first, second] ∈ table.rows) {index : Nat}
    (inside : index < first.lines.size ∨ index < second.lines.size) :
    ∃ width other : Nat,
      " " ++ (first.line width index ++ "│" ++ second.line other index) ++ " " ∈ table.lines := by
  obtain ⟨width, other, rest, widths⟩ :
      ∃ width other rest, table.widths = width :: other :: rest := by
    have enough := table.length_le_widths member
    match widths : table.widths, enough with
    | width :: other :: rest, _ => exact ⟨width, other, rest, rfl⟩
  refine ⟨width, other, ?_⟩
  have high : index < [first.lines.size, second.lines.size].foldl max 1 := by
    simp only [List.foldl_cons, List.foldl_nil]
    omega
  have placed : " " ++ (first.line width index ++ "│" ++ second.line other index) ++ " " ∈
      rowLines table.widths [first, second] := by
    rw [widths]
    refine List.mem_map.mpr ⟨index, List.mem_range.mpr high, ?_⟩
    simp
  simp only [lines, List.mem_append, List.mem_flatMap]
  exact .inl (.inr ⟨_, member, placed⟩)

theorem within_text {table : Table} {line : String} (member : line ∈ table.lines) :
    Within line table.text :=
  (within_start line "\n").trans (within_join (List.mem_map_of_mem member))

/-- A row of two lines stands in one line of the table, with only the mark between the columns and
its margins in the middle. -/
theorem exists_line_of_entry {table : Table} {label value : String}
    (member : [.right label, .left value] ∈ table.rows) :
    ∃ line ∈ table.lines, Within (label ++ " │ " ++ value) line := by
  have inside : 0 < (Cell.right label).lines.size := Nat.one_pos
  obtain ⟨width, other, shown⟩ := mem_lines_of_pair member (.inl inside)
  refine ⟨_, shown, ?_⟩
  -- The label ends at the right end of its column, and the value starts at the left end of its own.
  obtain ⟨before, labelled⟩ : ∃ before, (Cell.right label).line width 0 = before ++ label ++ " " :=
    ⟨" " ++ String.ofList (List.replicate (width - label.length) ' '), by
      simp [Cell.line, Cell.fill, Cell.right, String.append_assoc]⟩
  obtain ⟨behind, valued⟩ : ∃ behind, (Cell.left value).line other 0 = " " ++ value ++ behind :=
    ⟨String.ofList (List.replicate (other - value.length) ' ') ++ " ", by
      simp [Cell.line, Cell.fill, Cell.left, String.append_assoc]⟩
  have parts : " " ++ ((Cell.right label).line width 0 ++ "│" ++ (Cell.left value).line other 0) ++
      " " = (" " ++ before) ++ (label ++ " │ " ++ value) ++ (behind ++ " ") := by
    have mark : " │ " = " " ++ ("│" ++ " ") := by decide
    simp only [labelled, valued, mark, String.append_assoc]
  rw [parts]
  exact within_between _ _ _

/-- Every line of either cell in a row of two stands in the text of the table. -/
theorem within_text_of_pair {table : Table} {first second : Cell}
    (member : [first, second] ∈ table.rows) {line : String}
    (held : line ∈ first.lines ∨ line ∈ second.lines) : Within line table.text := by
  rcases held with held | held
  · obtain ⟨index, inside, here⟩ := Array.mem_iff_getElem.mp held
    obtain ⟨width, other, shown⟩ := mem_lines_of_pair member (.inl inside)
    have own : Within line (first.line width index) :=
      first.within_line width (by simp [inside, here])
    have beside := within_start (first.line width index) ("│" ++ second.line other index)
    rw [← String.append_assoc] at beside
    exact ((own.trans beside).trans (within_between _ _ _)).trans (within_text shown)
  · obtain ⟨index, inside, here⟩ := Array.mem_iff_getElem.mp held
    obtain ⟨width, other, shown⟩ := mem_lines_of_pair member (.inr inside)
    have own : Within line (second.line other index) :=
      second.within_line other (by simp [inside, here])
    have beside := within_end (first.line width index ++ "│") (second.line other index)
    exact ((own.trans beside).trans (within_between _ _ _)).trans (within_text shown)

end Table

end Dataflow.Text
