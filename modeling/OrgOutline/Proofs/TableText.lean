import OrgOutline.Export
import OrgOutline.Proofs.Mapped
import OrgOutline.Proofs.TableLookups
import OrgOutline.Proofs.WholeLines
import OrgOutline.Proofs.WritingVisits

/-!
# What a table is written as

A table is laid out by the raw texts of its cells and by what is seen of them (`Cell.seen`). Main statement: a table whose raw
cells are strings is written exactly if what is seen of each cell can be written, and then as the layout of its cells
(`outcome_writeTable_eq_ok_iff`). Its lines are those of its rows, with a separator between each two (`Table.lines_text`).
-/

namespace OrgOutline

variable {s : Setup}

/-! ## Cells -/

/-- What is seen of a cell: its content as it is measured, or nothing if that cannot be written. -/
def Cell.seen (s : Setup) (c : Cell) : Text := (Parts.write s .seen c.content).result?.getD []

/-- What is seen of the cell can be written. -/
def Cell.IsMeasured (s : Setup) (c : Cell) : Prop := (Parts.write s .seen c.content).outcome = .ok (c.seen s)

/-- A cell as it is laid out. -/
def Cell.entry (s : Setup) (c : Cell) : Entry := .ofSeen c.rawText (c.seen s)

theorem Cell.outcome_write_content_eq_ok_iff {c : Cell} {seen : Text} :
    (Parts.write s .seen c.content).outcome = .ok seen ↔ c.IsMeasured s ∧ seen = c.seen s := Run.outcome_eq_ok_iff_getD []

theorem outcome_measureCells_eq_ok_iff {cells : Row} {entries : List Entry} :
    (measureCells s cells).outcome = .ok entries ↔ (∀ c ∈ cells, c.IsMeasured s) ∧ entries = cells.map (Cell.entry s) := by
  induction cells generalizing entries with
  | nil =>
    rw [measureCells, Run.outcome_pure, Except.ok.injEq, List.map_nil]
    exact ⟨fun h => ⟨List.forall_mem_nil _, h.symm⟩, fun h => h.2.symm⟩
  | cons c cells ih =>
    simp only [measureCells_cons, Run.outcome_bind_eq_ok, Cell.outcome_write_content_eq_ok_iff, ih, Run.outcome_pure,
      Except.ok.injEq, List.forall_mem_cons, List.map_cons]
    constructor
    · rintro ⟨seen, ⟨hc, rfl⟩, rest, ⟨hcells, rfl⟩, rfl⟩
      exact ⟨⟨hc, hcells⟩, rfl⟩
    · rintro ⟨⟨hc, hcells⟩, rfl⟩
      exact ⟨_, ⟨hc, rfl⟩, _, ⟨hcells, rfl⟩, rfl⟩

theorem outcome_measureRows_eq_ok_iff {rows : List Row} {entries : List (List Entry)} :
    (measureRows s rows).outcome = .ok entries ↔
      (∀ row ∈ rows, ∀ c ∈ row, c.IsMeasured s) ∧ entries = rows.map (List.map (Cell.entry s)) := by
  induction rows generalizing entries with
  | nil =>
    rw [measureRows, Run.outcome_pure, Except.ok.injEq, List.map_nil]
    exact ⟨fun h => ⟨List.forall_mem_nil _, h.symm⟩, fun h => h.2.symm⟩
  | cons row rows ih =>
    simp only [measureRows, Run.outcome_bind_eq_ok, outcome_measureCells_eq_ok_iff, ih, Run.outcome_pure,
      Except.ok.injEq, List.forall_mem_cons, List.map_cons]
    constructor
    · rintro ⟨entries, ⟨hrow, rfl⟩, rest, ⟨hrows, rfl⟩, rfl⟩
      exact ⟨⟨hrow, hrows⟩, rfl⟩
    · rintro ⟨⟨hrow, hrows⟩, rfl⟩
      exact ⟨_, ⟨hrow, rfl⟩, _, ⟨hrows, rfl⟩, rfl⟩

/-! ## Tables -/

theorem outcome_finishTable {rows : List Row} (raws : ∀ row ∈ rows, ∀ c ∈ row, c.raw.isString = true)
    (entries : List (List Entry)) : (finishTable rows entries).outcome = .ok (Table.text entries) := by
  rw [finishTable, checkText_eq_ok raws]
  rfl

theorem outcome_write_table_eq_ok_iff {rows : List Row} (raws : ∀ row ∈ rows, ∀ c ∈ row, c.raw.isString = true)
    {piece : Piece} : ((Record.table rows).write s .raw).outcome = .ok piece ↔
      (∀ row ∈ rows, ∀ c ∈ row, c.IsMeasured s) ∧ piece = some (Table.text (rows.map (List.map (Cell.entry s)))) := by
  rw [Record.write]
  split
  · rename_i hempty
    obtain rfl := List.isEmpty_iff.1 hempty
    rw [Run.outcome_pure, Except.ok.injEq]
    exact ⟨fun h => ⟨List.forall_mem_nil _, h.symm⟩, fun h => h.2.symm⟩
  · constructor
    · intro h
      obtain ⟨_, -, hmeasure⟩ := Run.outcome_bind_eq_ok.1 h
      obtain ⟨entries, hentries, hfinish⟩ := Run.outcome_bind_eq_ok.1 hmeasure
      obtain ⟨text, htext, hpiece⟩ := Run.outcome_bind_eq_ok.1 hfinish
      obtain ⟨hmeasured, rfl⟩ := outcome_measureRows_eq_ok_iff.1 hentries
      rw [outcome_finishTable raws, Except.ok.injEq] at htext
      rw [htext]
      exact ⟨hmeasured, (Except.ok.inj hpiece).symm⟩
    · rintro ⟨hmeasured, rfl⟩
      refine Run.outcome_bind_eq_ok.2 ⟨(), checkCountable_eq_ok raws, ?_⟩
      refine Run.outcome_bind_eq_ok.2 ⟨_, outcome_measureRows_eq_ok_iff.2 ⟨hmeasured, rfl⟩, ?_⟩
      exact Run.outcome_bind_eq_ok.2 ⟨_, outcome_finishTable raws _, rfl⟩

/-- A table whose raw cells are strings is written exactly if what is seen of each cell can be, and then as the layout of its
cells. -/
theorem outcome_writeTable_eq_ok_iff {rows : List Row} (raws : ∀ row ∈ rows, ∀ c ∈ row, c.raw.isString = true) {text : Text} :
    ((Record.table rows).writeTable s).outcome = .ok text ↔
      (∀ row ∈ rows, ∀ c ∈ row, c.IsMeasured s) ∧ text = Table.text (rows.map (List.map (Cell.entry s))) := by
  have hjoin : ∀ t : Text, Piece.join [some t] = .ok t := by
    intro t
    rw [Piece.join, Piece.join, Except.map, List.append_nil]
  rw [Record.writeTable, Run.outcome_bind_eq_ok]
  simp only [outcome_write_table_eq_ok_iff raws, Run.outcome_ofExcept]
  constructor
  · rintro ⟨_, ⟨h, rfl⟩, htext⟩
    rw [hjoin, Except.ok.injEq] at htext
    exact ⟨h, htext.symm⟩
  · rintro ⟨h, rfl⟩
    exact ⟨_, ⟨h, rfl⟩, hjoin _⟩

/-- The raw cells of a well-typed table are strings. -/
theorem Record.WellTyped.raws {rows : List Row} (typed : (Record.table rows).WellTyped) :
    ∀ row ∈ rows, ∀ c ∈ row, c.raw.isString = true := by
  intro row hrow c hc
  have hrow : (Record.row row).WellTyped := typed.of_mem_children (List.mem_map_of_mem hrow)
  exact (hrow.of_mem_children (c := .cell c) (List.mem_map_of_mem hc)).fieldsTyped

/-- The rows of a well-typed table are of one length. -/
theorem Record.WellTyped.isEven {rows : List Row} (typed : (Record.table rows).WellTyped) : IsEven rows := by
  intro row hrow
  exact beq_iff_eq.1 (List.all_eq_true.1 typed.fieldsTyped row hrow)

/-! ## Lines -/

namespace Text

theorem trim_sublist (t : Text) : t.trim.Sublist t :=
  (trimEnd_isPrefix t.trimStart).sublist.trans (List.dropWhile_suffix _).sublist

end Text

/-- A line of a cell has no newline in it. -/
theorem Entry.newline_not_mem_rawLine (e : Entry) (i : Nat) : '\n' ∉ e.rawLine i := by
  unfold rawLine
  cases h : e.raw.lines[i]? with
  | none => exact List.not_mem_nil
  | some l =>
    intro hmem
    exact Text.newline_not_mem_of_mem_lines (List.mem_of_getElem? h) ((Text.trim_sublist l).subset hmem)

namespace Table

/-- Fields between bars. -/
def barred (fields : List Text) : Text := ['|', ' '] ++ [' ', '|', ' '].intercalate fields ++ [' ', '|']

/-- The fields of a line of a row. -/
def rowFields (widths : List Nat) (row : List Entry) (i : Nat) : List Text := List.zipWith (fun w e => e.line w i) widths row

theorem newline_not_mem_rowLine (widths : List Nat) (row : List Entry) (i : Nat) : '\n' ∉ rowLine widths row i := by
  have hfields : ∀ f ∈ rowFields widths row i, '\n' ∉ f := by
    unfold rowFields
    intro f hf
    obtain ⟨j, hj, rfl⟩ := List.mem_iff_getElem.1 hf
    rw [List.getElem_zipWith]
    simp [Entry.line, Entry.newline_not_mem_rawLine, Text.spaces]
  have hjoined : '\n' ∉ [' ', '|', ' '].intercalate (rowFields widths row i) := not_mem_intercalate (by decide) hfields
  simp only [rowLine, List.mem_append, not_or]
  exact ⟨⟨by decide, hjoined⟩, by decide⟩

theorem newline_not_mem_separator (widths : List Nat) : '\n' ∉ separator widths := by
  have hdashes : ∀ d ∈ widths.map (fun w => List.replicate (w + 2) '-'), '\n' ∉ d := by
    simp [List.mem_replicate]
  have hjoined : '\n' ∉ ['+'].intercalate (widths.map fun w => List.replicate (w + 2) '-') :=
    not_mem_intercalate (by decide) hdashes
  simp [separator, hjoined]

/-- A table has the lines of its rows and a line between each two. -/
theorem length_linesOf (widths : List Nat) (rows : List (List Entry)) :
    (linesOf widths rows).length = (rows.map rowHeight).sum + (rows.length - 1) := by
  unfold linesOf
  induction rows with
  | nil => rfl
  | cons row rows ih =>
    have hrow : (rowLines widths row).length = rowHeight row := by rw [rowLines, List.length_map, List.length_range]
    cases rows with
    | nil => simp [hrow]
    | cons row' rows =>
      rw [List.map_cons, List.map_cons, List.intercalate_cons_cons, ← List.map_cons, List.length_append, List.length_append, ih]
      simp [hrow]
      omega

/-- The lines of a table are those of its rows, with a separator between each two. -/
theorem lines_text {rows : List (List Entry)} (h : rows ≠ []) :
    (text rows).lines = linesOf (columnWidths rows) rows := by
  have hline : ∀ l ∈ linesOf (columnWidths rows) rows, '\n' ∉ l := by
    refine forall_mem_intercalate ?_ ?_
    · intro l hl
      rw [List.mem_singleton.1 hl]
      exact newline_not_mem_separator _
    · intro block hblock l hl
      obtain ⟨row, -, rfl⟩ := List.mem_map.1 hblock
      obtain ⟨i, -, rfl⟩ := List.mem_map.1 hl
      exact newline_not_mem_rowLine _ row i
  refine Text.lines_unlines ?_ hline
  have hlength := length_linesOf (columnWidths rows) rows
  obtain ⟨row, rest, rfl⟩ := List.exists_cons_of_ne_nil h
  refine List.ne_nil_of_length_pos ?_
  rw [hlength, List.map_cons, List.sum_cons, rowHeight]
  omega

end Table

end OrgOutline
