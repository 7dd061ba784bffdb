import Mathlib.Data.List.Forall2
import Mathlib.Order.Bounds.Basic
import OrgOutline.Proofs.TableText

/-!
# The layout of a written table

A written table consists of the lines of its rows, in which fields stand between bars (`Table.barred`), and of a separator
between each two rows. A field is the raw line of a cell, filled up with spaces by as much as what is seen of the line falls
short of the width of the column. Main statement: a well-typed table is written exactly if what is seen of its cells can be, and
then its text has this layout (`Table.layout_of_writeTable`). If every line of a cell is as long as what is seen of it, the bars
of all lines stand in the same columns.
-/

namespace OrgOutline

/-! ## Cells and rows -/

/-- A raw line of the cell without the blanks around it; empty below the last line. -/
def Cell.rawLine (c : Cell) (i : Nat) : Text := (c.rawText.lines[i]?.map Text.trim).getD []

/-- The width of a line that is seen of the cell, without the blanks around it; zero below the last line. -/
def Cell.seenWidth (s : Setup) (c : Cell) (i : Nat) : Nat := ((c.seen s).lines[i]?.map fun l => l.trim.length).getD 0

/-- A row is as high as its highest raw cell, which has a line more than it has newlines. -/
def Row.height (row : Row) : Nat := 1 + (row.map fun c => c.rawText.count '\n').foldr max 0

variable {s : Setup}

theorem Cell.rawLine_entry (c : Cell) (i : Nat) : (c.entry s).rawLine i = c.rawLine i := rfl

theorem Cell.seenWidth_entry (c : Cell) (i : Nat) : (c.entry s).seenWidth i = c.seenWidth s i := by
  rw [Entry.seenWidth, Cell.entry, Entry.ofSeen, List.getElem?_map, Cell.seenWidth]

theorem Row.rowHeight_entries (row : Row) : Table.rowHeight (row.map (Cell.entry s)) = row.height := by
  rw [Table.rowHeight, List.map_map, Row.height]
  rfl

/-! ## Bars -/

namespace Table

/-- The column of the bar behind the first `k` of fields with the given lengths: each field has a space on both sides. -/
def barColumn (lengths : List Nat) (k : Nat) : Nat := ((lengths.take k).map (· + 3)).sum

@[simp] theorem barColumn_zero (lengths : List Nat) : barColumn lengths 0 = 0 := by simp [barColumn]

theorem barColumn_cons_succ (n : Nat) (lengths : List Nat) (k : Nat) :
    barColumn (n :: lengths) (k + 1) = n + 3 + barColumn lengths k := by
  simp [barColumn]

theorem barred_singleton (f : Text) : barred [f] = ('|' :: ' ' :: f ++ [' ']) ++ ['|'] := by
  simp [barred]

/-- A field in front of others. -/
theorem barred_cons (f : Text) {fields : List Text} (h : fields ≠ []) :
    barred (f :: fields) = ('|' :: ' ' :: f ++ [' ']) ++ barred fields := by
  simp [barred, List.intercalate_cons_of_ne_nil h]

theorem length_barred {fields : List Text} (h : fields ≠ []) :
    (barred fields).length = (fields.map List.length).sum + 3 * fields.length + 1 := by
  induction fields with
  | nil => exact absurd rfl h
  | cons f fields ih =>
    cases fields with
    | nil =>
      rw [barred_singleton]
      simp
    | cons f' fields =>
      rw [barred_cons f (List.cons_ne_nil _ _), List.length_append, ih (List.cons_ne_nil _ _)]
      simp only [List.map_cons, List.sum_cons, List.length_cons, List.length_append, List.length_nil]
      omega

/-- The bars of a line stand in front of each field and behind the last one. -/
theorem getElem?_barred {fields : List Text} (h : fields ≠ []) {k : Nat} (hk : k ≤ fields.length) :
    (barred fields)[barColumn (fields.map List.length) k]? = some '|' := by
  induction fields generalizing k with
  | nil => exact absurd rfl h
  | cons f fields ih =>
    cases k with
    | zero => rw [barColumn_zero]; rfl
    | succ k =>
      have hfield : ('|' :: ' ' :: f ++ [' ']).length = f.length + 3 := by simp
      rw [List.map_cons, barColumn_cons_succ, ← hfield]
      cases fields with
      | nil =>
        obtain rfl : k = 0 := by simpa using hk
        rw [barred_singleton, barColumn_zero, List.getElem?_append_right (Nat.le_add_right _ _), Nat.add_sub_cancel_left]
        rfl
      | cons f' fields =>
        rw [barred_cons f (List.cons_ne_nil _ _), List.getElem?_append_right (Nat.le_add_right _ _), Nat.add_sub_cancel_left]
        exact ih (List.cons_ne_nil _ _) (Nat.le_of_succ_le_succ hk)

/-! ## Separators -/

/-- Dashes for the columns of a table, with a plus between each two columns, behind a first mark and in front of a bar. -/
def ruled (mark : Char) (widths : List Nat) : Text :=
  mark :: ['+'].intercalate (widths.map fun w => List.replicate (w + 2) '-') ++ ['|']

theorem ruled_singleton (mark : Char) (w : Nat) : ruled mark [w] = (mark :: List.replicate (w + 2) '-') ++ ['|'] := by
  simp [ruled]

theorem ruled_cons (mark : Char) (w : Nat) {widths : List Nat} (h : widths ≠ []) :
    ruled mark (w :: widths) = (mark :: List.replicate (w + 2) '-') ++ ruled '+' widths := by
  have hdashes : widths.map (fun w => List.replicate (w + 2) '-') ≠ [] := by simpa using h
  simp [ruled, List.intercalate_cons_of_ne_nil hdashes]

theorem length_ruled (mark : Char) {widths : List Nat} (h : widths ≠ []) :
    (ruled mark widths).length = widths.sum + 3 * widths.length + 1 := by
  induction widths generalizing mark with
  | nil => exact absurd rfl h
  | cons w widths ih =>
    cases widths with
    | nil =>
      rw [ruled_singleton]
      simp
    | cons w' widths =>
      rw [ruled_cons mark w (List.cons_ne_nil _ _), List.length_append, ih _ (List.cons_ne_nil _ _)]
      simp only [List.sum_cons, List.length_cons, List.length_replicate]
      omega

/-- The marks of a separator stand where the bars of fields stand that are as long as the columns are wide. -/
theorem getElem?_ruled (mark : Char) {widths : List Nat} (h : widths ≠ []) {k : Nat} (hk : k ≤ widths.length) :
    (ruled mark widths)[barColumn widths k]? =
      some (if k = 0 then mark else if k = widths.length then '|' else '+') := by
  induction widths generalizing mark k with
  | nil => exact absurd rfl h
  | cons w widths ih =>
    cases k with
    | zero => rw [barColumn_zero, if_pos rfl]; rfl
    | succ k =>
      have hdashes : (mark :: List.replicate (w + 2) '-').length = w + 3 := by simp
      rw [barColumn_cons_succ, ← hdashes]
      cases widths with
      | nil =>
        obtain rfl : k = 0 := by simpa using hk
        rw [ruled_singleton, barColumn_zero, List.getElem?_append_right (Nat.le_add_right _ _), Nat.add_sub_cancel_left]
        rfl
      | cons w' widths =>
        rw [ruled_cons mark w (List.cons_ne_nil _ _), List.getElem?_append_right (Nat.le_add_right _ _),
          Nat.add_sub_cancel_left, ih '+' (List.cons_ne_nil _ _) (Nat.le_of_succ_le_succ hk)]
        cases k <;> simp

end Table

/-! ## Columns -/

/-- The lengths of the lines that are seen in a column, without the blanks around them. -/
def seenLengths (s : Setup) (rows : List Row) (j : Nat) : Set Nat :=
  {n | ∃ row ∈ rows, ∃ c, row[j]? = some c ∧ ∃ l ∈ (c.seen s).lines, l.trim.length = n}

theorem isGreatest_foldr_max {ws : List Nat} (h : ws ≠ []) : IsGreatest {w | w ∈ ws} (ws.foldr max 0) :=
  List.max?_eq_some_iff.1 (Table.max?_eq_some_foldr h)

/-- The width of a cell is the length of the longest line that is seen of it. -/
theorem Cell.isGreatest_width (c : Cell) :
    IsGreatest {n | ∃ l ∈ (c.seen s).lines, l.trim.length = n} (c.entry s).width := by
  have hne : (c.entry s).widths ≠ [] := by
    have hlines := Text.lines_ne_nil (c.seen s)
    simpa [entry, Entry.ofSeen] using hlines
  have hset : {w | w ∈ (c.entry s).widths} = {n | ∃ l ∈ (c.seen s).lines, l.trim.length = n} := by
    ext n
    simp [entry, Entry.ofSeen]
  rw [← hset]
  exact isGreatest_foldr_max hne

/-- A column is as wide as the longest line that is seen in it. -/
theorem isGreatest_columnWidth {rows : List Row} (even : IsEven rows) {j : Nat} (hj : j < columnCount rows) :
    IsGreatest (seenLengths s rows j) (Table.columnWidth (rows.map (List.map (Cell.entry s))) j) := by
  have hcell : ∀ row ∈ rows, ∃ c, row[j]? = some c := fun row hrow =>
    ⟨_, List.getElem?_eq_getElem (even row hrow ▸ hj)⟩
  have hwidth : ∀ (row : Row) (c : Cell), row[j]? = some c →
      ((row.map (Cell.entry s))[j]?.map Entry.width).getD 0 = (c.entry s).width := by
    intro row c hc
    rw [List.getElem?_map, hc]
    rfl
  rw [Table.columnWidth, List.map_map]
  have hne : rows.map ((fun r => (r[j]?.map Entry.width).getD 0) ∘ List.map (Cell.entry s)) ≠ [] := by
    cases rows with
    | nil => exact absurd hj (Nat.not_lt_zero j)
    | cons row rows => exact List.cons_ne_nil _ _
  obtain ⟨hmem, hle⟩ := isGreatest_foldr_max hne
  constructor
  · obtain ⟨row, hrow, heq⟩ := List.mem_map.1 hmem
    obtain ⟨c, hc⟩ := hcell row hrow
    rw [← heq, Function.comp_apply, hwidth row c hc]
    exact ⟨row, hrow, c, hc, c.isGreatest_width.1⟩
  · rintro n ⟨row, hrow, c, hc, hn⟩
    have hcolumn := hle (List.mem_map_of_mem hrow)
    rw [Function.comp_apply, hwidth row c hc] at hcolumn
    exact (c.isGreatest_width.2 hn).trans hcolumn

/-! ## The layout -/

/-- The field of a cell in a line: its raw line, filled up with spaces by as much as what is seen of the line falls short of the
width of the column. -/
structure IsField (s : Setup) (width : Nat) (c : Cell) (i : Nat) (field : Text) : Prop where
  fits : c.seenWidth s i ≤ width
  filled : field = c.rawLine i ++ Text.spaces (width - c.seenWidth s i)
  length : field.length + c.seenWidth s i = width + (c.rawLine i).length

/-- The lines of a row, each of which has a field for every cell. -/
structure IsBlock (s : Setup) (widths : List Nat) (row : Row) (block : List (List Text)) : Prop where
  height : block.length = row.height
  columns : ∀ line ∈ block, line.length = widths.length
  fields : ∀ (i j : Nat) (texts : List Text) (field : Text) (c : Cell) (width : Nat), block[i]? = some texts →
    texts[j]? = some field → row[j]? = some c → widths[j]? = some width → IsField s width c i field

/-- The layout of a text as a table: the widths of the columns, the separator, and the fields of each line of each row. -/
structure IsLayout (s : Setup) (rows : List Row) (text : Text) (widths : List Nat) (separator : Text)
    (blocks : List (List (List Text))) : Prop where
  columns : widths.length = columnCount rows
  widest : ∀ j width, widths[j]? = some width → IsGreatest (seenLengths s rows j) width
  lines : text.lines = [separator].intercalate (blocks.map (List.map Table.barred))
  count : text.lines.length = (rows.map Row.height).sum + (rows.length - 1)
  separator : separator.length = widths.sum + 3 * widths.length + 1
  blocks : List.Forall₂ (IsBlock s widths) rows blocks

/-- Every line of a cell that is written is as long as what is seen of it. -/
def IsAligned (s : Setup) (rows : List Row) : Prop :=
  ∀ row ∈ rows, ∀ c ∈ row, ∀ i < row.height, (c.rawLine i).length = c.seenWidth s i

/-- Lines of one length whose bars stand in the same columns, where a separator has a bar at its ends and a plus between. -/
structure SharesBars (text : Text) (widths : List Nat) (separator : Text) (blocks : List (List (List Text))) : Prop where
  length : ∀ line ∈ text.lines, line.length = widths.sum + 3 * widths.length + 1
  bars : ∀ block ∈ blocks, ∀ line ∈ block, ∀ k ≤ widths.length,
    Table.barColumn (line.map List.length) k = Table.barColumn widths k ∧
      (Table.barred line)[Table.barColumn widths k]? = some '|'
  separator : ∀ k ≤ widths.length,
    separator[Table.barColumn widths k]? = some (if k = 0 ∨ k = widths.length then '|' else '+')

/-- The fields of the lines of a row. -/
def blockOf (s : Setup) (widths : List Nat) (row : Row) : List (List Text) :=
  (List.range row.height).map (Table.rowFields widths (row.map (Cell.entry s)))

theorem rowLines_eq_map_barred (widths : List Nat) (row : Row) :
    Table.rowLines widths (row.map (Cell.entry s)) = (blockOf s widths row).map Table.barred := by
  rw [Table.rowLines, Row.rowHeight_entries, blockOf, List.map_map]
  rfl

theorem isField_line {width : Nat} {c : Cell} {i : Nat} (fits : c.seenWidth s i ≤ width) :
    IsField s width c i ((c.entry s).line width i) where
  fits := fits
  filled := by rw [Entry.line, Cell.rawLine_entry, Cell.seenWidth_entry]
  length := by
    rw [Entry.line, Cell.rawLine_entry, Cell.seenWidth_entry, List.length_append, Text.length_spaces]
    omega

/-- A line of a cell is no wider than the cell. -/
theorem Cell.seenWidth_le_width (c : Cell) (i : Nat) : c.seenWidth s i ≤ (c.entry s).width := by
  unfold seenWidth
  cases h : (c.seen s).lines[i]? with
  | none => exact Nat.zero_le _
  | some l => exact c.isGreatest_width.2 ⟨l, List.mem_of_getElem? h, rfl⟩

theorem isBlock_blockOf {widths : List Nat} {row : Row} (hlength : row.length = widths.length)
    (fits : ∀ (j : Nat) (c : Cell) (width : Nat), row[j]? = some c → widths[j]? = some width → (c.entry s).width ≤ width) :
    IsBlock s widths row (blockOf s widths row) where
  height := by rw [blockOf, List.length_map, List.length_range]
  columns := by
    intro line hline
    obtain ⟨i, -, rfl⟩ := List.mem_map.1 hline
    simp [Table.rowFields, hlength]
  fields := by
    intro i j line field c width hline hfield hc hwidth
    obtain ⟨i', hi', rfl⟩ : ∃ i', (List.range row.height)[i]? = some i' ∧
        Table.rowFields widths (row.map (Cell.entry s)) i' = line := by
      simpa [blockOf] using hline
    obtain rfl : i = i' := by simpa using (List.getElem?_eq_some_iff.1 hi').2
    have hentry : (row.map (Cell.entry s))[j]? = some (c.entry s) := by rw [List.getElem?_map, hc]; rfl
    have hline : (Table.rowFields widths (row.map (Cell.entry s)) i)[j]? = some ((c.entry s).line width i) := by
      simp [Table.rowFields, List.getElem?_zipWith, hwidth, hc]
    obtain rfl := Option.some.inj (hline.symm.trans hfield)
    exact isField_line ((c.seenWidth_le_width i).trans (fits j c width hc hwidth))

theorem columnCount_entries (rows : List Row) : columnCount (rows.map (List.map (Cell.entry s))) = columnCount rows := by
  cases rows <;> simp [columnCount]

/-- The layout of the cells of a table whose rows are of one length. -/
theorem isLayout_text {rows : List Row} (even : IsEven rows) (columns : 0 < columnCount rows) :
    let entries := rows.map (List.map (Cell.entry s))
    IsLayout s rows (Table.text entries) (Table.columnWidths entries) (Table.separator (Table.columnWidths entries))
      (rows.map (blockOf s (Table.columnWidths entries))) := by
  intro entries
  have hlength : (Table.columnWidths entries).length = columnCount rows :=
    (Table.length_columnWidths entries).trans (columnCount_entries rows)
  have hwidth : ∀ j width, (Table.columnWidths entries)[j]? = some width → IsGreatest (seenLengths s rows j) width := by
    intro j width h
    have hj : j < columnCount rows := hlength ▸ (List.getElem?_eq_some_iff.1 h).1
    have heq : (Table.columnWidths entries)[j]? = some (Table.columnWidth entries j) := by
      rw [Table.columnWidths, List.getElem?_map, List.getElem?_range (by rw [← columnCount_entries (s := s)] at hj; exact hj)]
      rfl
    obtain rfl := Option.some.inj (heq.symm.trans h)
    exact isGreatest_columnWidth even hj
  have hrows : rows ≠ [] := by
    rintro rfl
    exact absurd columns (Nat.lt_irrefl 0)
  have hwidths : Table.columnWidths entries ≠ [] := List.ne_nil_of_length_pos (by omega)
  have hlines : (Table.text entries).lines = Table.linesOf (Table.columnWidths entries) entries :=
    Table.lines_text (by simpa [entries] using hrows)
  refine ⟨hlength, hwidth, ?_, ?_, Table.length_ruled '|' hwidths, ?_⟩
  · rw [hlines, Table.linesOf, List.map_map, List.map_map]
    congr 1
    exact List.map_congr_left fun row _ => rowLines_eq_map_barred _ row
  · rw [hlines, Table.length_linesOf, List.map_map, List.length_map]
    congr 2
    exact List.map_congr_left fun row _ => Row.rowHeight_entries row
  · refine List.forall₂_map_right_iff.2 (List.forall₂_same.2 fun row hrow => ?_)
    refine isBlock_blockOf ((even row hrow).trans hlength.symm) fun j c width hc hw => ?_
    exact (hwidth j width hw).2 ⟨row, hrow, c, hc, c.isGreatest_width.1⟩

/-- Where every line of a cell is as long as what is seen of it, the fields are as long as the columns are wide. -/
theorem IsBlock.map_length {widths : List Nat} {row : Row} {block : List (List Text)} (h : IsBlock s widths row block)
    (hlength : row.length = widths.length) (aligned : ∀ c ∈ row, ∀ i < row.height, (c.rawLine i).length = c.seenWidth s i) :
    ∀ texts ∈ block, texts.map List.length = widths := by
  intro texts htexts
  obtain ⟨i, hi⟩ := List.mem_iff_getElem?.1 htexts
  have hcolumns := h.columns texts htexts
  refine List.ext_getElem (by rw [List.length_map, hcolumns]) fun j hj hj' => ?_
  rw [List.length_map] at hj
  have hc : row[j]? = some row[j] := List.getElem?_eq_getElem (hlength ▸ hj')
  have hfield := h.fields i j texts texts[j] row[j] widths[j] hi (List.getElem?_eq_getElem hj) hc (List.getElem?_eq_getElem hj')
  have hlt : i < row.height := h.height ▸ (List.getElem?_eq_some_iff.1 hi).1
  have heq := aligned row[j] (List.getElem_mem _) i hlt
  have hlen := hfield.length
  rw [List.getElem_map]
  omega

/-- In a table in which every line of a cell is as long as what is seen of it, the bars of all lines stand in the same columns. -/
theorem IsLayout.sharesBars {rows : List Row} {text : Text} {widths : List Nat} {blocks : List (List (List Text))}
    (layout : IsLayout s rows text widths (Table.separator widths) blocks) (even : IsEven rows) (columns : 0 < columnCount rows)
    (aligned : IsAligned s rows) : SharesBars text widths (Table.separator widths) blocks := by
  have hwidths : widths ≠ [] := List.ne_nil_of_length_pos (layout.columns ▸ columns)
  have hmap : ∀ block ∈ blocks, ∀ line ∈ block, line.map List.length = widths := by
    intro block hblock
    obtain ⟨k, hk, rfl⟩ := List.mem_iff_getElem.1 hblock
    have hrow : k < rows.length := layout.blocks.length_eq ▸ hk
    have hmem : rows[k] ∈ rows := List.getElem_mem hrow
    exact (layout.blocks.get hrow hk).map_length ((even _ hmem).trans layout.columns.symm) (aligned _ hmem)
  have hbarred : ∀ block ∈ blocks, ∀ line ∈ block, line ≠ [] := by
    intro block hblock line hline
    rintro rfl
    exact hwidths (hmap block hblock [] hline).symm
  refine ⟨?_, ?_, ?_⟩
  · rw [layout.lines]
    refine forall_mem_intercalate ?_ ?_
    · intro l hl
      rw [List.mem_singleton.1 hl]
      exact layout.separator
    · intro lines hlines l hl
      obtain ⟨block, hblock, rfl⟩ := List.mem_map.1 hlines
      obtain ⟨line, hline, rfl⟩ := List.mem_map.1 hl
      have hmapped := hmap block hblock line hline
      rw [Table.length_barred (hbarred block hblock line hline), hmapped, ← hmapped, List.length_map]
  · intro block hblock line hline k hk
    have hmapped := hmap block hblock line hline
    rw [hmapped]
    refine ⟨rfl, ?_⟩
    have hbar := Table.getElem?_barred (hbarred block hblock line hline) (k := k) (by rw [← hmapped, List.length_map] at hk; exact hk)
    rwa [hmapped] at hbar
  · intro k hk
    have hmark : (Table.separator widths)[Table.barColumn widths k]? = _ := Table.getElem?_ruled '|' hwidths hk
    rw [hmark]
    by_cases hzero : k = 0
    · rw [if_pos hzero, if_pos (Or.inl hzero)]
    · simp only [hzero, if_false, false_or]

/-- A well-typed table with at least one column is written exactly if what is seen of each cell can be, and its text is laid out
in columns that are as wide as the longest line that is seen in them. Where every line of a cell that is written is as long as
what is seen of it, all lines of the text are of one length and have their bars in the same columns. -/
theorem layout_of_writeTable (s : Setup) (rows : List Row) (typed : (Record.table rows).WellTyped)
    (columns : 0 < columnCount rows) :
    ((∃ text, ((Record.table rows).writeTable s).outcome = .ok text) ↔ ∀ row ∈ rows, ∀ c ∈ row, c.IsMeasured s) ∧
      ∀ text, ((Record.table rows).writeTable s).outcome = .ok text → ∃ widths separator blocks,
        IsLayout s rows text widths separator blocks ∧ (IsAligned s rows → SharesBars text widths separator blocks) := by
  constructor
  · constructor
    · rintro ⟨text, htext⟩
      exact ((outcome_writeTable_eq_ok_iff typed.raws).1 htext).1
    · intro measured
      exact ⟨_, (outcome_writeTable_eq_ok_iff typed.raws).2 ⟨measured, rfl⟩⟩
  · intro text htext
    obtain ⟨-, rfl⟩ := (outcome_writeTable_eq_ok_iff typed.raws).1 htext
    have layout := isLayout_text (s := s) typed.isEven columns
    exact ⟨_, _, _, layout, layout.sharesBars typed.isEven columns⟩

/-- A table with a link, of which less is seen than is written, and a cell of which more lines are seen than are written. -/
def linkedRows : List Row :=
  [[⟨[.link (.str "http://x") (.str "ab")], .str "[[http://x][ab]]"⟩, ⟨[.text (.str "c\nlong")], .str "c"⟩],
    [⟨[.text (.str "d")], .str " d \n"⟩, ⟨[], .str ""⟩]]

/-- A table in which every line of a cell is as long as what is seen of it. -/
def alignedRows : List Row :=
  [[⟨[.text (.str "a|b\n c")], .str "a|b\n c"⟩, ⟨[.text (.str "d")], .str "d"⟩],
    [⟨[.text (.str "e")], .str "e"⟩, ⟨[.bareLink .url (.str "f")], .str "f "⟩]]

/-- The bars of the first text do not stand in the same columns, and those of the second one do. -/
theorem layout_of_writeTable_linked :
    let linked := "| [[http://x][ab]] | c    |\n|----+------|\n| d  |      |\n|    |      |".toList
    let aligned := "| a|b | d |\n| c   |   |\n|-----+---|\n| e   | f |".toList
    ((Record.table linkedRows).WellTyped ∧ 0 < columnCount linkedRows ∧
        ((Record.table linkedRows).writeTable {}).outcome = .ok linked ∧
        ∃ widths separator blocks, IsLayout {} linkedRows linked widths separator blocks) ∧
      (Record.table alignedRows).WellTyped ∧ 0 < columnCount alignedRows ∧ IsAligned {} alignedRows ∧
        ((Record.table alignedRows).writeTable {}).outcome = .ok aligned ∧
        ∃ widths separator blocks, IsLayout {} alignedRows aligned widths separator blocks ∧
          SharesBars aligned widths separator blocks := by
  intro linked aligned
  have typed : (Record.table linkedRows).WellTyped := by decide
  have typed' : (Record.table alignedRows).WellTyped := by decide
  have written : ((Record.table linkedRows).writeTable {}).outcome = .ok linked := rfl
  have written' : ((Record.table alignedRows).writeTable {}).outcome = .ok aligned := rfl
  have even : IsAligned {} alignedRows := by
    unfold IsAligned
    decide
  obtain ⟨w, sep, blocks, layout, -⟩ := (layout_of_writeTable {} linkedRows typed (by decide)).2 linked written
  obtain ⟨w', sep', blocks', layout', shares⟩ := (layout_of_writeTable {} alignedRows typed' (by decide)).2 aligned written'
  exact ⟨⟨typed, by decide, written, w, sep, blocks, layout⟩, typed', by decide, even, written', w', sep', blocks', layout',
    shares even⟩

end OrgOutline
