import Mathlib.Data.List.Basic
import OrgOutline.Inline.Write
import OrgOutline.Proofs.Runs

/-!
# Look-ups in a table

A table is laid out by looking up the width of a cell in its row, the width of a column among all columns, the height of a row
among all rows, and the lines of a cell. `Table.text?` lays it out with every such look-up written out, none of which may miss.
Main statement: in a table whose rows are of one length no look-up misses (`Table.text?_eq_some`), whatever its cells are
measured as (`ensures_measureRows`).
-/

namespace OrgOutline

open Run (Ensures)

variable {α β : Type}

/-- The number of columns of a table, of which the first row has one cell each. -/
def columnCount (rows : List (List α)) : Nat := (rows.head?.map List.length).getD 0

/-- All rows of a table are as long as the first one. -/
def IsEven (rows : List (List α)) : Prop := ∀ row ∈ rows, row.length = columnCount rows

/-! ## A layout in which look-ups may miss -/

namespace Table

/-- The width of a column: that of its widest cell, whose width is that of its widest line. The column is looked up in every row,
and there must be a row and lines in every cell. -/
def columnWidth? (shown : List (List (List Nat))) (j : Nat) : Option Nat := do
  let cells ← shown.mapM fun row => row[j]? >>= List.max?
  cells.max?

/-- A value looked up in a list, and another one behind its end. -/
def lookUp (xs : List α) (i : Nat) (behind : α) : Option α := if i < xs.length then xs[i]? else some behind

/-- A line of a cell, looked up among its raw lines and the widths of its lines where there are so many. -/
def cellLine? (raw : List Text) (shown : List Nat) (column i : Nat) : Option Text := do
  let line ← lookUp raw i []
  let width ← lookUp shown i 0
  some (line.trim ++ Text.spaces (column - width))

/-- A line of the cell in a column, whose width and the widths of whose lines are looked up. -/
def columnLine? (widths : List Nat) (shown : List (List Nat)) (i : Nat) (cell : Entry × Nat) : Option Text := do
  let width ← widths[cell.2]?
  let shown ← shown[cell.2]?
  cellLine? cell.1.raw.lines shown width i

/-- A line of a row. -/
def rowLine? (widths : List Nat) (shown : List (List Nat)) (row : List Entry) (i : Nat) : Option Text := do
  let texts ← row.zipIdx.mapM (columnLine? widths shown i)
  some (['|', ' '] ++ [' ', '|', ' '].intercalate texts ++ [' ', '|'])

/-- The lines of the row at an index, at which its height and the widths of the lines of its cells are looked up. -/
def rowLines? (widths : List Nat) (shown : List (List (List Nat))) (heights : List Nat) (row : List Entry × Nat) :
    Option (List Text) := do
  let height ← heights[row.2]?
  let shown ← shown[row.2]?
  (List.range height).mapM (rowLine? widths shown row.1)

/-- The text of a table, unless a look-up misses. -/
def text? (rows : List (List Entry)) : Option Text := do
  let shown := rows.map (List.map Entry.widths)
  let widths ← (List.range (columnCount rows)).mapM (columnWidth? shown)
  let blocks ← rows.zipIdx.mapM (rowLines? widths shown (rows.map rowHeight))
  some (Text.unlines ([separator widths].intercalate blocks))

/-! ## No look-up misses -/

theorem mapM_eq_some_map {f : α → Option β} {g : α → β} {xs : List α} (h : ∀ x ∈ xs, f x = some (g x)) :
    xs.mapM f = some (xs.map g) := by
  induction xs with
  | nil => rfl
  | cons x xs ih =>
    obtain ⟨hx, hxs⟩ := List.forall_mem_cons.1 h
    rw [List.mapM_cons, hx, ih hxs]
    rfl

/-- The greatest of some numbers, of which there is at least one. -/
theorem max?_eq_some_foldr {ws : List Nat} (h : ws ≠ []) : ws.max? = some (ws.foldr max 0) := by
  induction ws with
  | nil => exact absurd rfl h
  | cons w ws ih =>
    cases ws with
    | nil => simp
    | cons v ws =>
      rw [List.max?_cons, ih (List.cons_ne_nil _ _)]
      rfl

theorem lookUp_eq_some (xs : List α) (i : Nat) (behind : α) : lookUp xs i behind = some (xs[i]?.getD behind) := by
  unfold lookUp
  split <;> simp_all

theorem cellLine?_eq_some (e : Entry) (column i : Nat) :
    cellLine? e.raw.lines e.widths column i = some (e.line column i) := by
  have hline : (e.raw.lines[i]?.getD []).trim = e.rawLine i := by
    unfold Entry.rawLine
    cases e.raw.lines[i]? <;> rfl
  rw [cellLine?, lookUp_eq_some, lookUp_eq_some, Entry.line, ← hline]
  rfl

theorem rowLine?_eq_some {widths : List Nat} {row : List Entry} (h : row.length = widths.length) (i : Nat) :
    rowLine? widths (row.map Entry.widths) row i = some (rowLine widths row i) := by
  have htexts : row.zipIdx.mapM (columnLine? widths (row.map Entry.widths) i) =
      some (row.zipIdx.map fun p => p.1.line (widths[p.2]?.getD 0) i) := by
    refine mapM_eq_some_map ?_
    rintro ⟨e, j⟩ hej
    have hj : row[j]? = some e := List.mem_zipIdx_iff_getElem?.1 hej
    have hlt : j < widths.length := h ▸ (List.getElem?_eq_some_iff.1 hj).1
    simp only [columnLine?, List.getElem?_eq_getElem hlt, List.getElem?_map, hj]
    exact cellLine?_eq_some e _ i
  have hzip : (row.zipIdx.map fun p => p.1.line (widths[p.2]?.getD 0) i) = List.zipWith (fun w e => e.line w i) widths row := by
    refine List.ext_getElem (by simp [h]) ?_
    intro j hj _
    have hlt : j < widths.length := by simpa [h] using hj
    simp [List.getElem?_eq_getElem hlt]
  rw [rowLine?, htexts, hzip]
  rfl

theorem columnWidth?_eq_some {rows : List (List Entry)} (even : IsEven rows) (seen : ∀ row ∈ rows, ∀ e ∈ row, e.widths ≠ [])
    {j : Nat} (hj : j < columnCount rows) :
    columnWidth? (rows.map (List.map Entry.widths)) j = some (columnWidth rows j) := by
  have hcells : ((rows.map (List.map Entry.widths)).mapM fun row => row[j]? >>= List.max?) =
      some (rows.map fun row => (row[j]?.map Entry.width).getD 0) := by
    rw [List.mapM_map]
    refine mapM_eq_some_map ?_
    intro row hrow
    have hlt : j < row.length := even row hrow ▸ hj
    have hmax := max?_eq_some_foldr (seen row hrow row[j] (List.getElem_mem hlt))
    simp [List.getElem?_eq_getElem hlt, hmax, Entry.width]
  have hne : (rows.map fun row => (row[j]?.map Entry.width).getD 0) ≠ [] := by
    cases rows with
    | nil => exact absurd hj (Nat.not_lt_zero j)
    | cons row rows => exact List.cons_ne_nil _ _
  rw [columnWidth?, hcells]
  exact max?_eq_some_foldr hne

theorem length_columnWidths (rows : List (List Entry)) : (columnWidths rows).length = columnCount rows := by
  rw [columnWidths, List.length_map, List.length_range]
  rfl

/-- In a table whose rows are of one length, and whose cells have lines, no look-up misses. -/
theorem text?_eq_some {rows : List (List Entry)} (even : IsEven rows) (seen : ∀ row ∈ rows, ∀ e ∈ row, e.widths ≠ []) :
    text? rows = some (text rows) := by
  have hwidths : (List.range (columnCount rows)).mapM (columnWidth? (rows.map (List.map Entry.widths))) =
      some (columnWidths rows) :=
    mapM_eq_some_map fun j hj => columnWidth?_eq_some even seen (List.mem_range.1 hj)
  have hblocks : rows.zipIdx.mapM (rowLines? (columnWidths rows) (rows.map (List.map Entry.widths)) (rows.map rowHeight)) =
      some (rows.zipIdx.map (rowLines (columnWidths rows) ∘ Prod.fst)) := by
    refine mapM_eq_some_map ?_
    rintro ⟨row, k⟩ hrow
    have hk : rows[k]? = some row := List.mem_zipIdx_iff_getElem?.1 hrow
    simp only [rowLines?, List.getElem?_map, hk]
    exact mapM_eq_some_map fun i _ =>
      rowLine?_eq_some ((even row (List.mem_of_getElem? hk)).trans (length_columnWidths rows).symm) i
  rw [text?, hwidths, Option.bind_eq_bind, Option.bind_some, hblocks, ← List.map_map, List.zipIdx_map_fst]
  rfl

end Table

/-! ## Measured cells -/

theorem ensures_measureCells (s : Setup) (cells : Row) :
    Ensures (fun es => es.length = cells.length ∧ ∀ e ∈ es, e.widths ≠ []) (measureCells s cells) := by
  induction cells with
  | nil => exact Ensures.pure ⟨rfl, List.forall_mem_nil _⟩
  | cons c cells ih =>
    obtain ⟨content, raw⟩ := c
    rw [measureCells]
    refine (Ensures.trivial _).bind fun _ _ => (Ensures.trivial _).bind fun seen _ => ih.bind fun es hes => Ensures.pure ?_
    refine ⟨congrArg (· + 1) hes.1, List.forall_mem_cons.2 ⟨?_, hes.2⟩⟩
    have hlines : seen.lines ≠ [] := List.ne_nil_of_length_pos (by rw [Text.length_lines]; omega)
    exact fun h => hlines (List.map_eq_nil_iff.1 h)

/-- The cells of a table are measured as a table of the same form, in which every cell has lines. -/
theorem ensures_measureRows (s : Setup) (rows : List Row) :
    Ensures (fun entries => entries.map List.length = rows.map List.length ∧ ∀ row ∈ entries, ∀ e ∈ row, e.widths ≠ [])
      (measureRows s rows) := by
  induction rows with
  | nil => exact Ensures.pure ⟨rfl, List.forall_mem_nil _⟩
  | cons row rows ih =>
    rw [measureRows]
    refine (ensures_measureCells s row).bind fun es hes => ih.bind fun rest hrest => Ensures.pure ?_
    exact ⟨by rw [List.map_cons, List.map_cons, hes.1, hrest.1], List.forall_mem_cons.2 ⟨hes.2, hrest.2⟩⟩

/-- Tables whose rows are of the same lengths are even alike. -/
theorem IsEven.congr {rows : List (List α)} {rows' : List (List β)} (h : rows.map List.length = rows'.map List.length)
    (even : IsEven rows) : IsEven rows' := by
  have hcount : columnCount rows' = columnCount rows := by
    rw [columnCount, columnCount, ← List.head?_map, ← List.head?_map, h]
  have hall : ∀ n ∈ rows.map List.length, n = columnCount rows := List.forall_mem_map.2 even
  rw [h, ← hcount] at hall
  exact List.forall_mem_map.1 hall

end OrgOutline
