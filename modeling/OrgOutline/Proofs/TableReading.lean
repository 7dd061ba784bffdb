import Mathlib.Data.List.MinMax
import OrgOutline.Proofs.TableLayout

/-!
# Reading tables back

A written table is read by its lines: a row ends at each line that starts with a bar and a dash, and every other line is cut at
its bars (`Table.read`). Main statement: a table whose raw cells have no bar in them is read back as the trimmed lines of its raw
cells, with empty lines below those that are lower than their row; and if its cells are plain text, the table of what was read is
written as the same text (`Table.read_of_writeTable`).
-/

namespace OrgOutline

variable {s : Setup}

/-! ## Trimming -/

namespace Text

theorem trim_cons_blank {c : Char} (h : isBlank c = true) (t : Text) : trim (c :: t) = trim t := by
  rw [trim, trim, trimStart, trimStart, List.dropWhile_cons_of_pos h]

theorem trim_concat_blank (t : Text) {c : Char} (h : isBlank c = true) : trim (t ++ [c]) = trim t := by
  rw [trim, trim, trimStart, trimStart, List.dropWhile_append]
  split
  · rename_i hempty
    rw [List.isEmpty_iff.1 hempty, List.dropWhile_cons_of_pos h]
    rfl
  · exact trimEnd_concat_blank _ h

theorem trim_append_spaces (t : Text) (n : Nat) : trim (t ++ spaces n) = trim t := by
  induction n with
  | zero => rw [spaces, List.replicate_zero, List.append_nil]
  | succ n ih =>
    rw [spaces, List.replicate_succ', ← List.append_assoc, trim_concat_blank _ (by decide)]
    exact ih

/-- What is trimmed has no blanks left at its ends. -/
theorem trim_trim (t : Text) : t.trim.trim = t.trim := by
  have hstart : t.trim.trimStart = t.trim := by
    have hstarts : t.trim <+: t.trimStart := trimEnd_isPrefix _
    have hself : t.trimStart.trimStart = t.trimStart := List.dropWhile_idempotent isBlank t
    refine List.dropWhile_eq_self_iff.2 fun hl => ?_
    rw [hstarts.getElem hl]
    exact List.dropWhile_eq_self_iff.1 hself _
  rw [trim, hstart]
  exact List.rdropWhile_idempotent isBlank _

/-- What stands in a line of a text stands in the text. -/
theorem mem_of_mem_lines {t l : Text} (hl : l ∈ t.lines) {c : Char} (hc : c ∈ l) : c ∈ t := by
  have hclosed : c ∈ t ++ ['\n'] := by
    rw [← flatMap_lines]
    exact List.mem_flatMap.2 ⟨l, hl, List.mem_append_left _ hc⟩
  rcases List.mem_append.1 hclosed with h | h
  · exact h
  · rw [List.mem_singleton.1 h] at hc
    exact absurd hc (newline_not_mem_of_mem_lines hl)

end Text

/-! ## Reading -/

namespace Table

/-- Whether a line separates two rows. -/
def isRule : Text → Bool
  | '|' :: '-' :: _ => true
  | _ => false

/-- What stands between the bars of a line, without the blanks around it. -/
def readLine (line : Text) : List Text := ((line.splitOn '|').tail.dropLast).map Text.trim

/-- The cells of a row from what stands between the bars of its lines: each cell has a line in every line of the row. -/
def readCells (lines : List (List Text)) : List (List Text) :=
  (List.range (columnCount lines)).map fun j => lines.map fun fields => fields[j]?.getD []

/-- The rows of a table from its text, with the lines of each cell. -/
def read (t : Text) : List (List (List Text)) := (t.lines.splitOnP isRule).map fun block => readCells (block.map readLine)

/-- A field with a space on both sides. -/
def spaced (field : Text) : Text := ' ' :: field ++ [' ']

theorem barred_eq_cons {fields : List Text} (h : fields ≠ []) :
    barred fields = '|' :: fields.flatMap (fun f => spaced f ++ ['|']) := by
  induction fields with
  | nil => exact absurd rfl h
  | cons f fields ih =>
    cases fields with
    | nil => simp [barred_singleton, spaced]
    | cons f' fields =>
      rw [barred_cons f (List.cons_ne_nil _ _), ih (List.cons_ne_nil _ _)]
      simp [spaced]

/-- A line is cut at its bars into its fields, with an empty piece at both ends. -/
theorem splitOn_barred {fields : List Text} (h : fields ≠ []) (barless : ∀ f ∈ fields, '|' ∉ f) :
    (barred fields).splitOn '|' = [] :: (fields.map spaced ++ [[]]) := by
  have hsplit : (fields.flatMap fun f => spaced f ++ ['|']).splitOn '|' = fields.map spaced ++ [[]] := by
    clear h
    induction fields with
    | nil => rfl
    | cons f fields ih =>
      obtain ⟨hf, hfields⟩ := List.forall_mem_cons.1 barless
      have hspaced : '|' ∉ spaced f := by simp [spaced, hf]
      rw [List.flatMap_cons, List.append_assoc, List.singleton_append, List.splitOn_append_cons_self,
        List.splitOn_eq_singleton hspaced, ih hfields]
      rfl
  rw [barred_eq_cons h, ← List.nil_append ('|' :: _), List.splitOn_append_cons_self, hsplit]
  rfl

/-- A line is read as its fields without the blanks around them. -/
theorem readLine_barred {fields : List Text} (h : fields ≠ []) (barless : ∀ f ∈ fields, '|' ∉ f) :
    readLine (barred fields) = fields.map Text.trim := by
  have htrim : ∀ f, (spaced f).trim = f.trim := by
    intro f
    rw [spaced, List.cons_append, Text.trim_cons_blank (by decide), Text.trim_concat_blank _ (by decide)]
  rw [readLine, splitOn_barred h barless, List.tail_cons, List.dropLast_concat, List.map_map]
  exact List.map_congr_left fun f _ => htrim f

theorem isRule_barred (fields : List Text) : isRule (barred fields) = false := rfl

theorem isRule_separator {widths : List Nat} (h : widths ≠ []) : isRule (separator widths) = true := by
  obtain ⟨w, widths, rfl⟩ := List.exists_cons_of_ne_nil h
  cases widths <;> rfl

/-- Blocks of lines with a separating line between each two are told apart again. -/
theorem splitOnP_intercalate {α : Type} {p : α → Bool} {sep : α} (hsep : p sep = true) {blocks : List (List α)}
    (hne : blocks ≠ []) (hblocks : ∀ block ∈ blocks, ∀ x ∈ block, p x = false) :
    ([sep].intercalate blocks).splitOnP p = blocks := by
  induction blocks with
  | nil => exact absurd rfl hne
  | cons block blocks ih =>
    obtain ⟨hblock, hblocks⟩ := List.forall_mem_cons.1 hblocks
    cases blocks with
    | nil => rw [List.intercalate_singleton, List.splitOnP_eq_singleton hblock]
    | cons block' blocks =>
      rw [List.intercalate_cons_cons, List.append_assoc, List.singleton_append,
        List.splitOnP_append_cons_of_forall_mem hblock _ hsep, ih (List.cons_ne_nil _ _) hblocks]

end Table

/-! ## What is read -/

namespace Text

/-- The lines of a text without the blanks around them, and empty lines below them up to a height. -/
def paddedLines (t : Text) (height : Nat) : List Text := t.lines.map trim ++ List.replicate (height - t.lines.length) []

theorem length_paddedLines {t : Text} {height : Nat} (h : t.lines.length ≤ height) : (t.paddedLines height).length = height := by
  rw [paddedLines, List.length_append, List.length_map, List.length_replicate]
  omega

theorem getElem?_paddedLines (t : Text) (height i : Nat) :
    ((t.paddedLines height)[i]?).getD [] = (t.lines[i]?.map trim).getD [] := by
  rw [paddedLines, List.getElem?_append, List.length_map, List.getElem?_map]
  split
  · rfl
  · rename_i hi
    rw [List.getElem?_replicate, List.getElem?_eq_none (Nat.le_of_not_lt hi)]
    split <;> rfl

theorem trim_of_mem_paddedLines {t l : Text} {height : Nat} (h : l ∈ t.paddedLines height) : l.trim = l := by
  rcases List.mem_append.1 h with h | h
  · obtain ⟨l', -, rfl⟩ := List.mem_map.1 h
    exact trim_trim l'
  · rw [(List.mem_replicate.1 h).2]
    rfl

theorem newline_not_mem_of_mem_paddedLines {t l : Text} {height : Nat} (h : l ∈ t.paddedLines height) : '\n' ∉ l := by
  rcases List.mem_append.1 h with h | h
  · obtain ⟨l', hl', rfl⟩ := List.mem_map.1 h
    exact fun hmem => newline_not_mem_of_mem_lines hl' ((trim_sublist l').subset hmem)
  · rw [(List.mem_replicate.1 h).2]
    exact List.not_mem_nil

end Text

namespace Table

theorem length_lines_le_rowHeight {row : List Entry} {e : Entry} (he : e ∈ row) : e.raw.lines.length ≤ rowHeight row := by
  have hle : e.raw.count '\n' ≤ (row.map fun e => e.raw.count '\n').foldr max 0 :=
    List.le_max_of_le (List.mem_map_of_mem he) (Nat.le_refl _)
  rw [Text.length_lines, rowHeight]
  omega

/-- The lines of an entry in a row are its raw lines and empty ones below them. -/
theorem map_rawLine_range {row : List Entry} {e : Entry} (he : e ∈ row) :
    (List.range (rowHeight row)).map e.rawLine = e.raw.paddedLines (rowHeight row) := by
  have hlength := Text.length_paddedLines (length_lines_le_rowHeight he)
  refine List.ext_getElem (by rw [List.length_map, List.length_range, hlength]) fun i _ hi => ?_
  have hline := e.raw.getElem?_paddedLines (rowHeight row) i
  rw [List.getElem?_eq_getElem hi] at hline
  rw [List.getElem_map, List.getElem_range, Entry.rawLine, ← hline]
  rfl

/-- A line of a row is read as the raw lines of its entries. -/
theorem readLine_rowLine {widths : List Nat} {row : List Entry} (hlength : row.length = widths.length) (hne : row ≠ [])
    (barless : ∀ e ∈ row, '|' ∉ e.raw) (i : Nat) : readLine (rowLine widths row i) = row.map (·.rawLine i) := by
  have hcount : (rowFields widths row i).length = row.length := by simp [rowFields, hlength]
  have hfield : ∀ (j : Nat) (hj : j < (rowFields widths row i).length) (hr : j < row.length) (hw : j < widths.length),
      (rowFields widths row i)[j] = row[j].line widths[j] i := fun j _ _ _ => List.getElem_zipWith
  have hfields : rowFields widths row i ≠ [] := by
    have hpos := List.length_pos_iff.2 hne
    exact List.ne_nil_of_length_pos (by omega)
  have hbarless : ∀ f ∈ rowFields widths row i, '|' ∉ f := by
    intro f hf
    obtain ⟨j, hj, rfl⟩ := List.mem_iff_getElem.1 hf
    have hraw : ∀ e ∈ row, '|' ∉ e.rawLine i := by
      intro e he
      unfold Entry.rawLine
      cases h : e.raw.lines[i]? with
      | none => exact List.not_mem_nil
      | some l =>
        exact fun hmem => barless e he (Text.mem_of_mem_lines (List.mem_of_getElem? h) ((Text.trim_sublist l).subset hmem))
    rw [hfield j hj (by omega) (by omega)]
    simp [Entry.line, hraw, Text.spaces]
  have htrim : (rowFields widths row i).map Text.trim = row.map (·.rawLine i) := by
    refine List.ext_getElem (by simp [hcount]) fun j hj _ => ?_
    rw [List.length_map] at hj
    have hraw : ∀ e : Entry, (e.rawLine i).trim = e.rawLine i := by
      intro e
      unfold Entry.rawLine
      cases e.raw.lines[i]? with
      | none => rfl
      | some l => exact Text.trim_trim l
    rw [List.getElem_map, List.getElem_map, hfield j hj (by omega) (by omega), Entry.line, Text.trim_append_spaces, hraw]
  rw [← htrim, ← readLine_barred hfields hbarless]
  rfl

theorem readCells_map {α : Type} {row : List α} {height : Nat} (hpos : 0 < height) (line : Nat → α → Text) :
    readCells ((List.range height).map fun i => row.map (line i)) =
      row.map fun x => (List.range height).map fun i => line i x := by
  have hcount : columnCount ((List.range height).map fun i => row.map (line i)) = row.length := by
    obtain ⟨n, rfl⟩ := Nat.exists_eq_succ_of_ne_zero (Nat.ne_of_gt hpos)
    rw [List.range_succ_eq_map]
    simp [columnCount]
  rw [readCells, hcount]
  refine List.ext_getElem (by simp) fun j hj hj' => ?_
  simp only [List.length_map] at hj'
  simp [List.getElem?_eq_getElem hj']

/-- The lines of a row are read as the raw lines of its entries, with empty lines below them. -/
theorem readCells_rowLines {widths : List Nat} {row : List Entry} (hlength : row.length = widths.length) (hne : row ≠ [])
    (barless : ∀ e ∈ row, '|' ∉ e.raw) :
    readCells ((rowLines widths row).map readLine) = row.map fun e => e.raw.paddedLines (rowHeight row) := by
  have hlines : (rowLines widths row).map readLine = (List.range (rowHeight row)).map fun i => row.map (·.rawLine i) := by
    rw [rowLines, List.map_map]
    exact List.map_congr_left fun i _ => readLine_rowLine hlength hne barless i
  have hpos : 0 < rowHeight row := by
    rw [rowHeight]
    omega
  rw [hlines]
  refine (readCells_map hpos fun i (e : Entry) => e.rawLine i).trans ?_
  exact List.map_congr_left fun e he => map_rawLine_range he

/-- A table without bars in its cells is read back. -/
theorem read_text {rows : List (List Entry)} (even : IsEven rows) (columns : 0 < columnCount rows)
    (barless : ∀ row ∈ rows, ∀ e ∈ row, '|' ∉ e.raw) :
    read (text rows) = rows.map fun row => row.map fun e => e.raw.paddedLines (rowHeight row) := by
  have hrows : rows ≠ [] := by
    rintro rfl
    exact absurd columns (Nat.lt_irrefl 0)
  have hwidths : columnWidths rows ≠ [] := List.ne_nil_of_length_pos (by rwa [length_columnWidths])
  have hblocks : ∀ block ∈ rows.map (rowLines (columnWidths rows)), ∀ l ∈ block, isRule l = false := by
    intro block hblock l hl
    obtain ⟨row, -, rfl⟩ := List.mem_map.1 hblock
    obtain ⟨i, -, rfl⟩ := List.mem_map.1 hl
    exact isRule_barred _
  have hsplit : (linesOf (columnWidths rows) rows).splitOnP isRule = rows.map (rowLines (columnWidths rows)) :=
    splitOnP_intercalate (isRule_separator hwidths) (by simpa using hrows) hblocks
  rw [read, lines_text hrows, hsplit, List.map_map]
  refine List.map_congr_left fun row hrow => ?_
  have hlength : row.length = columnCount rows := even row hrow
  refine readCells_rowLines (by rw [length_columnWidths, hlength]) (List.ne_nil_of_length_pos ?_) (barless row hrow)
  rwa [hlength]

end Table

/-! ## Writing what was read -/

/-- Entries with the same lines, of which the same widths are seen. -/
structure Entry.IsLike (e e' : Entry) : Prop where
  rawLine : ∀ i, e.rawLine i = e'.rawLine i
  seenWidth : ∀ i, e.seenWidth i = e'.seenWidth i

namespace Entry

/-- A cell of plain text, of which is seen what is written. -/
def plain (t : Text) : Entry := .ofSeen t t

theorem seenWidth_plain (t : Text) (i : Nat) : (plain t).seenWidth i = ((plain t).rawLine i).length := by
  simp only [seenWidth, rawLine, plain, ofSeen, List.getElem?_map]
  cases t.lines[i]? <;> rfl

theorem IsLike.width_eq {e e' : Entry} (h : e.IsLike e') : e.width = e'.width := by
  have hle : ∀ {a b : Entry}, (∀ i, a.seenWidth i = b.seenWidth i) → a.width ≤ b.width := by
    intro a b hseen
    refine List.max_le_of_forall_le _ _ fun w hw => ?_
    obtain ⟨i, hi, rfl⟩ := List.mem_iff_getElem.1 hw
    have hwidth : a.seenWidth i = a.widths[i] := by rw [Entry.seenWidth, List.getElem?_eq_getElem hi, Option.getD_some]
    rw [← hwidth, hseen, Entry.seenWidth]
    cases hb : b.widths[i]? with
    | none => exact Nat.zero_le _
    | some w => exact List.le_max_of_le (List.mem_of_getElem? hb) (Nat.le_refl w)
  exact Nat.le_antisymm (hle h.seenWidth) (hle fun i => (h.seenWidth i).symm)

theorem IsLike.line_eq {e e' : Entry} (h : e.IsLike e') (column i : Nat) : e.line column i = e'.line column i := by
  rw [line, line, h.rawLine, h.seenWidth]

/-- Plain text is laid out as its lines without the blanks around them, whatever empty lines there are below them. -/
theorem isLike_plain_paddedLines {t : Text} {height : Nat} (hpos : 0 < height) (hle : t.lines.length ≤ height) :
    (plain t).IsLike (plain (Text.unlines (t.paddedLines height))) := by
  have hlines : (Text.unlines (t.paddedLines height)).lines = t.paddedLines height := by
    refine Text.lines_unlines (List.ne_nil_of_length_pos ?_) fun l => Text.newline_not_mem_of_mem_paddedLines
    rwa [Text.length_paddedLines hle]
  have hraw : ∀ i, (plain t).rawLine i = (plain (Text.unlines (t.paddedLines height))).rawLine i := by
    intro i
    have hline : (plain t).rawLine i = ((t.paddedLines height)[i]?).getD [] := (t.getElem?_paddedLines height i).symm
    rw [hline, rawLine, plain, ofSeen, hlines]
    cases h : (t.paddedLines height)[i]? with
    | none => rfl
    | some l => exact (Text.trim_of_mem_paddedLines (List.mem_of_getElem? h)).symm
  exact ⟨hraw, fun i => by rw [seenWidth_plain, seenWidth_plain, hraw]⟩

end Entry

namespace Table

/-- Rows of one height in which the entries are alike. -/
def IsLikeRow (row row' : List Entry) : Prop := rowHeight row = rowHeight row' ∧ List.Forall₂ Entry.IsLike row row'

theorem zipWith_eq_of_forall₂ {α β γ δ : Type} {r : β → γ → Prop} {f : α → β → δ} {g : α → γ → δ}
    (h : ∀ a b c, r b c → f a b = g a c) {ys : List β} {zs : List γ} (hr : List.Forall₂ r ys zs) (xs : List α) :
    List.zipWith f xs ys = List.zipWith g xs zs := by
  induction hr generalizing xs with
  | nil => rw [List.zipWith_nil_right, List.zipWith_nil_right]
  | cons hbc _ ih =>
    cases xs with
    | nil => rfl
    | cons x xs => rw [List.zipWith_cons_cons, List.zipWith_cons_cons, h x _ _ hbc, ih xs]

theorem map_eq_of_forall₂ {α β γ : Type} {r : α → β → Prop} {f : α → γ} {g : β → γ} (h : ∀ a b, r a b → f a = g b)
    {xs : List α} {ys : List β} (hr : List.Forall₂ r xs ys) : xs.map f = ys.map g := by
  induction hr with
  | nil => rfl
  | cons hab _ ih => rw [List.map_cons, List.map_cons, h _ _ hab, ih]

/-- Tables whose rows are alike are written alike. -/
theorem text_congr {rows rows' : List (List Entry)} (h : List.Forall₂ IsLikeRow rows rows') : text rows = text rows' := by
  have hcell : ∀ (row row' : List Entry), IsLikeRow row row' → ∀ j : Nat,
      (row[j]?.map Entry.width).getD 0 = (row'[j]?.map Entry.width).getD 0 := by
    rintro row row' ⟨-, hrow⟩ j
    have hwidths : row.map Entry.width = row'.map Entry.width := map_eq_of_forall₂ (fun _ _ he => he.width_eq) hrow
    rw [← List.getElem?_map, ← List.getElem?_map, hwidths]
  have hcolumns : columnCount rows = columnCount rows' := by
    cases h with
    | nil => rfl
    | cons hrow _ => exact hrow.2.length_eq
  have hwidths : columnWidths rows = columnWidths rows' := by
    have hwidth : ∀ j, columnWidth rows j = columnWidth rows' j := by
      intro j
      rw [columnWidth, columnWidth, map_eq_of_forall₂ (fun row row' hrow => hcell row row' hrow j) h]
    have hrange : columnWidths rows = (List.range (columnCount rows)).map (columnWidth rows) := rfl
    rw [hrange, hcolumns]
    exact List.map_congr_left fun j _ => hwidth j
  have hlines : ∀ row row', IsLikeRow row row' → rowLines (columnWidths rows') row = rowLines (columnWidths rows') row' := by
    rintro row row' ⟨hheight, hrow⟩
    rw [rowLines, rowLines, hheight]
    refine List.map_congr_left fun i _ => ?_
    rw [rowLine, rowLine, zipWith_eq_of_forall₂ (fun w e e' (he : e.IsLike e') => he.line_eq w i) hrow]
  rw [text, text, hwidths, linesOf, linesOf, map_eq_of_forall₂ hlines h]

/-- The height of a row of plain text whose cells all have so many lines. -/
theorem rowHeight_plain {α : Type} {row : List α} (hne : row ≠ []) {height : Nat} {t : α → Text}
    (h : ∀ x ∈ row, (t x).lines.length = height) : rowHeight (row.map fun x => Entry.plain (t x)) = height := by
  have hcount : ∀ x ∈ row, (t x).count '\n' + 1 = height := fun x hx => by rw [← h x hx, Text.length_lines]
  have hraw : ∀ x : α, (Entry.plain (t x)).raw = t x := fun _ => rfl
  obtain ⟨x, hx⟩ := List.exists_mem_of_ne_nil row hne
  have hle : (row.map fun x => (t x).count '\n').foldr max 0 ≤ (t x).count '\n' := by
    refine List.max_le_of_forall_le _ _ (List.forall_mem_map.2 fun y hy => ?_)
    have h1 := hcount x hx
    have h2 := hcount y hy
    omega
  have hge : (t x).count '\n' ≤ (row.map fun x => (t x).count '\n').foldr max 0 :=
    List.le_max_of_le (List.mem_map_of_mem hx) (Nat.le_refl _)
  have hx := hcount x hx
  rw [rowHeight, List.map_map]
  show 1 + (row.map fun x => (t x).count '\n').foldr max 0 = height
  omega

/-- A row of plain text and the row of what is read of it are alike. -/
theorem isLikeRow_plain {α : Type} {row : List α} (hne : row ≠ []) {t : α → Text} {height : Nat}
    (h : rowHeight (row.map fun x => Entry.plain (t x)) = height) :
    IsLikeRow (row.map fun x => Entry.plain (t x))
      (row.map fun x => Entry.plain (Text.unlines ((t x).paddedLines height))) := by
  have hle : ∀ x ∈ row, (t x).lines.length ≤ height :=
    fun x hx => h ▸ length_lines_le_rowHeight (e := Entry.plain (t x)) (List.mem_map_of_mem hx)
  have hpos : 0 < height := by
    rw [← h, rowHeight]
    omega
  constructor
  · rw [h]
    refine (rowHeight_plain hne fun x hx => ?_).symm
    have hlength := Text.length_paddedLines (hle x hx)
    rw [Text.lines_unlines (List.ne_nil_of_length_pos (by omega)) fun l => Text.newline_not_mem_of_mem_paddedLines, hlength]
  · refine List.forall₂_map_left_iff.2 (List.forall₂_map_right_iff.2 (List.forall₂_same.2 fun x hx => ?_))
    exact Entry.isLike_plain_paddedLines hpos (hle x hx)

end Table

/-! ## Tables of records -/

/-- The content of the cell is its raw text. -/
def Cell.IsPlain (c : Cell) : Prop := c.content = [.text c.raw]

/-- The cell of plain text with the given lines. -/
def Cell.ofLines (ls : List Text) : Cell :=
  ⟨[.text (.str (String.ofList (Text.unlines ls)))], .str (String.ofList (Text.unlines ls))⟩

/-- The table of plain text that is read from a text. -/
def Table.reread (t : Text) : Record := .table ((Table.read t).map (List.map Cell.ofLines))

/-- What is seen of a cell of plain text is what is written. -/
theorem Cell.IsPlain.outcome_write {c : Cell} (h : c.IsPlain) (raw : c.raw.isString = true) :
    (Parts.write s .seen c.content).outcome = .ok c.rawText := by
  obtain ⟨content, raw'⟩ := c
  obtain rfl : content = [.text raw'] := h
  cases raw' with
  | str t =>
    show Except.ok (t.toList ++ []) = _
    rw [List.append_nil]
    rfl
  | _ => nomatch raw

theorem Cell.IsPlain.isMeasured {c : Cell} (h : c.IsPlain) (raw : c.raw.isString = true) : c.IsMeasured s :=
  (outcome_write_content_eq_ok_iff.1 (h.outcome_write raw)).1

theorem Cell.IsPlain.entry_eq {c : Cell} (h : c.IsPlain) (raw : c.raw.isString = true) :
    c.entry s = .plain c.rawText := by
  rw [entry, ← (outcome_write_content_eq_ok_iff.1 (h.outcome_write raw)).2]
  rfl

theorem Cell.isPlain_ofLines (ls : List Text) : (ofLines ls).IsPlain := rfl

theorem Cell.rawText_ofLines (ls : List Text) : (ofLines ls).rawText = Text.unlines ls := by
  rw [rawText, ofLines]
  exact String.toList_ofList

/-- The table that is read from a written table of plain text has cells of plain text again. -/
theorem Table.reread_text {rows : List Row} (even : IsEven rows) (columns : 0 < columnCount rows)
    (raws : ∀ row ∈ rows, ∀ c ∈ row, c.raw.isString = true) (plain : ∀ row ∈ rows, ∀ c ∈ row, c.IsPlain) {text : Text}
    (hread : Table.read text = rows.map fun row => row.map fun c => c.rawText.paddedLines row.height) :
    ((Table.reread text).writeTable s).outcome = .ok (Table.text (rows.map (List.map (Cell.entry s)))) := by
  have hrows : (Table.read text).map (List.map Cell.ofLines) =
      rows.map fun row => row.map fun c => Cell.ofLines (c.rawText.paddedLines row.height) := by
    rw [hread, List.map_map]
    exact List.map_congr_left fun row _ => List.map_map
  have hraw : ∀ ls, (Cell.ofLines ls).raw.isString = true := fun _ => rfl
  rw [reread, hrows, outcome_writeTable_eq_ok_iff (by simp [hraw])]
  refine ⟨by simp [(Cell.isPlain_ofLines _).isMeasured (hraw _)], ?_⟩
  rw [List.map_map]
  refine text_congr (List.forall₂_map_left_iff.2 (List.forall₂_map_right_iff.2 (List.forall₂_same.2 fun row hrow => ?_)))
  have hne : row ≠ [] := List.ne_nil_of_length_pos (by rwa [even row hrow])
  have hentries : row.map (Cell.entry s) = row.map fun c => Entry.plain c.rawText :=
    List.map_congr_left fun c hc => (plain row hrow c hc).entry_eq (raws row hrow c hc)
  have hlike := isLikeRow_plain hne (hentries ▸ Row.rowHeight_entries row)
  rw [← hentries] at hlike
  have hof : ∀ ls, (Cell.ofLines ls).entry s = .plain (Text.unlines ls) := fun ls => by
    rw [(Cell.isPlain_ofLines ls).entry_eq (hraw ls), Cell.rawText_ofLines]
  simpa only [Function.comp_apply, List.map_map, Function.comp_def, hof] using hlike

/-- A well-typed table with at least one column and without bars in its raw cells is read back: each cell as its raw lines
without the blanks around them, with empty lines below them up to the height of its row. If its cells are plain text, it is
written, and the table of plain text that is read from its text is written as the same text. -/
theorem Table.read_of_writeTable (s : Setup) (rows : List Row) (typed : (Record.table rows).WellTyped)
    (columns : 0 < columnCount rows) (barless : ∀ row ∈ rows, ∀ c ∈ row, '|' ∉ c.rawText) :
    ((∃ text, ((Record.table rows).writeTable s).outcome = .ok text) ↔ ∀ row ∈ rows, ∀ c ∈ row, c.IsMeasured s) ∧
      (∀ text, ((Record.table rows).writeTable s).outcome = .ok text →
        Table.read text = rows.map fun row => row.map fun c => c.rawText.paddedLines row.height) ∧
      ((∀ row ∈ rows, ∀ c ∈ row, c.IsPlain) → ∃ text, ((Record.table rows).writeTable s).outcome = .ok text ∧
        ((Table.reread text).writeTable s).outcome = .ok text) := by
  have even := typed.isEven
  have hread : Table.read (Table.text (rows.map (List.map (Cell.entry s)))) =
      rows.map fun row => row.map fun c => c.rawText.paddedLines row.height := by
    have hbarless : ∀ row ∈ rows.map (List.map (Cell.entry s)), ∀ e ∈ row, '|' ∉ e.raw :=
      List.forall_mem_map.2 fun row hrow => List.forall_mem_map.2 (barless row hrow)
    have heven : IsEven (rows.map (List.map (Cell.entry s))) := even.congr (by simp)
    rw [Table.read_text heven (by rwa [columnCount_entries]) hbarless, List.map_map]
    refine List.map_congr_left fun row _ => ?_
    rw [Function.comp_apply, List.map_map, Row.rowHeight_entries]
    rfl
  have hwrite : ∀ text, ((Record.table rows).writeTable s).outcome = .ok text ↔ _ :=
    fun text => outcome_writeTable_eq_ok_iff typed.raws
  refine ⟨⟨fun ⟨text, h⟩ => ((hwrite text).1 h).1, fun measured => ⟨_, (hwrite _).2 ⟨measured, rfl⟩⟩⟩, ?_, ?_⟩
  · intro text htext
    rw [((hwrite text).1 htext).2, hread]
  · intro plain
    have measured : ∀ row ∈ rows, ∀ c ∈ row, c.IsMeasured s :=
      fun row hrow c hc => (plain row hrow c hc).isMeasured (typed.raws row hrow c hc)
    exact ⟨_, (hwrite _).2 ⟨measured, rfl⟩, Table.reread_text even columns typed.raws plain hread⟩

/-- A table of plain text with rows of two heights, one cell of which looks like a separator. -/
def dashedRows : List Row :=
  [[⟨[.text (.str "---")], .str "---"⟩, ⟨[.text (.str "a\n\n c")], .str "a\n\n c"⟩],
    [⟨[.text (.str " b\u3000")], .str " b\u3000"⟩, ⟨[.text (.str "+")], .str "+"⟩]]

theorem Table.read_of_writeTable_dashed :
    let text := "| --- | a |\n|     |   |\n|     | c |\n|-----+---|\n| b   | + |".toList
    (Record.table dashedRows).WellTyped ∧ 0 < columnCount dashedRows ∧
      (∀ row ∈ dashedRows, ∀ c ∈ row, '|' ∉ c.rawText) ∧ (∀ row ∈ dashedRows, ∀ c ∈ row, c.IsPlain) ∧
      ((Record.table dashedRows).writeTable {}).outcome = .ok text ∧
      Table.read text = [[["---".toList, [], []], [['a'], [], ['c']]], [[['b']], [['+']]]] ∧
      ((Table.reread text).writeTable {}).outcome = .ok text := by
  intro text
  have typed : (Record.table dashedRows).WellTyped := by decide
  have barless : ∀ row ∈ dashedRows, ∀ c ∈ row, '|' ∉ c.rawText := by decide
  have plain : ∀ row ∈ dashedRows, ∀ c ∈ row, c.IsPlain := by simp [dashedRows, Cell.IsPlain]
  have written : ((Record.table dashedRows).writeTable {}).outcome = .ok text := rfl
  obtain ⟨-, hread, hreread⟩ := Table.read_of_writeTable {} dashedRows typed (by decide) barless
  obtain ⟨text', written', again⟩ := hreread plain
  obtain rfl : text = text' := Except.ok.inj (written.symm.trans written')
  exact ⟨typed, by decide, barless, plain, written, hread text written, again⟩

end OrgOutline
