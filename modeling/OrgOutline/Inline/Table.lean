import OrgOutline.Run
import OrgOutline.Record.Basic

/-!
# The layout of tables

A table is written from the raw text of its cells, but its columns are as wide as what is seen of them (`Entry.widths`): a
line of a cell is filled up to the width of its column by as many spaces as its seen width falls short. A row is as high as
its highest raw cell, and a line of dashes separates each two rows.
-/

namespace OrgOutline

/-- A cell as it is laid out: its raw text and the widths of its lines as they are seen. -/
structure Entry where
  raw : Text
  widths : List Nat
  deriving DecidableEq, Repr

namespace Entry

/-- The entry of a raw text and what is seen of it: each line counts without the blanks around it. -/
def ofSeen (raw seen : Text) : Entry := ⟨raw, seen.lines.map (fun l => l.trim.length)⟩

/-- The greatest width of a line of the cell. -/
def width (e : Entry) : Nat := e.widths.foldr max 0

/-- A line of the raw text without the blanks around it; empty below the last line. -/
def rawLine (e : Entry) (i : Nat) : Text := (e.raw.lines[i]?.map Text.trim).getD []

/-- The seen width of a line; zero below the last line. -/
def seenWidth (e : Entry) (i : Nat) : Nat := e.widths[i]?.getD 0

/-- A line of the cell, filled up to the width of its column. -/
def line (e : Entry) (column i : Nat) : Text := e.rawLine i ++ Text.spaces (column - e.seenWidth i)

end Entry

namespace Table

/-- The width of a column is the greatest width of its cells. -/
def columnWidth (rows : List (List Entry)) (j : Nat) : Nat :=
  (rows.map (fun r => (r[j]?.map Entry.width).getD 0)).foldr max 0

/-- The widths of all columns, of which the first row has one cell each. -/
def columnWidths (rows : List (List Entry)) : List Nat :=
  (List.range ((rows.head?.map List.length).getD 0)).map (columnWidth rows)

/-- The number of lines of a row. -/
def rowHeight (row : List Entry) : Nat := 1 + (row.map (fun e => e.raw.count '\n')).foldr max 0

/-- A line of a row. -/
def rowLine (widths : List Nat) (row : List Entry) (i : Nat) : Text :=
  ['|', ' '] ++ [' ', '|', ' '].intercalate (List.zipWith (fun w e => e.line w i) widths row) ++ [' ', '|']

/-- The lines of a row. -/
def rowLines (widths : List Nat) (row : List Entry) : List Text := (List.range (rowHeight row)).map (rowLine widths row)

/-- The line between two rows. -/
def separator (widths : List Nat) : Text :=
  '|' :: ['+'].intercalate (widths.map (fun w => List.replicate (w + 2) '-')) ++ ['|']

/-- The lines of a table whose columns have the given widths. -/
def linesOf (widths : List Nat) (rows : List (List Entry)) : List Text :=
  [separator widths].intercalate (rows.map (rowLines widths))

/-- The text of a table. -/
def text (rows : List (List Entry)) : Text := Text.unlines (linesOf (columnWidths rows) rows)

end Table

/-- The raw text of a cell, if its field holds one. -/
def Cell.rawText (c : Cell) : Text :=
  match c.raw with
  | .str s => s.toList
  | _ => []

/-- Before a table is measured, the newlines of its raw cells are counted. An array has elements that could be counted in
the same way and is only found out later; any other value is refused at once. -/
def Cell.checkCountable (c : Cell) : Except Fault Unit :=
  match c.raw with
  | .str _ | .arr _ => .ok ()
  | _ => .error .noSuchMember

/-- Before a table is written, its raw cells are cut into lines, which only a string can be. -/
def Cell.checkText (c : Cell) : Except Fault Unit :=
  match c.raw with
  | .str _ => .ok ()
  | _ => .error .noSuchMember

/-- A check of every cell of a table, row by row. -/
def checkCells (check : Cell → Except Fault Unit) (rows : List Row) : Except Fault Unit := rows.flatten.forM check

end OrgOutline
