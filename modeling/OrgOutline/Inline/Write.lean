import OrgOutline.Inline.Items
import OrgOutline.Inline.Pieces
import OrgOutline.Inline.Table
import OrgOutline.Setup

/-!
# Writing running text

Running text is written part by part. There are two views of it: the raw view, which is what stands in a file, and the view
by which the cells of a table are measured, in which a link is seen as its title and a table as nothing. In the raw view
what follows a list or a table starts on a new line. A part that is not recognized is reported and leaves no text.
-/

namespace OrgOutline

/-- The view in which running text is written. -/
inductive View where
  | raw | seen
  deriving DecidableEq, Repr

/-- The component that writes running text in a view. -/
def View.component : View → Component
  | .raw => .inline
  | .seen => .display

/-- A piece behind the part before it: in the raw view, what follows a list or a table starts on a new line. -/
def View.place (view : View) (behindBlock : Bool) (p : Piece) : Except Fault Piece :=
  if view = .raw ∧ behindBlock then p.onNewLine else .ok p

/-- The piece of a link in a view. -/
def View.link (view : View) (target title : Json) : Except Fault Piece :=
  match view with
  | .raw => (Json.checkShown [target, title]).map fun _ => some (linkText target title)
  | .seen => .ok (Piece.ofField (seenOfLink target title))

/-- The text of a timestamp or of a range of two. -/
def stampText (s : Setup) (first : Timestamp) (second : Option Timestamp) : Except Fault Text :=
  match second with
  | none => s.timestampText first
  | some t => do
    let firstText ← s.timestampText first
    let secondText ← s.timestampText t
    .ok (firstText ++ rangeMark ++ secondText)

/-- The text of a table once its cells have been measured, with a notice of the widths of its columns. -/
def finishTable (rows : List Row) (entries : List (List Entry)) : Run Text := do
  .note (.tableMeasured rows.length (Table.columnWidths entries))
  .ofExcept (checkCells Cell.checkText rows)
  pure (Table.text entries)

mutual
/-- Writes a part. -/
def Record.write (s : Setup) (view : View) : Record → Run Piece
  | .text content => pure (Piece.ofField content)
  | .link target title => .ofExcept (view.link target title)
  | .fraction done all => do
    let text ← .ofExcept (fractionText done all)
    pure (some text)
  | .percentage v => do
    let text ← .ofExcept (percentageText v)
    pure (some text)
  | .stamp first second => do
    let text ← .ofExcept (stampText s first second)
    pure (some text)
  | .bareLink _ content => pure (Piece.ofField content)
  | .list items bullet ordered terminator => do
    let texts ← writeItems s view ⟨bullet, ordered, terminator⟩ (.int 0) items
    pure (some (Text.unlines texts))
  | .table rows =>
    match view with
    | .seen => pure (some [])
    | .raw =>
      if rows.isEmpty then pure (some []) else do
        .ofExcept (checkCells Cell.checkCountable rows)
        let entries ← measureRows s rows
        let text ← finishTable rows entries
        pure (some text)
  | r => do
    s.report view.component r.kind
    pure (some [])
termination_by structural x => x

/-- Writes the parts of running text; `behindBlock` says that a list or a table stands before them. -/
def writePieces (s : Setup) (view : View) (behindBlock : Bool) : List Record → Run (List Piece)
  | [] => pure []
  | r :: rs => do
    let p ← r.write s view
    let p ← .ofExcept (view.place behindBlock p)
    let ps ← writePieces s view r.isBlock rs
    pure (p :: ps)
termination_by structural x => x

/-- Writes the items of a list; `number` is the number of the item before them. -/
def writeItems (s : Setup) (view : View) (style : ItemStyle) (number : Json) : List Item → Run (List Text)
  | [] => pure []
  | ⟨title, contents, checkbox, state, counter⟩ :: items => do
    let number ← .ofExcept (nextNumber number counter)
    let mark ← .ofExcept (style.markText number counter)
    let pieces ← writePieces s view false title
    let titleText ← .ofExcept (Piece.join pieces)
    let pieces ← writePieces s view false contents
    let contentsText ← .ofExcept (Piece.join pieces)
    let texts ← writeItems s view style number items
    pure (style.itemText mark (ItemStyle.checkboxText checkbox state) titleText contentsText :: texts)
termination_by structural x => x

/-- Measures the cells of a table, row by row. -/
def measureRows (s : Setup) : List (List Cell) → Run (List (List Entry))
  | [] => pure []
  | row :: rows => do
    let entries ← measureCells s row
    let rest ← measureRows s rows
    pure (entries :: rest)
termination_by structural x => x

/-- Measures the cells of a row. -/
def measureCells (s : Setup) : List Cell → Run (List Entry)
  | [] => pure []
  | ⟨content, raw⟩ :: cells => do
    let pieces ← writePieces s .seen false content
    let seen ← .ofExcept (Piece.join pieces)
    let rest ← measureCells s cells
    pure (Entry.ofSeen (Cell.rawText ⟨content, raw⟩) seen :: rest)
termination_by structural x => x
end

/-- Writes running text in a view. -/
def Parts.write (s : Setup) (view : View) (parts : Parts) : Run Text := do
  let pieces ← writePieces s view false parts
  .ofExcept (Piece.join pieces)

end OrgOutline
