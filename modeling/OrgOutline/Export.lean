import OrgOutline.Document.Write
import OrgOutline.Overrides
import OrgOutline.Record.Load
import OrgOutline.Record.Part

/-!
# Exporting

The ways to get Org text from records, each from the collaborators and the options that a caller gives, which for a document
can be overridden by name. Options of another family are refused before anything is written, and a record that is not what
is asked for is refused after that.
-/

namespace OrgOutline

/-- The setup of a component. -/
def Collaborators.setup (c : Collaborators) (component : Component) (options : Option OptionSet) : Run Setup := do
  let options ← OptionSet.accept component options
  pure { c with options }

/-- The text of a document. -/
def Document.export (c : Collaborators) (options : Option OptionSet) (d : Document) : Run Text := do
  let s ← c.setup .document options
  d.write s

/-- The text of a document with overrides of the options and of the collaborators that are left open. -/
def Document.exportWith (g : GivenCollaborators) (options : Option OptionSet) (overrides : Members) (d : Document) :
    Run Text := do
  let g ← .ofExcept (g.override overrides)
  let options ← OptionSet.override options (optionOverrides overrides)
  d.export g.complete options

/-- The text of running text in a view. -/
def Parts.export (c : Collaborators) (options : Option OptionSet) (view : View) (parts : Parts) : Run Text := do
  let s ← c.setup view.component options
  Parts.write s view parts

namespace Record

/-- Writes a record that must be a heading. -/
def writeHeading (s : Setup) (withLine : Bool) (flush : Json) (r : Record) : Run Text := do
  let h ← .ofExcept r.asHeading
  h.write s withLine flush

/-- Writes a record that must be a list. -/
def writeList (s : Setup) : Record → Run Text
  | .list items bullet ordered terminator => do
    let texts ← writeItems s .raw ⟨bullet, ordered, terminator⟩ (.int 0) items
    pure (Text.unlines texts)
  | _ => .fail .noSuchMember

/-- Writes a record that must be a table. -/
def writeTable (s : Setup) : Record → Run Text
  | .table rows => do
    let piece ← (Record.table rows).write s .raw
    .ofExcept (Piece.join [piece])
  | _ => .fail .noSuchMember

/-- The text of a heading, with or without its line. -/
def exportHeading (c : Collaborators) (options : Option OptionSet) (withLine : Bool) (flush : Json) (r : Record) :
    Run Text := do
  let s ← c.setup .heading options
  r.writeHeading s withLine flush

/-- The line of a heading, with or without its stars. -/
def headingLine (withStars : Bool) (r : Record) : Except Fault Text := do
  let h ← r.asHeading
  if withStars then h.line else h.bareLine

/-- The text of a timestamp. -/
def timestampText (r : Record) : Except Fault Text := r.asTimestamp.bind Timestamp.toText

/-- The text of the time from one timestamp to another. The later one is looked at first. -/
def duration (start stop : Record) : Except Fault Text := do
  let stop ← stop.asTimestamp
  let _ ← stop.moment
  let start ← start.asTimestamp
  start.duration stop

/-- Whether a record belongs on the planning line. -/
def isPlanned (r : Record) : Except Fault Bool := do
  let kind ← r.namedKind
  isPlanningKind kind

/-- The kinds of the parts that values stand for, all of which must be parts. Each part is loaded and looked at before the
next one. -/
def partKinds (strict : Bool) : List Json → Run (List PartKind)
  | [] => pure []
  | v :: vs => do
    let r ← load strict v
    let kind ← .ofExcept r.partKind
    let kinds ← partKinds strict vs
    pure (kind :: kinds)

end Record

/-! ## Helper lemmas -/

/-- A document is exported by being written with the options that are accepted. -/
theorem Document.export_eq_bind (c : Collaborators) (options : Option OptionSet) (d : Document) :
    d.export c options = OptionSet.accept .document options >>= fun o => d.write { c with options := o } := by
  rw [Document.export, Collaborators.setup, bind_assoc]
  exact bind_congr fun o => pure_bind _ _

/-- Without overrides a document is exported with what the caller gives. -/
theorem Document.exportWith_nil (g : GivenCollaborators) (options : Option OptionSet) (d : Document) :
    d.exportWith g options [] = d.export g.complete options := by
  rw [exportWith, GivenCollaborators.override_nil]
  exact (pure_bind g _).trans (pure_bind options _)

end OrgOutline
