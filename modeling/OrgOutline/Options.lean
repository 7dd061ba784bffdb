import OrgOutline.Run

/-!
# Options

The options of a document and of its parts: whether a part of an unknown kind is a failure, and whether the drawers of
headings are written without indentation. There is a second family of options, those that all formats have in common, which
lacks the latter; the components of this library refuse it.
-/

namespace OrgOutline

/-- The options for writing a document; an option holds when its value is set. -/
structure Options where
  failOnUnknown : Json := .bool false
  dontIndent : Json := .bool false

/-- Options of one of the two families. -/
inductive OptionSet where
  | own (options : Options)
  | common (failOnUnknown : Json)

namespace OptionSet

/-- The name of the option that makes a part of an unknown kind a failure. -/
def failOnUnknownName : String := "fail_on_unknown_parts"

/-- The name of the option that leaves out the indentation of drawers. -/
def dontIndentName : String := "dont_indent"

/-- The names of the options of this library. -/
def names : List String := [failOnUnknownName, dontIndentName]

/-- The name of the family. -/
def familyName : OptionSet → String
  | .own _ => Fault.ownOptionsName
  | .common _ => Fault.commonOptionsName

/-- The options under their names. -/
def members : OptionSet → Members
  | .own o => [(failOnUnknownName, o.failOnUnknown), (dontIndentName, o.dontIndent)]
  | .common f => [(failOnUnknownName, f)]

/-- Sets one option; a name that the family does not have is a fault. -/
def set (o : OptionSet) (name : String) (v : Json) : Except Fault OptionSet :=
  match o with
  | .own o =>
    if name = failOnUnknownName then .ok (.own { o with failOnUnknown := v })
    else if name = dontIndentName then .ok (.own { o with dontIndent := v })
    else .error .wrongKind
  | .common _ => if name = failOnUnknownName then .ok (.common v) else .error .wrongKind

/-- Sets several options, one after another. -/
def update (o : OptionSet) : Members → Except Fault OptionSet
  | [] => .ok o
  | (name, v) :: rest => do
    let o ← o.set name v
    update o rest

/-- Sets the options that an object names; any other value names none and is a fault. -/
def updateFrom (o : OptionSet) : Json → Except Fault OptionSet
  | .obj changes => o.update changes
  | _ => .error .wrongKind

/-- The options after each of several updates; an update that fails leaves them as they are. -/
def history (o : OptionSet) : List Json → List (Except Fault OptionSet)
  | [] => []
  | changes :: rest => o.updateFrom changes :: history ((o.updateFrom changes).toOption.getD o) rest

/-- The options that are left when some are overridden. Names that no option has are skipped, with a notice. -/
def override (o : Option OptionSet) (changes : Members) : Run (Option OptionSet) :=
  if changes.isEmpty then pure o
  else do
    let skipped := (changes.map Prod.fst).filter (fun name => !names.contains name)
    if skipped.isEmpty then pure () else .note (.optionsSkipped skipped)
    let updated ← .ofExcept ((o.getD (.own {})).update (changes.filter (fun m => names.contains m.1)))
    pure (some updated)

/-- The options that a component works with: the defaults where none are given, and none of the other family. -/
def accept (c : Component) : Option OptionSet → Run Options
  | none => pure {}
  | some (.own o) => pure o
  | some (.common _) => .fail (.foreignOptions c)

end OptionSet
end OrgOutline
