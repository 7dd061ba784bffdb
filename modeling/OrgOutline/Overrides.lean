import OrgOutline.Setup

/-!
# Overrides

What an export works with can be overridden by name, with a plain value for each name: the options, and the collaborators
that the caller has left open (`GivenCollaborators.override`). A plain value is no function, which comes to light when it is
used as one; as a collector it fails at every report, unless it is not set and nobody collects. What the caller has given
cannot be given again.
-/

namespace OrgOutline

/-- The collaborators that a caller gives; the others are left open. -/
structure GivenCollaborators where
  collector : Option Collector := none
  timestampText : Option (Timestamp → Except Fault Text) := none
  durationText : Option (Timestamp → Timestamp → Except Fault Text) := none
  keepsEntry : Option (PlanningEntry → Except Fault Bool) := none

/-- The collaborators that are given, with the defaults for those that are left open. -/
def GivenCollaborators.complete (g : GivenCollaborators) : Collaborators :=
  let base : Collaborators := {}
  { collector := g.collector.getD base.collector
    timestampText := g.timestampText.getD base.timestampText
    durationText := g.durationText.getD base.durationText
    keepsEntry := g.keepsEntry.getD base.keepsEntry }

/-! ## Plain values in the place of collaborators -/

/-- What a collector that is no function says when it is called. -/
def notCallable (v : Json) : Text := '\'' :: v.kindName.toList ++ "' object is not callable".toList

/-- A plain value as a collector: nobody collects if it is not set, and otherwise every report fails. -/
def Collector.ofValue (v : Json) : Collector := if v.isSet then .failing (notCallable v) else .absent

/-! ## Names -/

/-- The names of what every export is given. -/
def alwaysGiven : List String := ["document", "options"]

/-- The name of the collector. -/
def collectorName : String := "diagnostic_callback"

/-- The name of the function for the text of a timestamp. -/
def timestampTextName : String := "timestamp_formatter"

/-- The name of the function for the text of a duration. -/
def durationTextName : String := "duration_formatter"

/-- The name of the choice of planning entries. -/
def keepsEntryName : String := "planning_filter"

/-- The names of the collaborators. -/
def collaboratorNames : List String := [collectorName, timestampTextName, durationTextName, keepsEntryName]

/-- The overrides of options: all but those of collaborators. -/
def optionOverrides (overrides : Members) : Members := overrides.filter (fun m => !collaboratorNames.contains m.1)

/-! ## Overriding -/

/-- A name that nothing may be given under. -/
def checkNotNamed (overrides : Members) (name : String) : Except Fault Unit :=
  if (overrides.lookup name).isSome then .error (.givenTwice name) else .ok ()

/-- A collaborator that is given by the caller or else by an override under its name. -/
def fillIn {α : Type} (overrides : Members) (name : String) (ofValue : Json → α) (given : Option α) :
    Except Fault (Option α) :=
  match overrides.lookup name with
  | none => .ok given
  | some v => if given.isSome then .error (.givenTwice name) else .ok (some (ofValue v))

/-- The collaborators that are given once the overrides have been looked at. -/
def GivenCollaborators.override (g : GivenCollaborators) (overrides : Members) : Except Fault GivenCollaborators := do
  alwaysGiven.forM (checkNotNamed overrides)
  let collector ← fillIn overrides collectorName Collector.ofValue g.collector
  let timestampText ← fillIn overrides timestampTextName (fun _ _ => .error .wrongKind) g.timestampText
  let durationText ← fillIn overrides durationTextName (fun _ _ _ => .error .wrongKind) g.durationText
  let keepsEntry ← fillIn overrides keepsEntryName (fun _ _ => .error .wrongKind) g.keepsEntry
  .ok { collector, timestampText, durationText, keepsEntry }

/-! ## Helper lemmas -/

/-- Without overrides the collaborators stay as they are given. -/
theorem GivenCollaborators.override_nil (g : GivenCollaborators) : g.override [] = .ok g := rfl

/-- Nothing given means the defaults. -/
theorem GivenCollaborators.complete_default : ({} : GivenCollaborators).complete = {} := rfl

end OrgOutline
