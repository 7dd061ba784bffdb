import OrgOutline.Json.Same
import OrgOutline.Options
import OrgOutline.Record.Basic
import OrgOutline.Timestamp.Duration
import OrgOutline.Timestamp.Text

/-!
# Setups

What writing depends on beside the document: the options, who receives reports, and three functions that may be replaced,
for the text of a timestamp, the text of the time between two timestamps, and the choice of planning entries. Each of the
three may fail where it is used. Reports go to the collector; without one they become remarks, and a collector that fails is
remarked upon and otherwise ignored (`Setup.report`).
-/

namespace OrgOutline

/-- Who receives reports: nobody, a collector that keeps them, or one that fails at every report. -/
inductive Collector where
  | absent
  | keeping
  | failing (reason : Text)

/-- The kind of planning entries that stay in the body of a heading. -/
def bodyTimestampKind : String := "TIMESTAMP"

/-- A kind of planning entry belongs on the planning line unless it names a timestamp of the body. An array or object cannot
be the name of a kind. -/
def isPlanningKind (kind : Json) : Except Fault Bool :=
  match kind with
  | .arr _ | .obj _ => .error .wrongKind
  | .str s => .ok (s != bodyTimestampKind)
  | _ => .ok true

/-- The replaceable functions and the collector. -/
structure Collaborators where
  collector : Collector := .absent
  timestampText : Timestamp → Except Fault Text := Timestamp.toText
  durationText : Timestamp → Timestamp → Except Fault Text := Timestamp.duration
  keepsEntry : PlanningEntry → Except Fault Bool := fun i => isPlanningKind i.kind

/-- Keeps the planning entries whose kind is one of those given. -/
def keepKinds (kinds : List Json) (i : PlanningEntry) : Except Fault Bool := .ok (kinds.any (fun k => k.same i.kind))

/-- All that writing depends on beside the document. -/
structure Setup extends Collaborators where
  options : Options := {}

/-- Reports a part that is replaced by empty text, unless the options make it a failure. What is said of the part is put
together first. -/
def Setup.report (s : Setup) (c : Component) (part : Json) : Run Unit := do
  .ofExcept (Json.checkShown [part])
  if s.options.failOnUnknown.isSet then .fail (.unknownPart part)
  else match s.collector with
    | .absent => .note (.unknownPart part)
    | .keeping => .note (.reported ⟨part, c⟩)
    | .failing reason => .note (.collectorFailed reason)

end OrgOutline
