import OrgOutline.Heading.Body
import OrgOutline.Heading.Drawer
import OrgOutline.Heading.Title
import OrgOutline.Inline.Write

/-!
# Writing headings

A heading is written as its line, its planning line, its two drawers and its body, each of which is empty or ends with a
newline. The planning line is indented by one space more than the heading has stars; the drawers are too, unless the
options or the caller say otherwise.
-/

namespace OrgOutline

/-! ## The planning line -/

/-- The planning entries that belong on the planning line. -/
def keptEntries (s : Setup) : List PlanningEntry → Run (List PlanningEntry)
  | [] => pure []
  | i :: is => do
    let keep ← .ofExcept (s.keepsEntry i)
    let rest ← keptEntries s is
    pure (if keep then i :: rest else rest)

/-- A planning entry with its timestamp. -/
def planningText (s : Setup) (i : PlanningEntry) : Except Fault Text := do
  Json.checkShown [i.kind]
  let t ← s.timestampText i.timestamp
  .ok (i.kind.shown ++ ':' :: ' ' :: t)

/-- The planning line with the given entries; none without an entry. -/
def planningLine (indentation : Text) (entries : List Text) : Text :=
  if entries.isEmpty then [] else indentation ++ Text.trimEnd ([' '].intercalate entries) ++ ['\n']

/-- Writes the planning line. All entries are chosen before one is written. -/
def writePlanning (s : Setup) (indentation : Text) (entries : List PlanningEntry) : Run Text := do
  let kept ← keptEntries s entries
  let texts ← .ofExcept (kept.mapM (planningText s))
  pure (planningLine indentation texts)

/-! ## The drawers -/

/-- The lines of the properties. -/
def writeProperties (s : Setup) : List Property → Run (List Text)
  | [] => pure []
  | p :: ps => do
    .ofExcept (Json.checkShown [p.name])
    let value ← Parts.write s .raw p.value
    let rest ← writeProperties s ps
    pure (Drawer.propertyLine p.name value :: rest)

/-- A line of the logbook. -/
def writeLogEntry (s : Setup) (indentation : Text) : LogEntry → Run Text
  | .line text => do
    .ofExcept (Json.checkShown [text])
    pure (if text.isSet then indentation ++ text.shown else [])
  | .clock start none => do
    let startText ← .ofExcept (s.timestampText start)
    pure (indentation ++ Drawer.runningClock startText)
  | .clock start (some stop) => do
    let startText ← .ofExcept (s.timestampText start)
    let stopText ← .ofExcept (s.timestampText stop)
    let duration ← .ofExcept (s.durationText start stop)
    pure (indentation ++ Drawer.endedClock startText stopText duration)

/-- The lines of the logbook. -/
def writeLogbook (s : Setup) (indentation : Text) : List LogEntry → Run (List Text)
  | [] => pure []
  | e :: es => do
    let line ← writeLogEntry s indentation e
    let rest ← writeLogbook s indentation es
    pure (line :: rest)

/-! ## Headings -/

/-- How many spaces the planning line of a heading is indented by. -/
def Heading.indentation (h : Heading) : Except Fault Text :=
  match h.level.asInt? with
  | some n => (Json.int (n + 1)).toCount.map Text.spaces
  | none => .error .wrongKind

/-- Whether the drawers are written without indentation: what the caller says, or else the options. -/
def drawersFlush (s : Setup) (flush : Json) : Bool := (if flush.isNull then s.options.dontIndent else flush).isSet

/-- The line of a heading and its newline, if it is asked for. -/
def Heading.openingText (h : Heading) (withLine : Bool) : Except Fault Text :=
  if withLine then h.line.map (· ++ ['\n']) else .ok []

/-- Writes a heading, with or without its line. -/
def Heading.write (s : Setup) (withLine : Bool) (flush : Json) (h : Heading) : Run Text := do
  let indentation ← .ofExcept h.indentation
  let drawerIndentation := if drawersFlush s flush then [] else indentation
  let opening ← .ofExcept (h.openingText withLine)
  let planning ← writePlanning s indentation h.planning
  let properties ← writeProperties s h.properties
  let logbook ← writeLogbook s drawerIndentation h.logbook
  let body ← .ofExcept (bodyText h.body)
  pure (opening ++ planning ++ Drawer.properties drawerIndentation properties ++
    Drawer.logbook drawerIndentation logbook ++ body)

end OrgOutline
