import OrgOutline.Record.Basic
import OrgOutline.Record.Member

/-!
# Loading records without running text

Timestamps, titles, planning entries, entries of logbooks and sets of keywords are loaded from one object each. A field
that timestamps do not have is a fault in strict loading; otherwise it is dropped, and a notice says so.
-/

namespace OrgOutline

/-- The names of fields that timestamps do not have. -/
def unknownTimestampFields (names : List Json) : List Json :=
  names.filter (fun n => match n with
    | .str s => s != "node_type" && !Timestamp.fieldNames.contains s
    | _ => true)

/-- What is said about fields that timestamps do not have: nothing where there are none, a fault in strict loading. -/
def reportUnknownFields (strict : Bool) (unknown : List Json) : Run Unit :=
  if unknown.isEmpty then pure ()
  else if strict then .refuse (.unknownTimestampFields unknown)
  else .tell (.fieldsIgnored unknown)

/-- Loads a timestamp. Its names are looked through first, whatever the kind of the value. -/
def loadTimestamp (strict : Bool) (v : Json) : Run Timestamp := do
  let names ← elements v
  if names.all Json.isScalar then
    reportUnknownFields strict (unknownTimestampFields names)
    let members ← membersOf .noSuchMember v
    .ofExcept (Timestamp.ofMembers members)
  else .fail .wrongKind

/-- Loads a timestamp that may be absent. -/
def loadOptionalTimestamp (strict : Bool) (v : Json) : Run (Option Timestamp) :=
  if v.isNull then pure none else do
    let t ← loadTimestamp strict v
    pure (some t)

/-- Loads the title of a heading. -/
def loadTitle (v : Json) : Run Title := do
  let members ← membersOf .wrongKind v
  let text ← required members "raw_title"
  let tags ← elementsAt members "tags"
  pure { text, keyword := field members "todo_keyword" .null, tags }

/-- Loads an entry of a planning line. -/
def loadPlanningEntry (strict : Bool) (v : Json) : Run PlanningEntry := do
  let members ← membersOf .wrongKind v
  let kind ← required members "kind"
  let timestamp ← required members "timestamp"
  let timestamp ← loadTimestamp strict timestamp
  pure { kind, timestamp }

/-- Loads a clock. -/
def loadClock (strict : Bool) (members : Members) : Run LogEntry := do
  let start ← required members "start"
  let start ← loadTimestamp strict start
  let stop ← loadOptionalTimestamp strict (field members "end" .null)
  pure (.clock start stop)

/-- Loads a line of a logbook that is kept as it is. -/
def loadLogLine (members : Members) : LogEntry := .line (field members "raw" (.str ""))

/-- Loads an entry of a logbook, which must name its kind. -/
def loadLogEntry (strict : Bool) (v : Json) : Run LogEntry := do
  let members ← membersOf .noSuchMember v
  match field members "node_type" .null with
  | .str "ClockEntry" => loadClock strict members
  | .str "RawLogBookEntry" => pure (loadLogLine members)
  | other => .refuse (.unknownLogEntry other)

/-- Loads a set of keywords. -/
def loadKeywordSet (v : Json) : Run KeywordSet := do
  let members ← membersOf .noSuchMember v
  let keywords ← elementsAt members "keywords"
  pure { keywords, line := field members "config_line" (.str ""), builtIn := field members "default" (.bool false) }

end OrgOutline
