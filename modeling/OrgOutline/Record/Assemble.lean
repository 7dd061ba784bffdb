import OrgOutline.Record.Plain
import OrgOutline.Record.Rule

/-!
# Putting records together

In running text the member `node_type` of an object names the kind of the record; in a fixed place, such as an item of a
list, the kind is given by the place (`Shape`). A record is put together from its members once the lists under them can be
loaded (`assemble`); members are read in a fixed order, whatever their order in the object. A missing field takes its
default. A record of a kind that is not known is a fault in strict loading; otherwise it is kept with its payload, and a
notice says so.
-/

namespace OrgOutline

/-- What a value is expected to be. -/
inductive Shape where
  | record | item | row | cell | property | heading
  deriving DecidableEq, Repr

/-- What is loaded from a value of a shape. -/
abbrev Shape.Loaded : Shape → Type
  | .record => Record
  | .item => Item
  | .row => Row
  | .cell => Cell
  | .property => Property
  | .heading => Heading

/-- The fault of a value that is no object: properties and headings begin with a field that must be there, and the other
shapes with one that may be missing. -/
def Shape.notAnObject : Shape → Fault
  | .property | .heading => .wrongKind
  | _ => .noSuchMember

/-- How the lists of values under the members of an object are loaded: by the shape of their values and the name of the
member. -/
abbrev ListsOf := (s : Shape) → String → Run (List s.Loaded)

/-- An item of a list from its members. -/
def assembleItem (members : Members) (lists : ListsOf) : Run Item := do
  let title ← lists .record "title_line"
  let contents ← lists .record "contents"
  let state ← checkCheckboxState (field members "checkbox_state" (.str "unchecked"))
  pure {
    title, contents, state
    checkbox := field members "is_checkbox" (.bool false)
    counter := field members "force_number" .null }

/-- A cell of a table from its members. -/
def assembleCell (members : Members) (lists : ListsOf) : Run Cell := do
  let content ← lists .record "content"
  pure { content, raw := field members "raw_content" (.str "") }

/-- A row of a table from its members. -/
def assembleRow (lists : ListsOf) : Run Row := lists .cell "cells"

/-- A property from its members. -/
def assembleProperty (members : Members) (lists : ListsOf) : Run Property := do
  let name ← required members "name"
  let value ← lists .record "value"
  pure { name, value }

/-- A heading from its members. -/
def assembleHeading (strict : Bool) (members : Members) (lists : ListsOf) : Run Heading := do
  let level ← required members "nesting_level"
  let title ← required members "title_line"
  let title ← loadTitle title
  let planning ← elementsAt members "planning_items"
  let planning ← eachOf (loadPlanningEntry strict) planning
  let properties ← lists .property "property_list_items"
  let logbook ← elementsAt members "log_book_entries"
  let logbook ← eachOf (loadLogEntry strict) logbook
  let description ← lists .record "description"
  checkLevel level
  pure { level, title, planning, properties, logbook, body := field members "raw_description" (.str ""), description }

/-- A document from its members. -/
def assembleDocument (members : Members) (lists : ListsOf) : Run Document := do
  let headings ← lists .heading "headers"
  let keywordSets ← elementsAt members "todo_keyword_sets"
  let keywordSets ← eachOf loadKeywordSet keywordSets
  let configLines ← elementsAt members "file_config_lines"
  let firstLines ← elementsAt members "lines_before_headings"
  pure { headings, keywordSets, configLines, firstLines }

/-- A table from its members. -/
def assembleTable (lists : ListsOf) : Run Record := do
  let rows ← lists .row "rows"
  checkRows rows
  pure (.table rows)

/-- A list from its members. -/
def assembleList (members : Members) (lists : ListsOf) : Run Record := do
  let items ← lists .item "items"
  pure (.list items (field members "bullet_character" (.str "-")) (field members "is_ordered" (.bool false))
    (field members "number_terminator_character" (.str ".")))

/-- A timestamp or a range of two in running text. -/
def assembleStamp (strict : Bool) (members : Members) : Run Record := do
  let first ← required members "first_timestamp"
  let first ← loadTimestamp strict first
  let second ← loadOptionalTimestamp strict (field members "second_timestamp" .null)
  pure (.stamp first second)

/-- A bare link from its members. -/
def assembleBareLink (members : Members) : Run Record := do
  let kind ← required members "kind"
  let content ← required members "content"
  let kind ← checkBareLinkKind kind
  pure (.bareLink kind content)

/-- A record of a known kind from its members; `none` where the kind is not known. -/
def assembleKnown? (strict : Bool) (kind : String) (members : Members) (lists : ListsOf) : Option (Run Record) :=
  match kind with
  | "Timestamp" => some (.timestamp <$> loadTimestamp strict (.obj members))
  | "Text" => some (.text <$> required members "content")
  | "Link" => some ((.link · (field members "title" .null)) <$> required members "uri")
  | "FractionCookie" =>
    some (pure (.fraction (field members "numerator" .null) (field members "denominator" .null)))
  | "PercentageCookie" => some (pure (.percentage (field members "percentage" .null)))
  | "InlineTimestamp" => some (assembleStamp strict members)
  | "BareLink" => some (assembleBareLink members)
  | "List" => some (assembleList members lists)
  | "ListItem" => some (.listItem <$> assembleItem members lists)
  | "Table" => some (assembleTable lists)
  | "TableRow" => some (.row <$> assembleRow lists)
  | "TableCell" => some (.cell <$> assembleCell members lists)
  | "TitleLine" => some (.title <$> loadTitle (.obj members))
  | "PlanningItem" => some (.planning <$> loadPlanningEntry strict (.obj members))
  | "PropertyListItem" => some (.property <$> assembleProperty members lists)
  | "RawLogBookEntry" => some (pure (.logEntry (loadLogLine members)))
  | "ClockEntry" => some (.logEntry <$> loadClock strict members)
  | "Header" => some (.heading <$> assembleHeading strict members lists)
  | "TodoKeywordSet" => some (.keywordSet <$> loadKeywordSet (.obj members))
  | "Document" => some (.document <$> assembleDocument members lists)
  | _ => none

/-- A record of a kind that is not known: a fault in strict loading, and kept with its payload otherwise. -/
def keepUnknown (strict : Bool) (kind : Json) (members : Members) : Run Record :=
  if strict then .refuse (.unknownKind kind)
  else do
    .tell (.keptUnknown kind)
    pure (.unrecognized kind (members.filter (fun m => m.1 != "node_type")))

/-- A record of the kind that its members name. -/
def assembleRecord (strict : Bool) (members : Members) (lists : ListsOf) : Run Record :=
  match members.lookup "node_type" with
  | none => .fail .missingKind
  | some kind =>
    if !kind.isSet then .fail .missingKind
    else match kind with
      | .arr _ | .obj _ => .fail .wrongKind
      | .str name => (assembleKnown? strict name members lists).getD (keepUnknown strict kind members)
      | _ => keepUnknown strict kind members

/-- What a shape asks for, from the members of an object. -/
def assemble (strict : Bool) (s : Shape) (members : Members) (lists : ListsOf) : Run s.Loaded :=
  match s with
  | .record => assembleRecord strict members lists
  | .item => assembleItem members lists
  | .row => assembleRow lists
  | .cell => assembleCell members lists
  | .property => assembleProperty members lists
  | .heading => assembleHeading strict members lists

end OrgOutline
