import OrgOutline.Timestamp.Basic

/-!
# Records

What a document is made of. A document has headings, a heading has a title, planning entries, properties, a logbook and a
body, and running text is a list of parts: plain text, links, cookies, timestamps, lists and tables. Where the model fixes
the structure, the types do; the fields at the leaves hold any JSON value, because loading keeps what it finds there.

A list of parts may hold any record. Those that are no parts, and records of a kind that is not known here
(`Record.unrecognized`), are written as empty text.
-/

namespace OrgOutline

/-- The kinds of links that are recognized without brackets. -/
inductive BareLinkKind where
  | url | www | mail | phone
  deriving DecidableEq, Repr

/-- The name of a kind of bare link. -/
def BareLinkKind.name : BareLinkKind → String
  | .url => "url"
  | .www => "www-url"
  | .mail => "e-mail"
  | .phone => "phone-number"

/-- The kind of bare link that a value names. -/
def BareLinkKind.ofJson? : Json → Option BareLinkKind
  | .str "url" => some .url
  | .str "www-url" => some .www
  | .str "e-mail" => some .mail
  | .str "phone-number" => some .phone
  | _ => none

/-- The states of a checkbox. -/
inductive CheckboxState where
  | checked | unchecked | underway
  deriving DecidableEq, Repr

/-- The name of a state of a checkbox. -/
def CheckboxState.name : CheckboxState → String
  | .checked => "checked"
  | .unchecked => "unchecked"
  | .underway => "partial"

/-- The state of a checkbox that a value names. -/
def CheckboxState.ofJson? : Json → Option CheckboxState
  | .str "checked" => some .checked
  | .str "unchecked" => some .unchecked
  | .str "partial" => some .underway
  | _ => none

/-- How a checkbox is drawn. -/
def CheckboxState.glyph : CheckboxState → Text
  | .checked => ['[', 'X', ']']
  | .unchecked => ['[', ' ', ']']
  | .underway => ['[', '-', ']']

/-- The pieces of a heading line. -/
structure Title where
  text : Json
  keyword : Json := .null
  tags : List Json := []

/-- An entry of the planning line of a heading. -/
structure PlanningEntry where
  kind : Json
  timestamp : Timestamp

/-- An entry of a logbook: a line kept as it is, or a clock, which runs as long as it has no end. -/
inductive LogEntry where
  | line (text : Json)
  | clock (start : Timestamp) (stop : Option Timestamp)

/-- A set of keywords for headings and the line that declares it. -/
structure KeywordSet where
  keywords : List Json := []
  line : Json := .str ""
  builtIn : Json := .bool false

mutual
/-- A record of any kind. -/
inductive Record where
  | text (content : Json)
  | link (target title : Json)
  | fraction (done all : Json)
  | percentage (value : Json)
  | table (rows : List (List Cell))
  | list (items : List Item) (bullet ordered terminator : Json)
  | stamp (first : Timestamp) (second : Option Timestamp)
  | bareLink (kind : BareLinkKind) (content : Json)
  | unrecognized (kind : Json) (payload : List (String × Json))
  | timestamp (timestamp : Timestamp)
  | listItem (item : Item)
  | row (cells : List Cell)
  | cell (cell : Cell)
  | title (title : Title)
  | planning (item : PlanningEntry)
  | property (property : Property)
  | logEntry (entry : LogEntry)
  | heading (heading : Heading)
  | keywordSet (set : KeywordSet)
  | document (document : Document)

/-- An item of a list: what stands on its first line, what stands below, its checkbox and its counter. -/
structure Item where
  title : List Record
  contents : List Record
  checkbox : Json
  state : CheckboxState
  counter : Json

/-- A cell of a table: its parsed content, by which it is measured, and its text as written. -/
structure Cell where
  content : List Record
  raw : Json

/-- A property of a heading. -/
structure Property where
  name : Json
  value : List Record

/-- A heading with everything up to the next one; the parsed description is kept beside the body and never written. -/
structure Heading where
  level : Json
  title : Title
  planning : List PlanningEntry
  properties : List Property
  logbook : List LogEntry
  body : Json
  description : List Record

/-- A whole file. -/
structure Document where
  headings : List Heading
  keywordSets : List KeywordSet
  configLines : List Json
  firstLines : List Json
end

instance : Inhabited Record := ⟨.text .null⟩

/-- A row of a table. -/
abbrev Row := List Cell

/-- Running text. -/
abbrev Parts := List Record

/-- The name of a known kind of record, as it stands in a file. -/
def LogEntry.kindName : LogEntry → String
  | .line _ => "RawLogBookEntry"
  | .clock .. => "ClockEntry"

namespace Record

/-- The name of the kind of a record, as it stands in a file. -/
def kind : Record → Json
  | .text _ => .str "Text"
  | .link .. => .str "Link"
  | .fraction .. => .str "FractionCookie"
  | .percentage _ => .str "PercentageCookie"
  | .table _ => .str "Table"
  | .list .. => .str "List"
  | .stamp .. => .str "InlineTimestamp"
  | .bareLink .. => .str "BareLink"
  | .unrecognized kind _ => kind
  | .timestamp _ => .str "Timestamp"
  | .listItem _ => .str "ListItem"
  | .row _ => .str "TableRow"
  | .cell _ => .str "TableCell"
  | .title _ => .str "TitleLine"
  | .planning _ => .str "PlanningItem"
  | .property _ => .str "PropertyListItem"
  | .logEntry e => .str e.kindName
  | .heading _ => .str "Header"
  | .keywordSet _ => .str "TodoKeywordSet"
  | .document _ => .str "Document"

/-- The names of the known kinds. -/
def kindNames : List String :=
  ["Timestamp", "Text", "Link", "FractionCookie", "PercentageCookie", "InlineTimestamp", "BareLink", "List", "ListItem",
   "Table", "TableRow", "TableCell", "TitleLine", "PlanningItem", "PropertyListItem", "RawLogBookEntry", "ClockEntry",
   "Header", "TodoKeywordSet", "Document"]

/-- The parts that start a new line of their own behind them. -/
def isBlock : Record → Bool
  | .table _ | .list .. => true
  | _ => false

/-- A plain value that stands where a part is expected: a part that is not recognized, called by the kind of the value. -/
def ofPlain (v : Json) : Record := .unrecognized (.str v.kindName) []

end Record
end OrgOutline
