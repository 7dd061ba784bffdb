import OrgOutline.Json.Members
import OrgOutline.Record.Basic

/-!
# Records as JSON values

Every record is written as an object whose first member names its kind; an unrecognized record has its payload first and
its kind last. Fields that may be absent are left out when they are null, except the numbers of cookies. A document is
written to a file with the schema version in front (`Document.toFile`).
-/

namespace OrgOutline

/-- A member that is left out when it is null. -/
def optionalMember (name : String) (v : Json) : Members := if v.isNull then [] else [(name, v)]

/-- A timestamp as an object, without the fields that are null. -/
def Timestamp.encode (t : Timestamp) : Json :=
  .obj (("node_type", .str "Timestamp") :: t.fields.filter (fun m => !m.2.isNull))

/-- A member for a timestamp that may be absent. -/
def optionalTimestamp (name : String) : Option Timestamp → Members
  | none => []
  | some t => [(name, t.encode)]

/-- A title as an object. -/
def Title.encode (t : Title) : Json :=
  .obj ([("node_type", .str "TitleLine"), ("raw_title", t.text), ("tags", .arr t.tags)] ++
    optionalMember "todo_keyword" t.keyword)

/-- A planning entry as an object. -/
def PlanningEntry.encode (i : PlanningEntry) : Json :=
  .obj [("node_type", .str "PlanningItem"), ("kind", i.kind), ("timestamp", i.timestamp.encode)]

/-- An entry of a logbook as an object. -/
def LogEntry.encode : LogEntry → Json
  | .line text => .obj [("node_type", .str "RawLogBookEntry"), ("raw", text)]
  | .clock start stop =>
    .obj ([("node_type", .str "ClockEntry"), ("start", start.encode)] ++ optionalTimestamp "end" stop)

/-- A set of keywords as an object. -/
def KeywordSet.encode (k : KeywordSet) : Json :=
  .obj [("node_type", .str "TodoKeywordSet"), ("keywords", .arr k.keywords), ("config_line", k.line),
    ("default", k.builtIn)]

mutual
/-- A record as an object. -/
def Record.encode : Record → Json
  | .text content => .obj [("node_type", .str "Text"), ("content", content)]
  | .link target title =>
    .obj ([("node_type", .str "Link"), ("uri", target)] ++ optionalMember "title" title)
  | .fraction done all => .obj [("node_type", .str "FractionCookie"), ("numerator", done), ("denominator", all)]
  | .percentage value => .obj [("node_type", .str "PercentageCookie"), ("percentage", value)]
  | .table rows => .obj [("node_type", .str "Table"), ("rows", .arr (encodeRows rows))]
  | .list items bullet ordered terminator =>
    .obj [("node_type", .str "List"), ("bullet_character", bullet), ("is_ordered", ordered),
      ("number_terminator_character", terminator), ("items", .arr (encodeItems items))]
  | .stamp first second =>
    .obj ([("node_type", .str "InlineTimestamp"), ("first_timestamp", first.encode)] ++
      optionalTimestamp "second_timestamp" second)
  | .bareLink kind content =>
    .obj [("node_type", .str "BareLink"), ("kind", .str kind.name), ("content", content)]
  | .unrecognized kind payload => .obj (Json.put payload "node_type" kind)
  | .timestamp t => t.encode
  | .listItem item => item.encode
  | .row cells => .obj [("node_type", .str "TableRow"), ("cells", .arr (encodeCells cells))]
  | .cell cell => cell.encode
  | .title t => t.encode
  | .planning i => i.encode
  | .property p => p.encode
  | .logEntry e => e.encode
  | .heading h => h.encode
  | .keywordSet k => k.encode
  | .document d => .obj d.members
termination_by structural x => x

/-- An item of a list as an object. -/
def Item.encode : Item → Json
  | ⟨title, contents, checkbox, state, counter⟩ =>
    .obj ([("node_type", .str "ListItem"), ("title_line", .arr (encodeParts title)),
      ("contents", .arr (encodeParts contents)), ("is_checkbox", checkbox),
      ("checkbox_state", .str state.name)] ++ optionalMember "force_number" counter)
termination_by structural x => x

/-- A cell of a table as an object. -/
def Cell.encode : Cell → Json
  | ⟨content, raw⟩ =>
    .obj [("node_type", .str "TableCell"), ("content", .arr (encodeParts content)), ("raw_content", raw)]
termination_by structural x => x

/-- A property as an object. -/
def Property.encode : Property → Json
  | ⟨name, value⟩ =>
    .obj [("node_type", .str "PropertyListItem"), ("name", name), ("value", .arr (encodeParts value))]
termination_by structural x => x

/-- A heading as an object. -/
def Heading.encode : Heading → Json
  | ⟨level, title, planning, properties, logbook, body, description⟩ =>
    .obj [("node_type", .str "Header"), ("nesting_level", level), ("title_line", title.encode),
      ("planning_items", .arr (planning.map PlanningEntry.encode)),
      ("property_list_items", .arr (encodeProperties properties)),
      ("log_book_entries", .arr (logbook.map LogEntry.encode)), ("raw_description", body),
      ("description", .arr (encodeParts description))]
termination_by structural x => x

/-- The members of the object for a document. -/
def Document.members : Document → Members
  | ⟨headings, keywordSets, configLines, firstLines⟩ =>
    [("node_type", .str "Document"), ("headers", .arr (encodeHeadings headings)),
      ("todo_keyword_sets", .arr (keywordSets.map KeywordSet.encode)), ("file_config_lines", .arr configLines),
      ("lines_before_headings", .arr firstLines)]
termination_by structural x => x

/-- Running text as a list of objects. -/
def encodeParts : List Record → List Json
  | [] => []
  | r :: rs => r.encode :: encodeParts rs
termination_by structural x => x

/-- The items of a list as objects. -/
def encodeItems : List Item → List Json
  | [] => []
  | i :: is => i.encode :: encodeItems is
termination_by structural x => x

/-- The rows of a table as objects. -/
def encodeRows : List (List Cell) → List Json
  | [] => []
  | r :: rs => .obj [("node_type", .str "TableRow"), ("cells", .arr (encodeCells r))] :: encodeRows rs
termination_by structural x => x

/-- The cells of a row as objects. -/
def encodeCells : List Cell → List Json
  | [] => []
  | c :: cs => c.encode :: encodeCells cs
termination_by structural x => x

/-- Properties as objects. -/
def encodeProperties : List Property → List Json
  | [] => []
  | p :: ps => p.encode :: encodeProperties ps
termination_by structural x => x

/-- Headings as objects. -/
def encodeHeadings : List Heading → List Json
  | [] => []
  | h :: hs => h.encode :: encodeHeadings hs
termination_by structural x => x
end

/-- The schema version of the files that are written and read here. -/
def schemaVersion : Int := 1

/-- A document as the object that is written to a file: the schema version, then the document. -/
def Document.toFile (d : Document) : Json := .obj (("schema_version", .int schemaVersion) :: d.members)

/-- A plain value has no form as a record. -/
def Json.encodeAsRecord (v : Json) : Except Fault Json := .error (.notARecord v.kindName)

/-! ## Helper lemmas -/

theorem encodeParts_eq_map (rs : Parts) : encodeParts rs = rs.map Record.encode := by
  induction rs with
  | nil => simp [encodeParts]
  | cons r rs ih => simp [encodeParts, ih]

theorem encodeItems_eq_map (is : List Item) : encodeItems is = is.map Item.encode := by
  induction is with
  | nil => simp [encodeItems]
  | cons i is ih => simp [encodeItems, ih]

theorem encodeCells_eq_map (cs : Row) : encodeCells cs = cs.map Cell.encode := by
  induction cs with
  | nil => simp [encodeCells]
  | cons c cs ih => simp [encodeCells, ih]

theorem encodeRows_eq_map (rs : List Row) : encodeRows rs = rs.map (fun r => (Record.row r).encode) := by
  induction rs with
  | nil => simp [encodeRows]
  | cons r rs ih => simp [encodeRows, Record.encode, ih]

theorem encodeProperties_eq_map (ps : List Property) : encodeProperties ps = ps.map Property.encode := by
  induction ps with
  | nil => simp [encodeProperties]
  | cons p ps ih => simp [encodeProperties, ih]

theorem encodeHeadings_eq_map (hs : List Heading) : encodeHeadings hs = hs.map Heading.encode := by
  induction hs with
  | nil => simp [encodeHeadings]
  | cons h hs ih => simp [encodeHeadings, ih]

end OrgOutline
