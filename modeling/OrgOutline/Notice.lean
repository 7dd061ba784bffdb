import OrgOutline.Fault

/-!
# Notices

What loading and writing have to say beside their result: remarks for a log, at the level of a warning or of a detail, and
the reports that a collector of diagnostics receives as events. Each cause is a constructor, and each remark has one logger
and one text.
-/

namespace OrgOutline

/-- A report of a part that was replaced by empty text: the name of its kind and the component that met it. -/
structure Report where
  part : Json
  component : Component

/-- What a collector receives: the type of the event, what it says, the kind of the part, and who met it. -/
structure Event where
  eventType : String
  message : Text
  part : Json
  renderer : String

/-- The event on one line, with its type in front. -/
def Event.line (e : Event) : Text := '[' :: e.eventType.toList.map Char.toUpper ++ "] ".toList ++ e.message

/-- The type of the event that a report is. -/
def unknownPartType : String := "unknown_part"

/-- The event that a report is. -/
def Report.event (r : Report) : Event := ⟨unknownPartType, Fault.unknownPartMessage r.part, r.part, r.component.name⟩

/-- Something that happened on the way to a result. -/
inductive Notice where
  /-- Names were given that no option has. -/
  | optionsSkipped (names : List String)
  /-- A record of an unknown kind was kept as an unrecognized part. -/
  | keptUnknown (name : Json)
  /-- Fields that timestamps do not have were dropped. -/
  | fieldsIgnored (names : List Json)
  /-- A file of another schema version was read all the same. -/
  | schemaDiffers (found : Json)
  /-- A document is about to be written. -/
  | documentBegun (headings lines : Nat)
  /-- The columns of a table have been measured. -/
  | tableMeasured (rows : Nat) (widths : List Nat)
  /-- A part was replaced by empty text and nobody collects reports. -/
  | unknownPart (name : Json)
  /-- The collector of reports failed. -/
  | collectorFailed (reason : Text)
  /-- A collector received a report. -/
  | reported (report : Report)

/-- The level of a remark. -/
inductive Level where
  | debug | warning
  deriving DecidableEq, Repr

/-- A remark as it stands in the log. -/
structure Remark where
  level : Level
  logger : String
  text : Text

namespace Notice

/-- The level of a remark; a report is no remark. -/
def level? : Notice → Option Level
  | .optionsSkipped _ | .keptUnknown _ | .documentBegun .. | .tableMeasured .. => some .debug
  | .fieldsIgnored _ | .schemaDiffers _ | .unknownPart _ | .collectorFailed _ => some .warning
  | .reported _ => none

/-- The logger of a notice. -/
def logger : Notice → String
  | .optionsSkipped _ => "orgexport.api"
  | .keptUnknown _ | .fieldsIgnored _ | .schemaDiffers _ => "orgexport.ast.serialization"
  | .documentBegun .. => "orgexport.renderers.document"
  | .tableMeasured .. => "orgexport.renderers.table"
  | .unknownPart _ | .collectorFailed _ | .reported _ => "orgexport.renderers.base"

/-- The text of a notice. -/
def text : Notice → Text
  | .optionsSkipped names =>
    "Skipping unknown renderer options: ".toList ++ (Json.arr (names.map Json.str)).display
  | .keptUnknown name => "Loading unknown node type '".toList ++ name.shown ++ "' as UnrecognizedPart".toList
  | .fieldsIgnored names => "Ignoring unknown Timestamp attributes: ".toList ++ (Json.arr names).display
  | .schemaDiffers v =>
    "Schema version ".toList ++ v.shown ++ " differs from supported version 1. ".toList ++
      "Attempting to load anyway (schema validation disabled).".toList
  | .documentBegun headings lines =>
    "Rendering document: ".toList ++ decimalNat headings ++ " headings, ".toList ++ decimalNat lines ++
      " preamble lines".toList
  | .tableMeasured rows widths =>
    "Rendering table: ".toList ++ decimalNat rows ++ " rows, column widths ".toList ++
      (Json.arr (widths.map (fun (w : Nat) => .int w))).display
  | .unknownPart name => Fault.unknownPartMessage name
  | .collectorFailed reason => "Diagnostic callback raised exception: ".toList ++ reason
  | .reported report => report.event.line

/-- The values that stand in the text of a notice that is given while a value is loaded. -/
def shownValues : Notice → List Json
  | .keptUnknown v | .schemaDiffers v => [v]
  | .fieldsIgnored names => names
  | _ => []

/-- The remark that a notice leaves in the log, if it leaves one. -/
def remark? (n : Notice) : Option Remark := n.level?.map fun level => ⟨level, n.logger, n.text⟩

/-- The event that a notice delivers, if it delivers one. -/
def event? : Notice → Option Event
  | .reported report => some report.event
  | _ => none

end Notice
end OrgOutline
