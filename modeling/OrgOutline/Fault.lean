import OrgOutline.Json.Display
import OrgOutline.Json.Integers

/-!
# Faults

Why a value cannot be loaded or a document cannot be written, one constructor for each cause. Most causes have a message
(`Fault.message?`); a value of a kind that an operation does not take, a value asked for something that its kind does not
have, something given twice, a number out of the range of the machine and text that is no JSON have none. A message that
shows a value cannot be put together if there is an integer of too many digits in the value, and that is the fault then
(`Fault.told`).
-/

namespace OrgOutline

/-- The parts of the library that take options of their own and sign the notices they give. -/
inductive Component where
  | document | heading | inline | display
  deriving DecidableEq, Repr

/-- The name under which a component signs. -/
def Component.name : Component → String
  | .document => "DocumentRenderer"
  | .heading => "HeaderRenderer"
  | .inline => "AttributedTextRenderer"
  | .display => "DisplayTextRenderer"

/-- A field whose value breaks a rule of the model. -/
inductive Breach where
  | bareLinkKind (found : Json)
  | checkboxState (found : Json)
  | headingLevel (found : Json)
  | rowLength (row found expected : Nat)

/-- The field at fault. -/
def Breach.field : Breach → String
  | .bareLinkKind _ => "kind"
  | .checkboxState _ => "checkbox_state"
  | .headingLevel _ => "nesting_level"
  | .rowLength .. => "rows"

/-- The value at fault: what was found, and for a table the index of the row. -/
def Breach.value : Breach → Json
  | .bareLinkKind v | .checkboxState v | .headingLevel v => v
  | .rowLength row _ _ => .int row

/-- The values that stand in the message. -/
def Breach.shownValues : Breach → List Json
  | .bareLinkKind v | .checkboxState v | .headingLevel v => [v]
  | .rowLength .. => []

/-- What is wrong with the field. -/
def Breach.message : Breach → Text
  | .bareLinkKind v => "Unsupported bare link kind: ".toList ++ v.display
  | .checkboxState v => "Unsupported checkbox state: ".toList ++ v.display
  | .headingLevel v => "nesting_level must be at least 1, got ".toList ++ v.shown
  | .rowLength row found expected =>
    "Table row ".toList ++ decimalNat row ++ " has ".toList ++ decimalNat found ++ " cells, expected ".toList ++
      decimalNat expected

/-- Why a date does not exist: the first part that is out of its range. -/
inductive DateFault where
  | year (found : Int)
  | month | day | hour | minute
  deriving DecidableEq, Repr

/-- The range that was missed. -/
def DateFault.message : DateFault → Text
  | .year y => "year ".toList ++ decimalInt y ++ " is out of range".toList
  | .month => "month must be in 1..12".toList
  | .day => "day is out of range for month".toList
  | .hour => "hour must be in 0..23".toList
  | .minute => "minute must be in 0..59".toList

/-- A cause of failure. -/
inductive Fault where
  /-- The text is no JSON text. -/
  | malformedJson
  /-- An operation was given a value of a kind that it does not take. -/
  | wrongKind
  /-- A value was asked for something that its kind does not have. -/
  | noSuchMember
  /-- Something was given twice under one name. -/
  | givenTwice (name : String)
  /-- A number is too large for a date, a count or an indentation. -/
  | outOfRange
  /-- A record lacks a field that it must have. -/
  | missingField (name : String)
  /-- A record does not name its kind. -/
  | missingKind
  /-- A record names a kind that does not exist. -/
  | unknownKind (name : Json)
  /-- A timestamp has fields that timestamps do not have. -/
  | unknownTimestampFields (names : List Json)
  /-- A logbook holds something that is no line of a logbook. -/
  | unknownLogEntry (name : Json)
  /-- The schema version of a file is no integer. -/
  | schemaNotInteger (found : Json)
  /-- The schema version of a file is not the one that is read here. -/
  | schemaUnsupported (found : Json)
  /-- The root of a file is no document. -/
  | notADocument (name : Json)
  /-- A list of pairs holds something that is no pair. -/
  | notAPair (index length : Nat)
  /-- A plain value was given where a record is written. -/
  | notARecord (kind : String)
  /-- A field breaks a rule of the model. -/
  | invalid (breach : Breach)
  /-- A component was given options of another family. -/
  | foreignOptions (component : Component)
  /-- A part of an unknown kind cannot be written, and the options say that this is a failure. -/
  | unknownPart (name : Json)
  /-- A text does not spell an integer. -/
  | notAnInteger (text : Text)
  /-- A text spells an integer of too many digits. -/
  | tooManyDigitsRead (count : Nat)
  /-- An integer that is to be written has too many digits. -/
  | tooManyDigitsShown
  /-- What is not a number has no integer part. -/
  | nanToInteger
  /-- A date or time does not exist. -/
  | noSuchDate (fault : DateFault)

namespace Fault

/-- The names of the two families of options. -/
def ownOptionsName : String := "OrgRendererOptions"

/-- The name of the family that only knows what all formats have in common. -/
def commonOptionsName : String := "BaseRendererOptions"

/-- What is said about a part of an unknown kind. -/
def unknownPartMessage (name : Json) : Text := "Unknown attributed string part type: ".toList ++ name.shown

/-- What is said about an integer of too many digits; their number is told between the two halves where it is known. -/
def tooManyDigitsMessage (told : Text) : Text :=
  "Exceeds the limit (".toList ++ decimalNat digitLimit ++ " digits) for integer string conversion".toList ++ told ++
    "; use sys.set_int_max_str_digits() to increase the limit".toList

/-- The message of a fault, where it has one. -/
def message? : Fault → Option Text
  | .malformedJson | .wrongKind | .noSuchMember | .givenTwice _ | .outOfRange => none
  | .missingField name => some name.toList
  | .missingKind => some "Dictionary must contain 'node_type' field".toList
  | .unknownKind name => some ("Unknown node type: ".toList ++ name.shown)
  | .unknownTimestampFields names => some ("Unknown Timestamp attributes: ".toList ++ (Json.arr names).display)
  | .unknownLogEntry name => some ("Unknown logbook entry type: ".toList ++ name.shown)
  | .schemaNotInteger v => some ("Schema version must be an integer, got ".toList ++ v.kindName.toList)
  | .schemaUnsupported v =>
    some ("Unsupported schema version: ".toList ++ v.shown ++
      ". This version of orgexport supports schema version 1 only.".toList)
  | .notADocument name => some ("Expected a Document at the root, got ".toList ++ name.display)
  | .notAPair index length =>
    some ("dictionary update sequence element #".toList ++ decimalNat index ++ " has length ".toList ++
      decimalNat length ++ "; 2 is required".toList)
  | .notARecord kind => some ("Unknown node type for serialization: ".toList ++ kind.toList)
  | .invalid breach => some breach.message
  | .foreignOptions component =>
    some (component.name.toList ++ " expected options of type '".toList ++ ownOptionsName.toList ++
      "' but received '".toList ++ commonOptionsName.toList ++ "'.".toList)
  | .unknownPart name => some (unknownPartMessage name)
  | .notAnInteger text =>
    some ("invalid literal for int() with base 10: ".toList ++ (quoted text).take 200)
  | .tooManyDigitsRead count =>
    some (tooManyDigitsMessage (": value has ".toList ++ decimalNat count ++ " digits".toList))
  | .tooManyDigitsShown => some (tooManyDigitsMessage [])
  | .nanToInteger => some "cannot convert float NaN to integer".toList
  | .noSuchDate fault => some fault.message

/-- The values that stand in the message. -/
def shownValues : Fault → List Json
  | .unknownKind v | .unknownLogEntry v | .schemaUnsupported v | .notADocument v | .unknownPart v => [v]
  | .unknownTimestampFields names => names
  | .invalid breach => breach.shownValues
  | _ => []

/-- The fault that is left when its message has been put together. -/
def told (f : Fault) : Fault := if f.shownValues.any Json.hasLong then .tooManyDigitsShown else f

/-- The name of the kind of error that a fault is. -/
def errorName : Fault → String
  | .malformedJson => "JSONDecodeError"
  | .wrongKind | .givenTwice _ => "TypeError"
  | .noSuchMember => "AttributeError"
  | .outOfRange => "OverflowError"
  | .missingField _ => "KeyError"
  | .invalid _ => "ValidationError"
  | .foreignOptions _ => "InvalidOptionsError"
  | .unknownPart _ => "RenderingError"
  | _ => "ValueError"

/-- The argument at fault and its value, where one is. -/
def argument? : Fault → Option (String × Json)
  | .invalid breach => some (breach.field, breach.value)
  | .foreignOptions _ => some ("options", .str commonOptionsName)
  | _ => none

/-- The stage of writing at which a fault arose, where it says so. -/
def stage? : Fault → Option String
  | .unknownPart _ => some "attributed_text"
  | _ => none

end Fault
end OrgOutline
