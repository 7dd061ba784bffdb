import OrgOutline.Json.Members
import OrgOutline.Json.Operation
import OrgOutline.Json.Reader
import OrgOutline.Json.Same
import OrgOutline.Json.Writer
import OrgOutline.Record.Encode
import OrgOutline.Record.Load

/-!
# Documents in files

A file holds one document as an object with a schema version. Reading accepts the object or a list of pairs of a key and a
value (`rootMembers`), checks the schema version unless it is told not to, and then the kind of the root. Files are JSON
text.
-/

namespace OrgOutline

/-- The two elements of a value that stands for a pair: an array, a string of two characters or an object of two keys. -/
def pairOf (index : Nat) (v : Json) : Run (Json × Json) := do
  let items ← elements v
  match items with
  | [key, value] => if key.isScalar then pure (key, value) else .fail .wrongKind
  | _ => .fail (.notAPair index items.length)

/-- The members that a list of pairs gives: a later pair takes the place of an earlier one with its key, and a key that is
no string names nothing. -/
def membersOfPairs (members : Members) (index : Nat) : List Json → Run Members
  | [] => pure members
  | x :: xs => do
    let (key, value) ← pairOf index x
    match key with
    | .str k => membersOfPairs (Json.put members k value) (index + 1) xs
    | _ => membersOfPairs members (index + 1) xs

/-- The members of the root of a file: those of an object, or those that a list of pairs gives. -/
def rootMembers (v : Json) : Run Members :=
  match v with
  | .obj members => pure members
  | v => do
    let items ← elements v
    membersOfPairs [] 0 items

/-- A schema version is the one read here when it counts as its number. -/
def isSchemaVersion (v : Json) : Bool := v.same (.int schemaVersion)

/-- Checks the schema version: a missing one is taken for the one read here; another one, or one that is no integer, is a
fault, or only worth a notice when the schema is not checked. -/
def checkSchema (checked : Bool) (v : Json) : Run Unit :=
  if v.isNull then pure ()
  else if checked then
    if v.asInt?.isNone then .fail (.schemaNotInteger v)
    else if isSchemaVersion v then pure ()
    else .refuse (.schemaUnsupported v)
  else if isSchemaVersion v then pure ()
  else .tell (.schemaDiffers v)

/-- The document at the root of a file. -/
def Document.ofFile (strict checked : Bool) (v : Json) : Run Document := do
  let members ← rootMembers v
  checkSchema checked (field members "schema_version" .null)
  match field members "node_type" .null with
  | .str "Document" => assembleDocument members (fun s name => loadAt strict s name members)
  | other => .refuse (.notADocument other)

/-- The document that JSON text holds. -/
def Document.ofFileText (strict checked : Bool) (t : Text) : Run Document :=
  match Json.read t with
  | .ok v => Document.ofFile strict checked v
  | .error .malformed => .fail .malformedJson
  | .error (.tooManyDigits count) => .fail (.tooManyDigitsRead count)

/-- The indentation that a value asks for: null asks for a single line. -/
def Json.toIndent (v : Json) : Except Fault Json.Indent := if v.isNull then .ok none else v.toCount.map some

/-- The JSON text of a document with the indentation that a value asks for. -/
def Document.toFileText (indent : Json) (d : Document) : Except Fault Text := do
  let indent ← indent.toIndent
  d.toFile.write indent

end OrgOutline
