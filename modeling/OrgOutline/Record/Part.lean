import OrgOutline.Record.Basic
import OrgOutline.Fault

/-!
# Records in their roles

A record of any kind can be loaded, but not every record can stand in every role. What has no role where it stands is asked
for something that it does not have, which is a fault (`Fault.noSuchMember`).
-/

namespace OrgOutline

/-- The kinds of parts that running text is made of. -/
inductive PartKind where
  | text | link | fraction | percentage | table | list | stamp | bareLink | unrecognized
  deriving DecidableEq, Repr

namespace Record

/-- The kind of part that a record is. -/
def partKind : Record → Except Fault PartKind
  | .text _ => .ok .text
  | .link .. => .ok .link
  | .fraction .. => .ok .fraction
  | .percentage _ => .ok .percentage
  | .table _ => .ok .table
  | .list .. => .ok .list
  | .stamp .. => .ok .stamp
  | .bareLink .. => .ok .bareLink
  | .unrecognized .. => .ok .unrecognized
  | _ => .error .noSuchMember

/-- The heading that a record is. -/
def asHeading : Record → Except Fault Heading
  | .heading h => .ok h
  | _ => .error .noSuchMember

/-- The timestamp that a record is. -/
def asTimestamp : Record → Except Fault Timestamp
  | .timestamp t => .ok t
  | _ => .error .noSuchMember

/-- The kind that a planning entry or a bare link names. -/
def namedKind : Record → Except Fault Json
  | .planning i => .ok i.kind
  | .bareLink k _ => .ok (.str k.name)
  | _ => .error .noSuchMember

/-- The number of columns of a table, of which the first row has one cell each. -/
def columnCount? : Record → Option Nat
  | .table rows => some ((rows.head?.map List.length).getD 0)
  | _ => none

end Record
end OrgOutline
