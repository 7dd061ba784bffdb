import OrgOutline.Number.Binary64

/-!
# JSON values

A JSON value keeps what its text says: integers of any size apart from double precision numbers, and the members of an
object in their order.
-/

namespace OrgOutline

/-- A JSON value; the members of an object are in the order of its text. -/
inductive Json where
  | null
  | bool (b : Bool)
  | int (n : Int)
  | float (x : Binary64)
  | str (s : String)
  | arr (items : List Json)
  | obj (members : List (String × Json))

/-- The members of an object: keys and values in order. -/
abbrev Members := List (String × Json)

namespace Json

instance : Inhabited Json := ⟨.null⟩

/-- The word by which messages call the kind of a value. -/
def kindName : Json → String
  | .null => "NoneType"
  | .bool _ => "bool"
  | .int _ => "int"
  | .float _ => "float"
  | .str _ => "str"
  | .arr _ => "list"
  | .obj _ => "dict"

/-- A value is set unless it is null, false, a zero or empty. -/
def isSet : Json → Bool
  | .null => false
  | .bool b => b
  | .int n => n != 0
  | .float x => !x.isZero
  | .str s => s != ""
  | .arr items => !items.isEmpty
  | .obj members => !members.isEmpty

/-- Whether the value is null. -/
def isNull : Json → Bool
  | .null => true
  | _ => false

/-- Whether the value can be a key or an element of a set of names: arrays and objects cannot. -/
def isScalar : Json → Bool
  | .arr _ | .obj _ => false
  | _ => true

/-- The integer that a value counts as where integers are compared: true is one and false is zero. -/
def asInt? : Json → Option Int
  | .bool b => some (if b then 1 else 0)
  | .int n => some n
  | _ => none

end Json
end OrgOutline
