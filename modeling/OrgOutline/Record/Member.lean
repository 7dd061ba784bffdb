import OrgOutline.Run

/-!
# Members of objects

The fields of a record are looked up by name among the members of an object, never by their place. A field may be required
or have a default, and a field that holds a list is gone through element by element, in order.
-/

namespace OrgOutline

/-- The value under a name, or a default. -/
def field (members : Members) (name : String) (default : Json) : Json := (members.lookup name).getD default

/-- The value under a name that must be there. -/
def required (members : Members) (name : String) : Run Json :=
  match members.lookup name with
  | some v => pure v
  | none => .fail (.missingField name)

/-- The members of a value that must be an object. -/
def membersOf (fault : Fault) : Json → Run Members
  | .obj members => pure members
  | _ => .fail fault

/-- What going through a value meets: the elements of an array, the characters of a string, the keys of an object. -/
def elements : Json → Run (List Json)
  | .arr items => pure items
  | .str s => pure (s.toList.map (fun c => .str (String.singleton c)))
  | .obj members => pure (members.map (fun m => .str m.1))
  | _ => .fail .wrongKind

/-- What going through the value under a name meets; nothing where the name is missing. -/
def elementsAt (members : Members) (name : String) : Run (List Json) := elements (field members name (.arr []))

/-- Loads every value of a list in order. -/
def eachOf {α : Type} (f : Json → Run α) : List Json → Run (List α)
  | [] => pure []
  | x :: xs => do
    let y ← f x
    let ys ← eachOf f xs
    pure (y :: ys)

end OrgOutline
