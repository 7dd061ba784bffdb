import OrgOutline.Json.Members
import OrgOutline.Record.Assemble

/-!
# Loading records

Loading follows the value: an object is put together from its members, and the lists under its members are loaded in turn,
in the order in which the record asks for them. Main statement: what is loaded under a name is what is loaded from the
value that is looked up there (`loadAt_eq`), so the order of the members does not count.
-/

namespace OrgOutline

mutual
/-- Loads a value of a shape. -/
def load (strict : Bool) (s : Shape) : Json → Run s.Loaded
  | .obj members => assemble strict s members (fun t name => loadAt strict t name members)
  | _ => .fail s.notAnObject
termination_by structural x => x

/-- Loads a list of values of a shape. A string or an object that is not empty is gone through as well, and the characters or
keys met are no objects. -/
def loadEach (strict : Bool) (s : Shape) : Json → Run (List s.Loaded)
  | .arr items => loadAll strict s items
  | .str t => if t = "" then pure [] else .fail s.notAnObject
  | .obj [] => pure []
  | .obj (_ :: _) => .fail s.notAnObject
  | _ => .fail .wrongKind
termination_by structural x => x

/-- Loads the values of an array in order. -/
def loadAll (strict : Bool) (s : Shape) : List Json → Run (List s.Loaded)
  | [] => pure []
  | x :: xs => do
    let y ← load strict s x
    let ys ← loadAll strict s xs
    pure (y :: ys)
termination_by structural x => x

/-- Loads the list of values under a name; nothing where the name is missing. -/
def loadAt (strict : Bool) (s : Shape) (name : String) : List (String × Json) → Run (List s.Loaded)
  | [] => pure []
  | (key, v) :: rest => if name = key then loadEach strict s v else loadAt strict s name rest
termination_by structural x => x
end

/-- Loads a record from a value. -/
def Record.load (strict : Bool) (v : Json) : Run Record := OrgOutline.load strict .record v

/-- Loads running text from the values of its parts. -/
def Parts.load (strict : Bool) (items : List Json) : Run Parts := loadAll strict .record items

/-! ## Helper lemmas -/

/-- The list under a name is the list that the value found there makes. -/
theorem loadAt_eq (strict : Bool) (s : Shape) (name : String) (members : Members) :
    loadAt strict s name members = match members.lookup name with
      | some v => loadEach strict s v
      | none => pure [] := by
  induction members with
  | nil => simp [loadAt]
  | cons m rest ih =>
    obtain ⟨key, v⟩ := m
    rw [loadAt, Json.lookup_cons]
    split
    · rfl
    · exact ih

theorem loadAll_eq_eachOf (strict : Bool) (s : Shape) (items : List Json) :
    loadAll strict s items = eachOf (load strict s) items := by
  induction items with
  | nil => simp [loadAll, eachOf]
  | cons x xs ih => simp [loadAll, eachOf, ih]

end OrgOutline
