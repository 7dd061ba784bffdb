import OrgOutline.Json.Basic
import OrgOutline.Text.Decimal

/-!
# The integers in values

A value cannot be put in a text if there is, at any depth, an integer of too many digits in it (`Json.hasLong`).
-/

namespace OrgOutline
namespace Json

mutual
/-- The integers in a value, in the order of its text. -/
def integers : Json → List Int
  | .int n => [n]
  | .arr items => itemIntegers items
  | .obj members => memberIntegers members
  | _ => []

/-- The integers in the elements of an array. -/
def itemIntegers : List Json → List Int
  | [] => []
  | x :: xs => integers x ++ itemIntegers xs

/-- The integers in the members of an object. -/
def memberIntegers : List (String × Json) → List Int
  | [] => []
  | (_, v) :: ms => integers v ++ memberIntegers ms
end

/-- Whether there is an integer of too many digits in the value. -/
def hasLong (v : Json) : Bool := v.integers.any isLong

/-! ## Helper lemmas -/

theorem integers_arr (items : List Json) : (arr items).integers = items.flatMap integers := by
  have h : itemIntegers items = items.flatMap integers := by
    induction items with
    | nil => rfl
    | cons x xs ih => rw [itemIntegers, ih, List.flatMap_cons]
  rw [integers, h]

theorem integers_obj (members : Members) : (obj members).integers = members.flatMap (fun m => m.2.integers) := by
  have h : memberIntegers members = members.flatMap (fun m => m.2.integers) := by
    induction members with
    | nil => rfl
    | cons m ms ih => rw [memberIntegers, ih, List.flatMap_cons]
  rw [integers, h]

theorem hasLong_of_not_isSet {v : Json} (h : v.isSet = false) : v.hasLong = false := by
  cases v with
  | int n =>
    obtain rfl : n = 0 := by simpa [isSet] using h
    decide
  | arr items =>
    obtain rfl : items = [] := by simpa [isSet] using h
    rfl
  | obj members =>
    obtain rfl : members = [] := by simpa [isSet] using h
    rfl
  | _ => rfl

@[simp] theorem hasLong_str (s : String) : (Json.str s).hasLong = false := rfl

@[simp] theorem hasLong_int (n : Int) : (Json.int n).hasLong = isLong n := Bool.or_false _

end Json
end OrgOutline
