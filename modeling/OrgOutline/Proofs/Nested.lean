import OrgOutline.Json.Members

/-!
# Values inside values

All values inside a value are listed by `Json.within`, in the order of its text. Main statement: what holds of an array or
object as soon as it holds of the values directly inside, and of all other values, holds of every value
(`Json.nestedInduction`). What is asked of every value inside can be asked of the values directly inside instead
(`floatFree_arr`, `wellFormed_obj` and the like).
-/

namespace OrgOutline
namespace Json

mutual
/-- The value and all values inside it at any depth, in the order of its text. -/
def within : Json → List Json
  | .arr items => .arr items :: withinItems items
  | .obj members => .obj members :: withinMembers members
  | v => [v]

/-- All values inside the elements of an array. -/
def withinItems : List Json → List Json
  | [] => []
  | x :: xs => within x ++ withinItems xs

/-- All values inside the members of an object. -/
def withinMembers : List (String × Json) → List Json
  | [] => []
  | (_, v) :: ms => within v ++ withinMembers ms
end

theorem withinItems_eq_flatMap (items : List Json) : withinItems items = items.flatMap within := by
  induction items with
  | nil => simp [withinItems]
  | cons x xs ih => simp [withinItems, ih]

theorem withinMembers_eq_flatMap (members : Members) : withinMembers members = members.flatMap (fun m => m.2.within) := by
  induction members with
  | nil => simp [withinMembers]
  | cons m ms ih => simp [withinMembers, ih]

/-- What holds of an array or object as soon as it holds of the values directly inside, and of all other values, holds of every
value. -/
theorem nestedInduction {P : Json → Prop} (null : P .null) (bool : ∀ b, P (.bool b)) (int : ∀ n, P (.int n))
    (float : ∀ x, P (.float x)) (str : ∀ s, P (.str s)) (arr : ∀ items, (∀ x ∈ items, P x) → P (.arr items))
    (obj : ∀ members : Members, (∀ m ∈ members, P m.2) → P (.obj members)) : ∀ v, P v
  | .null => null
  | .bool b => bool b
  | .int n => int n
  | .float x => float x
  | .str s => str s
  | .arr items => arr items fun x _ => nestedInduction null bool int float str arr obj x
  | .obj members => obj members fun m _ => nestedInduction null bool int float str arr obj m.2
termination_by v => sizeOf v
decreasing_by
  · have := List.sizeOf_lt_of_mem ‹_›
    simp; omega
  · rename_i hm
    have := List.sizeOf_lt_of_mem hm
    obtain ⟨k, v⟩ := m
    simp at this ⊢; omega

/-! ## Values without floats -/

/-- A value without floats at any depth. -/
def FloatFree (v : Json) : Prop := ∀ x, .float x ∉ v.within

theorem floatFree_arr {items : List Json} : (arr items).FloatFree ↔ ∀ x ∈ items, x.FloatFree := by
  simp only [FloatFree, within, withinItems_eq_flatMap, List.mem_cons, List.mem_flatMap, reduceCtorEq, false_or, not_exists,
    not_and]
  exact ⟨fun h x hx y => h y x hx, fun h y x hx => h x hx y⟩

theorem floatFree_obj {members : Members} : (obj members).FloatFree ↔ ∀ m ∈ members, m.2.FloatFree := by
  simp only [FloatFree, within, withinMembers_eq_flatMap, List.mem_cons, List.mem_flatMap, reduceCtorEq, false_or, not_exists,
    not_and]
  exact ⟨fun h x hx y => h y x hx, fun h y x hx => h x hx y⟩

/-! ## Well-formed values -/

theorem wellFormedItems_iff {items : List Json} : wellFormedItems items ↔ ∀ x ∈ items, x.WellFormed := by
  induction items with
  | nil => simp [wellFormedItems]
  | cons x xs ih => simp [wellFormedItems, ih]

theorem wellFormedMembers_iff {members : Members} : wellFormedMembers members ↔ ∀ m ∈ members, m.2.WellFormed := by
  induction members with
  | nil => simp [wellFormedMembers]
  | cons m ms ih => simp [wellFormedMembers, ih]

theorem wellFormed_arr {items : List Json} : (arr items).WellFormed ↔ ∀ x ∈ items, x.WellFormed := by
  rw [WellFormed, wellFormedItems_iff]

theorem wellFormed_obj {members : Members} :
    (obj members).WellFormed ↔ (members.map Prod.fst).Nodup ∧ ∀ m ∈ members, m.2.WellFormed := by
  rw [WellFormed, wellFormedMembers_iff]

end Json
end OrgOutline
