import OrgOutline.Json.Basic

/-!
# The members of objects

An object names each of its keys once (`Json.WellFormed`). Setting a key keeps that: the value takes the place of an
earlier one, or stands last (`Json.put`). Main statements: what a look-up finds and what the keys are after a key has been
set (`Json.lookup_put`, `Json.keys_put`).
-/

namespace OrgOutline
namespace Json

/-- Sets a key: the value takes the place of an earlier one under the key, and stands last where there was none. -/
def put (members : Members) (key : String) (value : Json) : Members :=
  match members with
  | [] => [(key, value)]
  | (k, v) :: rest => if k = key then (k, value) :: rest else (k, v) :: put rest key value

mutual
/-- Whether every object in the value names each of its keys once. -/
def WellFormed : Json → Prop
  | .arr items => wellFormedItems items
  | .obj members => (members.map Prod.fst).Nodup ∧ wellFormedMembers members
  | _ => True

/-- Whether every value of a list is well formed. -/
def wellFormedItems : List Json → Prop
  | [] => True
  | x :: xs => WellFormed x ∧ wellFormedItems xs

/-- Whether every value of a list of members is well formed. -/
def wellFormedMembers : List (String × Json) → Prop
  | [] => True
  | (_, v) :: ms => WellFormed v ∧ wellFormedMembers ms
end

/-! ## Helper lemmas -/

/-- A look-up takes the first member with the key. -/
theorem lookup_cons (k key : String) (v : Json) (rest : Members) :
    List.lookup k ((key, v) :: rest) = if k = key then some v else rest.lookup k := by
  by_cases h : k = key
  · subst h; simp
  · rw [List.lookup_cons, beq_eq_false_iff_ne.2 h, if_neg h]

/-- What a look-up finds after a key has been set. -/
theorem lookup_put (members : Members) (key k : String) (value : Json) :
    (put members key value).lookup k = if k = key then some value else members.lookup k := by
  induction members with
  | nil => simp only [put, lookup_cons]
  | cons m rest ih =>
    obtain ⟨k', v⟩ := m
    simp only [put]
    split
    · rename_i h
      subst h
      simp only [lookup_cons]
      split <;> rfl
    · rename_i h
      simp only [lookup_cons, ih]
      by_cases h' : k = k'
      · subst h'; simp [h]
      · simp [h']

/-- The keys after a key has been set: as before, and the key at the end where it is new. -/
theorem keys_put (members : Members) (key : String) (value : Json) :
    (put members key value).map Prod.fst =
      if key ∈ members.map Prod.fst then members.map Prod.fst else members.map Prod.fst ++ [key] := by
  induction members with
  | nil => rfl
  | cons m rest ih =>
    obtain ⟨k', v⟩ := m
    simp only [put]
    split
    · rename_i h; simp [h]
    · rename_i h
      have h' : ¬ key = k' := fun e => h e.symm
      by_cases hm : key ∈ rest.map Prod.fst
      · simp only [List.map_cons, ih, List.mem_cons, hm, or_true, if_true]
      · simp only [List.map_cons, ih, List.mem_cons, hm, h', or_self, if_false, List.cons_append]

end Json
end OrgOutline
