import Mathlib.Data.List.Perm.Subperm
import OrgOutline.Json.Operation
import OrgOutline.Json.Same
import OrgOutline.Proofs.Loaded

/-!
# Rearranged values

Loading looks fields up by name, so neither the order of keys nor keys that are no fields count. What a value is loaded as is its
role (`Role`), and the role says which keys of an object are fields, and in which roles their values stand (`Role.fields?`). A
value is another one rearranged (`Role.rearranged`) when keys at any depth stand in another order and objects that are loaded as
records have more keys that are no fields; a list that is kept is asked to be an array. Main statements: what a field holds is
rearranged (`Rearranged.member`), and a value that is kept is the same (`Rearranged.same`).
-/

namespace OrgOutline

/-! ## Roles -/

/-- What a value is loaded as. -/
inductive Role where
  | kept | keptList | timestamp | title | planning | logEntry | keywordSet
  | shaped (s : Shape)
  | listOf (role : Role)

namespace Role

/-- The fields of timestamps. -/
def timestampFields : List (String × Role) := Timestamp.fieldNames.map fun name => (name, .kept)

/-- The fields of titles. -/
def titleFields : List (String × Role) := [("raw_title", .kept), ("todo_keyword", .kept), ("tags", .keptList)]

/-- The fields of planning entries. -/
def planningFields : List (String × Role) := [("kind", .kept), ("timestamp", .timestamp)]

/-- The fields of clocks. -/
def clockFields : List (String × Role) := [("start", .timestamp), ("end", .timestamp)]

/-- The fields of lines of a logbook. -/
def logLineFields : List (String × Role) := [("raw", .kept)]

/-- The fields of sets of keywords. -/
def keywordSetFields : List (String × Role) := [("keywords", .keptList), ("config_line", .kept), ("default", .kept)]

/-- The fields of items of lists. -/
def itemFields : List (String × Role) :=
  [("title_line", .listOf (.shaped .record)), ("contents", .listOf (.shaped .record)), ("is_checkbox", .kept),
   ("checkbox_state", .kept), ("force_number", .kept)]

/-- The fields of rows of tables. -/
def rowFields : List (String × Role) := [("cells", .listOf (.shaped .cell))]

/-- The fields of cells of tables. -/
def cellFields : List (String × Role) := [("content", .listOf (.shaped .record)), ("raw_content", .kept)]

/-- The fields of properties. -/
def propertyFields : List (String × Role) := [("name", .kept), ("value", .listOf (.shaped .record))]

/-- The fields of headings. -/
def headingFields : List (String × Role) :=
  [("nesting_level", .kept), ("title_line", .title), ("planning_items", .listOf .planning),
   ("property_list_items", .listOf (.shaped .property)), ("log_book_entries", .listOf .logEntry), ("raw_description", .kept),
   ("description", .listOf (.shaped .record))]

/-- The fields of records in running text, by the names of their kinds. -/
def kindFields : List (String × List (String × Role)) :=
  [("Timestamp", timestampFields), ("Text", [("content", .kept)]), ("Link", [("uri", .kept), ("title", .kept)]),
   ("FractionCookie", [("numerator", .kept), ("denominator", .kept)]), ("PercentageCookie", [("percentage", .kept)]),
   ("InlineTimestamp", [("first_timestamp", .timestamp), ("second_timestamp", .timestamp)]),
   ("BareLink", [("kind", .kept), ("content", .kept)]),
   ("List", [("items", .listOf (.shaped .item)), ("bullet_character", .kept), ("is_ordered", .kept),
     ("number_terminator_character", .kept)]),
   ("ListItem", itemFields), ("Table", [("rows", .listOf (.shaped .row))]), ("TableRow", rowFields), ("TableCell", cellFields),
   ("TitleLine", titleFields), ("PlanningItem", planningFields), ("PropertyListItem", propertyFields),
   ("RawLogBookEntry", logLineFields), ("ClockEntry", clockFields), ("Header", headingFields),
   ("TodoKeywordSet", keywordSetFields),
   ("Document", [("headers", .listOf (.shaped .heading)), ("todo_keyword_sets", .listOf .keywordSet),
     ("file_config_lines", .keptList), ("lines_before_headings", .keptList)])]

/-- The fields of a record that names its kind, and the field in which it does so. -/
def withKind (fields : List (String × Role)) : List (String × Role) := ("node_type", .kept) :: fields

/-- The fields of an object in a role; none where the object is no record of a known kind, and all its keys count. -/
def fields? : Role → Members → Option (List (String × Role))
  | .timestamp, _ => some timestampFields
  | .title, _ => some titleFields
  | .planning, _ => some planningFields
  | .keywordSet, _ => some keywordSetFields
  | .logEntry, members =>
    match members.lookup "node_type" with
    | some (.str "ClockEntry") => some (withKind clockFields)
    | some (.str "RawLogBookEntry") => some (withKind logLineFields)
    | _ => none
  | .shaped .item, _ => some itemFields
  | .shaped .row, _ => some rowFields
  | .shaped .cell, _ => some cellFields
  | .shaped .property, _ => some propertyFields
  | .shaped .heading, _ => some headingFields
  | .shaped .record, members =>
    match members.lookup "node_type" with
    | some (.str name) => (kindFields.lookup name).map withKind
    | _ => none
  | _, _ => none

/-- The role in which the value under a key stands, if the key is a field. -/
def member (role : Role) (members : Members) (key : String) : Option Role :=
  match role.fields? members with
  | some fields => fields.lookup key
  | none => some .kept

/-- The role in which the elements of an array stand. -/
def element : Role → Role
  | .listOf role => role
  | _ => .kept

/-- Whether the value must be an array. -/
def isKeptList : Role → Bool
  | .keptList => true
  | _ => false

end Role

/-! ## Rearranged values -/

/-- Whether two values that are no arrays and no objects are equal. -/
def Json.sameScalar : Json → Json → Bool
  | .null, .null => true
  | .bool a, .bool b => a == b
  | .int m, .int n => m == n
  | .float x, .float y => x == y
  | .str s, .str t => s == t
  | _, _ => false

mutual
/-- Whether the second value is the first one with keys in another order and with more keys that are no fields. -/
def Role.rearranged (role : Role) : Json → Json → Bool
  | .arr xs, .arr ys => rearrangedItems role.element xs ys
  | .obj ms, .obj ns =>
    !role.isKeptList && rearrangedMembers (role.member ms) ms ns &&
      ns.all fun n => (ms.lookup n.1).isSome || (role.member ms n.1).isNone
  | v, w => !role.isKeptList && v.sameScalar w
termination_by structural x => x

/-- Whether the elements of two arrays are rearranged in order. -/
def rearrangedItems (role : Role) : List Json → List Json → Bool
  | [], [] => true
  | x :: xs, y :: ys => role.rearranged x y && rearrangedItems role xs ys
  | _, _ => false
termination_by structural x => x

/-- Whether every value of the first list stands in the second one under its key, rearranged in its role. -/
def rearrangedMembers (member : String → Option Role) : List (String × Json) → List (String × Json) → Bool
  | [], _ => true
  | (key, v) :: ms, ns =>
    (match ns.lookup key with
      | some w => ((member key).getD .kept).rearranged v w
      | none => false) && rearrangedMembers member ms ns
termination_by structural x => x
end

/-! ## What rearranging keeps -/

/-- A value and the same value rearranged, in both of which objects name each of their keys once. -/
structure Role.Rearranged (role : Role) (v w : Json) : Prop where
  wellFormed : v.WellFormed
  wellFormed' : w.WellFormed
  rearranged : role.rearranged v w = true

/-- Two values that are both missing, or of which the second one is the first one rearranged. -/
def Role.RearrangedIfAny (role : Role) (x y : Option Json) : Prop :=
  (x = none ∧ y = none) ∨ ∃ v w, x = some v ∧ y = some w ∧ role.Rearranged v w

theorem rearrangedItems_iff {role : Role} {xs ys : List Json} :
    rearrangedItems role xs ys = true ↔ List.Forall₂ (fun x y => role.rearranged x y = true) xs ys := by
  induction xs generalizing ys with
  | nil => cases ys <;> simp [rearrangedItems]
  | cons x xs ih => cases ys <;> simp [rearrangedItems, ih]

theorem rearrangedMembers_iff {member : String → Option Role} {ms ns : Members} : rearrangedMembers member ms ns = true ↔
    ∀ m ∈ ms, ∃ w, ns.lookup m.1 = some w ∧ ((member m.1).getD .kept).rearranged m.2 w = true := by
  induction ms with
  | nil => simp [rearrangedMembers]
  | cons m ms ih =>
    obtain ⟨key, v⟩ := m
    rw [rearrangedMembers, Bool.and_eq_true, ih, List.forall_mem_cons]
    refine and_congr_left fun _ => ?_
    cases ns.lookup key <;> simp

/-- An object is rearranged when each of its values stands under its key, rearranged in its role, and more keys are no fields. -/
theorem Role.rearranged_obj_iff {role : Role} {ms ns : Members} : role.rearranged (.obj ms) (.obj ns) = true ↔
    role.isKeptList = false ∧
      (∀ m ∈ ms, ∃ w, ns.lookup m.1 = some w ∧ ((role.member ms m.1).getD .kept).rearranged m.2 w = true) ∧
      ∀ n ∈ ns, (ms.lookup n.1).isSome ∨ role.member ms n.1 = none := by
  rw [Role.rearranged, Bool.and_eq_true, Bool.and_eq_true, rearrangedMembers_iff, List.all_eq_true, Bool.not_eq_true',
    and_assoc]
  simp only [Bool.or_eq_true, Option.isNone_iff_eq_none]

/-- What a look-up finds stands among the members. -/
theorem Json.mem_of_lookup {members : Members} {key : String} {v : Json} (h : members.lookup key = some v) :
    (key, v) ∈ members := by
  obtain ⟨l, l', rfl, -⟩ := List.lookup_eq_some_iff.1 h
  exact List.mem_append_right l List.mem_cons_self

/-- What stands among members that name each of their keys once is what is looked up under its key. -/
theorem Json.lookup_of_mem {members : Members} (h : (members.map Prod.fst).Nodup) {key : String} {v : Json}
    (hm : (key, v) ∈ members) : members.lookup key = some v := by
  obtain ⟨l, l', rfl⟩ := List.append_of_mem hm
  rw [List.map_append, List.nodup_append] at h
  refine List.lookup_eq_some_iff.2 ⟨l, l', rfl, fun m hml => ?_⟩
  exact bne_iff_ne.2 (h.2.2 m.1 (List.mem_map_of_mem hml) key (by simp)).symm

theorem Json.eq_of_sameScalar {v w : Json} (h : v.sameScalar w = true) : w = v ∧ v.isScalar = true := by
  cases v <;> cases w <;> simp_all [Json.sameScalar, Json.isScalar]

namespace Role.Rearranged

variable {role : Role} {v w : Json} {xs ys : List Json} {ms ns : Members}

/-- The elements of rearranged arrays are rearranged in order. -/
theorem items (h : role.Rearranged (.arr xs) (.arr ys)) : List.Forall₂ role.element.Rearranged xs ys := by
  have hrearranged := rearrangedItems_iff.1 h.rearranged
  have hxs := Json.wellFormed_arr.1 h.wellFormed
  have hys := Json.wellFormed_arr.1 h.wellFormed'
  clear h
  induction hrearranged with
  | nil => exact .nil
  | cons hxy _ ih =>
    obtain ⟨hx, hxs⟩ := List.forall_mem_cons.1 hxs
    obtain ⟨hy, hys⟩ := List.forall_mem_cons.1 hys
    exact .cons ⟨hx, hy, hxy⟩ (ih hxs hys)

/-- Arrays are rearranged to arrays and objects to objects; all other values stay as they are, and none of them is a list that
is kept. -/
theorem forms (h : role.Rearranged v w) :
    (∃ xs ys, v = .arr xs ∧ w = .arr ys ∧ List.Forall₂ role.element.Rearranged xs ys) ∨
      (∃ ms ns, v = .obj ms ∧ w = .obj ns ∧ role.isKeptList = false) ∨
      w = v ∧ v.isScalar = true ∧ role.isKeptList = false := by
  have scalar : ∀ v w : Json, (!role.isKeptList && v.sameScalar w) = true →
      w = v ∧ v.isScalar = true ∧ role.isKeptList = false := by
    intro v w h
    obtain ⟨hlist, hscalar⟩ := Bool.and_eq_true_iff.1 h
    obtain ⟨hw, hv⟩ := Json.eq_of_sameScalar hscalar
    exact ⟨hw, hv, by simpa using hlist⟩
  cases v with
  | arr xs =>
    cases w with
    | arr ys => exact Or.inl ⟨xs, ys, rfl, rfl, h.items⟩
    | _ => exact Or.inr (Or.inr (scalar _ _ h.rearranged))
  | obj ms =>
    cases w with
    | obj ns => exact Or.inr (Or.inl ⟨ms, ns, rfl, rfl, (rearranged_obj_iff.1 h.rearranged).1⟩)
    | _ => exact Or.inr (Or.inr (scalar _ _ h.rearranged))
  | _ => cases w <;> exact Or.inr (Or.inr (scalar _ _ h.rearranged))

theorem exists_of_arr (h : role.Rearranged (.arr xs) w) : ∃ ys, w = .arr ys ∧ List.Forall₂ role.element.Rearranged xs ys := by
  obtain ⟨xs, ys, hxs, rfl, hitems⟩ | ⟨ms, ns, hms, -⟩ | ⟨-, hscalar, -⟩ := h.forms
  · obtain rfl := Json.arr.inj hxs
    exact ⟨ys, rfl, hitems⟩
  · nomatch hms
  · nomatch hscalar

theorem exists_of_obj (h : role.Rearranged (.obj ms) w) : ∃ ns, w = .obj ns := by
  obtain ⟨xs, ys, hxs, -⟩ | ⟨ms, ns, -, rfl, -⟩ | ⟨-, hscalar, -⟩ := h.forms
  · nomatch hxs
  · exact ⟨ns, rfl⟩
  · nomatch hscalar

theorem eq_of_isScalar (h : role.Rearranged v w) (hv : v.isScalar = true) : w = v := by
  obtain ⟨xs, ys, rfl, -⟩ | ⟨ms, ns, rfl, -⟩ | ⟨rfl, -⟩ := h.forms
  · nomatch hv
  · nomatch hv
  · rfl

/-- Every value of an object stands under its key after rearranging, and more keys are no fields. -/
theorem members (h : role.Rearranged (.obj ms) (.obj ns)) :
    (∀ m ∈ ms, ∃ w, ns.lookup m.1 = some w ∧ ((role.member ms m.1).getD .kept).Rearranged m.2 w) ∧
      ∀ n ∈ ns, (ms.lookup n.1).isSome ∨ role.member ms n.1 = none := by
  obtain ⟨-, hms, hns⟩ := rearranged_obj_iff.1 h.rearranged
  refine ⟨?_, hns⟩
  intro m hm
  obtain ⟨w, hw, hmw⟩ := hms m hm
  have hmem := Json.mem_of_lookup hw
  exact ⟨w, hw, (Json.wellFormed_obj.1 h.wellFormed).2 m hm, (Json.wellFormed_obj.1 h.wellFormed').2 _ hmem, hmw⟩

/-- What a field holds is rearranged in the role of the field. -/
theorem member {key : String} {r : Role} (h : role.Rearranged (.obj ms) (.obj ns)) (hr : role.member ms key = some r) :
    r.RearrangedIfAny (ms.lookup key) (ns.lookup key) := by
  obtain ⟨hms, hns⟩ := h.members
  cases hv : ms.lookup key with
  | none =>
    cases hw : ns.lookup key with
    | none => exact Or.inl ⟨rfl, rfl⟩
    | some w =>
      -- A key that is added is no field, and this one is.
      rcases hns _ (Json.mem_of_lookup hw) with hkey | hkey
      · rw [hv] at hkey
        nomatch hkey
      · rw [hr] at hkey
        nomatch hkey
  | some v =>
    obtain ⟨w, hw, hvw⟩ := hms _ (Json.mem_of_lookup hv)
    rw [hr] at hvw
    exact Or.inr ⟨v, w, rfl, hw, hvw⟩

end Role.Rearranged

/-! ## Values that are kept -/

/-- What follows for the elements of the first list from how they are related holds of both lists. -/
theorem forall₂_imp_of_mem {α β : Type} {R S : α → β → Prop} {xs : List α} {ys : List β} (h : List.Forall₂ R xs ys)
    (hS : ∀ x ∈ xs, ∀ y, R x y → S x y) : List.Forall₂ S xs ys := by
  induction h with
  | nil => exact .nil
  | cons hxy _ ih =>
    obtain ⟨hx, hxs⟩ := List.forall_mem_cons.1 hS
    exact .cons (hx _ hxy) (ih hxs)

/-- A comparison of lists that goes through both finds lists the same whose elements are. -/
theorem sames_of_forall₂ {α : Type} {same : α → α → Bool} {sames : List α → List α → Bool} (hnil : sames [] [] = true)
    (hcons : ∀ x xs y ys, sames (x :: xs) (y :: ys) = (same x y && sames xs ys)) {xs ys : List α}
    (h : List.Forall₂ (fun x y => same x y = true) xs ys) : sames xs ys = true := by
  induction h with
  | nil => exact hnil
  | cons hxy _ ih => rw [hcons, hxy, ih, Bool.and_true]

theorem Json.sameItems_of_forall₂ {xs ys : List Json} (h : List.Forall₂ (fun x y => x.same y = true) xs ys) :
    Json.sameItems xs ys = true :=
  sames_of_forall₂ (by rw [Json.sameItems]) (fun _ _ _ _ => by rw [Json.sameItems]) h

theorem Json.sameMembers_of_forall {ms ns : Members} (h : ∀ m ∈ ms, ∃ w, ns.lookup m.1 = some w ∧ m.2.same w = true) :
    Json.sameMembers ms ns = true := by
  induction ms with
  | nil => rfl
  | cons m ms ih =>
    obtain ⟨⟨w, hw, hmw⟩, hms⟩ := List.forall_mem_cons.1 h
    rw [Json.sameMembers, hw, ih hms, Bool.and_true]
    exact hmw

/-- An array and an object aside, every value is the same as itself. -/
theorem Json.same_self_of_isScalar {v : Json} (h : v.isScalar = true) : v.same v = true := by
  cases v with
  | float x => cases x <;> simp [Json.same, Json.sameNumber, Binary64.same]
  | arr items => nomatch h
  | obj members => nomatch h
  | _ => simp [Json.same, Json.sameNumber, Json.asInt?]

/-- Objects whose keys are the same in some order have as many members. -/
theorem Json.length_eq_of_keys {ms ns : Members} (hms : (ms.map Prod.fst).Nodup) (hns : (ns.map Prod.fst).Nodup)
    (h : ∀ key, key ∈ ms.map Prod.fst ↔ key ∈ ns.map Prod.fst) : ms.length = ns.length := by
  have hle := (hms.subperm fun key => (h key).1).length_le
  have hge := (hns.subperm fun key => (h key).2).length_le
  simp only [List.length_map] at hle hge
  exact Nat.le_antisymm hle hge

namespace Role.Rearranged

variable {v w : Json} {ms ns : Members}

/-- Among values that are kept no keys are added. -/
theorem mem_keys_iff (h : kept.Rearranged (.obj ms) (.obj ns)) (key : String) :
    key ∈ ms.map Prod.fst ↔ key ∈ ns.map Prod.fst := by
  obtain ⟨hms, hns⟩ := h.members
  constructor
  · intro hkey
    obtain ⟨m, hm, rfl⟩ := List.mem_map.1 hkey
    obtain ⟨w, hw, -⟩ := hms m hm
    exact List.mem_map.2 ⟨_, Json.mem_of_lookup hw, rfl⟩
  · intro hkey
    obtain ⟨n, hn, rfl⟩ := List.mem_map.1 hkey
    rcases hns n hn with hsome | hnone
    · obtain ⟨v, hv⟩ := Option.isSome_iff_exists.1 hsome
      exact List.mem_map.2 ⟨_, Json.mem_of_lookup hv, rfl⟩
    · nomatch hnone

/-- A value that is kept is the same. -/
theorem same (h : kept.Rearranged v w) : v.same w = true := by
  induction v using Json.nestedInduction generalizing w with
  | arr xs ih =>
    obtain ⟨ys, rfl, hitems⟩ := h.exists_of_arr
    rw [Json.same]
    exact Json.sameItems_of_forall₂ (forall₂_imp_of_mem hitems fun x hx y hxy => ih x hx hxy)
  | obj ms ih =>
    obtain ⟨ns, rfl⟩ := h.exists_of_obj
    have hlength := Json.length_eq_of_keys (Json.wellFormed_obj.1 h.wellFormed).1 (Json.wellFormed_obj.1 h.wellFormed').1
      h.mem_keys_iff
    rw [Json.same, Bool.and_eq_true, beq_iff_eq]
    refine ⟨hlength, Json.sameMembers_of_forall ?_⟩
    intro m hm
    obtain ⟨w, hw, hmw⟩ := h.members.1 m hm
    exact ⟨w, hw, ih m hm hmw⟩
  | _ =>
    obtain rfl := h.eq_of_isScalar rfl
    exact Json.same_self_of_isScalar rfl

/-- The same integers are in a value that is kept. -/
theorem mem_integers_iff (h : kept.Rearranged v w) (n : Int) : n ∈ v.integers ↔ n ∈ w.integers := by
  induction v using Json.nestedInduction generalizing w with
  | arr xs ih =>
    obtain ⟨ys, rfl, hitems⟩ := h.exists_of_arr
    have hsame := forall₂_imp_of_mem hitems fun x hx y hxy => ih x hx hxy
    rw [Json.integers_arr, Json.integers_arr, List.mem_flatMap, List.mem_flatMap]
    clear h ih hitems
    induction hsame with
    | nil => rfl
    | cons hxy _ ih => simp only [List.exists_mem_cons_iff, hxy, ih]
  | obj ms ih =>
    obtain ⟨ns, rfl⟩ := h.exists_of_obj
    obtain ⟨hms, hns⟩ := h.members
    rw [Json.integers_obj, Json.integers_obj, List.mem_flatMap, List.mem_flatMap]
    constructor
    · rintro ⟨m, hm, hn⟩
      obtain ⟨w, hw, hmw⟩ := hms m hm
      exact ⟨(m.1, w), Json.mem_of_lookup hw, (ih m hm hmw).1 hn⟩
    · rintro ⟨⟨key, w⟩, hm, hn⟩
      have hw := Json.lookup_of_mem (Json.wellFormed_obj.1 h.wellFormed').1 hm
      -- No keys are added, so the value under the key is one of the first object rearranged.
      have hmember : kept.RearrangedIfAny (ms.lookup key) (ns.lookup key) := h.member rfl
      rcases hmember with ⟨-, hnone⟩ | ⟨v, w', hv, hw', hvw⟩
      · rw [hw] at hnone
        nomatch hnone
      · obtain rfl : w = w' := Option.some.inj (hw.symm.trans hw')
        exact ⟨(key, v), Json.mem_of_lookup hv, (ih (key, v) (Json.mem_of_lookup hv) hvw).2 hn⟩
  | _ =>
    obtain rfl := h.eq_of_isScalar rfl
    rfl

/-- A value that is kept can be shown if it could be shown before, and only then. -/
theorem any_hasLong_eq (h : kept.Rearranged v w) : [v].any Json.hasLong = [w].any Json.hasLong := by
  simp only [List.any_cons, List.any_nil, Bool.or_false]
  rw [Bool.eq_iff_iff, Json.hasLong, Json.hasLong, List.any_eq_true, List.any_eq_true]
  exact exists_congr fun n => and_congr_left' (h.mem_integers_iff n)

end Role.Rearranged

/-- What is looked up among the members without a key. -/
theorem Json.lookup_filter_key (members : Members) (key k : String) :
    (members.filter fun m => m.1 != key).lookup k = if k = key then none else members.lookup k := by
  induction members with
  | nil => simp
  | cons m rest ih =>
    obtain ⟨key', v⟩ := m
    rw [List.filter_cons, Json.lookup_cons]
    by_cases hkey : key' = key
    · subst hkey
      rw [if_neg (by simp), ih]
      split <;> rfl
    · rw [if_pos (by simpa using hkey), Json.lookup_cons, ih]
      by_cases hk : k = key'
      · subst hk
        simp [hkey]
      · simp [hk]

/-- The members of an object that is kept are the same without a key. -/
theorem Role.Rearranged.same_filter {ms ns : Members} (h : kept.Rearranged (.obj ms) (.obj ns)) (key : String) :
    (ms.filter fun m => m.1 != key).length = (ns.filter fun m => m.1 != key).length ∧
      Json.sameMembers (ms.filter fun m => m.1 != key) (ns.filter fun m => m.1 != key) = true := by
  have hkeys : ∀ members : Members, (members.filter fun m => m.1 != key).map Prod.fst = (members.map Prod.fst).filter (· != key) :=
    fun members => by rw [List.filter_map]; rfl
  have hms := (Json.wellFormed_obj.1 h.wellFormed).1
  have hns := (Json.wellFormed_obj.1 h.wellFormed').1
  constructor
  · refine Json.length_eq_of_keys (by rw [hkeys]; exact hms.filter _) (by rw [hkeys]; exact hns.filter _) ?_
    intro k
    rw [hkeys, hkeys, List.mem_filter, List.mem_filter, h.mem_keys_iff]
  · refine Json.sameMembers_of_forall ?_
    intro m hm
    obtain ⟨hm, hne⟩ := List.mem_filter.1 hm
    obtain ⟨w, hw, hmw⟩ := h.members.1 m hm
    exact ⟨w, by rw [Json.lookup_filter_key, if_neg (by simpa using hne), hw], hmw.same⟩

/-! ## Objects in several roles -/

namespace Role

variable {role role' : Role} {ms ns : Members} {fields : List (String × Role)} {key : String}

theorem member_of_fields (h : role.fields? ms = some fields) : role.member ms key = fields.lookup key := by
  rw [member, h]

/-- A field of a record that names its kind, other than that in which it does so. -/
theorem member_withKind (h : role.fields? ms = some (withKind fields)) (hkey : key ≠ "node_type") :
    role.member ms key = fields.lookup key := by
  rw [member_of_fields h, withKind, List.lookup_cons, beq_eq_false_iff_ne.2 hkey]

theorem fields?_record {name : String} (h : ms.lookup "node_type" = some (.str name)) :
    (shaped .record).fields? ms = (kindFields.lookup name).map withKind := by
  simp only [fields?, h]

/-- No fields are known of a record whose kind is not. -/
theorem fields?_unknown {name : String} (h : ms.lookup "node_type" = some (.str name)) (hname : name ∉ Record.kindNames) :
    (shaped .record).fields? ms = none := by
  have hnames : kindFields.map Prod.fst = Record.kindNames := rfl
  have hnone : kindFields.lookup name = none := by
    rw [List.lookup_eq_none_iff]
    intro kind hkind
    refine bne_iff_ne.2 fun heq => hname ?_
    rw [heq, ← hnames]
    exact List.mem_map_of_mem hkind
  rw [fields?_record h, hnone]
  rfl

/-- No fields are known of a record whose kind is no string. -/
theorem fields?_unnamed {kind : Json} (h : ms.lookup "node_type" = some kind) (hkind : kind.isString = false) :
    (shaped .record).fields? ms = none := by
  cases kind with
  | str name => exact absurd hkind.symm Bool.false_ne_true
  | _ => simp only [fields?, h]

/-- The kind that a record names is kept. -/
theorem member_nodeType : (shaped .record).member ms "node_type" = some .kept := by
  rw [member]
  split
  · rename_i fields hf
    simp only [fields?] at hf
    split at hf
    · obtain ⟨fields, -, rfl⟩ := Option.map_eq_some_iff.1 hf
      rfl
    · nomatch hf
  · rfl

/-- A field of a record of a known kind. -/
theorem member_record {name : String} (h : ms.lookup "node_type" = some (.str name)) (hkey : key ≠ "node_type")
    (hr : (kindFields.lookup name).bind (·.lookup key) = some role) : (shaped .record).member ms key = some role := by
  obtain ⟨fields, hfields, hr⟩ := Option.bind_eq_some_iff.1 hr
  rw [member_withKind (by rw [fields?_record h, hfields]; rfl) hkey, hr]

/-- What is rearranged in one role is rearranged in another one with the same fields. -/
theorem Rearranged.inRole (h : role.Rearranged (.obj ms) (.obj ns)) (hlist : role'.isKeptList = false)
    (hvalues : ∀ key, (role'.member ms key).getD .kept = (role.member ms key).getD .kept)
    (hmore : ∀ key, role.member ms key = none → role'.member ms key = none) : role'.Rearranged (.obj ms) (.obj ns) := by
  obtain ⟨hms, hns⟩ := h.members
  refine ⟨h.wellFormed, h.wellFormed', rearranged_obj_iff.2 ⟨hlist, ?_, fun n hn => (hns n hn).imp_right (hmore n.1)⟩⟩
  intro m hm
  obtain ⟨w, hw, hmw⟩ := hms m hm
  exact ⟨w, hw, by rw [hvalues]; exact hmw.rearranged⟩

/-- A record that names its kind is rearranged as what its kind stands for in a fixed place. -/
theorem Rearranged.ofKind (h : role.Rearranged (.obj ms) (.obj ns)) (hf : role.fields? ms = some (withKind fields))
    (hf' : role'.fields? ms = some fields) (hkind : fields.lookup "node_type" = none) (hlist : role'.isKeptList = false) :
    role'.Rearranged (.obj ms) (.obj ns) := by
  refine h.inRole hlist ?_ ?_
  · intro key
    by_cases hkey : key = "node_type"
    · subst hkey
      rw [member_of_fields hf, member_of_fields hf', hkind]
      rfl
    · rw [member_of_fields hf', member_withKind hf hkey]
  · intro key hnone
    by_cases hkey : key = "node_type"
    · subst hkey
      rw [member_of_fields hf', hkind]
    · rw [member_of_fields hf', ← member_withKind hf hkey, hnone]

/-- A record of a known kind is rearranged as what stands in a fixed place. -/
theorem Rearranged.ofRecord {name : String} (h : (shaped .record).Rearranged (.obj ms) (.obj ns))
    (hk : ms.lookup "node_type" = some (.str name)) (hf : kindFields.lookup name = some fields)
    (hf' : role'.fields? ms = some fields) (hkind : fields.lookup "node_type" = none) (hlist : role'.isKeptList = false) :
    role'.Rearranged (.obj ms) (.obj ns) :=
  h.ofKind (by rw [fields?_record hk, hf]; rfl) hf' hkind hlist

/-- An object that is no record of a known kind is kept. -/
theorem Rearranged.toKept (h : role.Rearranged (.obj ms) (.obj ns)) (hf : role.fields? ms = none) :
    kept.Rearranged (.obj ms) (.obj ns) := by
  have hmember : ∀ key, role.member ms key = some .kept := fun key => by rw [Role.member, hf]
  refine h.inRole rfl (fun key => by rw [hmember]; rfl) (fun key hnone => ?_)
  rw [hmember] at hnone
  nomatch hnone

end Role

end OrgOutline
