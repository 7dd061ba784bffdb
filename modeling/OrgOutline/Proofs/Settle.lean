import OrgOutline.Proofs.MapTimestamps
import OrgOutline.Proofs.Runs
import OrgOutline.Record.Encode
import OrgOutline.Record.Load

/-!
# Saved timestamps

A timestamp is saved without the fields that are null. Main statement: what is loaded from it again is the timestamp with the
default in the place of a null that does not say whether it is active (`Timestamp.settle`), and a fault where the year, the
month or the day is null (`loadTimestamp_encode`).
-/

namespace OrgOutline

/-- A value under a condition, and otherwise the fault of a value of a kind that is not taken. -/
def orWrongKind {α : Type} (holds : Bool) (a : α) : Except Fault α := if holds then .ok a else .error .wrongKind

/-- Whether a timestamp has a year, a month and a day. -/
def Timestamp.isDated (t : Timestamp) : Bool := !t.year.isNull && !t.month.isNull && !t.day.isNull

/-- The timestamp with the default in the place of a null that does not say whether it is active. -/
def Timestamp.settle (t : Timestamp) : Timestamp :=
  { t with active := if t.active.isNull then .bool true else t.active }

/-- A key that is not among the keys is not found. -/
theorem Json.lookup_eq_none {members : Members} {k : String} (h : k ∉ members.map Prod.fst) : members.lookup k = none := by
  refine List.lookup_eq_none_iff.2 ?_
  intro m hm
  rw [bne_iff_ne]
  rintro rfl
  exact h (List.mem_map_of_mem hm)

/-- What is looked up among the members that pass a check of their values is what is looked up among all, if it passes. -/
theorem Json.lookup_filter (p : Json → Bool) {members : Members} (h : (members.map Prod.fst).Nodup) (k : String) :
    (members.filter (fun m => p m.2)).lookup k = (members.lookup k).filter p := by
  induction members with
  | nil => rfl
  | cons m rest ih =>
    obtain ⟨key, v⟩ := m
    obtain ⟨hk, hrest⟩ := List.nodup_cons.1 h
    have ih := ih hrest
    rw [Json.lookup_cons]
    by_cases hp : p v = true
    · rw [List.filter_cons_of_pos (p := fun m : String × Json => p m.2) hp, Json.lookup_cons, ih]
      split
      · rw [Option.filter_some, if_pos hp]
      · rfl
    · rw [List.filter_cons_of_neg (p := fun m : String × Json => p m.2) hp, ih]
      split
      · rename_i e
        subst e
        rw [Json.lookup_eq_none hk, Option.filter_some, if_neg hp]
        rfl
      · rfl

/-- The members that stand for a timestamp. -/
def Timestamp.members (t : Timestamp) : Members :=
  ("node_type", .str "Timestamp") :: t.fields.filter (fun m => !m.2.isNull)

/-- A field of a timestamp is found under its name, unless it is null. -/
theorem Timestamp.lookup_members (t : Timestamp) {name : String} (h : name ≠ "node_type") :
    t.members.lookup name = (t.fields.lookup name).filter (fun v => !v.isNull) := by
  rw [members, Json.lookup_cons, if_neg h]
  exact Json.lookup_filter (fun v => !v.isNull) (by rw [map_fst_fields]; decide) name

theorem filter_isNull_getD (v d : Json) :
    ((some v).filter (fun v => !v.isNull)).getD d = if v.isNull then d else v := by
  cases h : v.isNull <;> simp [Option.filter_some, h]

theorem ite_isNull_null (v : Json) : (if v.isNull then Json.null else v) = v := by
  cases v <;> rfl

/-- The members of a saved timestamp give the timestamp settled, if it has a date. -/
theorem Timestamp.ofMembers_members (t : Timestamp) : ofMembers t.members = orWrongKind t.isDated t.settle := by
  have hf : ∀ name {v}, name ≠ "node_type" → t.fields.lookup name = some v → t.members.lookup name =
      (some v).filter (fun v => !v.isNull) := by
    intro name v hn hv
    rw [lookup_members t hn, hv]
  have hy := hf "year" (by decide) rfl
  have hm := hf "month" (by decide) rfl
  have hd := hf "day" (by decide) rfl
  unfold ofMembers
  simp only [hy, hm, hd, hf "is_active" (by decide) rfl, hf "day_name" (by decide) rfl,
    hf "start_hour" (by decide) rfl, hf "start_minute" (by decide) rfl,
    hf "end_hour" (by decide) rfl, hf "end_minute" (by decide) rfl,
    hf "repeater_type" (by decide) rfl, hf "repeater_value" (by decide) rfl,
    hf "repeater_unit" (by decide) rfl, hf "delay_type" (by decide) rfl,
    hf "delay_value" (by decide) rfl, hf "delay_unit" (by decide) rfl, filter_isNull_getD,
    ite_isNull_null]
  cases h1 : t.year.isNull <;> cases h2 : t.month.isNull <;> cases h3 : t.day.isNull <;>
    simp [Option.filter_some, orWrongKind, isDated, settle, h1, h2, h3]

/-- A saved timestamp is loaded without a notice in either mode, and comes back settled if it has a date. -/
theorem loadTimestamp_encode (strict : Bool) (t : Timestamp) :
    loadTimestamp strict t.encode = .ofExcept (orWrongKind t.isDated t.settle) := by
  have hn : (t.members.map (fun m => Json.str m.1)).all Json.isScalar = true := by simp [Json.isScalar]
  have hu : unknownTimestampFields (t.members.map (fun m => Json.str m.1)) = [] := by
    rw [unknownTimestampFields, List.filter_eq_nil_iff]
    intro n hn
    obtain ⟨m, hm, rfl⟩ := List.mem_map.1 hn
    rcases List.mem_cons.1 hm with rfl | hm
    · decide
    · have hk : m.1 ∈ Timestamp.fieldNames := by
        rw [← Timestamp.map_fst_fields t]
        exact List.mem_map_of_mem (List.mem_filter.1 hm).1
      simp [hk]
  have he : t.encode = .obj t.members := rfl
  rw [he, loadTimestamp, elements, Run.pure_bind_ok, if_pos hn, hu, ← Timestamp.ofMembers_members]
  rfl

end OrgOutline
