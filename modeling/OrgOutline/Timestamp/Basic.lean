import OrgOutline.Fault

/-!
# Timestamps

A timestamp keeps its date, its times of day and its cookies as they were given, so that the padding of `08` is not lost;
any JSON value can stand in a field. In a document a timestamp is an object of fifteen fields (`Timestamp.fields`), of
which those that are null are left out.
-/

namespace OrgOutline

/-- An hour and a minute. -/
structure TimeOfDay where
  hour : Json := .null
  minute : Json := .null

/-- A repeater or a delay: its mark, how many units, and the unit. -/
structure Cookie where
  mark : Json := .null
  amount : Json := .null
  unit : Json := .null

/-- A date with an optional weekday, times of day and cookies. -/
structure Timestamp where
  year : Json
  month : Json
  day : Json
  active : Json := .bool true
  weekday : Json := .null
  start : TimeOfDay := {}
  stop : TimeOfDay := {}
  repeater : Cookie := {}
  delay : Cookie := {}

namespace Timestamp

/-- The fields of a timestamp under their names, in order. -/
def fields (t : Timestamp) : Members :=
  [("year", t.year), ("month", t.month), ("day", t.day), ("is_active", t.active), ("day_name", t.weekday),
   ("start_hour", t.start.hour), ("start_minute", t.start.minute), ("end_hour", t.stop.hour),
   ("end_minute", t.stop.minute), ("repeater_type", t.repeater.mark), ("repeater_value", t.repeater.amount),
   ("repeater_unit", t.repeater.unit), ("delay_type", t.delay.mark), ("delay_value", t.delay.amount),
   ("delay_unit", t.delay.unit)]

/-- The names of the fields. -/
def fieldNames : List String :=
  ["year", "month", "day", "is_active", "day_name", "start_hour", "start_minute", "end_hour", "end_minute",
   "repeater_type", "repeater_value", "repeater_unit", "delay_type", "delay_value", "delay_unit"]

/-- The timestamp whose fields an object gives; a date must be complete, and what else is missing takes its default. -/
def ofMembers (members : Members) : Except Fault Timestamp :=
  let field (name : String) (default : Json) : Json := (members.lookup name).getD default
  match members.lookup "year", members.lookup "month", members.lookup "day" with
  | some year, some month, some day => .ok {
      year, month, day
      active := field "is_active" (.bool true)
      weekday := field "day_name" .null
      start := ⟨field "start_hour" .null, field "start_minute" .null⟩
      stop := ⟨field "end_hour" .null, field "end_minute" .null⟩
      repeater := ⟨field "repeater_type" .null, field "repeater_value" .null, field "repeater_unit" .null⟩
      delay := ⟨field "delay_type" .null, field "delay_value" .null, field "delay_unit" .null⟩ }
  | _, _, _ => .error .wrongKind

/-! ## Helper lemmas -/

theorem map_fst_fields (t : Timestamp) : t.fields.map Prod.fst = fieldNames := rfl

end Timestamp
end OrgOutline
