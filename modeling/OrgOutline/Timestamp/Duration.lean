import OrgOutline.Calendar
import OrgOutline.Json.Operation
import OrgOutline.Timestamp.Basic

/-!
# The time between two timestamps

The fields of a timestamp denote a moment when each is an integer or spells one; an hour or minute that is not set is zero.
The time from one timestamp to another is written in hours and minutes (`durationText`), negative when the second one is
earlier. Of several faults the first wins, the later timestamp being read first.
-/

namespace OrgOutline

/-- An hour or minute: what is not set is zero. -/
def Json.toTime (v : Json) : Except Fault Int := if v.isSet then v.toInteger else .ok 0

/-- The integers that a part of a date or time can be: those of 32 bits. -/
def checkSize (n : Int) : Except Fault Unit :=
  if -2147483648 ≤ n ∧ n < 2147483648 then .ok () else .error .outOfRange

namespace Timestamp

/-- The moment of a timestamp. All five parts are read before any is checked. -/
def moment (t : Timestamp) : Except Fault Moment := do
  let year ← t.year.toInteger
  let month ← t.month.toInteger
  let day ← t.day.toInteger
  let hour ← t.start.hour.toTime
  let minute ← t.start.minute.toTime
  checkSize year
  checkSize month
  checkSize day
  checkSize hour
  checkSize minute
  match Moment.check year month day hour minute with
  | .ok m => .ok m
  | .error f => .error (.noSuchDate f)

/-- The minutes from the first timestamp to the second. -/
def minutesBetween (start stop : Timestamp) : Except Fault Int := do
  let b ← stop.moment
  let a ← start.moment
  .ok ((b.minutes : Int) - (a.minutes : Int))

end Timestamp

/-- A number of minutes as hours and minutes, set against the right edge of five columns. -/
def durationText (minutes : Int) : Text :=
  Text.alignRight 5 ((if minutes < 0 then ['-'] else []) ++
    decimalNat (minutes.natAbs / 60) ++ ':' :: twoDigits (minutes.natAbs % 60))

/-- The text of the time between two timestamps. -/
def Timestamp.duration (start stop : Timestamp) : Except Fault Text := (start.minutesBetween stop).map durationText

end OrgOutline
