import OrgOutline.Json.Operation
import OrgOutline.Timestamp.Basic

/-!
# The text of a timestamp

A timestamp stands in angle brackets when it is active and in square ones when it is not: the date, then the weekday, the
times of day, the repeater and the delay, as far as they are set. A time of day is set when its hour is, and a cookie when
its mark is; what is not set leaves no trace. The text is not written if there is an integer of too many digits in one of the
values that stand in it (`Timestamp.toText`).
-/

namespace OrgOutline

/-- Hour and minute with a colon between them. -/
def TimeOfDay.text (t : TimeOfDay) : Text := t.hour.shown ++ ':' :: t.minute.shown

/-- The values that stand in the text of a time of day, if its hour is set. -/
def TimeOfDay.shownValues (t : TimeOfDay) : List Json := if t.hour.isSet then [t.hour, t.minute] else []

/-- Mark, amount and unit without a space. -/
def Cookie.text (c : Cookie) : Text := c.mark.shown ++ c.amount.shown ++ c.unit.shown

/-- The values that stand in the text of a cookie, if its mark is set. -/
def Cookie.shownValues (c : Cookie) : List Json := if c.mark.isSet then [c.mark, c.amount, c.unit] else []

namespace Timestamp

/-- The brackets of a timestamp. -/
def brackets (t : Timestamp) : Char × Char := if t.active.isSet then ('<', '>') else ('[', ']')

/-- Year, month and day with dashes between them. -/
def dateText (t : Timestamp) : Text := t.year.shown ++ '-' :: t.month.shown ++ '-' :: t.day.shown

/-- The weekday behind a space, if it is set. -/
def weekdayText (t : Timestamp) : Text := if t.weekday.isSet then ' ' :: t.weekday.shown else []

/-- The start time behind a space, if its hour is set. -/
def startText (t : Timestamp) : Text := if t.start.hour.isSet then ' ' :: t.start.text else []

/-- The end time behind a dash, if its hour is set. -/
def stopText (t : Timestamp) : Text := if t.stop.hour.isSet then '-' :: t.stop.text else []

/-- A cookie behind a space, if its mark is set. -/
def cookieText (c : Cookie) : Text := if c.mark.isSet then ' ' :: c.text else []

/-- The timestamp as it stands in a file. -/
def text (t : Timestamp) : Text :=
  t.brackets.1 :: t.dateText ++ t.weekdayText ++ t.startText ++ t.stopText ++ cookieText t.repeater ++
    cookieText t.delay ++ [t.brackets.2]

/-- The values that stand in the text of a timestamp. -/
def shownValues (t : Timestamp) : List Json :=
  [t.year, t.month, t.day, t.weekday] ++ t.start.shownValues ++ t.stop.shownValues ++ t.repeater.shownValues ++
    t.delay.shownValues

/-- The text of a timestamp, unless there is an integer of too many digits in it. -/
def toText (t : Timestamp) : Except Fault Text := (Json.checkShown t.shownValues).map fun _ => t.text

/-- The date with slashes. -/
def slashedDate (t : Timestamp) : Text := t.year.shown ++ '/' :: t.month.shown ++ '/' :: t.day.shown

end Timestamp
end OrgOutline
