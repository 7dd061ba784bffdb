import OrgOutline.Record.Basic

/-!
# Drawers

The properties and the logbook of a heading stand in drawers, between a line that names the drawer and one that ends it,
each with the indentation of the drawer. An empty drawer is not written. The blank lines at the end of a logbook are cut
off together with the blanks at the end of the last line.
-/

namespace OrgOutline
namespace Drawer

/-- The first line of the drawer for properties. -/
def propertiesMark : Text := ":PROPERTIES:".toList

/-- The first line of the drawer for the logbook. -/
def logbookMark : Text := ":LOGBOOK:".toList

/-- The last line of a drawer. -/
def endMark : Text := ":END:".toList

/-- The line of a property, from its name and what its value is written as. -/
def propertyLine (name : Json) (value : Text) : Text := ':' :: name.shown ++ ':' :: ' ' :: value

/-- The drawer with the given lines for properties. -/
def properties (indentation : Text) (entries : List Text) : Text :=
  if entries.isEmpty then []
  else Text.unlines ((propertiesMark :: entries ++ [endMark]).map (indentation ++ ·)) ++ ['\n']

/-- What a clock that runs is written as. -/
def runningClock (start : Text) : Text := "CLOCK: ".toList ++ start

/-- What a clock that has ended is written as: start and end, and the time between them. -/
def endedClock (start stop duration : Text) : Text :=
  runningClock start ++ "--".toList ++ stop ++ " => ".toList ++ duration

/-- The drawer with the given lines for the logbook. -/
def logbook (indentation : Text) (lines : List Text) : Text :=
  if lines.isEmpty then []
  else indentation ++ logbookMark ++ '\n' :: (Text.unlines lines).trimEnd ++ '\n' :: indentation ++ endMark ++ ['\n']

end Drawer
end OrgOutline
