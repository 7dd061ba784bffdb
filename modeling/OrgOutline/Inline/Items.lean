import OrgOutline.Json.Operation
import OrgOutline.Record.Basic

/-!
# Items of lists

An item starts with its prefix: its number, or the bullet of the list, then its checkbox. Numbers count up from one, and a
counter on an item sets the number from which the next items count on (`nextNumber`). What stands below the first line of
an item is indented under it, blank lines excepted, which become empty; a list with stars for bullets is moved by one
space, so that none of its lines can be taken for a heading.
-/

namespace OrgOutline

/-- The number of an item: that of its counter, or else one more than the number before. -/
def nextNumber (before counter : Json) : Except Fault Json := if counter.isNull then before.addOne else .ok counter

/-- How the items of a list are marked. -/
structure ItemStyle where
  bullet : Json
  ordered : Json
  terminator : Json

namespace ItemStyle

/-- Whether the bullets of the list are stars. -/
def isStarred (style : ItemStyle) : Bool :=
  !style.ordered.isSet && match style.bullet with
    | .str "*" => true
    | _ => false

/-- What stands in front of every line of the list: a space for a list with stars. -/
def margin (style : ItemStyle) : Text := if style.isStarred then [' '] else []

/-- What stands in front of the lines below the first line of an item. -/
def indentation (style : ItemStyle) : Text := style.margin ++ [' ', ' ']

/-- A counter as it is written behind the number. -/
def counterText (counter : Json) : Text := if counter.isNull then [] else " [@".toList ++ counter.shown ++ [']']

/-- The number or the bullet of an item. -/
def markText (style : ItemStyle) (number counter : Json) : Except Fault Text :=
  if style.ordered.isSet then
    (Json.checkShown [number, style.terminator, counter]).map fun _ =>
      number.shown ++ style.terminator.shown ++ counterText counter
  else (Json.checkShown [style.bullet]).map fun _ => style.margin ++ style.bullet.shown

/-- A checkbox behind a space, if the item has one. -/
def checkboxText (checkbox : Json) (state : CheckboxState) : Text := if checkbox.isSet then ' ' :: state.glyph else []

/-- A line below the first line of an item; a blank one becomes empty. -/
def indentLine (style : ItemStyle) (line : Text) : Text := if line.allBlank then [] else style.indentation ++ line

/-- What stands below the first line of an item, indented. -/
def indent (style : ItemStyle) (contents : Text) : Text := Text.unlines (contents.lines.map style.indentLine)

/-- The text of an item from what its mark, its checkbox, its title and its contents are written as. -/
def itemText (style : ItemStyle) (mark checkbox title contents : Text) : Text :=
  mark ++ checkbox ++ ' ' :: title ++ (if contents.isEmpty then [] else '\n' :: style.indent contents)

end ItemStyle
end OrgOutline
