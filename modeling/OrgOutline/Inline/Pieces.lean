import OrgOutline.Json.Operation
import OrgOutline.Run

/-!
# Pieces of running text

Every part of running text is written as a piece. Most pieces are composed texts; a plain text, a bare link or the title of
a link is taken as it is, and where its field holds no string there is no piece, which comes to light when the pieces are
joined (`Piece.join`).
-/

namespace OrgOutline

/-- What a part is written as; `none` where its field holds no string. -/
abbrev Piece := Option Text

namespace Piece

/-- The piece of a field that is taken as it is. -/
def ofField : Json → Piece
  | .str s => some s.toList
  | _ => none

/-- The piece that starts a new line. -/
def onNewLine : Piece → Except Fault Piece
  | some t => .ok (some ('\n' :: t))
  | none => .error .wrongKind

/-- The text of all pieces after each other. -/
def join : List Piece → Except Fault Text
  | [] => .ok []
  | some t :: ps => (join ps).map (t ++ ·)
  | none :: _ => .error .wrongKind

/-! ## Helper lemmas -/

/-- Pieces that are texts are concatenated. -/
theorem join_map_some (ts : List Text) : join (ts.map some) = .ok ts.flatten := by
  induction ts with
  | nil => rfl
  | cons t ts ih => simp [join, ih, Except.map]

end Piece

/-- A link in brackets, with its title in brackets of its own if it is set. -/
def linkText (target title : Json) : Text :=
  if title.isSet then "[[".toList ++ target.shown ++ "][".toList ++ title.shown ++ "]]".toList
  else "[[".toList ++ target.shown ++ "]]".toList

/-- What is seen of a link: its title, or its target where no title is set. -/
def seenOfLink (target title : Json) : Json := if title.isSet then title else target

/-- A number of a cookie; null is written as nothing. -/
def cookieNumber (v : Json) : Except Fault Text := if v.isNull then .ok [] else v.toShown

/-- A cookie that counts what is done of all. -/
def fractionText (done all : Json) : Except Fault Text := do
  let doneText ← cookieNumber done
  let allText ← cookieNumber all
  .ok ('[' :: doneText ++ '/' :: allText ++ [']'])

/-- A cookie that says how much is done in percent. -/
def percentageText (v : Json) : Except Fault Text := (cookieNumber v).map (fun t => '[' :: t ++ ['%', ']'])

/-- What stands between the two timestamps of a range. -/
def rangeMark : Text := ['-', '-']

end OrgOutline
