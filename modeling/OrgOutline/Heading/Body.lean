import OrgOutline.Run

/-!
# The body of a heading

A body ends with the newline of its last line, so that what follows starts on a new line; an empty body stays empty.
-/

namespace OrgOutline

/-- The body with the newline that its last line may lack. -/
def closeText (t : Text) : Text := if t.isEmpty || t.isClosed then t else t ++ ['\n']

/-- The body in the field of a heading: a string is closed, and a value that is not set stays as it is. -/
def closeBody : Json → Except Fault Json
  | .str s => .ok (.str (String.ofList (closeText s.toList)))
  | v => if v.isSet then .error .noSuchMember else .ok v

/-- The body as it is written; nothing but a string can be. -/
def bodyText : Json → Except Fault Text
  | .str s => .ok (closeText s.toList)
  | v => if v.isSet then .error .noSuchMember else .error .wrongKind

end OrgOutline
