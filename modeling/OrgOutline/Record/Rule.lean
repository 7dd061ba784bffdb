import OrgOutline.Record.Basic
import OrgOutline.Run

/-!
# Rules of the model

What a record must satisfy beyond its structure: the rows of a table are of one length, the level of a heading is not below
one, and the kind of a bare link and the state of a checkbox are among the known ones. A record that breaks a rule is not
loaded, and the fault names the field, its value and the rule, as far as the value can be shown.
-/

namespace OrgOutline

/-- The first row whose length is not the expected one, with its index and its length. -/
def firstUneven (expected : Nat) (index : Nat) : List Row → Option (Nat × Nat)
  | [] => none
  | r :: rs => if r.length = expected then firstUneven expected (index + 1) rs else some (index, r.length)

/-- All rows of a table must be as long as the first one. -/
def checkRows : List Row → Run Unit
  | [] => pure ()
  | r :: rs => match firstUneven r.length 0 (r :: rs) with
    | some (index, found) => .fail (.invalid (.rowLength index found r.length))
    | none => pure ()

/-- The level of a heading must be a number that is not below one. -/
def checkLevel (v : Json) : Run Unit :=
  let below : Option Bool := match v with
    | .float x => some (x.ltInt 1)
    | v => v.asInt?.map (· < 1)
  match below with
  | some true => .refuse (.invalid (.headingLevel v))
  | some false => pure ()
  | none => .fail .wrongKind

/-- The kind of a bare link must be one of the known ones. -/
def checkBareLinkKind (v : Json) : Run BareLinkKind :=
  match BareLinkKind.ofJson? v with
  | some k => pure k
  | none => .refuse (.invalid (.bareLinkKind v))

/-- The state of a checkbox must be one of the known ones. -/
def checkCheckboxState (v : Json) : Run CheckboxState :=
  match CheckboxState.ofJson? v with
  | some s => pure s
  | none => .refuse (.invalid (.checkboxState v))

end OrgOutline
