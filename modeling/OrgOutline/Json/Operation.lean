import OrgOutline.Fault

/-!
# Computing with values

What can be done with the values that stand in the fields of records: counting, reading integers, putting values in a text,
joining strings. A value of a kind that an operation does not take is a fault, and so is a number that is too large.
-/

namespace OrgOutline
namespace Json

/-- The integer that a value denotes: an integer, a truth value, the integer part of a number, or what a string spells. -/
def toInteger : Json → Except Fault Int
  | .int n => .ok n
  | .bool b => .ok (if b then 1 else 0)
  | .float (.finite s m e) => .ok (Binary64.truncate s m e)
  | .float (.infinite _) => .error .outOfRange
  | .float .nan => .error .nanToInteger
  | .str s => match readInteger s.toList with
    | .ok n => .ok n
    | .error .malformed => .error (.notAnInteger s.toList)
    | .error (.tooManyDigits count) => .error (.tooManyDigitsRead count)
  | _ => .error .wrongKind

/-- The first integer that is too large for 64 bits. -/
def wordLimit : Int := 9223372036854775808

/-- The number of repetitions that a value asks for: an integer of 64 bits, a truth value counting as one or zero; a negative
number asks for none. -/
def toCount (v : Json) : Except Fault Nat :=
  match v.asInt? with
  | some n => if n < -wordLimit ∨ wordLimit ≤ n then .error .outOfRange else .ok n.toNat
  | none => .error .wrongKind

/-- The number plus one. -/
def addOne : Json → Except Fault Json
  | .int n => .ok (.int (n + 1))
  | .bool b => .ok (.int (if b then 2 else 1))
  | .float x => .ok (.float x.addOne)
  | _ => .error .wrongKind

/-- Values are put in a text unless there is an integer of too many digits in one of them. -/
def checkShown (vs : List Json) : Except Fault Unit := if vs.any hasLong then .error .tooManyDigitsShown else .ok ()

/-- The value as it stands in a text, unless there is an integer of too many digits in it. -/
def toShown (v : Json) : Except Fault Text := (checkShown [v]).map fun _ => v.shown

/-- Whether the value is a string. -/
def isString : Json → Bool
  | .str _ => true
  | _ => false

/-- Strings written after each other with a separator between each two. -/
def join (sep : Text) (vs : List Json) : Except Fault Text :=
  if vs.all isString then .ok (sep.intercalate (vs.map shown)) else .error .wrongKind

/-! ## Helper lemmas -/

theorem checkShown_eq_ok_iff {vs : List Json} : checkShown vs = .ok () ↔ vs.any hasLong = false := by
  rw [checkShown]
  split <;> simp_all

theorem join_of_all_isString {vs : List Json} (h : vs.all isString = true) (sep : Text) :
    join sep vs = .ok (sep.intercalate (vs.map shown)) := if_pos h

end Json
end OrgOutline
