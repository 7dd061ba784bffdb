import OrgOutline.Text.Blank
import OrgOutline.Text.Digit

/-!
# Integers in decimal

Integers are written in plain decimal with a minus sign in front of the negative ones, and read from any spelling: blank
characters around, one sign, digits of any script, single underscores between digits. Reading has a limit: an integer of
more than `digitLimit` digits is refused, and so is a text that starts with one, whatever follows. Writing has the same limit,
which is checked before an integer is put in a text (`isLong`).
-/

namespace OrgOutline

/-- The decimal digits of a natural number. -/
def decimalNat (n : Nat) : Text := Nat.toDigits 10 n

/-- The decimal text of an integer, with a minus sign in front of a negative one. -/
def decimalInt : Int → Text
  | .ofNat n => decimalNat n
  | .negSucc n => '-' :: decimalNat (n + 1)

/-- A number written with at least two digits. -/
def twoDigits (n : Nat) : Text := if n < 10 then '0' :: decimalNat n else decimalNat n

/-- The most digits that an integer may have where it is read from a text or put in one. -/
def digitLimit : Nat := 4300

/-- The number of decimal digits of an integer. -/
def digitCount (n : Int) : Nat := (decimalNat n.natAbs).length

/-- Whether an integer has more digits than are read and written. -/
def isLong (n : Int) : Bool := digitLimit < digitCount n

/-- Why a text is not read: it does not spell what it should, or an integer in it has too many digits. -/
inductive Refusal where
  | malformed
  | tooManyDigits (count : Nat)
  deriving DecidableEq, Repr

/-- What may stand around the digits of an integer: the blank characters, the information separators U+001C to U+001F
excepted. -/
def isIntegerPadding (c : Char) : Bool := isBlank c && !(0x1c ≤ c.toNat && c.toNat ≤ 0x1f)

/-- The value of `count` digits, unless they are too many. -/
def checkDigits (count value : Nat) : Except Refusal Nat :=
  if digitLimit < count then .error (.tooManyDigits count) else .ok value

/-- Continues the value `acc` of `count` digits with further digits, between which single underscores may stand;
`afterDigit` says that the character before was a digit. The digits are counted before what follows them is looked at. -/
def readDigits (acc count : Nat) (afterDigit : Bool) : Text → Except Refusal Nat
  | [] => if afterDigit then checkDigits count acc else .error .malformed
  | c :: rest =>
    if c = '_' then
      if afterDigit then readDigits acc count false rest else .error .malformed
    else match digitValue? c with
      | some d => readDigits (10 * acc + d) (count + 1) true rest
      | none => if afterDigit then (checkDigits count acc).bind (fun _ => .error .malformed) else .error .malformed

/-- An integer without padding: at most one sign, then the digits. -/
def readSigned : Text → Except Refusal Int
  | '-' :: rest => (readDigits 0 0 false rest).map (fun n : Nat => -(n : Int))
  | '+' :: rest => (readDigits 0 0 false rest).map (fun n : Nat => (n : Int))
  | t => (readDigits 0 0 false t).map (fun n : Nat => (n : Int))

/-- The integer that a text spells, if it spells one. -/
def readInteger (t : Text) : Except Refusal Int :=
  readSigned ((t.dropWhile isIntegerPadding).reverse.dropWhile isIntegerPadding).reverse

end OrgOutline
