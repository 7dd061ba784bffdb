import OrgOutline.Number.Binary64
import OrgOutline.Text.Decimal

/-!
# The shortest decimal of a double precision number

The reals that round to a number form an interval around it, its ends included when the mantissa is even. The shortest
decimal is the first grid of 1, 2, … 17 digits with a point in the interval, and on it the point nearest to the number. How
the digits are laid out, where the point stands and when an exponent is written, is decided by one record (`NumberLayout`).
-/

namespace OrgOutline

/-- How chosen digits are written: from `positionalFrom` on and below `positionalBelow` the decimal exponent is spelled out
with zeros, and any other is written behind `exponentMark` with a sign and at least `exponentWidth` digits. -/
structure NumberLayout where
  positionalFrom : Int
  positionalBelow : Int
  exponentMark : Char
  exponentWidth : Nat
  infinity : Text
  notANumber : Text

namespace Binary64

/-- A positive real as a quotient of natural numbers. -/
structure Ratio where
  num : Nat
  den : Nat

/-- Whether the decimal digits · 10^power lies below the ratio. -/
def belowRatio (digits : Nat) (power : Int) (r : Ratio) : Bool :=
  digits * Nat.pow 10 power.toNat * r.den < r.num * Nat.pow 10 (-power).toNat

/-- Whether the decimal digits · 10^power is the ratio. -/
def eqRatio (digits : Nat) (power : Int) (r : Ratio) : Bool :=
  digits * Nat.pow 10 power.toNat * r.den == r.num * Nat.pow 10 (-power).toNat

/-- The integer quotient of the ratio by 10^power. -/
def quotientBy (power : Int) (r : Ratio) : Nat :=
  r.num * Nat.pow 10 (-power).toNat / (r.den * Nat.pow 10 power.toNat)

/-- The least decimal exponent such that the ratio is below the next power of ten: the place of its first digit. -/
def firstPlace (r : Ratio) : Int :=
  if r.den ≤ r.num then ((Nat.toDigits 10 (r.num / r.den)).length : Int) - 1
  else
    let l := (Nat.toDigits 10 (r.den / r.num)).length
    if r.den ≤ r.num * Nat.pow 10 (l - 1) then 1 - (l : Int) else -(l : Int)

/-- The interval of the reals that round to mantissa · 2^exponent: its lower end, its upper end, and whether it has them. -/
def interval (mantissa : Nat) (exponent : Int) : Ratio × Ratio × Bool :=
  let up := Nat.pow 2 exponent.toNat
  let den := 4 * Nat.pow 2 (-exponent).toNat
  let low := if mantissa = Nat.pow 2 52 ∧ exponent > minExponent then 4 * mantissa - 1 else 4 * mantissa - 2
  (⟨low * up, den⟩, ⟨(4 * mantissa + 2) * up, den⟩, mantissa % 2 == 0)

/-- Whether the decimal digits · 10^power lies in the interval. -/
def inInterval (i : Ratio × Ratio × Bool) (digits : Nat) (power : Int) : Bool :=
  (!belowRatio digits power i.1 && belowRatio digits power i.2.1 && (i.2.2 || !eqRatio digits power i.1)) ||
    (i.2.2 && eqRatio digits power i.2.1)

/-- The point of the grid 10^power that is nearest to the ratio among those in the interval, if there is one: one of the
two neighbours of the ratio, and of two at the same distance the even one. -/
def gridPoint (value : Ratio) (i : Ratio × Ratio × Bool) (power : Int) : Option Nat :=
  let d := quotientBy power value
  match inInterval i d power && d != 0, inInterval i (d + 1) power with
  | true, true =>
    if belowRatio (2 * d + 1) power ⟨2 * value.num, value.den⟩ then some (d + 1)
    else if eqRatio (2 * d + 1) power ⟨2 * value.num, value.den⟩ then some (d + d % 2)
    else some d
  | true, false => some d
  | false, true => some (d + 1)
  | false, false => none

/-- The digits and the power of ten of the shortest decimal that rounds to mantissa · 2^exponent. -/
def shortest (mantissa : Nat) (exponent : Int) : Nat × Int :=
  let value : Ratio := ⟨mantissa * Nat.pow 2 exponent.toNat, Nat.pow 2 (-exponent).toNat⟩
  let place := firstPlace value
  let i := interval mantissa exponent
  ((List.range 17).findSome? (fun (k : Nat) => (gridPoint value i (place - k)).map (fun d => (d, place - k)))).getD
    (quotientBy (place - 16) value, place - 16)

/-- The digits without the zeros at their end. -/
def dropZeros (digits : Text) : Text := (digits.reverse.dropWhile (· == '0')).reverse

/-- Digits laid out with the point after the first `place + 1` of them, filled with zeros where there are none, at least one
digit on either side of the point. -/
def positional (digits : Text) (place : Int) : Text :=
  if place < 0 then '0' :: '.' :: List.replicate (-place - 1).toNat '0' ++ digits
  else
    let whole := digits.take (place.toNat + 1)
    let rest := digits.drop (place.toNat + 1)
    whole ++ List.replicate (place.toNat + 1 - whole.length) '0' ++ '.' :: (if rest.isEmpty then ['0'] else rest)

/-- Digits laid out with the point after the first one and the place of that one as exponent. -/
def scientific (l : NumberLayout) (digits : Text) (place : Int) : Text :=
  let power := decimalNat place.natAbs
  digits.take 1 ++ (if digits.length ≤ 1 then [] else '.' :: digits.drop 1) ++
    l.exponentMark :: (if place < 0 then '-' else '+') ::
    List.replicate (l.exponentWidth - power.length) '0' ++ power

/-- The text of a positive number with the given digits times a power of ten. -/
def layOut (l : NumberLayout) (digits : Nat) (power : Int) : Text :=
  let all := decimalNat digits
  let place := power + all.length - 1
  let kept := dropZeros all
  if l.positionalFrom ≤ place ∧ place < l.positionalBelow then positional kept place else scientific l kept place

/-- The shortest text that reads back as the number. -/
def text (l : NumberLayout) : Binary64 → Text
  | .finite s m e =>
    (if s then ['-'] else []) ++ (if m = 0 then ['0', '.', '0'] else layOut l (shortest m e).1 (shortest m e).2)
  | .infinite s => (if s then ['-'] else []) ++ l.infinity
  | .nan => l.notANumber

end Binary64
end OrgOutline
