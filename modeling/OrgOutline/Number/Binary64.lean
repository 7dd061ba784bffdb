/-!
# Double precision numbers

A number of the IEEE 754 format `binary64` as an exact value: a sign, a mantissa below 2^53 and a power of two not below
-1074, or an infinity, or not a number. Every operation computes an exact quotient of integers first and rounds once, to
the nearest number of the format, a tie going to the even mantissa (`Binary64.ofQuotient`).
-/

namespace OrgOutline

/-- A double precision number: `finite s m e` is the number m · 2^e, negative when `s` holds. -/
inductive Binary64 where
  | finite (negative : Bool) (mantissa : Nat) (exponent : Int)
  | infinite (negative : Bool)
  | nan
  deriving DecidableEq, Repr

namespace Binary64

/-- The least power of two of the format. -/
def minExponent : Int := -1074

/-- The greatest power of two of the format. -/
def maxExponent : Int := 971

/-- The zero of a sign. -/
def zeroOf (negative : Bool) : Binary64 := .finite negative 0 minExponent

/-- The quotient rounded to the nearest integer, a tie going to the even one. -/
def roundQuotient (num den : Nat) : Nat :=
  let q := num / den
  let r := num % den
  if 2 * r < den then q else if 2 * r > den then q + 1 else q + q % 2

/-- The power of two that is not above the quotient while its double is. -/
def floorLog2 (num den : Nat) : Int :=
  let l : Int := (Nat.log2 num : Int) - (Nat.log2 den : Int)
  if den * Nat.pow 2 l.toNat ≤ num * Nat.pow 2 (-l).toNat then l else l - 1

/-- The number of the format nearest to ± num / den, a tie going to the even mantissa; above the greatest number lies
infinity. -/
def ofQuotient (negative : Bool) (num den : Nat) : Binary64 :=
  if num = 0 then zeroOf negative
  else
    let e := max minExponent (floorLog2 num den - 52)
    let m := roundQuotient (num * Nat.pow 2 (-e).toNat) (den * Nat.pow 2 e.toNat)
    let (m, e) := if m = Nat.pow 2 53 then (Nat.pow 2 52, e + 1) else (m, e)
    if e > maxExponent then .infinite negative else .finite negative m e

/-- The number nearest to ± digits · 10^power. Powers so far out that only infinity or zero can result are not computed. -/
def ofDecimal (negative : Bool) (digits : Nat) (power : Int) : Binary64 :=
  let size : Int := (Nat.toDigits 10 digits).length
  if digits = 0 then zeroOf negative
  else if size + power > 400 then .infinite negative
  else if size + power < -400 then zeroOf negative
  else ofQuotient negative (digits * Nat.pow 10 power.toNat) (Nat.pow 10 (-power).toNat)

/-- The exact value of a finite number as a quotient of an integer and a power of two. -/
def fraction (negative : Bool) (mantissa : Nat) (exponent : Int) : Int × Nat :=
  ((if negative then -1 else 1) * (mantissa * Nat.pow 2 exponent.toNat : Nat), Nat.pow 2 (-exponent).toNat)

/-- The number nearest to the number plus one. -/
def addOne : Binary64 → Binary64
  | .finite s m e =>
    let (num, den) := fraction s m e
    let sum := num + den
    ofQuotient (sum < 0) sum.natAbs den
  | x => x

/-- Whether the number equals an integer. -/
def eqInt (x : Binary64) (n : Int) : Bool :=
  match x with
  | .finite s m e => let (num, den) := fraction s m e; num == n * den
  | _ => false

/-- Whether the number lies below an integer; nothing lies above or below what is not a number. -/
def ltInt (x : Binary64) (n : Int) : Bool :=
  match x with
  | .finite s m e => let (num, den) := fraction s m e; num < n * den
  | .infinite negative => negative
  | .nan => false

/-- Whether two numbers count as the same value: the two zeros do, and what is not a number is the same as itself. -/
def same : Binary64 → Binary64 → Bool
  | .finite s m e, .finite s' m' e' =>
    let (num, den) := fraction s m e
    let (num', den') := fraction s' m' e'
    num * den' == num' * den
  | .infinite s, .infinite s' => s == s'
  | .nan, .nan => true
  | _, _ => false

/-- Whether the number is one of the two zeros. -/
def isZero : Binary64 → Bool
  | .finite _ m _ => m == 0
  | _ => false

/-- The integer part of a finite number: what follows the point is dropped. -/
def truncate (negative : Bool) (mantissa : Nat) (exponent : Int) : Int :=
  let (num, den) := fraction negative mantissa exponent
  num.tdiv den

end Binary64
end OrgOutline
