import OrgOutline.Json.Members
import OrgOutline.Json.Token
import OrgOutline.Text.Decimal

/-!
# Reading JSON text

The reader goes through the tokens once (`Reader.step`): it knows what may come next and which arrays and objects are still
open. Where an object names a key twice, the later value stands in the place of the earlier one. Beyond the standard words
a text may say `NaN`, `Infinity` and `-Infinity`; a number with a point or an exponent is a double precision number, any
other an integer, of at most `digitLimit` digits.
-/

namespace OrgOutline
namespace Json

/-! ## Words -/

/-- The leading ASCII digits of a text and what follows them. -/
def leadingDigits (t : List Char) : List Char × List Char := (t.takeWhile Char.isDigit, t.dropWhile Char.isDigit)

/-- The number that ASCII digits denote. -/
def digitsValue (t : List Char) : Nat := Nat.ofDigitChars 10 t 0

/-- The whole part of a number and what follows it: a lone zero, or digits the first of which is no zero. -/
def wholePart? : List Char → Option (List Char × List Char)
  | '0' :: t => some (['0'], t)
  | t => if (leadingDigits t).1.isEmpty then none else some (leadingDigits t)

/-- The digits of the fraction, if there is one, and what follows; a point without digits starts no fraction. -/
def fractionPart : List Char → Option (List Char) × List Char
  | '.' :: t => if (leadingDigits t).1.isEmpty then (none, '.' :: t) else (some (leadingDigits t).1, (leadingDigits t).2)
  | t => (none, t)

/-- An exponent behind its sign and what follows it. -/
def exponentDigits? (negative : Bool) (t : List Char) : Option (Int × List Char) :=
  if (leadingDigits t).1.isEmpty then none
  else
    let n : Int := digitsValue (leadingDigits t).1
    some (if negative then -n else n, (leadingDigits t).2)

/-- An exponent behind its letter and what follows it. -/
def signedExponent? : List Char → Option (Int × List Char)
  | '+' :: t => exponentDigits? false t
  | '-' :: t => exponentDigits? true t
  | t => exponentDigits? false t

/-- The exponent, if there is one, and what follows; a letter without digits starts no exponent. -/
def exponentPart : List Char → Option Int × List Char
  | [] => (none, [])
  | c :: t =>
    if c = 'e' ∨ c = 'E' then
      match signedExponent? t with
      | some (power, rest) => (some power, rest)
      | none => (none, c :: t)
    else (none, c :: t)

/-- The number of a sign, a whole part, a fraction and an exponent. Without fraction and exponent it is an integer, which may
not have too many digits. -/
def numberOf (negative : Bool) (whole : List Char) (fraction : Option (List Char)) (power : Option Int) :
    Except Refusal Json :=
  match fraction, power with
  | none, none =>
    (checkDigits whole.length (digitsValue whole)).map (fun n => .int (if negative then -(n : Int) else n))
  | _, _ =>
    let decimals := fraction.getD []
    .ok (.float (.ofDecimal negative (digitsValue (whole ++ decimals)) (power.getD 0 - decimals.length)))

/-- The number that a text spells after its sign. The longest number that the text starts with is taken before what follows
it is looked at, and nothing may follow it. -/
def unsigned (negative : Bool) (t : List Char) : Except Refusal Json :=
  match wholePart? t with
  | none => .error .malformed
  | some (whole, t) =>
    let (fraction, t) := fractionPart t
    let (power, t) := exponentPart t
    (numberOf negative whole fraction power).bind (fun v => if t.isEmpty then .ok v else .error .malformed)

/-- The number that a word spells. -/
def number : List Char → Except Refusal Json
  | '-' :: t => unsigned true t
  | t => unsigned false t

/-- The words that are no numbers. -/
def namedWords : List (List Char × Json) :=
  [("null".toList, .null), ("true".toList, .bool true), ("false".toList, .bool false), ("NaN".toList, .float .nan),
   ("Infinity".toList, .float (.infinite false)), ("-Infinity".toList, .float (.infinite true))]

/-- The value that a word stands for. -/
def ofWord (w : List Char) : Except Refusal Json :=
  match namedWords.lookup w with
  | some v => .ok v
  | none => number w

/-! ## Values -/

/-- An array or object that is still open: its items in reverse, or its members and the key whose value is being read. -/
inductive Frame where
  | array (items : List Json)
  | object (members : Members) (key : String)

/-- What may come next: a value, a value or the end of an array, a key or the end of an object, a key, the colon behind a
key, or, a value being complete, what follows it. -/
inductive Expected where
  | value
  | itemOrEnd
  | keyOrEnd
  | key (members : Members)
  | colon (members : Members) (key : String)
  | after (v : Json)

/-- The reader: what may come next and the open arrays and objects, the innermost first. -/
structure Reader where
  expected : Expected
  frames : List Frame

namespace Reader

/-- Reads the first token of a value. -/
def stepValue (frames : List Frame) : Token → Except Refusal Reader
  | .openArray => .ok ⟨.itemOrEnd, frames⟩
  | .openObject => .ok ⟨.keyOrEnd, frames⟩
  | .str s => .ok ⟨.after (.str s), frames⟩
  | .word w => (ofWord w).map (fun v => ⟨.after v, frames⟩)
  | _ => .error .malformed

/-- Reads the token that follows a complete value. -/
def stepAfter (v : Json) (frames : List Frame) (t : Token) : Except Refusal Reader :=
  match frames, t with
  | .array items :: outer, .comma => .ok ⟨.value, .array (v :: items) :: outer⟩
  | .array items :: outer, .closeArray => .ok ⟨.after (.arr (v :: items).reverse), outer⟩
  | .object members key :: outer, .comma => .ok ⟨.key (put members key v), outer⟩
  | .object members key :: outer, .closeObject => .ok ⟨.after (.obj (put members key v)), outer⟩
  | _, _ => .error .malformed

/-- Reads one token. -/
def step (r : Reader) (t : Token) : Except Refusal Reader :=
  match r.expected, t with
  | .value, t => stepValue r.frames t
  | .itemOrEnd, .closeArray => .ok ⟨.after (.arr []), r.frames⟩
  | .itemOrEnd, t => stepValue (.array [] :: r.frames) t
  | .keyOrEnd, .closeObject => .ok ⟨.after (.obj []), r.frames⟩
  | .keyOrEnd, .str k => .ok ⟨.colon [] k, r.frames⟩
  | .key members, .str k => .ok ⟨.colon members k, r.frames⟩
  | .colon members k, .colon => .ok ⟨.value, .object members k :: r.frames⟩
  | .after v, t => stepAfter v r.frames t
  | _, _ => .error .malformed

/-- The value that the tokens make up, once nothing is left open. -/
def finish (r : Reader) : Except Refusal Json :=
  match r.expected, r.frames with
  | .after v, [] => .ok v
  | _, _ => .error .malformed

end Reader

/-- The value that tokens make up. -/
def ofTokens (ts : List Token) : Except Refusal Json := (ts.foldlM Reader.step ⟨.value, []⟩).bind Reader.finish

/-- The value that a text denotes; of several reasons to refuse the text, the one that comes first in it counts. -/
def read (t : List Char) : Except Refusal Json := ofTokens (tokens t)

end Json
end OrgOutline
