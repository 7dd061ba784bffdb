import OrgOutline.Text.Basic
import OrgOutline.Text.Printable

/-!
# Quoted texts

A text is quoted so that it can stand inside a message: single quotes around it, or double quotes when it holds a single
quote and no double one; backslash escapes for the quote itself, the backslash, tab, newline and carriage return; and every
other character that is not printable by its code point, in the shortest of the three hexadecimal forms that holds it.
-/

namespace OrgOutline

/-- The last `width` hexadecimal digits of a number, in lower case. -/
def hexDigits (width n : Nat) : Text :=
  (List.range width).map (fun i => Nat.digitChar (n / Nat.pow 16 (width - 1 - i) % 16))

namespace Quoted

/-- Single quotes, or double ones when the text holds a single quote and no double one. -/
def quoteOf (t : Text) : Char := if t.contains '\'' && !t.contains '"' then '"' else '\''

/-- The code point escape of a character. -/
def codePoint (c : Char) : Text :=
  if c.toNat < 0x100 then '\\' :: 'x' :: hexDigits 2 c.toNat
  else if c.toNat < 0x10000 then '\\' :: 'u' :: hexDigits 4 c.toNat
  else '\\' :: 'U' :: hexDigits 8 c.toNat

/-- How one character stands between the quotes. -/
def escape (quote c : Char) : Text :=
  if c = quote ∨ c = '\\' then ['\\', c]
  else if c = '\t' then ['\\', 't']
  else if c = '\n' then ['\\', 'n']
  else if c = '\r' then ['\\', 'r']
  else if isPrintable c then [c]
  else codePoint c

end Quoted

/-- The text between quotes, with escapes. -/
def quoted (t : Text) : Text :=
  Quoted.quoteOf t :: t.flatMap (Quoted.escape (Quoted.quoteOf t)) ++ [Quoted.quoteOf t]

end OrgOutline
