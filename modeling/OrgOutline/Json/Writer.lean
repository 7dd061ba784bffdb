import OrgOutline.Json.Operation

/-!
# Writing JSON text

Text is laid out on one line, or with every element of an array or object on a line of its own, indented by its depth
(`Json.layout`). In a string only the quote, the backslash and the control characters are escaped. A value is not written if
there is an integer of too many digits in it (`Json.write`).
-/

namespace OrgOutline

/-- Numbers in JSON text are laid out as inside other texts; infinity and what is not a number have names of their own. -/
def writtenNumbers : NumberLayout :=
  { shownNumbers with infinity := "Infinity".toList, notANumber := "NaN".toList }

namespace Json

/-- How one character stands in a written string. -/
def escapeChar (c : Char) : Text :=
  if c = '"' then ['\\', '"']
  else if c = '\\' then ['\\', '\\']
  else if c = '\n' then ['\\', 'n']
  else if c = '\r' then ['\\', 'r']
  else if c = '\t' then ['\\', 't']
  else if c = '\x0c' then ['\\', 'f']
  else if c = '\x08' then ['\\', 'b']
  else if c.toNat < 0x20 then '\\' :: 'u' :: hexDigits 4 c.toNat
  else [c]

/-- A string between its quotes. -/
def writeString (s : String) : Text := '"' :: s.toList.flatMap escapeChar ++ ['"']

/-- How elements are set apart: `none` keeps them on one line, and `some n` gives each a line of its own, indented by `n`
spaces for each level. -/
abbrev Indent := Option Nat

/-- The start of a line at a depth; nothing where all is on one line. -/
def lineStart (indent : Indent) (depth : Nat) : Text :=
  match indent with
  | none => []
  | some n => '\n' :: Text.spaces (n * depth)

/-- What separates two elements at a depth. -/
def separator (indent : Indent) (depth : Nat) : Text :=
  match indent with
  | none => [',', ' ']
  | some _ => ',' :: lineStart indent depth

mutual
/-- The layout of a value at a depth. -/
def layoutAt (indent : Indent) (depth : Nat) : Json → Text
  | .null => "null".toList
  | .bool true => "true".toList
  | .bool false => "false".toList
  | .int n => decimalInt n
  | .float x => x.text writtenNumbers
  | .str s => writeString s
  | .arr [] => ['[', ']']
  | .arr (x :: xs) =>
    '[' :: lineStart indent (depth + 1) ++ layoutAt indent (depth + 1) x ++ layoutItems indent (depth + 1) xs ++
      lineStart indent depth ++ [']']
  | .obj [] => ['\x7b', '\x7d']
  | .obj ((k, v) :: ms) =>
    '\x7b' :: lineStart indent (depth + 1) ++ writeString k ++ [':', ' '] ++ layoutAt indent (depth + 1) v ++
      layoutMembers indent (depth + 1) ms ++ lineStart indent depth ++ ['\x7d']

/-- The further elements of an array, each behind a separator. -/
def layoutItems (indent : Indent) (depth : Nat) : List Json → Text
  | [] => []
  | x :: xs => separator indent depth ++ layoutAt indent depth x ++ layoutItems indent depth xs

/-- The further members of an object, each behind a separator. -/
def layoutMembers (indent : Indent) (depth : Nat) : List (String × Json) → Text
  | [] => []
  | (k, v) :: ms =>
    separator indent depth ++ writeString k ++ [':', ' '] ++ layoutAt indent depth v ++ layoutMembers indent depth ms
end

/-- The layout of a value. -/
def layout (indent : Indent) (v : Json) : Text := layoutAt indent 0 v

/-- The JSON text of a value, unless there is an integer of too many digits in it. -/
def write (indent : Indent) (v : Json) : Except Fault Text := (checkShown [v]).map fun _ => v.layout indent

end Json
end OrgOutline
