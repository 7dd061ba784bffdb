import OrgOutline.Json.Basic
import OrgOutline.Number.Shortest
import OrgOutline.Text.Quoted

/-!
# Values inside texts

A value of any kind can stand inside a text. A string stands as it is (`Json.shown`) or, where it has to be told apart from
the words around it, between quotes (`Json.display`); numbers stand in decimal; null, true and false by name; arrays and
objects in brackets, with everything in them quoted.
-/

namespace OrgOutline

/-- Numbers inside texts keep at least one decimal, are spelled out from 0.0001 to below 10^16, and have an exponent of at
least two digits otherwise. -/
def shownNumbers : NumberLayout where
  positionalFrom := -4
  positionalBelow := 16
  exponentMark := 'e'
  exponentWidth := 2
  infinity := "inf".toList
  notANumber := "nan".toList

namespace Json

mutual
/-- The value with its strings between quotes. -/
def display : Json → Text
  | .null => "None".toList
  | .bool true => "True".toList
  | .bool false => "False".toList
  | .int n => decimalInt n
  | .float x => x.text shownNumbers
  | .str s => quoted s.toList
  | .arr items => '[' :: displayItems items ++ [']']
  | .obj members => '\x7b' :: displayMembers members ++ ['\x7d']

/-- The elements of an array, separated by commas. -/
def displayItems : List Json → Text
  | [] => []
  | [x] => display x
  | x :: xs => display x ++ ", ".toList ++ displayItems xs

/-- The members of an object, separated by commas. -/
def displayMembers : List (String × Json) → Text
  | [] => []
  | [(k, v)] => quoted k.toList ++ ": ".toList ++ display v
  | (k, v) :: ms => quoted k.toList ++ ": ".toList ++ display v ++ ", ".toList ++ displayMembers ms
end

/-- The value as it stands in a text: a string as it is, any other value as displayed. -/
def shown : Json → Text
  | .str s => s.toList
  | v => v.display

@[simp] theorem shown_str (s : String) : (Json.str s).shown = s.toList := rfl

end Json
end OrgOutline
