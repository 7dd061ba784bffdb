import OrgOutline.Text.Basic

/-!
# Blank characters and trimming

The blank characters are those of the Unicode property `White_Space` together with the four information separators U+001C
to U+001F. The zero-width space, the word joiner, the byte order mark and NUL are not blank. Trimming takes blank
characters from the ends of a text.
-/

namespace OrgOutline

/-- The ranges of blank characters, first and last code point. -/
def blankRanges : List (Nat × Nat) :=
  [(0x09, 0x0d), (0x1c, 0x20), (0x85, 0x85), (0xa0, 0xa0), (0x1680, 0x1680), (0x2000, 0x200a), (0x2028, 0x2029),
   (0x202f, 0x202f), (0x205f, 0x205f), (0x3000, 0x3000)]

/-- A character is blank when its code point lies in one of the blank ranges. -/
def isBlank (c : Char) : Bool := blankRanges.any (fun r => r.1 ≤ c.toNat && c.toNat ≤ r.2)

namespace Text

/-- A text of blank characters alone, the empty text among them. -/
def allBlank (t : Text) : Bool := t.all isBlank

/-- The text without the blank characters at its start. -/
def trimStart (t : Text) : Text := t.dropWhile isBlank

/-- The text without the blank characters at its end. -/
def trimEnd (t : Text) : Text := (t.reverse.dropWhile isBlank).reverse

/-- The text without the blank characters at its two ends. -/
def trim (t : Text) : Text := (trimStart t).trimEnd

/-! ## Helper lemmas -/

@[simp] theorem trimStart_nil : trimStart [] = [] := rfl

@[simp] theorem trimEnd_nil : trimEnd [] = [] := rfl

/-- A blank character at the end is cut off. -/
theorem trimEnd_concat_blank (t : Text) {c : Char} (h : isBlank c = true) : trimEnd (t ++ [c]) = trimEnd t := by
  simp [trimEnd, h]

/-- A text whose last character is not blank is kept whole. -/
theorem trimEnd_concat (t : Text) {c : Char} (h : isBlank c = false) : trimEnd (t ++ [c]) = t ++ [c] := by
  simp [trimEnd, h]

end Text
end OrgOutline
