/-!
# Texts and their lines

A text is the list of its characters, so every count is a count of code points. A line ends at a newline and nowhere else:
`Text.lines` cuts there and `Text.unlines` puts the newlines back. Main statements: the two undo each other
(`Text.unlines_lines`, `Text.lines_unlines`), and a text has one line more than it has newlines (`Text.length_lines`).
-/

namespace OrgOutline

/-- A text is the list of its characters. -/
abbrev Text := List Char

namespace Text

/-- The lines of a text are the pieces between its newlines; a text without a newline is one line. -/
def lines (t : Text) : List Text := t.splitOn '\n'

/-- Lines written under each other, with a newline between each two and none after the last. -/
def unlines (ls : List Text) : Text := ['\n'].intercalate ls

/-- A run of spaces. -/
def spaces (n : Nat) : Text := List.replicate n ' '

/-- A text set against the right edge of a field: spaces in front make it at least `width` characters long. -/
def alignRight (width : Nat) (t : Text) : Text := spaces (width - t.length) ++ t

/-- A text that ends in a newline is closed: what is written after it starts on a new line. -/
def isClosed (t : Text) : Bool := t.getLast? == some '\n'

/-! ## Helper lemmas -/

@[simp] theorem lines_nil : lines [] = [[]] := rfl

theorem lines_cons_newline (t : Text) : lines ('\n' :: t) = [] :: lines t := by
  simp [lines, List.splitOn, List.splitOnP_cons_eq_if_modifyHead]

theorem lines_cons (c : Char) (t : Text) (h : c ≠ '\n') : lines (c :: t) = (lines t).modifyHead (List.cons c) := by
  simp [lines, List.splitOn, List.splitOnP_cons_eq_if_modifyHead, h]

@[simp] theorem unlines_lines (t : Text) : unlines (lines t) = t := by
  simp [lines, unlines]

theorem lines_unlines {ls : List Text} (hne : ls ≠ []) (h : ∀ l ∈ ls, '\n' ∉ l) : lines (unlines ls) = ls :=
  List.splitOn_intercalate '\n' h hne

/-- A text has one line more than it has newlines. -/
theorem length_lines (t : Text) : (lines t).length = t.count '\n' + 1 := by
  induction t with
  | nil => rfl
  | cons c t ih =>
    by_cases h : c = '\n'
    · subst h; simp [lines_cons_newline, ih]
    · simp [lines_cons c t h, ih, h]

@[simp] theorem length_spaces (n : Nat) : (spaces n).length = n := by simp [spaces]

/-- The characters of a kind at the start of a text end where one of another kind stands. -/
theorem takeWhile_dropWhile_append {kind : Char → Bool} {t u : Text} (ht : ∀ c ∈ t, kind c = true)
    (hu : ∀ c ∈ u.head?, kind c = false) : (t ++ u).takeWhile kind = t ∧ (t ++ u).dropWhile kind = u := by
  rw [List.takeWhile_append_of_pos ht, List.dropWhile_append_of_pos ht]
  cases u with
  | nil => exact ⟨List.append_nil t, rfl⟩
  | cons c u =>
    have hc : ¬ kind c = true := Bool.not_eq_true _ ▸ hu c rfl
    rw [List.takeWhile_cons_of_neg hc, List.dropWhile_cons_of_neg hc, List.append_nil]
    exact ⟨rfl, rfl⟩

end Text
end OrgOutline
