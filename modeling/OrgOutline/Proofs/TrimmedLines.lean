import Mathlib.Data.List.DropRight
import OrgOutline.Proofs.WholeLines

/-!
# Trimmed lines

Lines that are written under each other and trimmed as one text lose the blank ones at their end, and the last one that is left
loses the blanks at its end (`Text.trimmedLines`). Main statements: these are the lines of the trimmed text
(`Text.lines_trimEnd_unlines`), and lines can be trimmed and indented in either order (`Text.trimmedLines_map_indented`), as
long as an indentation is not put in front of an empty line.
-/

namespace OrgOutline

/-! ## Lines of whole texts -/

namespace Text

/-- The lines of a text that a newline ends. -/
def endedLines (t : Text) : List Text := t.lines.dropLast

@[simp] theorem endedLines_nil : endedLines [] = [] := rfl

theorem endedLines_concat_newline (t : Text) : endedLines (t ++ ['\n']) = lines t := by
  rw [endedLines, lines_append_newline]
  exact List.dropLast_concat

/-- What is written behind whole lines adds its own lines. -/
theorem IsWhole.lines_append {a : Text} (ha : a.IsWhole) (b : Text) : lines (a ++ b) = a.endedLines ++ lines b := by
  rcases ha with rfl | ha
  · rfl
  · obtain ⟨body, rfl⟩ := isClosed_iff.1 ha
    rw [endedLines_concat_newline, List.append_assoc, List.singleton_append, lines_append_newline]

theorem unlines_cons (l : Text) {ls : List Text} (h : ls ≠ []) : unlines (l :: ls) = l ++ '\n' :: unlines ls := by
  rw [unlines, unlines, List.intercalate_cons_of_ne_nil h, List.append_assoc]
  rfl

/-! ## Trimming lines -/

theorem allBlank_append (a b : Text) : allBlank (a ++ b) = (a.allBlank && b.allBlank) := List.all_append

/-- Nothing is left of a blank text, and of no other. -/
theorem trimEnd_eq_nil_iff {t : Text} : t.trimEnd = [] ↔ t.allBlank = true :=
  List.rdropWhile_eq_nil_iff.trans List.all_eq_true.symm

/-- The blanks at the end of a text are those at the end of its last part, and if that is blank, those in front of it too. -/
theorem trimEnd_append (a b : Text) : trimEnd (a ++ b) = if b.allBlank then a.trimEnd else a ++ b.trimEnd := by
  induction b using List.reverseRecOn with
  | nil =>
    rw [List.append_nil]
    rfl
  | append_singleton b c ih =>
    rw [← List.append_assoc, allBlank_append]
    cases hc : isBlank c with
    | true =>
      rw [trimEnd_concat_blank _ hc, trimEnd_concat_blank _ hc, ih]
      simp [allBlank, hc]
    | false =>
      rw [trimEnd_concat _ hc, trimEnd_concat _ hc]
      simp [allBlank, hc]

theorem allBlank_unlines (ls : List Text) : (unlines ls).allBlank = ls.all allBlank := by
  induction ls with
  | nil => rfl
  | cons l ls ih =>
    cases ls with
    | nil => simp [unlines]
    | cons l' ls =>
      rw [unlines_cons l (List.cons_ne_nil _ _), allBlank_append, List.all_cons, ← ih]
      rfl

/-- Lines without the blank ones at the end, and without the blanks at the end of the last one that is left; one empty line if
all are blank. -/
def trimmedLines : List Text → List Text
  | [] => [[]]
  | l :: ls => if ls.all allBlank then [l.trimEnd] else l :: trimmedLines ls

theorem trimmedLines_ne_nil (ls : List Text) : trimmedLines ls ≠ [] := by
  cases ls with
  | nil => exact List.cons_ne_nil _ _
  | cons l ls =>
    rw [trimmedLines]
    split <;> exact List.cons_ne_nil _ _

/-- Lines are trimmed as the text that they make. -/
theorem trimEnd_unlines (ls : List Text) : (unlines ls).trimEnd = unlines (trimmedLines ls) := by
  induction ls with
  | nil => rfl
  | cons l ls ih =>
    rw [trimmedLines]
    by_cases hnil : ls = []
    · subst hnil
      simp [unlines]
    · have hnewline : ∀ t : Text, '\n' :: t = ['\n'] ++ t := fun _ => rfl
      rw [unlines_cons l hnil, trimEnd_append, hnewline, trimEnd_append, allBlank_append, allBlank_unlines]
      cases hblank : ls.all allBlank with
      | true => simp [unlines, allBlank, show isBlank '\n' = true from rfl]
      | false =>
        rw [if_neg (by simp), if_neg (by simp), if_neg (by simp), ih, unlines_cons l (trimmedLines_ne_nil ls)]
        rfl

theorem newline_not_mem_of_mem_trimmedLines {ls : List Text} (h : ∀ l ∈ ls, '\n' ∉ l) :
    ∀ l ∈ trimmedLines ls, '\n' ∉ l := by
  induction ls with
  | nil =>
    rw [trimmedLines, List.forall_mem_singleton]
    exact List.not_mem_nil
  | cons l ls ih =>
    obtain ⟨hl, hls⟩ := List.forall_mem_cons.1 h
    rw [trimmedLines]
    split
    · rw [List.forall_mem_singleton]
      exact fun hmem => hl ((trimEnd_isPrefix l).subset hmem)
    · exact List.forall_mem_cons.2 ⟨hl, ih hls⟩

/-- The lines of a text that is made of lines and trimmed. -/
theorem lines_trimEnd_unlines {ls : List Text} (h : ∀ l ∈ ls, '\n' ∉ l) : (unlines ls).trimEnd.lines = trimmedLines ls := by
  rw [trimEnd_unlines, lines_unlines (trimmedLines_ne_nil ls) (newline_not_mem_of_mem_trimmedLines h)]

/-- One empty line is left of blank lines. -/
theorem trimmedLines_of_allBlank {ls : List Text} (h : ∀ l ∈ ls, l.allBlank = true) : trimmedLines ls = [[]] := by
  cases ls with
  | nil => rfl
  | cons l ls =>
    obtain ⟨hl, hls⟩ := List.forall_mem_cons.1 h
    rw [trimmedLines, if_pos (List.all_eq_true.2 hls), trimEnd_eq_nil_iff.2 hl]

/-- Lines are kept up to the last one that is not blank, which is trimmed. -/
theorem trimmedLines_append {last : Text} (hlast : last.allBlank = false) (kept : List Text) {blank : List Text}
    (hblank : ∀ l ∈ blank, l.allBlank = true) : trimmedLines (kept ++ last :: blank) = kept ++ [last.trimEnd] := by
  induction kept with
  | nil => rw [List.nil_append, List.nil_append, trimmedLines, if_pos (List.all_eq_true.2 hblank)]
  | cons l kept ih =>
    have hrest : (kept ++ last :: blank).all allBlank = false := by
      rw [List.all_append, List.all_cons, hlast, Bool.false_and, Bool.and_false]
    rw [List.cons_append, trimmedLines, if_neg (by rw [hrest]; exact Bool.false_ne_true), ih, List.cons_append]

/-! ## Indenting lines -/

theorem newline_not_mem_spaces (n : Nat) : '\n' ∉ spaces n := by
  intro h
  exact absurd (List.eq_of_mem_replicate h) (by decide)

theorem allBlank_spaces (n : Nat) : (spaces n).allBlank = true := by
  refine List.all_eq_true.2 fun c hc => ?_
  rw [List.eq_of_mem_replicate hc]
  rfl

/-- A line with an indentation in front of it, unless it is empty. -/
def indented (indentation line : Text) : Text := if line.isEmpty then [] else indentation ++ line

theorem indented_of_ne_nil {line : Text} (h : line ≠ []) (indentation : Text) :
    indented indentation line = indentation ++ line := if_neg (by simpa using h)

theorem map_indented_nil (ls : List Text) : ls.map (indented []) = ls := by
  refine (List.map_congr_left fun l _ => ?_).trans (List.map_id ls)
  unfold indented
  split
  · rename_i h
    exact (List.isEmpty_iff.1 h).symm
  · rfl

theorem newline_not_mem_indented {indentation line : Text} (hi : '\n' ∉ indentation) (h : '\n' ∉ line) :
    '\n' ∉ indented indentation line := by
  unfold indented
  split
  · exact List.not_mem_nil
  · exact List.not_mem_append hi h

section

variable {indentation : Text} (hi : indentation.allBlank = true)
include hi

theorem allBlank_indented (line : Text) : (indented indentation line).allBlank = line.allBlank := by
  unfold indented
  split
  · rename_i h
    rw [List.isEmpty_iff.1 h]
  · rw [allBlank_append, hi, Bool.true_and]

theorem trimEnd_indented (line : Text) : (indented indentation line).trimEnd = indented indentation line.trimEnd := by
  by_cases hnil : line = []
  · subst hnil
    rfl
  · rw [indented_of_ne_nil hnil, trimEnd_append]
    cases hblank : line.allBlank with
    | true =>
      rw [if_pos rfl, trimEnd_eq_nil_iff.2 hi, trimEnd_eq_nil_iff.2 hblank]
      rfl
    | false =>
      have hleft : line.trimEnd ≠ [] := by
        rw [Ne, trimEnd_eq_nil_iff, hblank]
        exact Bool.false_ne_true
      rw [if_neg Bool.false_ne_true, indented_of_ne_nil hleft]

/-- Indented lines are trimmed to the indented trimmed lines. -/
theorem trimmedLines_map_indented (ls : List Text) :
    trimmedLines (ls.map (indented indentation)) = (trimmedLines ls).map (indented indentation) := by
  induction ls with
  | nil => rfl
  | cons l ls ih =>
    have hall : (ls.map (indented indentation)).all allBlank = ls.all allBlank := by
      rw [List.all_map]
      exact congrArg (List.all ls) (funext fun line => allBlank_indented hi line)
    rw [List.map_cons, trimmedLines, trimmedLines, hall, trimEnd_indented hi, ih]
    split <;> rfl

end

end Text
end OrgOutline
