import OrgOutline.Proofs.Outline

/-!
# Heading lines

The heading lines of a text (`Text.headingLines`) are those of its parts, if these are whole lines. Spaces at the start of a text
that does not start with a star change none of them, and a text whose lines are all indented has none, nor has what is left of
it without the blanks at its end. Main statement: whole lines that gain heading lines in front of others (`Text.GainsHeadings`)
gain none together if each of them gains none.
-/

namespace OrgOutline

/-! ## Heading lines -/

namespace Text

/-- The heading lines of a text, in order. -/
def headingLines (t : Text) : List Text := t.lines.filter isHeadingLine

theorem headingLines_eq_nil_iff {t : Text} : t.headingLines = [] ↔ t.HasNoHeading := by
  simp only [headingLines, List.filter_eq_nil_iff, HasNoHeading, Bool.not_eq_true]

theorem headingLines_append_newline (a b : Text) : headingLines (a ++ '\n' :: b) = headingLines a ++ headingLines b := by
  rw [headingLines, lines_append_newline, List.filter_append]
  rfl

/-- A newline at the end makes no difference. -/
theorem headingLines_concat_newline (a : Text) : headingLines (a ++ ['\n']) = headingLines a := by
  rw [headingLines_append_newline]
  exact List.append_nil _

/-- What is written after whole lines adds its own heading lines. -/
theorem IsWhole.headingLines_append {a : Text} (ha : a.IsWhole) (b : Text) :
    headingLines (a ++ b) = headingLines a ++ headingLines b := by
  rcases ha with rfl | ha
  · rfl
  · obtain ⟨body, rfl⟩ := isClosed_iff.1 ha
    rw [List.append_assoc, List.singleton_append, headingLines_append_newline, headingLines_concat_newline]

theorem headingLines_unlines (ls : List Text) : headingLines (unlines ls) = ls.flatMap headingLines := by
  by_cases h : ls = []
  · subst h
    rfl
  · rw [headingLines, lines_unlines_eq_flatMap h, List.filter_flatMap]
    rfl

/-- Whole lines that have all heading lines of others in their order, and exactly under a condition no more. -/
structure GainsHeadings (none : Prop) (t t' : Text) : Prop where
  isWhole : t.IsWhole
  isWhole' : t'.IsWhole
  sublist : t'.headingLines.Sublist t.headingLines
  eq_iff : t.headingLines = t'.headingLines ↔ none

theorem GainsHeadings.refl {t : Text} (h : t.IsWhole) : GainsHeadings True t t :=
  ⟨h, h, List.Sublist.refl _, iff_true_intro rfl⟩

theorem GainsHeadings.congr {p q : Prop} {t t' : Text} (h : GainsHeadings p t t') (hpq : p ↔ q) : GainsHeadings q t t' :=
  ⟨h.isWhole, h.isWhole', h.sublist, h.eq_iff.trans hpq⟩

/-- Texts after each other gain no heading line if none of them does. -/
theorem GainsHeadings.append {p q : Prop} {t t' u u' : Text} (h : GainsHeadings p t t') (h' : GainsHeadings q u u') :
    GainsHeadings (p ∧ q) (t ++ u) (t' ++ u') := by
  refine ⟨h.isWhole.append h'.isWhole, h.isWhole'.append h'.isWhole', ?_, ?_⟩
  · rw [h.isWhole.headingLines_append, h.isWhole'.headingLines_append]
    exact h.sublist.append h'.sublist
  · rw [h.isWhole.headingLines_append, h.isWhole'.headingLines_append, ← h.eq_iff, ← h'.eq_iff]
    constructor
    · intro he
      -- As neither part has lost a heading line, none has been gained in one of them either.
      have hlength := congrArg List.length he
      rw [List.length_append, List.length_append] at hlength
      have h1 := h.sublist.length_le
      have h2 := h'.sublist.length_le
      exact ⟨(h.sublist.eq_of_length_le (by omega)).symm, (h'.sublist.eq_of_length_le (by omega)).symm⟩
    · rintro ⟨he, he'⟩
      rw [he, he']

/-! ## The first line -/

theorem tail_lines_cons {c : Char} (h : c ≠ '\n') (t : Text) : (lines (c :: t)).tail = (lines t).tail := by
  rw [lines_cons c t h]
  cases lines t <;> rfl

/-- A text that starts neither with a newline nor with a star has its heading lines below the first line. -/
theorem headingLines_cons {c : Char} (hnewline : c ≠ '\n') (hstar : c ≠ '*') (t : Text) :
    headingLines (c :: t) = (lines (c :: t)).tail.filter isHeadingLine := by
  rw [headingLines, lines_cons c t hnewline]
  cases h : lines t with
  | nil => exact absurd h (lines_ne_nil t)
  | cons l ls =>
    have hline : isHeadingLine (c :: l) = false := by
      unfold isHeadingLine
      split
      · rename_i heq
        exact absurd (List.cons.inj heq).1 hstar
      · rfl
    rw [List.modifyHead_cons, List.filter_cons_of_neg (by simp [hline]), List.tail_cons]

/-- Spaces in front of a text that starts neither with a newline nor with a star change none of its heading lines. -/
theorem headingLines_spaces_append (k : Nat) {c : Char} (hnewline : c ≠ '\n') (hstar : c ≠ '*') (t : Text) :
    headingLines (spaces k ++ c :: t) = headingLines (c :: t) := by
  have htail : (lines (spaces k ++ c :: t)).tail = (lines (c :: t)).tail := by
    induction k with
    | zero => rfl
    | succ k ih =>
      rw [spaces, List.replicate_succ, List.cons_append, tail_lines_cons (by decide)]
      exact ih
  cases k with
  | zero => rfl
  | succ k =>
    rw [headingLines_cons hnewline hstar, ← htail]
    exact headingLines_cons (by decide) (by decide) _

/-! ## Indented lines -/

/-- Every line of a text starts with a space, unless it is empty. -/
def IsIndented (t : Text) : Prop := ∀ l ∈ t.lines, l = [] ∨ ∃ rest, l = ' ' :: rest

theorem IsIndented.headingLines_eq_nil {t : Text} (h : t.IsIndented) : t.headingLines = [] := by
  refine headingLines_eq_nil_iff.2 ?_
  intro l hl
  rcases h l hl with rfl | ⟨rest, rfl⟩ <;> rfl

/-- Every line of the start of a text is the start of a line of the text. -/
theorem lines_of_prefix (a b : Text) : ∀ l ∈ lines a, ∃ m ∈ lines (a ++ b), l <+: m := by
  have hlines : ∃ x xs y ys, lines a = x :: xs ∧ lines (a ++ b) = y :: ys ∧ x <+: y ∧
      ∀ l ∈ xs, ∃ m ∈ ys, l <+: m := by
    induction a with
    | nil =>
      obtain ⟨y, ys, hy⟩ := List.exists_cons_of_ne_nil (lines_ne_nil b)
      exact ⟨[], [], y, ys, rfl, hy, List.nil_prefix, List.forall_mem_nil _⟩
    | cons c a ih =>
      obtain ⟨x, xs, y, ys, hx, hy, hxy, hxs⟩ := ih
      by_cases hc : c = '\n'
      · subst hc
        refine ⟨[], x :: xs, [], y :: ys, ?_, ?_, List.nil_prefix, ?_⟩
        · rw [lines_cons_newline, hx]
        · rw [List.cons_append, lines_cons_newline, hy]
        · refine List.forall_mem_cons.2 ⟨⟨y, List.mem_cons_self, hxy⟩, ?_⟩
          intro l hl
          obtain ⟨m, hm, hlm⟩ := hxs l hl
          exact ⟨m, List.mem_cons_of_mem _ hm, hlm⟩
      · refine ⟨c :: x, xs, c :: y, ys, ?_, ?_, List.cons_prefix_cons.2 ⟨rfl, hxy⟩, hxs⟩
        · rw [lines_cons c a hc, hx, List.modifyHead_cons]
        · rw [List.cons_append, lines_cons c (a ++ b) hc, hy, List.modifyHead_cons]
  obtain ⟨x, xs, y, ys, hx, hy, hxy, hxs⟩ := hlines
  rw [hx, hy]
  refine List.forall_mem_cons.2 ⟨⟨y, List.mem_cons_self, hxy⟩, ?_⟩
  intro l hl
  obtain ⟨m, hm, hlm⟩ := hxs l hl
  exact ⟨m, List.mem_cons_of_mem _ hm, hlm⟩

/-- What is left of an indented text without the blanks at its end is indented. -/
theorem IsIndented.trimEnd {t : Text} (h : t.IsIndented) : t.trimEnd.IsIndented := by
  obtain ⟨rest, hrest⟩ := trimEnd_isPrefix t
  intro l hl
  obtain ⟨m, hm, hlm⟩ := lines_of_prefix t.trimEnd rest l hl
  rw [hrest] at hm
  rcases h m hm with rfl | ⟨tail, rfl⟩
  · exact Or.inl (List.prefix_nil.1 hlm)
  · cases l with
    | nil => exact Or.inl rfl
    | cons c l => exact Or.inr ⟨l, by rw [(List.cons_prefix_cons.1 hlm).1]⟩

/-- Lines that each start with a space, unless they are empty, make an indented text. -/
theorem isIndented_unlines {ls : List Text} (hline : ∀ l ∈ ls, '\n' ∉ l)
    (h : ∀ l ∈ ls, l = [] ∨ ∃ rest, l = ' ' :: rest) : (unlines ls).IsIndented := by
  cases ls with
  | nil =>
    intro l hl
    exact Or.inl (List.mem_singleton.1 hl)
  | cons l ls =>
    unfold IsIndented
    rwa [lines_unlines (List.cons_ne_nil _ _) hline]

end Text

end OrgOutline
