import Mathlib.Data.List.Forall2
import OrgOutline.Text.Blank

/-!
# Texts that differ in marks

Two texts are alike (`Text.Alike`) when they have the same length and differ only in characters that are not blank, so they
have the same lines and the same blanks. What is done with lines and blanks keeps texts alike, and tells texts apart that were
different before: main statements are the lemmas on `Text.AlikeIf`, which also says under which condition two texts that are
alike are equal.
-/

namespace OrgOutline
namespace Text

/-- Characters that are equal, or neither of which is blank. -/
def AlikeChar (c c' : Char) : Prop := c = c' ∨ isBlank c = false ∧ isBlank c' = false

/-- Texts of the same length that differ only in characters that are not blank. -/
def Alike (t t' : Text) : Prop := List.Forall₂ AlikeChar t t'

theorem AlikeChar.isBlank_eq {c c' : Char} (h : AlikeChar c c') : isBlank c = isBlank c' := by
  rcases h with rfl | ⟨h, h'⟩
  · rfl
  · rw [h, h']

theorem AlikeChar.eq_of_isBlank {c c' : Char} (h : AlikeChar c c') (hc : isBlank c = true) : c = c' := by
  rcases h with rfl | ⟨h, -⟩
  · rfl
  · rw [h] at hc
    exact absurd hc (by decide)

namespace Alike

variable {t t' u u' : Text}

theorem refl (t : Text) : Alike t t := List.forall₂_same.2 fun _ _ => Or.inl rfl

theorem append (h : Alike t t') (h' : Alike u u') : Alike (t ++ u) (t' ++ u') := List.rel_append h h'

theorem reverse (h : Alike t t') : Alike t.reverse t'.reverse := List.rel_reverse h

theorem length_eq (h : Alike t t') : t.length = t'.length := List.Forall₂.length_eq h

theorem isEmpty_eq (h : Alike t t') : t.isEmpty = t'.isEmpty := by
  cases h <;> rfl

/-- Texts that are alike are blank together, and then they are equal. -/
theorem allBlank_eq (h : Alike t t') : t.allBlank = t'.allBlank := by
  induction h with
  | nil => rfl
  | cons hc _ ih =>
    rw [allBlank, allBlank, List.all_cons, List.all_cons, hc.isBlank_eq]
    exact congrArg _ ih

theorem eq_of_allBlank (h : Alike t t') (hb : t.allBlank = true) : t = t' := by
  induction h with
  | nil => rfl
  | cons hc _ ih =>
    rw [allBlank, List.all_cons, Bool.and_eq_true] at hb
    rw [hc.eq_of_isBlank hb.1, ih hb.2]

/-- The same blanks are cut off at the starts of texts that are alike. -/
theorem exists_trimStart (h : Alike t t') :
    ∃ blanks, t = blanks ++ t.trimStart ∧ t' = blanks ++ t'.trimStart ∧ Alike t.trimStart t'.trimStart := by
  induction h with
  | nil => exact ⟨[], rfl, rfl, List.Forall₂.nil⟩
  | cons hc h ih =>
    rename_i c c' t t'
    unfold trimStart at ih ⊢
    cases hb : isBlank c with
    | true =>
      obtain ⟨blanks, h1, h2, h3⟩ := ih
      have hb' := hc.isBlank_eq ▸ hb
      have he := hc.eq_of_isBlank hb
      subst he
      rw [List.dropWhile_cons_of_pos hb, List.dropWhile_cons_of_pos hb']
      exact ⟨c :: blanks, by rw [List.cons_append, ← h1], by rw [List.cons_append, ← h2], h3⟩
    | false =>
      have hb' := hc.isBlank_eq ▸ hb
      rw [List.dropWhile_cons_of_neg (by simp [hb]), List.dropWhile_cons_of_neg (by simp [hb'])]
      exact ⟨[], rfl, rfl, List.Forall₂.cons hc h⟩

theorem trimStart (h : Alike t t') : Alike t.trimStart t'.trimStart := by
  obtain ⟨_, -, -, h⟩ := h.exists_trimStart
  exact h

theorem trimEnd (h : Alike t t') : Alike t.trimEnd t'.trimEnd := (h.reverse.trimStart).reverse

theorem trim (h : Alike t t') : Alike t.trim t'.trim := h.trimStart.trimEnd

/-- Texts that are alike are equal when they are equal up to the blanks at their ends. -/
theorem trimEnd_eq_iff (h : Alike t t') : t.trimEnd = t'.trimEnd ↔ t = t' := by
  constructor
  · intro he
    obtain ⟨blanks, h1, h2, -⟩ := h.reverse.exists_trimStart
    have hs : Text.trimStart t.reverse = Text.trimStart t'.reverse := List.reverse_injective he
    rw [← List.reverse_inj, h1, h2, hs]
  · intro he
    rw [he]

/-- Texts that are alike have lines that are alike. -/
theorem lines (h : Alike t t') : List.Forall₂ Alike t.lines t'.lines := by
  induction h with
  | nil => exact List.Forall₂.cons List.Forall₂.nil List.Forall₂.nil
  | cons hc h ih =>
    rename_i c c' t t'
    by_cases hn : c = '\n'
    · subst hn
      obtain rfl := hc.eq_of_isBlank (by decide)
      rw [lines_cons_newline, lines_cons_newline]
      exact List.Forall₂.cons List.Forall₂.nil ih
    · have hn' : c' ≠ '\n' := by
        rintro rfl
        rcases hc with rfl | ⟨-, hb⟩
        · exact hn rfl
        · exact absurd hb (by decide)
      rw [lines_cons c t hn, lines_cons c' t' hn']
      generalize Text.lines t = ls at ih ⊢
      generalize Text.lines t' = ls' at ih ⊢
      cases ih with
      | nil => exact List.Forall₂.nil
      | cons hl hls => exact List.Forall₂.cons (List.Forall₂.cons hc hl) hls

/-- Parts that are alike are equal when what they are put together to is equal. -/
theorem append_eq_iff (h : Alike t t') : t ++ u = t' ++ u' ↔ t = t' ∧ u = u' :=
  ⟨fun he => List.append_inj he h.length_eq, fun he => he.1 ▸ he.2 ▸ rfl⟩

theorem intercalate {sep : Text} {ts ts' : List Text} (h : List.Forall₂ Alike ts ts') :
    Alike (sep.intercalate ts) (sep.intercalate ts') ∧ (sep.intercalate ts = sep.intercalate ts' ↔ ts = ts') := by
  induction h with
  | nil => exact ⟨List.Forall₂.nil, by simp⟩
  | cons ht hts ih =>
    cases hts with
    | nil => simpa using ht
    | cons hu hus =>
      obtain ⟨h1, h2⟩ := ih
      rw [List.intercalate_cons_cons, List.intercalate_cons_cons]
      refine ⟨(ht.append (refl sep)).append h1, ?_⟩
      rw [(ht.append (refl sep)).append_eq_iff, h2, List.append_left_inj, List.cons.injEq, List.cons.injEq, List.cons.injEq]

end Alike

/-! ## Texts that are equal under a condition -/

/-- Texts that are alike, and equal exactly under a condition. -/
structure AlikeIf (same : Prop) (t t' : Text) : Prop where
  alike : Alike t t'
  eq_iff : t = t' ↔ same

/-- Lists of texts that are alike one by one, and equal exactly under a condition. -/
structure AllAlikeIf (same : Prop) (ts ts' : List Text) : Prop where
  alike : List.Forall₂ Alike ts ts'
  eq_iff : ts = ts' ↔ same

variable {p q : Prop} {t t' u u' : Text} {ts ts' : List Text}

theorem Alike.alikeIf (h : Alike t t') : AlikeIf (t = t') t t' := ⟨h, Iff.rfl⟩

theorem AlikeIf.refl (t : Text) : AlikeIf True t t := ⟨Alike.refl t, iff_true_intro rfl⟩

theorem AlikeIf.congr (h : AlikeIf p t t') (hpq : p ↔ q) : AlikeIf q t t' := ⟨h.alike, h.eq_iff.trans hpq⟩

theorem AlikeIf.append (h : AlikeIf p t t') (h' : AlikeIf q u u') : AlikeIf (p ∧ q) (t ++ u) (t' ++ u') :=
  ⟨h.alike.append h'.alike, h.alike.append_eq_iff.trans (and_congr h.eq_iff h'.eq_iff)⟩

/-- The same text in front of texts that are alike. -/
theorem AlikeIf.prepend (u : Text) (h : AlikeIf p t t') : AlikeIf p (u ++ t) (u ++ t') :=
  ((AlikeIf.refl u).append h).congr (iff_of_eq (true_and p))

/-- The same text behind texts that are alike. -/
theorem AlikeIf.postpend (u : Text) (h : AlikeIf p t t') : AlikeIf p (t ++ u) (t' ++ u) :=
  (h.append (AlikeIf.refl u)).congr (iff_of_eq (and_true p))

theorem AlikeIf.cons (c : Char) (h : AlikeIf p t t') : AlikeIf p (c :: t) (c :: t') := h.prepend [c]

theorem AlikeIf.trimEnd (h : AlikeIf p t t') : AlikeIf p t.trimEnd t'.trimEnd :=
  ⟨h.alike.trimEnd, h.alike.trimEnd_eq_iff.trans h.eq_iff⟩

theorem AllAlikeIf.nil : AllAlikeIf True [] [] := ⟨List.Forall₂.nil, iff_true_intro rfl⟩

theorem AllAlikeIf.congr (h : AllAlikeIf p ts ts') (hpq : p ↔ q) : AllAlikeIf q ts ts' := ⟨h.alike, h.eq_iff.trans hpq⟩

theorem AllAlikeIf.cons (h : AlikeIf p t t') (hs : AllAlikeIf q ts ts') : AllAlikeIf (p ∧ q) (t :: ts) (t' :: ts') :=
  ⟨List.Forall₂.cons h.alike hs.alike, by rw [List.cons.injEq, h.eq_iff, hs.eq_iff]⟩

theorem AllAlikeIf.isEmpty_eq (h : AllAlikeIf p ts ts') : ts.isEmpty = ts'.isEmpty := by
  cases h.alike <;> rfl

/-- The same texts behind texts that are alike. -/
theorem AllAlikeIf.postpend (us : List Text) (h : AllAlikeIf p ts ts') : AllAlikeIf p (ts ++ us) (ts' ++ us) :=
  ⟨List.rel_append h.alike (List.forall₂_same.2 fun u _ => Alike.refl u), by rw [List.append_left_inj, h.eq_iff]⟩

/-- What is made of texts that are alike, but only if there are any. -/
theorem AllAlikeIf.ite_isEmpty {f : List Text → Text} (h : AllAlikeIf p ts ts') (hf : AlikeIf p (f ts) (f ts')) :
    AlikeIf p (if ts.isEmpty then [] else f ts) (if ts'.isEmpty then [] else f ts') := by
  rw [← h.isEmpty_eq]
  split
  · rename_i he
    have hts : ts = [] := List.isEmpty_iff.1 he
    have hts' : ts' = [] := List.isEmpty_iff.1 (h.isEmpty_eq ▸ he)
    exact (AlikeIf.refl []).congr (iff_of_true trivial (h.eq_iff.1 (hts.trans hts'.symm)))
  · exact hf

/-- Texts that are alike stay so when each is changed in a way that tells texts apart. -/
theorem AllAlikeIf.map {f : Text → Text} (hf : ∀ t t', Alike t t' → AlikeIf (t = t') (f t) (f t'))
    (h : AllAlikeIf p ts ts') : AllAlikeIf p (ts.map f) (ts'.map f) := by
  obtain ⟨halike, hiff⟩ := h
  refine AllAlikeIf.congr ?_ hiff
  clear hiff
  induction halike with
  | nil => exact AllAlikeIf.nil.congr (iff_of_true trivial rfl)
  | cons ht _ ih => exact (AllAlikeIf.cons (hf _ _ ht) ih).congr (by rw [List.cons.injEq])

theorem AllAlikeIf.intercalate (sep : Text) (h : AllAlikeIf p ts ts') :
    AlikeIf p (sep.intercalate ts) (sep.intercalate ts') :=
  ⟨(Alike.intercalate h.alike).1, (Alike.intercalate h.alike).2.trans h.eq_iff⟩

theorem AllAlikeIf.unlines (h : AllAlikeIf p ts ts') : AlikeIf p (unlines ts) (unlines ts') := h.intercalate ['\n']

/-- Texts that are alike are equal exactly when their lines are. -/
theorem Alike.allAlikeIf_lines (h : Alike t t') : AllAlikeIf (t = t') t.lines t'.lines := by
  refine ⟨h.lines, ?_, ?_⟩
  · intro he
    rw [← unlines_lines t, he, unlines_lines]
  · intro he
    rw [he]

end Text
end OrgOutline
