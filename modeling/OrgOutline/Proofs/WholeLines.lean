import Mathlib.Data.List.DropRight
import OrgOutline.Document.Write
import OrgOutline.Proofs.Runs

/-!
# Whole lines

What is written after a text that is empty or ends with a newline starts on a line of its own. Main statements: what stands
before the first heading is such a text (`Document.isWhole_preamble`), and so is every heading, with its line and without it,
whatever its fields hold (`Heading.ensures_write_isWhole`).
-/

namespace OrgOutline

/-- What holds of a separator and of all that it separates holds of the whole. -/
theorem forall_mem_intercalate {α : Type} {P : α → Prop} {sep : List α} {ls : List (List α)} (hsep : ∀ x ∈ sep, P x)
    (hls : ∀ l ∈ ls, ∀ x ∈ l, P x) : ∀ x ∈ sep.intercalate ls, P x := by
  induction ls with
  | nil => exact List.forall_mem_nil _
  | cons l ls ih =>
    obtain ⟨hl, hls⟩ := List.forall_mem_cons.1 hls
    cases ls with
    | nil => rwa [List.intercalate_singleton]
    | cons l' ls =>
      rw [List.intercalate_cons_cons]
      exact List.forall_mem_append.2 ⟨List.forall_mem_append.2 ⟨hl, hsep⟩, ih hls⟩

theorem not_mem_intercalate {c : Char} {sep : Text} {ls : List Text} (hsep : c ∉ sep) (hls : ∀ l ∈ ls, c ∉ l) :
    c ∉ sep.intercalate ls := by
  have h := forall_mem_intercalate (P := fun x => c ≠ x) (List.forall_mem_ne.2 hsep) fun l hl => List.forall_mem_ne.2 (hls l hl)
  exact List.forall_mem_ne.1 h

namespace Text

/-- A text is whole if it is empty or its last line is ended by a newline. -/
def IsWhole (t : Text) : Prop := t = [] ∨ t.isClosed = true

@[simp] theorem isWhole_nil : IsWhole [] := Or.inl rfl

theorem isClosed_iff {t : Text} : t.isClosed = true ↔ ∃ body, t = body ++ ['\n'] := by
  rw [isClosed, beq_iff_eq, List.getLast?_eq_some_iff]

@[simp] theorem isWhole_concat (t : Text) : IsWhole (t ++ ['\n']) := Or.inr (isClosed_iff.2 ⟨t, rfl⟩)

theorem IsWhole.append {a b : Text} (ha : a.IsWhole) (hb : b.IsWhole) : IsWhole (a ++ b) := by
  rcases hb with rfl | hb
  · rwa [List.append_nil]
  · obtain ⟨body, rfl⟩ := isClosed_iff.1 hb
    rw [← List.append_assoc]
    exact isWhole_concat _

/-- What is left of a text without the blanks at its end is the start of the text. -/
theorem trimEnd_isPrefix (t : Text) : t.trimEnd <+: t := List.rdropWhile_prefix isBlank t

/-- The lines of a text whose first part ends with a newline are the lines of the two parts. -/
theorem lines_append_newline (a b : Text) : lines (a ++ '\n' :: b) = lines a ++ lines b := List.splitOn_append_cons_self a b

/-- The lines of texts under each other are those of each text. -/
theorem lines_unlines_eq_flatMap {ts : List Text} (h : ts ≠ []) : lines (unlines ts) = ts.flatMap lines := by
  induction ts with
  | nil => exact absurd rfl h
  | cons t ts ih =>
    cases ts with
    | nil => simp [unlines]
    | cons t' ts =>
      have hunlines : unlines (t :: t' :: ts) = t ++ '\n' :: unlines (t' :: ts) := by
        rw [unlines, List.intercalate_cons_cons, List.append_assoc]
        rfl
      rw [hunlines, lines_append_newline, ih (List.cons_ne_nil _ _)]
      rfl

theorem lines_of_not_mem {t : Text} (h : '\n' ∉ t) : lines t = [t] := List.splitOn_eq_singleton h

theorem lines_ne_nil (t : Text) : t.lines ≠ [] := List.splitOn_ne_nil '\n' t

/-- The lines of a text have no newline in them. -/
theorem newline_not_mem_of_mem_lines {t l : Text} (h : l ∈ t.lines) : '\n' ∉ l := by
  induction t generalizing l with
  | nil =>
    rw [List.mem_singleton.1 h]
    exact List.not_mem_nil
  | cons c t ih =>
    by_cases hc : c = '\n'
    · subst hc
      rw [lines_cons_newline] at h
      rcases List.mem_cons.1 h with rfl | h
      · exact List.not_mem_nil
      · exact ih h
    · obtain ⟨first, rest, hlines⟩ := List.exists_cons_of_ne_nil (lines_ne_nil t)
      rw [lines_cons c t hc, hlines, List.modifyHead_cons] at h
      rw [hlines] at ih
      rcases List.mem_cons.1 h with rfl | h
      · rw [List.mem_cons, not_or]
        exact ⟨Ne.symm hc, ih List.mem_cons_self⟩
      · exact ih (List.mem_cons_of_mem _ h)

/-- Lines, each ended by a newline, are the lines under each other with a newline behind them. -/
theorem flatMap_newline {ls : List Text} (h : ls ≠ []) : ls.flatMap (· ++ ['\n']) = unlines ls ++ ['\n'] := by
  induction ls with
  | nil => exact absurd rfl h
  | cons l ls ih =>
    cases ls with
    | nil => simp [unlines]
    | cons l' ls =>
      rw [List.flatMap_cons, ih (List.cons_ne_nil _ _), unlines, unlines, List.intercalate_cons_cons]
      simp

/-- The lines of a text, each ended by a newline, are the text with a newline behind it. -/
theorem flatMap_lines (t : Text) : t.lines.flatMap (· ++ ['\n']) = t ++ ['\n'] := by
  rw [flatMap_newline (lines_ne_nil t), unlines_lines]

/-- What is written behind lines that are each ended by a newline adds its own lines. -/
theorem lines_flatMap_newline_append {ls : List Text} (h : ∀ l ∈ ls, '\n' ∉ l) (rest : Text) :
    lines (ls.flatMap (· ++ ['\n']) ++ rest) = ls ++ lines rest := by
  induction ls with
  | nil => rfl
  | cons l ls ih =>
    obtain ⟨hl, hls⟩ := List.forall_mem_cons.1 h
    rw [List.flatMap_cons, List.append_assoc, List.append_assoc, List.singleton_append, lines_append_newline,
      lines_of_not_mem hl, ih hls]
    rfl

end Text

open Run (Ensures)
open Text (IsWhole)

/-! ## The parts of a heading -/

theorem isWhole_closeText (t : Text) : (closeText t).IsWhole := by
  unfold closeText
  split
  · rename_i h
    rcases Bool.or_eq_true_iff.1 h with h | h
    · exact Or.inl (List.isEmpty_iff.1 h)
    · exact Or.inr h
  · exact Text.isWhole_concat t

theorem isWhole_bodyText {v : Json} {t : Text} (h : bodyText v = .ok t) : t.IsWhole := by
  unfold bodyText at h
  split at h
  · obtain rfl := Except.ok.inj h
    exact isWhole_closeText _
  · split at h <;> nomatch h

theorem isWhole_planningLine (indentation : Text) (entries : List Text) : (planningLine indentation entries).IsWhole := by
  unfold planningLine
  split
  · exact Text.isWhole_nil
  · exact Text.isWhole_concat _

theorem ensures_writePlanning_isWhole (s : Setup) (indentation : Text) (entries : List PlanningEntry) :
    Ensures IsWhole (writePlanning s indentation entries) :=
  (Ensures.trivial _).bind fun _ _ => (Ensures.trivial _).bind fun texts _ =>
    Ensures.pure (isWhole_planningLine indentation texts)

theorem Drawer.isWhole_properties (indentation : Text) (entries : List Text) : (properties indentation entries).IsWhole := by
  unfold properties
  split
  · exact Text.isWhole_nil
  · exact Text.isWhole_concat _

theorem Drawer.isWhole_logbook (indentation : Text) (lines : List Text) : (logbook indentation lines).IsWhole := by
  unfold logbook
  split
  · exact Text.isWhole_nil
  · exact Text.isWhole_concat _

theorem Heading.isWhole_openingText {h : Heading} {withLine : Bool} {t : Text} (ht : h.openingText withLine = .ok t) :
    t.IsWhole := by
  cases withLine with
  | false =>
    obtain rfl : [] = t := Except.ok.inj ht
    exact Text.isWhole_nil
  | true =>
    obtain ⟨line, -, rfl⟩ := map_eq_ok.1 ht
    exact Text.isWhole_concat line

/-- A heading is written in whole lines. -/
theorem Heading.ensures_write_isWhole (s : Setup) (withLine : Bool) (flush : Json) (h : Heading) :
    Ensures IsWhole (h.write s withLine flush) := by
  refine (Ensures.trivial _).bind fun indentation _ => ?_
  refine (Ensures.ofExcept fun _ => isWhole_openingText).bind fun opening hopening => ?_
  refine (ensures_writePlanning_isWhole s indentation h.planning).bind fun planning hplanning => ?_
  refine (Ensures.trivial _).bind fun properties _ => (Ensures.trivial _).bind fun logbook _ => ?_
  refine (Ensures.ofExcept fun _ => isWhole_bodyText).bind fun body hbody => Ensures.pure ?_
  have hproperties := Drawer.isWhole_properties (if drawersFlush s flush then [] else indentation) properties
  have hlogbook := Drawer.isWhole_logbook (if drawersFlush s flush then [] else indentation) logbook
  exact (((hopening.append hplanning).append hproperties).append hlogbook).append hbody

/-! ## The preamble -/

namespace Document

theorem isWhole_preamble {d : Document} {t : Text} (h : d.preamble = .ok t) : t.IsWhole := by
  obtain ⟨config, -, h⟩ := bind_eq_ok.1 h
  obtain ⟨keywords, -, h⟩ := bind_eq_ok.1 h
  obtain ⟨first, -, h⟩ := bind_eq_ok.1 h
  obtain rfl := Except.ok.inj h
  split
  · exact Text.isWhole_nil
  · exact Text.isWhole_concat _

end Document
end OrgOutline
