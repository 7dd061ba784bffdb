import Mathlib.Data.List.Forall2
import OrgOutline.Export
import OrgOutline.Proofs.WholeLines

/-!
# Reading the outline back

The outline of a text is the text cut in front of each line of stars and a space (`Text.cutAtHeadings`). Main statement: the
outline of an exported document is the document, what stands before the first heading and then the text of every heading in
order, as long as no title is broken over lines and nothing below a heading looks like one (`Document.cutAtHeadings_export`).
-/

namespace OrgOutline

/-! ## Outlines -/

/-- A line of one or more stars, a space and anything. -/
def isHeadingLine : Text → Bool
  | '*' :: rest => (rest.dropWhile (· == '*')).head? == some ' '
  | _ => false

theorem isHeadingLine_iff {l : Text} :
    isHeadingLine l = true ↔ ∃ n rest, 0 < n ∧ l = List.replicate n '*' ++ ' ' :: rest := by
  constructor
  · intro h
    unfold isHeadingLine at h
    split at h
    · rename_i rest
      obtain ⟨tail, htail⟩ := List.head?_eq_some_iff.1 (beq_iff_eq.1 h)
      have hstars : rest.takeWhile (· == '*') = List.replicate (rest.takeWhile (· == '*')).length '*' :=
        List.eq_replicate_of_mem fun c hc => beq_iff_eq.1 (List.all_eq_true.1 List.all_takeWhile c hc)
      refine ⟨(rest.takeWhile (· == '*')).length + 1, tail, Nat.succ_pos _, ?_⟩
      rw [List.replicate_succ, ← hstars, List.cons_append, ← htail, List.takeWhile_append_dropWhile]
    · nomatch h
  · rintro ⟨n, rest, hn, rfl⟩
    obtain ⟨m, rfl⟩ := Nat.exists_eq_add_of_lt hn
    have hstars : ∀ c ∈ List.replicate m '*', (c == '*') = true := by
      intro c hc
      rw [List.eq_of_mem_replicate hc]
      rfl
    rw [Nat.zero_add, List.replicate_succ, List.cons_append, isHeadingLine, List.dropWhile_append_of_pos hstars]
    rfl

/-- A line in front of a text that is cut. A heading line starts a piece, and any other line joins what comes first. -/
def addLine (line ending : Text) (cut : Text × List Text) : Text × List Text :=
  if isHeadingLine line then ([], (line ++ ending ++ cut.1) :: cut.2) else (line ++ ending ++ cut.1, cut.2)

/-- Lines cut in front of each heading line: the text of those before the first one, and the texts from each to the next. -/
def cutLines : List Text → Text × List Text
  | [] => ([], [])
  | [l] => addLine l [] ([], [])
  | l :: ls => addLine l ['\n'] (cutLines ls)

theorem cutLines_cons (l : Text) {ls : List Text} (h : ls ≠ []) : cutLines (l :: ls) = addLine l ['\n'] (cutLines ls) := by
  cases ls with
  | nil => exact absurd rfl h
  | cons l' ls => rfl

theorem addLine_fst_append (line ending : Text) (cut : Text × List Text) :
    (addLine line ending cut).1 ++ (addLine line ending cut).2.flatten = line ++ ending ++ (cut.1 ++ cut.2.flatten) := by
  unfold addLine
  split <;> simp

theorem cutLines_fst_append (ls : List Text) : (cutLines ls).1 ++ (cutLines ls).2.flatten = Text.unlines ls := by
  induction ls using cutLines.induct with
  | case1 => rfl
  | case2 l =>
    rw [cutLines, addLine_fst_append]
    simp [Text.unlines]
  | case3 l ls hls ih =>
    rw [cutLines_cons l hls, addLine_fst_append, ih, Text.unlines, Text.unlines, List.intercalate_cons_of_ne_nil hls]

theorem length_cutLines (ls : List Text) : (cutLines ls).2.length = ls.countP isHeadingLine := by
  have hadd : ∀ (l ending : Text) (cut : Text × List Text),
      (addLine l ending cut).2.length = cut.2.length + if isHeadingLine l then 1 else 0 := by
    intro l ending cut
    unfold addLine
    split <;> rfl
  induction ls using cutLines.induct with
  | case1 => rfl
  | case2 l =>
    rw [cutLines, hadd, List.countP_cons]
    rfl
  | case3 l ls hls ih => rw [cutLines_cons l hls, hadd, ih, List.countP_cons]

/-- Lines that are no heading lines join what comes first. -/
theorem cutLines_append {ls rest : List Text} (hls : ∀ l ∈ ls, isHeadingLine l = false) (hrest : rest ≠ []) :
    cutLines (ls ++ rest) = ((ls.flatMap (· ++ ['\n'])) ++ (cutLines rest).1, (cutLines rest).2) := by
  induction ls with
  | nil => rfl
  | cons l ls ih =>
    obtain ⟨hl, hls⟩ := List.forall_mem_cons.1 hls
    rw [List.cons_append, cutLines_cons l (by simp [hrest]), ih hls, addLine, if_neg (by simp [hl])]
    simp

namespace Text

/-- A text cut in front of each of its heading lines. -/
def cutAtHeadings (t : Text) : Text × List Text := cutLines t.lines

/-- A text without a heading line. -/
def HasNoHeading (t : Text) : Prop := ∀ l ∈ t.lines, isHeadingLine l = false

instance (t : Text) : Decidable t.HasNoHeading := inferInstanceAs (Decidable (∀ l ∈ t.lines, isHeadingLine l = false))

/-- Cutting a text loses nothing of it. -/
theorem cutAtHeadings_fst_append (t : Text) : t.cutAtHeadings.1 ++ t.cutAtHeadings.2.flatten = t :=
  (cutLines_fst_append t.lines).trans (unlines_lines t)

/-- A text is cut as often as it has heading lines. -/
theorem length_cutAtHeadings (t : Text) : t.cutAtHeadings.2.length = t.lines.countP isHeadingLine :=
  length_cutLines t.lines

/-- Whole lines without a heading line join what comes first. -/
theorem cutAtHeadings_append {a : Text} (ha : a.IsWhole) (h : a.HasNoHeading) (b : Text) :
    (a ++ b).cutAtHeadings = (a ++ b.cutAtHeadings.1, b.cutAtHeadings.2) := by
  rcases ha with rfl | ha
  · rfl
  · obtain ⟨body, rfl⟩ := isClosed_iff.1 ha
    have hbody : ∀ l ∈ body.lines, isHeadingLine l = false := by
      intro l hl
      exact h l (by simp [lines_append_newline, hl])
    rw [cutAtHeadings, List.append_assoc, List.singleton_append, lines_append_newline,
      cutLines_append hbody (lines_ne_nil b), flatMap_lines, cutAtHeadings]

/-- A heading line starts a piece. -/
theorem cutAtHeadings_heading {line : Text} (hline : '\n' ∉ line) (h : isHeadingLine line = true) (b : Text) :
    (line ++ '\n' :: b).cutAtHeadings = ([], (line ++ '\n' :: b.cutAtHeadings.1) :: b.cutAtHeadings.2) := by
  rw [cutAtHeadings, lines_append_newline, lines_of_not_mem hline, List.singleton_append, cutLines_cons _ (lines_ne_nil b),
    addLine, if_pos h, cutAtHeadings]
  simp

end Text

/-! ## The line of a heading -/

/-- A title of which nothing is broken over lines. -/
structure Title.IsOneLine (t : Title) : Prop where
  keyword : '\n' ∉ t.keyword.shown
  text : '\n' ∉ t.text.shown
  tags : ∀ tag ∈ t.tags, '\n' ∉ tag.shown

theorem Title.newline_not_mem_keywordText {t : Title} (h : t.IsOneLine) : '\n' ∉ t.keywordText := by
  unfold keywordText
  split
  · simp [h.keyword]
  · exact List.not_mem_nil

theorem Title.newline_not_mem_tagText {t : Title} (h : t.IsOneLine) {text : Text} (ht : t.tagText = .ok text) :
    '\n' ∉ text := by
  unfold tagText at ht
  split at ht
  · obtain rfl := Except.ok.inj ht
    exact List.not_mem_nil
  · obtain ⟨tags, htags, rfl⟩ := map_eq_ok.1 ht
    unfold Json.join at htags
    split at htags
    · obtain rfl := Except.ok.inj htags
      have hvisible : ∀ l ∈ t.visibleTags.map Json.shown, '\n' ∉ l := by
        intro l hl
        obtain ⟨tag, htag, rfl⟩ := List.mem_map.1 hl
        exact h.tags tag (List.mem_filter.1 htag).1
      have hjoined : '\n' ∉ [':'].intercalate (t.visibleTags.map Json.shown) := not_mem_intercalate (by decide) hvisible
      simp [hjoined]
    · nomatch htags

/-- The text of a title is keyword, title and tags. -/
theorem Title.spacedText_eq_ok {t : Title} {text : Text} (h : t.spacedText = .ok text) :
    ∃ tags, t.tagText = .ok tags ∧ text = t.keywordText ++ ' ' :: t.text.shown ++ tags := by
  obtain ⟨-, -, h⟩ := bind_eq_ok.1 h
  obtain ⟨tags, htags, h⟩ := bind_eq_ok.1 h
  exact ⟨tags, htags, (Except.ok.inj h).symm⟩

/-- The text of a title starts with a space. -/
theorem Title.spacedText_eq {t : Title} {text : Text} (h : t.spacedText = .ok text) : text = ' ' :: text.drop 1 := by
  obtain ⟨tags, -, rfl⟩ := spacedText_eq_ok h
  unfold keywordText
  split <;> rfl

theorem Title.newline_not_mem_spacedText {t : Title} (h : t.IsOneLine) {text : Text} (ht : t.spacedText = .ok text) :
    '\n' ∉ text := by
  obtain ⟨tags, htags, rfl⟩ := spacedText_eq_ok ht
  simp [newline_not_mem_keywordText h, h.text, newline_not_mem_tagText h htags]

theorem Json.toCount_eq_ok {v : Json} {k : Nat} (h : v.toCount = .ok k) : ∃ n, v.asInt? = some n ∧ k = n.toNat := by
  unfold toCount at h
  split at h
  · rename_i n hn
    split at h
    · nomatch h
    · exact ⟨n, hn, (Except.ok.inj h).symm⟩
  · nomatch h

/-- A level that passes its check is positive. -/
theorem pos_of_checkLevel {v : Json} {n : Int} (h : checkLevel v = pure ()) (hn : v.asInt? = some n) : 0 < n := by
  by_contra hpos
  have hlow : checkLevel v = .refuse (.invalid (.headingLevel v)) := by
    cases v with
    | float x => nomatch hn
    | _ => simp [checkLevel, hn, show n < 1 by omega]
  rw [hlow] at h
  nomatch h

namespace Heading

/-- The indentation of a heading is one space more than its level says. -/
theorem indentation_eq_ok {h : Heading} {n : Int} (hn : h.level.asInt? = some n) {t : Text} (ht : h.indentation = .ok t) :
    t = Text.spaces (n + 1).toNat := by
  rw [indentation, hn] at ht
  obtain ⟨count, hcount, rfl⟩ := map_eq_ok.1 ht
  obtain ⟨m, hm, rfl⟩ := Json.toCount_eq_ok hcount
  rw [Option.some.inj hm]

/-- The line of a heading is as many stars as its level says, a space, and its line without the two. -/
theorem line_eq_ok {h : Heading} {line : Text} (hl : h.line = .ok line) :
    ∃ n rest, h.level.asInt? = some n ∧ h.bareLine = .ok rest ∧ line = List.replicate n.toNat '*' ++ ' ' :: rest := by
  obtain ⟨stars, hstars, hl⟩ := bind_eq_ok.1 hl
  obtain ⟨text, htext, hl⟩ := bind_eq_ok.1 hl
  obtain ⟨k, hk, rfl⟩ := map_eq_ok.1 hstars
  obtain ⟨n, hn, rfl⟩ := Json.toCount_eq_ok hk
  refine ⟨n, text.drop 1, hn, by rw [bareLine, htext]; rfl, ?_⟩
  rw [← Title.spacedText_eq htext]
  exact (Except.ok.inj hl).symm

/-- A heading is written exactly if its parts can be, and then as its parts one after another. -/
theorem outcome_write_eq_ok_iff {s : Setup} {withLine : Bool} {flush : Json} {h : Heading} {text : Text} :
    (h.write s withLine flush).outcome = .ok text ↔
      ∃ indentation opening planning properties logbook body, h.indentation = .ok indentation ∧
        let drawerIndentation := if drawersFlush s flush then [] else indentation
        h.openingText withLine = .ok opening ∧ (writePlanning s indentation h.planning).outcome = .ok planning ∧
          (writeProperties s h.properties).outcome = .ok properties ∧
          (writeLogbook s drawerIndentation h.logbook).outcome = .ok logbook ∧ bodyText h.body = .ok body ∧
          text = opening ++ planning ++ Drawer.properties drawerIndentation properties ++
            Drawer.logbook drawerIndentation logbook ++ body := by
  simp only [write, Run.outcome_bind_eq_ok, Run.outcome_ofExcept, Run.outcome_pure, Except.ok.injEq]
  constructor
  · rintro ⟨indentation, hi, opening, ho, planning, hp, properties, hps, logbook, hl, body, hb, rfl⟩
    exact ⟨indentation, opening, planning, properties, logbook, body, hi, ho, hp, hps, hl, hb, rfl⟩
  · rintro ⟨indentation, opening, planning, properties, logbook, body, hi, ho, hp, hps, hl, hb, rfl⟩
    exact ⟨indentation, hi, opening, ho, planning, hp, properties, hps, logbook, hl, body, hb, rfl⟩

/-- A heading with its line is the line and then the heading without it. -/
theorem write_eq_ok {s : Setup} {flush : Json} {h : Heading} {text : Text} (ht : (h.write s true flush).outcome = .ok text) :
    ∃ line body, h.line = .ok line ∧ (h.write s false flush).outcome = .ok body ∧ text = line ++ '\n' :: body := by
  obtain ⟨indentation, opening, planning, properties, logbook, body, hindentation, hopening, hplanning, hproperties, hlogbook,
    hbody, rfl⟩ := outcome_write_eq_ok_iff.1 ht
  obtain ⟨line, hline, rfl⟩ := map_eq_ok.1 hopening
  have hbelow := outcome_write_eq_ok_iff.2 ⟨indentation, [], planning, properties, logbook, body, hindentation,
    (rfl : h.openingText false = .ok []), hplanning, hproperties, hlogbook, hbody, rfl⟩
  refine ⟨line, _, hline, hbelow, ?_⟩
  simp only [List.append_assoc, List.nil_append, List.cons_append]

/-- The text of a heading with what stands below it: as many stars as its level says, a space and its line without the two. -/
def IsChunk (h : Heading) (below : Except Fault Text) (chunk : Text) : Prop :=
  ∃ n line body, h.level.asInt? = some n ∧ (Record.heading h).headingLine false = .ok line ∧ below = .ok body ∧
    chunk = List.replicate n.toNat '*' ++ ' ' :: line ++ '\n' :: body

/-- A heading in front of a text that starts with a heading line, or is empty, is a piece of its own. -/
theorem cutAtHeadings_write {s : Setup} {h : Heading} {text : Text} (ht : (h.write s true .null).outcome = .ok text)
    (level : checkLevel h.level = pure ()) (title : h.title.IsOneLine)
    (below : ∀ body, (h.write s false .null).outcome = .ok body → body.HasNoHeading) {rest : Text}
    (hrest : rest.cutAtHeadings.1 = []) : h.IsChunk (h.write s false .null).outcome text ∧
      (text ++ rest).cutAtHeadings = ([], text :: rest.cutAtHeadings.2) := by
  obtain ⟨line, body, hline, hbody, rfl⟩ := write_eq_ok ht
  obtain ⟨n, bare, hn, hbare, rfl⟩ := line_eq_ok hline
  have hpos : 0 < n.toNat := Int.lt_toNat.2 (pos_of_checkLevel level hn)
  have hnewline : '\n' ∉ List.replicate n.toNat '*' ++ ' ' :: bare := by
    obtain ⟨spaced, hspaced, rfl⟩ := map_eq_ok.1 hbare
    rw [← Title.spacedText_eq hspaced]
    simp [Title.newline_not_mem_spacedText title hspaced]
  have hheading : isHeadingLine (List.replicate n.toNat '*' ++ ' ' :: bare) = true :=
    isHeadingLine_iff.2 ⟨n.toNat, bare, hpos, rfl⟩
  refine ⟨⟨n, bare, body, hn, hbare, hbody, rfl⟩, ?_⟩
  have hwhole : body.IsWhole := ensures_write_isWhole s false .null h body hbody
  rw [List.append_assoc, List.cons_append, Text.cutAtHeadings_heading hnewline hheading,
    Text.cutAtHeadings_append hwhole (below body hbody), hrest, List.append_nil]

end Heading

/-- Headings one after another are cut into the headings. -/
theorem cutAtHeadings_writeHeadings {s : Setup} {hs : List Heading} {text : Text}
    (ht : (writeHeadings s hs).outcome = .ok text) (levels : ∀ h ∈ hs, checkLevel h.level = pure ())
    (titles : ∀ h ∈ hs, h.title.IsOneLine)
    (below : ∀ h ∈ hs, ∀ body, (h.write s false .null).outcome = .ok body → body.HasNoHeading) :
    text.cutAtHeadings.1 = [] ∧
      List.Forall₂ (fun h chunk => h.IsChunk (h.write s false .null).outcome chunk) hs text.cutAtHeadings.2 := by
  induction hs generalizing text with
  | nil =>
    obtain rfl : [] = text := Except.ok.inj ht
    exact ⟨rfl, List.Forall₂.nil⟩
  | cons h hs ih =>
    obtain ⟨level, levels⟩ := List.forall_mem_cons.1 levels
    obtain ⟨title, titles⟩ := List.forall_mem_cons.1 titles
    obtain ⟨hbelow, below⟩ := List.forall_mem_cons.1 below
    obtain ⟨first, hfirst, ht⟩ := Run.outcome_bind_eq_ok.1 ht
    obtain ⟨rest, hrest, ht⟩ := Run.outcome_bind_eq_ok.1 ht
    obtain rfl : first ++ rest = text := Except.ok.inj ht
    obtain ⟨hnil, hchunks⟩ := ih hrest levels titles below
    obtain ⟨hchunk, hcut⟩ := h.cutAtHeadings_write hfirst level title hbelow hnil
    rw [hcut]
    exact ⟨rfl, hchunks.cons hchunk⟩

/-- A heading on its own is exported as it is written in a document. -/
theorem Record.outcome_exportHeading {c : Collaborators} {options : Option OptionSet} {s : Setup}
    (hs : (c.setup .document options).outcome = .ok s) (withLine : Bool) (flush : Json) (h : Heading) :
    ((Record.heading h).exportHeading c options withLine flush).outcome = (h.write s withLine flush).outcome := by
  cases options with
  | none =>
    obtain rfl := Except.ok.inj hs
    rfl
  | some o =>
    cases o with
    | own o =>
      obtain rfl := Except.ok.inj hs
      rfl
    | common f => nomatch hs

namespace Document

/-- An exported document whose levels keep the rules of the model is cut at its heading lines into what stands before the first
heading and the text of every heading in order, if no title is broken over lines and neither the former nor anything below a
heading has a heading line. -/
theorem cutAtHeadings_export (c : Collaborators) (options : Option OptionSet) (d : Document) (text : Text)
    (exported : (d.export c options).outcome = .ok text) (levels : ∀ h ∈ d.headings, checkLevel h.level = pure ())
    (titles : ∀ h ∈ d.headings, h.title.IsOneLine) (before : ∀ first, d.preamble = .ok first → first.HasNoHeading)
    (below : ∀ h ∈ d.headings, ∀ body, ((Record.heading h).exportHeading c options false .null).outcome = .ok body →
      body.HasNoHeading) :
    d.preamble = .ok text.cutAtHeadings.1 ∧
      List.Forall₂ (fun h chunk => h.IsChunk ((Record.heading h).exportHeading c options false .null).outcome chunk)
        d.headings text.cutAtHeadings.2 := by
  obtain ⟨s, hs, hw⟩ := Run.outcome_bind_eq_ok.1 exported
  simp only [Record.outcome_exportHeading hs] at below ⊢
  obtain ⟨-, -, hw⟩ := Run.outcome_bind_eq_ok.1 hw
  obtain ⟨first, hfirst, hw⟩ := Run.outcome_bind_eq_ok.1 hw
  obtain ⟨rest, hrest, hw⟩ := Run.outcome_bind_eq_ok.1 hw
  obtain rfl : first ++ rest = text := Except.ok.inj hw
  obtain ⟨hnil, hchunks⟩ := cutAtHeadings_writeHeadings hrest levels titles below
  rw [Text.cutAtHeadings_append (isWhole_preamble hfirst) (before first hfirst), hnil, List.append_nil]
  exact ⟨hfirst, hchunks⟩

/-- A document with a line before its two headings, in the first of which lines start with a star and with a space. -/
def starredDocument : Document where
  headings := [
    { level := .int 1, title := { keyword := .str "TODO", text := .str "Plan", tags := [.str "home"] },
      planning := [], properties := [], logbook := [], body := .str "*Soon* or\n * later", description := [] },
    { level := .int 2, title := { text := .str "Next" },
      planning := [], properties := [], logbook := [], body := .str "", description := [] }]
  keywordSets := []
  configLines := []
  firstLines := [.str "Plans"]

/-- The text of that document. -/
def starredText : Text := "Plans\n* TODO Plan:home:\n*Soon* or\n * later\n** Next\n".toList

/-- The lines of the first body start no piece. -/
theorem cutAtHeadings_export_starred : (starredDocument.export {} none).outcome = .ok starredText ∧
    (∀ h ∈ starredDocument.headings, checkLevel h.level = pure ()) ∧
    (∀ h ∈ starredDocument.headings, h.title.IsOneLine) ∧
    (∀ first, starredDocument.preamble = .ok first → first.HasNoHeading) ∧
    (∀ h ∈ starredDocument.headings, ∀ body,
      ((Record.heading h).exportHeading {} none false .null).outcome = .ok body → body.HasNoHeading) ∧
    starredDocument.preamble = .ok starredText.cutAtHeadings.1 ∧
    List.Forall₂ (fun h chunk => h.IsChunk ((Record.heading h).exportHeading {} none false .null).outcome chunk)
      starredDocument.headings starredText.cutAtHeadings.2 := by
  have exported : (starredDocument.export {} none).outcome = .ok starredText := rfl
  have levels : ∀ h ∈ starredDocument.headings, checkLevel h.level = pure () := by
    simp [starredDocument, checkLevel, Json.asInt?]
  have titles : ∀ h ∈ starredDocument.headings, h.title.IsOneLine := by
    simp only [starredDocument, List.forall_mem_cons]
    exact ⟨⟨by decide, by decide, by decide⟩, ⟨by decide, by decide, by decide⟩, List.forall_mem_nil _⟩
  have before : ∀ first, starredDocument.preamble = .ok first → first.HasNoHeading := by
    intro first hfirst
    obtain rfl : "Plans\n".toList = first := Except.ok.inj hfirst
    decide
  have below : ∀ h ∈ starredDocument.headings, ∀ body,
      ((Record.heading h).exportHeading {} none false .null).outcome = .ok body → body.HasNoHeading := by
    simp only [starredDocument, List.forall_mem_cons]
    refine ⟨?_, ?_, List.forall_mem_nil _⟩
    · intro body hbody
      obtain rfl : "*Soon* or\n * later\n".toList = body := Except.ok.inj hbody
      decide
    · intro body hbody
      obtain rfl : [] = body := Except.ok.inj hbody
      decide
  exact ⟨exported, levels, titles, before, below,
    cutAtHeadings_export {} none starredDocument starredText exported levels titles before below⟩

end Document
end OrgOutline
