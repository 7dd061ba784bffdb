import OrgOutline.Proofs.HeadingLines
import OrgOutline.Proofs.Reports
import OrgOutline.Proofs.SideBySide
import OrgOutline.Proofs.TrimmedLines
import OrgOutline.Proofs.Typed
import OrgOutline.Proofs.Words

/-!
# Drawers at the left edge

Drawers that are written without indentation can gain heading lines, which they do not have otherwise (`GainsHeadings`). A drawer
for properties gains none, because each of its entries starts with a colon. The logbook can: a line that is kept as it is stands
at the left edge then, and nothing is put in front of one that starts with stars and a space. Main statement: the two exports of
a document have the same heading lines exactly when none of its logbooks, written at the left edge, has a heading line
(`Document.headingLines_flush_iff`), and a line of a logbook can become a heading (`Document.headingLines_flush_starred`).
-/

namespace OrgOutline

open Run (Related)
open Text (GainsHeadings)

/-! ## The drawers -/

/-- The entries of the properties start with a colon, so indenting them makes no difference to the heading lines. -/
theorem gainsHeadings_properties (k : Nat) {entries : List Text} (h : ∀ e ∈ entries, ∃ rest, e = ':' :: rest) :
    GainsHeadings True (Drawer.properties [] entries) (Drawer.properties (Text.spaces k) entries) := by
  have hline : ∀ l ∈ Drawer.propertiesMark :: entries ++ [Drawer.endMark], ∃ rest, l = ':' :: rest := by
    intro l hl
    rcases List.mem_append.1 hl with hl | hl
    · rcases List.mem_cons.1 hl with rfl | hl
      · exact ⟨_, rfl⟩
      · exact h l hl
    · exact ⟨_, List.mem_singleton.1 hl⟩
  have hsame : (Drawer.properties (Text.spaces k) entries).headingLines = (Drawer.properties [] entries).headingLines := by
    unfold Drawer.properties
    split
    · rfl
    · rw [Text.headingLines_concat_newline, Text.headingLines_concat_newline, Text.headingLines_unlines,
        Text.headingLines_unlines, List.flatMap_map, List.flatMap_map, List.flatMap_def, List.flatMap_def]
      refine congrArg List.flatten (List.map_congr_left ?_)
      intro l hl
      obtain ⟨rest, rfl⟩ := hline l hl
      exact Text.headingLines_spaces_append k (by decide) (by decide) rest
  exact ⟨Drawer.isWhole_properties _ _, Drawer.isWhole_properties _ _, hsame ▸ List.Sublist.refl _,
    iff_true_intro hsame.symm⟩

/-- The heading lines of a logbook stand between its first line and its last one. -/
theorem headingLines_logbook (k : Nat) (lines : List Text) :
    (Drawer.logbook (Text.spaces k) lines).headingLines = (Text.unlines lines).trimEnd.headingLines := by
  unfold Drawer.logbook
  split
  · rename_i hempty
    rw [List.isEmpty_iff.1 hempty]
    rfl
  · have hmark : ∀ mark : Text, mark.headingLines = [] → mark.head? = some ':' →
        (Text.spaces k ++ mark).headingLines = [] := by
      intro mark hnone hhead
      obtain ⟨rest, rfl⟩ := List.head?_eq_some_iff.1 hhead
      rw [Text.headingLines_spaces_append k (by decide) (by decide), hnone]
    have hfirst := hmark Drawer.logbookMark rfl rfl
    have hlast := hmark Drawer.endMark rfl rfl
    have hparts : Text.spaces k ++ Drawer.logbookMark ++
        '\n' :: (Text.unlines lines).trimEnd ++ '\n' :: Text.spaces k ++ Drawer.endMark ++ ['\n'] =
        (Text.spaces k ++ Drawer.logbookMark) ++ '\n' :: ((Text.unlines lines).trimEnd ++ '\n' ::
          ((Text.spaces k ++ Drawer.endMark) ++ ['\n'])) := by
      simp only [List.append_assoc, List.cons_append]
    rw [hparts, Text.headingLines_append_newline, Text.headingLines_append_newline, Text.headingLines_concat_newline,
      hfirst, hlast, List.nil_append, List.append_nil]

/-- The same line of a logbook, at the left edge and indented. -/
def IsIndentedLine (indentation line line' : Text) : Prop :=
  '\n' ∉ line ∧ (line' = indentation ++ line ∨ line = [] ∧ line' = [])

/-- A logbook at the left edge gains the heading lines that it has there. -/
theorem gainsHeadings_logbook (k : Nat) {lines lines' : List Text}
    (h : List.Forall₂ (IsIndentedLine (Text.spaces (k + 1))) lines lines') :
    GainsHeadings (Text.unlines lines).trimEnd.HasNoHeading (Drawer.logbook [] lines)
      (Drawer.logbook (Text.spaces (k + 1)) lines') := by
  have hnone : (Drawer.logbook (Text.spaces (k + 1)) lines').headingLines = [] := by
    have hline : ∀ l ∈ lines', '\n' ∉ l ∧ (l = [] ∨ ∃ rest, l = ' ' :: rest) := by
      intro l hl
      induction h with
      | nil => exact absurd hl List.not_mem_nil
      | cons hx _ ih =>
        rcases List.mem_cons.1 hl with rfl | hl
        · obtain ⟨hnewline, rfl | ⟨-, rfl⟩⟩ := hx
          · exact ⟨by simp [Text.spaces, hnewline], Or.inr ⟨_, rfl⟩⟩
          · exact ⟨List.not_mem_nil, Or.inl rfl⟩
        · exact ih hl
    rw [headingLines_logbook]
    exact (Text.isIndented_unlines (fun l hl => (hline l hl).1) fun l hl => (hline l hl).2).trimEnd.headingLines_eq_nil
  have hflush : (Drawer.logbook [] lines).headingLines = (Text.unlines lines).trimEnd.headingLines :=
    headingLines_logbook 0 lines
  refine ⟨Drawer.isWhole_logbook _ _, Drawer.isWhole_logbook _ _, ?_, ?_⟩
  · rw [hnone]
    exact List.nil_sublist _
  · rw [hnone, hflush, Text.headingLines_eq_nil_iff]

/-! ## Headings -/

/-- A line of a logbook that is not broken when it is written. -/
def LogEntry.IsOneLine (s : Setup) : LogEntry → Prop
  | .line text => '\n' ∉ text.shown
  | .clock start stop => ∀ t ∈ start :: stop.toList, ∀ text, s.timestampText t = .ok text → '\n' ∉ text

/-- The logbook of a heading between its marks, written at the left edge. -/
def Heading.flushLogbook (s : Setup) (h : Heading) : Except Fault Text :=
  (writeLogbook s [] h.logbook).outcome.map fun lines => (Text.unlines lines).trimEnd

/-- The logbook of a heading has no heading line where it is written at the left edge. -/
def Heading.LogbookHasNoHeading (s : Setup) (h : Heading) : Prop :=
  ∀ block, h.flushLogbook s = .ok block → block.HasNoHeading

variable {s : Setup}

theorem isIndentedLine_append {line : Text} (h : '\n' ∉ line) (indentation : Text) :
    IsIndentedLine indentation ([] ++ line) (indentation ++ line) := ⟨h, Or.inl rfl⟩

theorem Drawer.newline_not_mem_runningClock {start : Text} (h : '\n' ∉ start) : '\n' ∉ runningClock start :=
  List.not_mem_append (by decide) h

theorem Drawer.newline_not_mem_endedClock {start stop duration : Text} (h : '\n' ∉ start) (h' : '\n' ∉ stop)
    (h'' : '\n' ∉ duration) : '\n' ∉ endedClock start stop duration := by
  have hclock : '\n' ∉ runningClock start := newline_not_mem_runningClock h
  exact List.not_mem_append (List.not_mem_append (List.not_mem_append (List.not_mem_append hclock (by decide)) h')
    (by decide)) h''

theorem related_writeLogEntry (hd : ∀ a b text, s.durationText a b = .ok text → '\n' ∉ text) {e : LogEntry}
    (he : e.IsOneLine s) (indentation : Text) :
    Related (IsIndentedLine indentation) (writeLogEntry s [] e) (writeLogEntry s indentation e) := by
  cases e with
  | line text =>
    rw [writeLogEntry, writeLogEntry]
    refine Related.bind_self _ fun _ _ => ?_
    split
    · exact Related.pure (isIndentedLine_append he indentation)
    · exact Related.pure ⟨List.not_mem_nil, Or.inr ⟨rfl, rfl⟩⟩
  | clock start stop =>
    have hstart : ∀ t, s.timestampText start = .ok t → '\n' ∉ t := he start List.mem_cons_self
    cases stop with
    | none =>
      rw [writeLogEntry, writeLogEntry]
      refine Related.bind_self _ fun t ht => Related.pure ?_
      exact isIndentedLine_append (Drawer.newline_not_mem_runningClock (hstart t ht)) indentation
    | some stop =>
      have hstop : ∀ t, s.timestampText stop = .ok t → '\n' ∉ t := he stop (List.mem_cons_of_mem _ List.mem_cons_self)
      rw [writeLogEntry, writeLogEntry]
      refine Related.bind_self _ fun t ht => Related.bind_self _ fun u hu => Related.bind_self _ fun v hv => Related.pure ?_
      have hclock := Drawer.newline_not_mem_endedClock (hstart t ht) (hstop u hu) (hd start stop v hv)
      exact isIndentedLine_append hclock indentation

theorem related_writeLogbook (hd : ∀ a b text, s.durationText a b = .ok text → '\n' ∉ text) {es : List LogEntry}
    (hes : ∀ e ∈ es, e.IsOneLine s) (indentation : Text) :
    Related (List.Forall₂ (IsIndentedLine indentation)) (writeLogbook s [] es) (writeLogbook s indentation es) := by
  induction es with
  | nil => exact Related.pure List.Forall₂.nil
  | cons e es ih =>
    obtain ⟨he, hes⟩ := List.forall_mem_cons.1 hes
    rw [writeLogbook, writeLogbook]
    refine (related_writeLogEntry hd he indentation).bind fun l l' hl => (ih hes).bind fun ls ls' hls => ?_
    exact Related.pure (List.Forall₂.cons hl hls)

theorem ensures_writeProperties (ps : List Property) :
    Run.Ensures (fun entries => ∀ e ∈ entries, ∃ rest, e = ':' :: rest) (writeProperties s ps) := by
  induction ps with
  | nil => exact Run.Ensures.pure (List.forall_mem_nil _)
  | cons p ps ih =>
    refine (Run.Ensures.trivial _).bind fun _ _ => (Run.Ensures.trivial _).bind fun value _ => ?_
    refine ih.bind fun rest hrest => Run.Ensures.pure ?_
    exact List.forall_mem_cons.2 ⟨⟨_, rfl⟩, hrest⟩

/-- The indentation of a heading that keeps the rules of the model has at least one space. -/
theorem exists_indentation {h : Heading} (level : h.level.isLevel = true) {text : Text} (ht : h.indentation = .ok text) :
    ∃ k, text = Text.spaces (k + 1) := by
  obtain ⟨n, hn, hpos⟩ := Json.exists_of_isLevel level
  have hint : h.level.asInt? = some n := hn ▸ rfl
  exact ⟨n.toNat, by rw [Heading.indentation_eq_ok hint ht, Int.toNat_add (by omega) (by decide)]; rfl⟩

/-- A heading with its drawers at the left edge gains the heading lines that its logbook has there. -/
theorem Heading.related_write (hd : ∀ a b text, s.durationText a b = .ok text → '\n' ∉ text) {h : Heading}
    (level : h.level.isLevel = true) (oneLine : ∀ e ∈ h.logbook, e.IsOneLine s) :
    Related (GainsHeadings (h.LogbookHasNoHeading s))
      (h.write s true (.bool true)) (h.write s true (.bool false)) := by
  have hwhole : ∀ t, h.openingText true = .ok t → t.IsWhole := fun _ => isWhole_openingText
  have hopening : Related (GainsHeadings True) (.ofExcept (h.openingText true)) (.ofExcept (h.openingText true)) :=
    Related.self fun t ht => GainsHeadings.refl (hwhole t ht)
  have hplanning : ∀ indentation, Related (GainsHeadings True) (writePlanning s indentation h.planning)
      (writePlanning s indentation h.planning) :=
    fun indentation => Related.self fun t ht => GainsHeadings.refl (ensures_writePlanning_isWhole s _ _ t ht)
  have hbody : Related (GainsHeadings True) (.ofExcept (bodyText h.body)) (.ofExcept (bodyText h.body)) :=
    Related.self fun t ht => GainsHeadings.refl (isWhole_bodyText ht)
  rw [Heading.write, Heading.write]
  refine Related.bind_self _ fun indentation hindentation => ?_
  obtain ⟨k, rfl⟩ := exists_indentation level hindentation
  refine hopening.bind fun opening opening' hopening => ?_
  refine (hplanning _).bind fun planning planning' hplanning => ?_
  refine Related.bind_self _ fun properties hproperties => ?_
  refine (related_writeLogbook hd oneLine (Text.spaces (k + 1))).withOutcome.bind fun lines lines' hlines => ?_
  obtain ⟨hlines, houtcome⟩ := hlines
  refine hbody.bind fun body body' hbody => Related.pure ?_
  have hdrawer := gainsHeadings_properties (k + 1) (ensures_writeProperties h.properties properties hproperties)
  have hlogbook := gainsHeadings_logbook k hlines
  refine ((((hopening.append hplanning).append hdrawer).append hlogbook).append hbody).congr ?_
  have hblock : h.LogbookHasNoHeading s ↔ (Text.unlines lines).trimEnd.HasNoHeading := by
    rw [LogbookHasNoHeading, flushLogbook, houtcome]
    constructor
    · intro hall
      exact hall _ rfl
    · intro hnone block hb
      obtain rfl := Except.ok.inj hb
      exact hnone
  rw [hblock]
  simp only [true_and, and_true]

/-! ## Documents -/

/-- The option for drawers is what a heading would be told itself. -/
theorem Heading.write_dontIndent (h : Heading) (flush : Bool) :
    h.write (s.dontIndent (.bool flush)) true .null = h.write s true (.bool flush) := h.write_eq_of_drawersFlush s true rfl

theorem related_writeHeadings (hd : ∀ a b text, s.durationText a b = .ok text → '\n' ∉ text) {hds : List Heading}
    (level : ∀ h ∈ hds, h.level.isLevel = true) (oneLine : ∀ h ∈ hds, ∀ e ∈ h.logbook, e.IsOneLine s) :
    Related (GainsHeadings (∀ h ∈ hds, h.LogbookHasNoHeading s))
      (writeHeadings (s.dontIndent (.bool true)) hds) (writeHeadings (s.dontIndent (.bool false)) hds) := by
  induction hds with
  | nil => exact Related.pure ((GainsHeadings.refl Text.isWhole_nil).congr (iff_of_true trivial (List.forall_mem_nil _)))
  | cons h hds ih =>
    obtain ⟨hlevel, level⟩ := List.forall_mem_cons.1 level
    obtain ⟨honeLine, oneLine⟩ := List.forall_mem_cons.1 oneLine
    rw [writeHeadings, writeHeadings, h.write_dontIndent, h.write_dontIndent]
    refine (Heading.related_write hd hlevel honeLine).bind fun t t' ht => (ih level oneLine).bind fun u u' hu => ?_
    exact Related.pure ((ht.append hu).congr List.forall_mem_cons.symm)

theorem newline_not_mem_decimalNat (n : Nat) : '\n' ∉ decimalNat n := by
  intro h
  exact absurd (isDigit_of_mem_decimalNat h) (by decide)

theorem newline_not_mem_durationText (minutes : Int) : '\n' ∉ durationText minutes := by
  have hsign : '\n' ∉ (if minutes < 0 then ['-'] else [] : Text) := by
    split <;> decide
  have htwo : ∀ n, '\n' ∉ twoDigits n := by
    intro n
    unfold twoDigits
    split
    · exact List.not_mem_cons_of_ne_of_not_mem (by decide) (newline_not_mem_decimalNat n)
    · exact newline_not_mem_decimalNat n
  exact List.not_mem_append (Text.newline_not_mem_spaces _)
    (List.not_mem_append (List.not_mem_append hsign (newline_not_mem_decimalNat _))
      (List.not_mem_cons_of_ne_of_not_mem (by decide) (htwo _)))

namespace Document

/-- A document with its drawers at the left edge gains the heading lines that its logbooks have there. -/
theorem related_write (hd : ∀ a b text, s.durationText a b = .ok text → '\n' ∉ text) {d : Document} (typed : d.WellTyped)
    (oneLine : ∀ h ∈ d.headings, ∀ e ∈ h.logbook, e.IsOneLine s) :
    Related (GainsHeadings (∀ h ∈ d.headings, h.LogbookHasNoHeading s))
      (d.write (s.dontIndent (.bool true))) (d.write (s.dontIndent (.bool false))) := by
  have level : ∀ h ∈ d.headings, h.level.isLevel = true :=
    fun _ hh => (Heading.level_and_body_of_wellTyped (typed.heading hh)).1
  have hpreamble : Related (GainsHeadings True) (.ofExcept d.preamble) (.ofExcept d.preamble) :=
    Related.self fun t ht => GainsHeadings.refl (isWhole_preamble ht)
  rw [write, write]
  refine Related.bind_self _ fun _ _ => hpreamble.bind fun t t' ht => ?_
  refine (related_writeHeadings hd level oneLine).bind fun u u' hu => Related.pure ?_
  exact (ht.append hu).congr (iff_of_eq (true_and _))

theorem exportWith_dontIndent (d : Document) (flush : Json) :
    d.exportWith {} none [(OptionSet.dontIndentName, flush)] = d.write (({} : Setup).dontIndent flush) := rfl

/-- The export of a well-typed document with its drawers at the left edge has all heading lines of the one without the option,
and exactly those if no logbook, written at the left edge, has a heading line, as long as no line of a logbook is broken. -/
theorem headingLines_flush_iff (d : Document) (typed : d.WellTyped)
    (oneLine : ∀ h ∈ d.headings, ∀ e ∈ h.logbook, e.IsOneLine {}) :
    Related (fun flush indented => indented.headingLines.Sublist flush.headingLines ∧
        (flush.headingLines = indented.headingLines ↔ ∀ h ∈ d.headings, h.LogbookHasNoHeading {}))
      (d.exportWith {} none [(OptionSet.dontIndentName, .bool true)])
      (d.exportWith {} none [(OptionSet.dontIndentName, .bool false)]) := by
  have hd : ∀ a b text, ({} : Setup).durationText a b = .ok text → '\n' ∉ text := by
    intro a b text ht
    obtain ⟨minutes, -, rfl⟩ := map_eq_ok.1 ht
    exact newline_not_mem_durationText minutes
  rw [exportWith_dontIndent, exportWith_dontIndent]
  exact (related_write hd typed oneLine).mono fun _ _ h => ⟨h.sublist, h.eq_iff⟩

/-- A document whose only heading has one line in its logbook, which starts with a star and a space. -/
def starredLogbook : Document where
  headings := [
    { level := .int 1, title := { text := .str "A" }, planning := [], properties := [], logbook := [.line (.str "* note")],
      body := .str "", description := [] }]
  keywordSets := []
  configLines := []
  firstLines := []

/-- At the left edge the line of the logbook is a heading line. -/
theorem headingLines_flush_starred : starredLogbook.WellTyped ∧
    (∀ h ∈ starredLogbook.headings, ∀ e ∈ h.logbook, e.IsOneLine {}) ∧
    (starredLogbook.exportWith {} none [(OptionSet.dontIndentName, .bool true)]).outcome =
      .ok "* A\n:LOGBOOK:\n* note\n:END:\n".toList ∧
    (starredLogbook.exportWith {} none [(OptionSet.dontIndentName, .bool false)]).outcome =
      .ok "* A\n  :LOGBOOK:\n  * note\n  :END:\n".toList ∧
    Text.headingLines "* A\n:LOGBOOK:\n* note\n:END:\n".toList ≠
      Text.headingLines "* A\n  :LOGBOOK:\n  * note\n  :END:\n".toList := by
  have typed : starredLogbook.WellTyped := by decide
  have oneLine : ∀ h ∈ starredLogbook.headings, ∀ e ∈ h.logbook, e.IsOneLine {} := by
    intro h hh e he
    obtain rfl := List.mem_singleton.1 hh
    obtain rfl := List.mem_singleton.1 he
    show '\n' ∉ "* note".toList
    decide
  have hflush : (starredLogbook.exportWith {} none [(OptionSet.dontIndentName, .bool true)]).outcome =
      .ok "* A\n:LOGBOOK:\n* note\n:END:\n".toList := rfl
  have hindented : (starredLogbook.exportWith {} none [(OptionSet.dontIndentName, .bool false)]).outcome =
      .ok "* A\n  :LOGBOOK:\n  * note\n  :END:\n".toList := rfl
  refine ⟨typed, oneLine, hflush, hindented, ?_⟩
  have hrelated := (headingLines_flush_iff starredLogbook typed oneLine).outcome
  rw [hflush, hindented] at hrelated
  intro hsame
  have hblock : (Text.HasNoHeading "* note".toList) := hrelated.2.1 hsame _ List.mem_cons_self _ rfl
  exact absurd hblock (by decide)

end Document
end OrgOutline
