import OrgOutline.Proofs.Outline
import OrgOutline.Proofs.Reports
import OrgOutline.Proofs.SideBySide
import OrgOutline.Proofs.TrimmedLines
import OrgOutline.Proofs.Typed

/-!
# The lines of drawers

The drawers of a heading stand between what is in front of them and the body, and their lines are those of the properties and
of the logbook between two marks (`Drawer.propertyLines`, `Drawer.logbookLines`). Main statements: a logbook keeps all its lines
but the blank ones at the end, and only the last line that is left is trimmed (`Heading.lines_write_logbook`); and a heading
whose drawers are at the left edge has the same lines as the same heading with indented drawers, except for the indentation of
the lines of drawers that are not empty (`Heading.lines_write_flush`).
-/

namespace OrgOutline

open Run (Related)
open Text (IsWhole)

variable {s : Setup}

/-! ## Lines of properties and of logbooks -/

/-- What a property is written as, without indentation. -/
def Property.IsLine (s : Setup) (p : Property) (line : Text) : Prop :=
  ∃ value, (Parts.write s .raw p.value).outcome = .ok value ∧ line = Drawer.propertyLine p.name value

/-- What an entry of a logbook is written as: a line that is not empty, or a clock, behind the indentation; an empty line is
not indented. A clock is `CLOCK: ` and its start, and if it has ended `--`, its end, ` => ` and the time between the two. -/
inductive LogEntry.IsLine (s : Setup) (indentation : Text) : LogEntry → Text → Prop
  | empty {text : Json} (h : text.isSet = false) : IsLine s indentation (.line text) []
  | line {text : Json} (h : text.isSet = true) (h' : text.hasLong = false) :
      IsLine s indentation (.line text) (indentation ++ text.shown)
  | running {start : Timestamp} {startText : Text} (h : s.timestampText start = .ok startText) :
      IsLine s indentation (.clock start none) (indentation ++ ("CLOCK: ".toList ++ startText))
  | ended {start stop : Timestamp} {startText stopText duration : Text} (h : s.timestampText start = .ok startText)
      (h' : s.timestampText stop = .ok stopText) (h'' : s.durationText start stop = .ok duration) :
      IsLine s indentation (.clock start (some stop))
        (indentation ++ ("CLOCK: ".toList ++ startText ++ "--".toList ++ stopText ++ " => ".toList ++ duration))

/-- A property whose name and value are written on one line. -/
def Property.StaysOnLine (s : Setup) (p : Property) : Prop := ∀ line, p.IsLine s line → '\n' ∉ line

/-- An entry of a logbook that is written on one line. -/
def LogEntry.StaysOnLine (s : Setup) (e : LogEntry) : Prop := ∀ line, e.IsLine s [] line → '\n' ∉ line

theorem outcome_writeLogEntry_eq_ok_iff {indentation line : Text} {e : LogEntry} :
    (writeLogEntry s indentation e).outcome = .ok line ↔ e.IsLine s indentation line := by
  constructor
  · intro h
    cases e with
    | line text =>
      obtain ⟨_, hshown, h⟩ := Run.outcome_bind_eq_ok.1 h
      obtain rfl := Except.ok.inj h
      split
      · exact .line ‹_› (by simpa using Json.checkShown_eq_ok_iff.1 hshown)
      · exact .empty (by simpa using ‹¬ text.isSet = true›)
    | clock start stop =>
      cases stop with
      | none =>
        obtain ⟨startText, hstart, h⟩ := Run.outcome_bind_eq_ok.1 h
        obtain rfl := Except.ok.inj h
        exact .running hstart
      | some stop =>
        obtain ⟨startText, hstart, h⟩ := Run.outcome_bind_eq_ok.1 h
        obtain ⟨stopText, hstop, h⟩ := Run.outcome_bind_eq_ok.1 h
        obtain ⟨duration, hduration, h⟩ := Run.outcome_bind_eq_ok.1 h
        obtain rfl := Except.ok.inj h
        exact .ended hstart hstop hduration
  · intro h
    cases h with
    | @empty text h =>
      have hshown : [text].any Json.hasLong = false := by simp [Json.hasLong_of_not_isSet h]
      refine Run.outcome_bind_eq_ok.2 ⟨(), Json.checkShown_eq_ok_iff.2 hshown, ?_⟩
      rw [if_neg (by simp [h]), Run.outcome_pure]
    | @line text h h' =>
      have hshown : [text].any Json.hasLong = false := by simp [h']
      refine Run.outcome_bind_eq_ok.2 ⟨(), Json.checkShown_eq_ok_iff.2 hshown, ?_⟩
      rw [if_pos h, Run.outcome_pure]
    | running h => exact Run.outcome_bind_eq_ok.2 ⟨_, h, rfl⟩
    | ended h h' h'' =>
      exact Run.outcome_bind_eq_ok.2 ⟨_, h, Run.outcome_bind_eq_ok.2 ⟨_, h', Run.outcome_bind_eq_ok.2 ⟨_, h'', rfl⟩⟩⟩

/-- The lines of a logbook are those of its entries. -/
theorem outcome_writeLogbook_eq_ok_iff {indentation : Text} {es : List LogEntry} {lines : List Text} :
    (writeLogbook s indentation es).outcome = .ok lines ↔
      List.Forall₂ (fun e line => e.IsLine s indentation line) es lines := by
  constructor
  · intro h
    induction es generalizing lines with
    | nil =>
      obtain rfl := Except.ok.inj h
      exact .nil
    | cons e es ih =>
      obtain ⟨line, hline, h⟩ := Run.outcome_bind_eq_ok.1 h
      obtain ⟨rest, hrest, h⟩ := Run.outcome_bind_eq_ok.1 h
      obtain rfl := Except.ok.inj h
      exact .cons (outcome_writeLogEntry_eq_ok_iff.1 hline) (ih hrest)
  · intro h
    induction h with
    | nil => rfl
    | cons hline _ ih =>
      exact Run.outcome_bind_eq_ok.2 ⟨_, outcome_writeLogEntry_eq_ok_iff.2 hline, Run.outcome_bind_eq_ok.2 ⟨_, ih, rfl⟩⟩

theorem LogEntry.staysOnLine_of_outcome {e : LogEntry} {line : Text} (h : (writeLogEntry s [] e).outcome = .ok line)
    (hline : '\n' ∉ line) : e.StaysOnLine s := by
  intro line' hline'
  obtain rfl := Except.ok.inj (h.symm.trans (outcome_writeLogEntry_eq_ok_iff.2 hline'))
  exact hline

/-- The lines of properties are those of each property. -/
theorem forall₂_of_outcome_writeProperties {ps : List Property} {lines : List Text}
    (h : (writeProperties s ps).outcome = .ok lines) : List.Forall₂ (fun p line => p.IsLine s line) ps lines := by
  induction ps generalizing lines with
  | nil =>
    obtain rfl := Except.ok.inj h
    exact .nil
  | cons p ps ih =>
    obtain ⟨-, -, h⟩ := Run.outcome_bind_eq_ok.1 h
    obtain ⟨value, hvalue, h⟩ := Run.outcome_bind_eq_ok.1 h
    obtain ⟨rest, hrest, h⟩ := Run.outcome_bind_eq_ok.1 h
    obtain rfl := Except.ok.inj h
    exact .cons ⟨value, hvalue, rfl⟩ (ih hrest)

/-- What holds of every line that an element may have holds of the lines of a list. -/
theorem forall_mem_of_forall₂ {α β : Type} {R : α → β → Prop} {P : β → Prop} {xs : List α} {ys : List β}
    (h : List.Forall₂ R xs ys) (hP : ∀ x ∈ xs, ∀ y, R x y → P y) : ∀ y ∈ ys, P y := by
  induction h with
  | nil => exact List.forall_mem_nil _
  | cons hxy _ ih =>
    obtain ⟨hx, hxs⟩ := List.forall_mem_cons.1 hP
    exact List.forall_mem_cons.2 ⟨hx _ hxy, ih hxs⟩

/-! ## Indentation -/

theorem Drawer.runningClock_ne_nil (start : Text) : runningClock start ≠ [] := List.cons_ne_nil _ _

theorem Drawer.endedClock_ne_nil (start stop duration : Text) : endedClock start stop duration ≠ [] :=
  List.cons_ne_nil _ _

/-- An entry of a logbook is written with an indentation as it is without it, with the indentation in front unless its line is
empty. -/
theorem writeLogEntry_eq_map {e : LogEntry} (typed : (Record.logEntry e).fieldsTyped = true) (indentation : Text) :
    writeLogEntry s indentation e = Text.indented indentation <$> writeLogEntry s [] e := by
  cases e with
  | line text =>
    obtain ⟨t, rfl⟩ := Json.exists_of_isString typed
    rw [writeLogEntry, writeLogEntry, map_bind, map_pure]
    split
    · rename_i h
      have hne : (Json.str t).shown ≠ [] := by simpa [Json.isSet] using h
      rw [List.nil_append, Text.indented_of_ne_nil hne]
    · rfl
  | clock start stop =>
    cases stop with
    | none =>
      have hline : ∀ t, indentation ++ Drawer.runningClock t = Text.indented indentation ([] ++ Drawer.runningClock t) :=
        fun t => (Text.indented_of_ne_nil (Drawer.runningClock_ne_nil t) _).symm
      simp only [writeLogEntry, map_bind, map_pure, hline]
    | some stop =>
      have hline : ∀ t u d, indentation ++ Drawer.endedClock t u d =
          Text.indented indentation ([] ++ Drawer.endedClock t u d) :=
        fun t u d => (Text.indented_of_ne_nil (Drawer.endedClock_ne_nil t u d) _).symm
      simp only [writeLogEntry, map_bind, map_pure, hline]

theorem writeLogbook_eq_map {es : List LogEntry} (typed : ∀ e ∈ es, (Record.logEntry e).fieldsTyped = true)
    (indentation : Text) :
    writeLogbook s indentation es = List.map (Text.indented indentation) <$> writeLogbook s [] es := by
  induction es with
  | nil => rfl
  | cons e es ih =>
    obtain ⟨he, hes⟩ := List.forall_mem_cons.1 typed
    rw [writeLogbook, writeLogbook, writeLogEntry_eq_map he, ih hes]
    simp only [map_eq_pure_bind, bind_assoc, pure_bind, List.map_cons]

/-- The lines of a logbook are not broken if its entries are written on one line each. -/
theorem newline_not_mem_of_outcome_writeLogbook {es : List LogEntry}
    (typed : ∀ e ∈ es, (Record.logEntry e).fieldsTyped = true) (oneLine : ∀ e ∈ es, e.StaysOnLine s) {indentation : Text}
    (hi : '\n' ∉ indentation) {lines : List Text} (h : (writeLogbook s indentation es).outcome = .ok lines) :
    ∀ l ∈ lines, '\n' ∉ l := by
  rw [writeLogbook_eq_map typed, Run.outcome_map_eq_ok] at h
  obtain ⟨flush, hflush, rfl⟩ := h
  refine List.forall_mem_map.2 fun l hl => Text.newline_not_mem_indented hi ?_
  exact forall_mem_of_forall₂ (outcome_writeLogbook_eq_ok_iff.1 hflush) oneLine l hl

/-! ## Drawers -/

namespace Drawer

/-- The lines of a drawer for properties, without indentation. -/
def propertyLines (entries : List Text) : List Text :=
  if entries.isEmpty then [] else propertiesMark :: entries ++ [endMark]

/-- The lines of a drawer for a logbook, without indentation. -/
def logbookLines (lines : List Text) : List Text :=
  if lines.isEmpty then [] else logbookMark :: Text.trimmedLines lines ++ [endMark]

theorem endedLines_properties {indentation : Text} (hi : '\n' ∉ indentation) {entries : List Text}
    (h : ∀ e ∈ entries, e ≠ [] ∧ '\n' ∉ e) :
    (properties indentation entries).endedLines = (propertyLines entries).map (Text.indented indentation) := by
  unfold properties propertyLines
  split
  · rfl
  · have hlines : ∀ l ∈ propertiesMark :: entries ++ [endMark], l ≠ [] ∧ '\n' ∉ l := by
      refine List.forall_mem_append.2 ⟨List.forall_mem_cons.2 ⟨by decide, h⟩, List.forall_mem_singleton.2 (by decide)⟩
    have hmap : (propertiesMark :: entries ++ [endMark]).map (indentation ++ ·) =
        (propertiesMark :: entries ++ [endMark]).map (Text.indented indentation) :=
      List.map_congr_left fun l hl => (Text.indented_of_ne_nil (hlines l hl).1 indentation).symm
    rw [Text.endedLines_concat_newline, hmap]
    refine Text.lines_unlines (by simp) (List.forall_mem_map.2 fun l hl => ?_)
    exact Text.newline_not_mem_indented hi (hlines l hl).2

/-- The lines of a drawer for a logbook are the trimmed lines of the logbook between the marks. -/
theorem endedLines_logbook {indentation : Text} (hi : '\n' ∉ indentation) {lines : List Text} (hne : lines ≠ [])
    (h : ∀ l ∈ lines, '\n' ∉ l) : (logbook indentation lines).endedLines =
      (indentation ++ logbookMark) :: Text.trimmedLines lines ++ [indentation ++ endMark] := by
  have hparts : logbook indentation lines = (indentation ++ logbookMark) ++ '\n' ::
      ((Text.unlines lines).trimEnd ++ '\n' :: (indentation ++ endMark)) ++ ['\n'] := by
    rw [logbook, if_neg (by simpa using hne)]
    simp only [List.append_assoc, List.cons_append]
  have hfirst : '\n' ∉ indentation ++ logbookMark := List.not_mem_append hi (by decide)
  have hlast : '\n' ∉ indentation ++ endMark := List.not_mem_append hi (by decide)
  rw [hparts, Text.endedLines_concat_newline, Text.lines_append_newline, Text.lines_append_newline,
    Text.lines_of_not_mem hfirst, Text.lines_of_not_mem hlast, Text.lines_trimEnd_unlines h]
  rfl

/-- A logbook that is indented line by line has the indented lines of the logbook. -/
theorem endedLines_logbook_indented {indentation : Text} (hi : '\n' ∉ indentation)
    (hblank : indentation.allBlank = true) {lines : List Text} (h : ∀ l ∈ lines, '\n' ∉ l) :
    (logbook indentation (lines.map (Text.indented indentation))).endedLines =
      (logbookLines lines).map (Text.indented indentation) := by
  by_cases hne : lines = []
  · subst hne
    rfl
  · have hindented : ∀ l ∈ lines.map (Text.indented indentation), '\n' ∉ l :=
      List.forall_mem_map.2 fun l hl => Text.newline_not_mem_indented hi (h l hl)
    have hfirst : Text.indented indentation logbookMark = indentation ++ logbookMark := rfl
    have hlast : Text.indented indentation endMark = indentation ++ endMark := rfl
    rw [endedLines_logbook hi (by simpa using hne) hindented, Text.trimmedLines_map_indented hblank, logbookLines,
      if_neg (by simpa using hne), List.map_append, List.map_cons, List.map_singleton, hfirst, hlast]

/-- The lines of drawers that are indented line by line, with something in front of them and a body behind. -/
theorem lines_append_drawers {front : Text} (hfront : front.IsWhole) {indentation : Text} (hi : '\n' ∉ indentation)
    (hblank : indentation.allBlank = true) {entries lines : List Text} (hentries : ∀ e ∈ entries, e ≠ [] ∧ '\n' ∉ e)
    (hlines : ∀ l ∈ lines, '\n' ∉ l) (body : Text) :
    (front ++ properties indentation entries ++ logbook indentation (lines.map (Text.indented indentation)) ++ body).lines =
      front.endedLines ++ (propertyLines entries ++ logbookLines lines).map (Text.indented indentation) ++ body.lines := by
  rw [List.append_assoc, List.append_assoc, hfront.lines_append, (isWhole_properties _ _).lines_append,
    (isWhole_logbook _ _).lines_append, endedLines_properties hi hentries, endedLines_logbook_indented hi hblank hlines,
    List.map_append]
  simp only [List.append_assoc]

end Drawer

/-! ## Headings -/

namespace Heading

/-- The heading without its logbook. -/
def withoutLogbook (h : Heading) : Heading := { h with logbook := [] }

/-- The heading without its drawers. -/
def withoutDrawers (h : Heading) : Heading := { h with properties := [], logbook := [] }

theorem fieldsTyped_of_mem_logbook {h : Heading} (typed : (Record.heading h).WellTyped) :
    ∀ e ∈ h.logbook, (Record.logEntry e).fieldsTyped = true := fun e he =>
  (typed.of_mem_children (c := .logEntry e) (by simp [Record.children, he])).fieldsTyped

/-- The level of a well-typed heading whose indentation can be written. -/
theorem exists_level {h : Heading} (typed : (Record.heading h).WellTyped) {t : Text} (ht : h.indentation = .ok t) :
    ∃ level, h.level = .int level ∧ t = Text.spaces (level + 1).toNat := by
  obtain ⟨n, hn, -⟩ := Json.exists_of_isLevel (level_and_body_of_wellTyped typed).1
  exact ⟨n, hn, indentation_eq_ok (hn ▸ rfl) ht⟩

/-- Of the logbook of a well-typed heading whose entries are written on one line each, no line is lost between the marks but the
blank ones at the end: all are written in order up to the last one that is not blank, which loses the blanks at its end, and one
empty line is written if all are blank. In front of the drawer and behind it stands what the heading is written as without its
logbook. -/
theorem lines_write_logbook (s : Setup) (withLine : Bool) (flush : Json) (h : Heading)
    (typed : (Record.heading h).WellTyped) (nonempty : h.logbook ≠ []) (oneLine : ∀ e ∈ h.logbook, e.StaysOnLine s)
    (text : Text) (written : (h.write s withLine flush).outcome = .ok text) :
    ∃ (level : Int) (front body : Text) (lines between : List Text),
      h.level = .int level ∧ (h.withoutLogbook.write s withLine flush).outcome = .ok (front ++ body) ∧
        bodyText h.body = .ok body ∧
        let indentation := if drawersFlush s flush then [] else Text.spaces (level + 1).toNat
        List.Forall₂ (fun e line => e.IsLine s indentation line) h.logbook lines ∧
          text.lines = front.endedLines ++ (indentation ++ Drawer.logbookMark) :: between ++
            (indentation ++ Drawer.endMark) :: body.lines ∧
          ((∀ l ∈ lines, l.allBlank = true) → between = [[]]) ∧
          ∀ kept last blank, lines = kept ++ last :: blank → last.allBlank = false → (∀ l ∈ blank, l.allBlank = true) →
            between = kept ++ [last.trimEnd] := by
  obtain ⟨t, opening, planning, properties, lines, body, ht, hopening, hplanning, hproperties, hlines, hbody, rfl⟩ :=
    outcome_write_eq_ok_iff.1 written
  obtain ⟨level, hlevel, rfl⟩ := exists_level typed ht
  let indentation : Text := if drawersFlush s flush then [] else Text.spaces (level + 1).toNat
  have hlines : (writeLogbook s indentation h.logbook).outcome = .ok lines := hlines
  have hnewline : '\n' ∉ indentation := by
    show '\n' ∉ (if drawersFlush s flush then [] else Text.spaces (level + 1).toNat)
    split
    · exact List.not_mem_nil
    · exact Text.newline_not_mem_spaces _
  have hentries := outcome_writeLogbook_eq_ok_iff.1 hlines
  have hsome : lines ≠ [] := by
    intro hnil
    have hlength := hentries.length_eq
    rw [hnil] at hlength
    exact nonempty (List.length_eq_zero_iff.1 hlength)
  have hfront : (opening ++ planning ++ Drawer.properties indentation properties).IsWhole :=
    ((isWhole_openingText hopening).append (ensures_writePlanning_isWhole s _ _ planning hplanning)).append
      (Drawer.isWhole_properties indentation properties)
  refine ⟨level, opening ++ planning ++ Drawer.properties indentation properties, body, lines, Text.trimmedLines lines, hlevel,
    ?_, hbody, hentries, ?_, fun hblank => Text.trimmedLines_of_allBlank hblank, ?_⟩
  · have hnone : Drawer.logbook indentation [] = [] := rfl
    refine outcome_write_eq_ok_iff.2 ⟨_, opening, planning, properties, [], body, ht, hopening, hplanning, hproperties, rfl,
      hbody, ?_⟩
    rw [hnone, List.append_nil]
  · have hbroken := newline_not_mem_of_outcome_writeLogbook (fieldsTyped_of_mem_logbook typed) oneLine hnewline hlines
    rw [List.append_assoc, hfront.lines_append, (Drawer.isWhole_logbook indentation lines).lines_append,
      Drawer.endedLines_logbook hnewline hsome hbroken]
    simp only [List.append_assoc, List.cons_append, List.nil_append]
    rfl
  · rintro kept last blank rfl hlast hblank
    exact Text.trimmedLines_append hlast kept hblank

/-- The last day of a January, at a time of day. -/
def januaryStamp (hour minute : String) : Timestamp where
  year := .str "2024"
  month := .str "01"
  day := .str "31"
  start := ⟨.str hour, .str minute⟩

/-- A heading with a property, with a clock that has ended and one that runs, and with blank lines in the middle and at the end of
its logbook. -/
def drawersHeading : Heading where
  level := .int 2
  title := { text := .str "A" }
  planning := []
  properties := [⟨.str "ID", [.text (.str "7 ")]⟩]
  logbook := [.clock (januaryStamp "08" "30") (some (januaryStamp "10" "00")), .clock (januaryStamp "11" "00") none,
    .line (.str ""), .line (.str " "), .line (.str "- done \t"), .line (.str ""), .line (.str " ")]
  body := .str " end"
  description := []

/-- The line of the clock that has ended, without indentation. -/
def endedClockLine : Text := "CLOCK: <2024-01-31 08:30>--<2024-01-31 10:00> =>  1:30".toList

/-- The text of that heading with its drawers indented. -/
def indentedDrawersText : Text := "** A\n   :PROPERTIES:\n   :ID: 7 \n   :END:\n   :LOGBOOK:\n   ".toList ++ endedClockLine ++
  "\n   CLOCK: <2024-01-31 11:00>\n\n    \n   - done\n   :END:\n end\n".toList

/-- The text of that heading with its drawers at the left edge. -/
def flushDrawersText : Text := "** A\n:PROPERTIES:\n:ID: 7 \n:END:\n:LOGBOOK:\n".toList ++ endedClockLine ++
  "\nCLOCK: <2024-01-31 11:00>\n\n \n- done\n:END:\n end\n".toList

theorem staysOnLine_drawersHeading : ∀ e ∈ drawersHeading.logbook, e.StaysOnLine {} := by
  simp only [drawersHeading, List.forall_mem_cons]
  exact ⟨LogEntry.staysOnLine_of_outcome rfl (by decide), LogEntry.staysOnLine_of_outcome rfl (by decide),
    LogEntry.staysOnLine_of_outcome rfl (by decide), LogEntry.staysOnLine_of_outcome rfl (by decide),
    LogEntry.staysOnLine_of_outcome rfl (by decide), LogEntry.staysOnLine_of_outcome rfl (by decide),
    LogEntry.staysOnLine_of_outcome rfl (by decide), List.forall_mem_nil _⟩

/-- Its logbook loses the two lines at the end and the blanks at the end of the line before. -/
theorem lines_write_logbook_blanks :
    (Record.heading drawersHeading).WellTyped ∧ drawersHeading.logbook ≠ [] ∧
      (∀ e ∈ drawersHeading.logbook, e.StaysOnLine {}) ∧
      (drawersHeading.write {} true .null).outcome = .ok indentedDrawersText ∧
      ∃ front body : Text, (drawersHeading.withoutLogbook.write {} true .null).outcome = .ok (front ++ body) ∧
        bodyText drawersHeading.body = .ok body ∧ indentedDrawersText.lines = front.endedLines ++
          "   :LOGBOOK:".toList :: ["   CLOCK: <2024-01-31 08:30>--<2024-01-31 10:00> =>  1:30".toList,
            "   CLOCK: <2024-01-31 11:00>".toList, [], "    ".toList, "   - done".toList] ++
            "   :END:".toList :: body.lines := by
  have typed : (Record.heading drawersHeading).WellTyped := by decide
  have nonempty : drawersHeading.logbook ≠ [] := List.cons_ne_nil _ _
  have written : (drawersHeading.write {} true .null).outcome = .ok indentedDrawersText :=
    Run.result?_eq_some_iff.1 (by decide +kernel)
  obtain ⟨level, front, body, lines, between, hlevel, hwithout, hbody, hlines, htext, -, hkept⟩ :=
    lines_write_logbook {} true .null drawersHeading typed nonempty staysOnLine_drawersHeading indentedDrawersText written
  obtain rfl : 2 = level := Json.int.inj hlevel
  have hall : (writeLogbook {} (Text.spaces 3) drawersHeading.logbook).outcome =
      .ok (["   CLOCK: <2024-01-31 08:30>--<2024-01-31 10:00> =>  1:30".toList, "   CLOCK: <2024-01-31 11:00>".toList, [],
        "    ".toList] ++ "   - done \t".toList :: [[], "    ".toList]) :=
    Run.result?_eq_some_iff.1 (by decide +kernel)
  obtain rfl := Except.ok.inj (hall.symm.trans (outcome_writeLogbook_eq_ok_iff.2 hlines))
  rw [hkept _ _ _ rfl rfl (by decide)] at htext
  exact ⟨typed, nonempty, staysOnLine_drawersHeading, written, front, body, hwithout, hbody, htext⟩

/-- The lines of a well-typed heading, whose properties and logbook entries are written on one line each, with its drawers at the
left edge and with its drawers indented. Both ways of writing give the same notices and fail in the same way; otherwise they give
as many lines, and the lines of the drawers that are not empty are indented by one space more than the level of the heading says
while all other lines are the same. -/
theorem lines_write_flush (s : Setup) (withLine : Bool) (h : Heading) (typed : (Record.heading h).WellTyped)
    (properties : ∀ p ∈ h.properties, p.StaysOnLine s) (logbook : ∀ e ∈ h.logbook, e.StaysOnLine s)
    (option told option' told' : Json) (hflush : drawersFlush (s.dontIndent option) told = true)
    (hindented : drawersFlush (s.dontIndent option') told' = false) :
    Related (fun flush indented => ∃ (level : Int) (front body : Text) (entries lines : List Text),
        h.level = .int level ∧ (h.withoutDrawers.write s withLine .null).outcome = .ok (front ++ body) ∧
          bodyText h.body = .ok body ∧ List.Forall₂ (fun p line => p.IsLine s line) h.properties entries ∧
          List.Forall₂ (fun e line => e.IsLine s [] line) h.logbook lines ∧
          let drawers := Drawer.propertyLines entries ++ Drawer.logbookLines lines
          let indentation := Text.spaces (level + 1).toNat
          flush.lines.length = indented.lines.length ∧ flush.lines = front.endedLines ++ drawers ++ body.lines ∧
            indented.lines = front.endedLines ++ drawers.map (Text.indented indentation) ++ body.lines)
      (h.write (s.dontIndent option) withLine told) (h.write (s.dontIndent option') withLine told') := by
  rw [h.write_eq_of_drawersFlush s withLine hflush, h.write_eq_of_drawersFlush s withLine hindented]
  refine Related.bind_self _ fun indentation hindentation => ?_
  obtain ⟨level, hlevel, rfl⟩ := exists_level typed hindentation
  refine Related.bind_self _ fun opening hopening => Related.bind_self _ fun planning hplanning => ?_
  refine Related.bind_self _ fun entries hentries => ?_
  have hlogbook : Related (fun ls ls' => ls' = ls.map (Text.indented (Text.spaces (level + 1).toNat)) ∧
      (writeLogbook s [] h.logbook).outcome = .ok ls) (writeLogbook s [] h.logbook)
      (writeLogbook s (Text.spaces (level + 1).toNat) h.logbook) := by
    rw [writeLogbook_eq_map (fieldsTyped_of_mem_logbook typed) (Text.spaces _)]
    exact Related.ofMap _ _
  refine hlogbook.bind fun lines _ hl => Related.bind_self _ fun body hbody => Related.pure ?_
  obtain ⟨rfl, hlines⟩ := hl
  have hproperties := forall₂_of_outcome_writeProperties hentries
  have hentry : ∀ e ∈ entries, e ≠ [] ∧ '\n' ∉ e := by
    refine forall_mem_of_forall₂ hproperties fun p hp line hline => ⟨?_, properties p hp line hline⟩
    obtain ⟨value, -, rfl⟩ := hline
    exact List.cons_ne_nil _ _
  have hline : ∀ l ∈ lines, '\n' ∉ l := forall_mem_of_forall₂ (outcome_writeLogbook_eq_ok_iff.1 hlines) logbook
  have hfront : (opening ++ planning).IsWhole :=
    (isWhole_openingText hopening).append (ensures_writePlanning_isWhole s _ _ planning hplanning)
  have hflush := Drawer.lines_append_drawers hfront List.not_mem_nil rfl hentry hline body
  have hindented := Drawer.lines_append_drawers hfront (Text.newline_not_mem_spaces (level + 1).toNat)
    (Text.allBlank_spaces _) hentry hline body
  rw [Text.map_indented_nil, Text.map_indented_nil] at hflush
  refine ⟨level, opening ++ planning, body, entries, lines, hlevel, ?_, hbody, hproperties,
    outcome_writeLogbook_eq_ok_iff.1 hlines, ?_, hflush, hindented⟩
  · refine outcome_write_eq_ok_iff.2 ⟨_, opening, planning, [], [], body, hindentation, hopening, hplanning, rfl, rfl, hbody, ?_⟩
    simp only [Drawer.properties, Drawer.logbook, List.isEmpty_nil, if_true, List.append_nil]
  · refine (congrArg List.length hflush).trans ((congrArg List.length hindented).trans ?_).symm
    simp only [List.length_append, List.length_map]

/-- The caller asks for the left edge, and the option does not, and the other way round. -/
theorem lines_write_flush_told :
    let s : Setup := {}
    (Record.heading drawersHeading).WellTyped ∧ (∀ p ∈ drawersHeading.properties, p.StaysOnLine s) ∧
      (∀ e ∈ drawersHeading.logbook, e.StaysOnLine s) ∧ drawersFlush (s.dontIndent (.bool false)) (.bool true) = true ∧
      drawersFlush (s.dontIndent (.bool true)) (.bool false) = false ∧
      (drawersHeading.write (s.dontIndent (.bool false)) true (.bool true)).outcome = .ok flushDrawersText ∧
      (drawersHeading.write (s.dontIndent (.bool true)) true (.bool false)).outcome = .ok indentedDrawersText ∧
      ∃ front drawers back, flushDrawersText.lines = front ++ drawers ++ back ∧
        indentedDrawersText.lines = front ++ drawers.map (Text.indented "   ".toList) ++ back := by
  intro s
  have typed : (Record.heading drawersHeading).WellTyped := by decide
  have properties : ∀ p ∈ drawersHeading.properties, p.StaysOnLine s := by
    intro p hp line hline
    obtain rfl := List.mem_singleton.1 hp
    obtain ⟨value, hvalue, rfl⟩ := hline
    obtain rfl : "7 ".toList = value := Except.ok.inj hvalue
    decide
  have hflush : (drawersHeading.write (Setup.dontIndent {} (.bool false)) true (.bool true)).outcome = .ok flushDrawersText :=
    Run.result?_eq_some_iff.1 (by decide +kernel)
  have hindented : (drawersHeading.write (Setup.dontIndent {} (.bool true)) true (.bool false)).outcome =
      .ok indentedDrawersText := Run.result?_eq_some_iff.1 (by decide +kernel)
  have hrelated := (lines_write_flush s true drawersHeading typed properties staysOnLine_drawersHeading (.bool false)
    (.bool true) (.bool true) (.bool false) rfl rfl).outcome
  rw [hflush, hindented] at hrelated
  obtain ⟨level, front, body, entries, lines, hlevel, -, -, -, -, -, h, h'⟩ := hrelated
  obtain rfl : 2 = level := Json.int.inj hlevel
  exact ⟨typed, properties, staysOnLine_drawersHeading, rfl, rfl, hflush, hindented, _, _, _, h, h'⟩

end Heading
end OrgOutline
