import Mathlib.Data.List.Basic
import OrgOutline.Export
import OrgOutline.Proofs.MapWriting
import OrgOutline.Proofs.Typed
import OrgOutline.Proofs.Written

/-!
# Absent fields

Optional texts and the numbers of cookies are null where they are absent. `Document.filled` puts the empty string in all of them,
which makes a difference in timestamps alone: the minute of a time of day whose hour is set, and the amount and the unit of a
cookie whose mark is set, are written even if they are null (`Timestamp.IsComplete`). Main statement: a document is exported with
its absent fields filled as it is itself, but for the texts of its timestamps; if no timestamp in its planning entries, the values
of its properties and its clocks is incomplete, there is no difference (`Document.export_filled`).
-/

namespace OrgOutline

/-! ## Filling -/

/-- The value, or the empty string in place of null. -/
def Json.filled (v : Json) : Json := if v.isNull then .str "" else v

/-- A time of day with its absent fields filled. -/
def TimeOfDay.filled (t : TimeOfDay) : TimeOfDay := ⟨t.hour.filled, t.minute.filled⟩

/-- A cookie of a timestamp with its absent fields filled. -/
def Cookie.filled (c : Cookie) : Cookie := ⟨c.mark.filled, c.amount.filled, c.unit.filled⟩

/-- A timestamp with its absent fields filled. -/
def Timestamp.filled (t : Timestamp) : Timestamp :=
  { t with
    weekday := t.weekday.filled
    start := t.start.filled
    stop := t.stop.filled
    repeater := t.repeater.filled
    delay := t.delay.filled }

/-- A title with an absent keyword filled. -/
def Title.filled (t : Title) : Title := { t with keyword := t.keyword.filled }

mutual
/-- A record with absent fields filled at any depth: titles of links, numbers of cookies, keywords and fields of timestamps. -/
def Record.filled : Record → Record
  | .link target title => .link target title.filled
  | .fraction done all => .fraction done.filled all.filled
  | .percentage value => .percentage value.filled
  | .table rows => .table (filledRows rows)
  | .list items bullet ordered terminator => .list (filledItems items) bullet ordered terminator
  | .stamp first second => .stamp first.filled (second.map Timestamp.filled)
  | .timestamp t => .timestamp t.filled
  | .listItem item => .listItem item.filled
  | .row cells => .row (filledCells cells)
  | .cell c => .cell c.filled
  | .title t => .title t.filled
  | .planning i => .planning (i.mapTimestamps Timestamp.filled)
  | .property p => .property p.filled
  | .logEntry e => .logEntry (e.mapTimestamps Timestamp.filled)
  | .heading h => .heading h.filled
  | .document d => .document d.filled
  | r => r
termination_by structural x => x

/-- An item of a list with absent fields filled. -/
def Item.filled : Item → Item
  | ⟨title, contents, checkbox, state, counter⟩ => ⟨filledParts title, filledParts contents, checkbox, state, counter⟩
termination_by structural x => x

/-- A cell of a table with absent fields filled. -/
def Cell.filled : Cell → Cell
  | ⟨content, raw⟩ => ⟨filledParts content, raw⟩
termination_by structural x => x

/-- A property with absent fields filled. -/
def Property.filled : Property → Property
  | ⟨name, value⟩ => ⟨name, filledParts value⟩
termination_by structural x => x

/-- A heading with absent fields filled. -/
def Heading.filled : Heading → Heading
  | ⟨level, title, planning, properties, logbook, body, description⟩ =>
    ⟨level, title.filled, planning.map (PlanningEntry.mapTimestamps Timestamp.filled), filledProperties properties,
      logbook.map (LogEntry.mapTimestamps Timestamp.filled), body, filledParts description⟩
termination_by structural x => x

/-- A document with absent fields filled. -/
def Document.filled : Document → Document
  | ⟨headings, keywordSets, configLines, firstLines⟩ => ⟨filledHeadings headings, keywordSets, configLines, firstLines⟩
termination_by structural x => x

/-- Running text with absent fields filled. -/
def filledParts : List Record → List Record
  | [] => []
  | r :: rs => r.filled :: filledParts rs
termination_by structural x => x

/-- Items with absent fields filled. -/
def filledItems : List Item → List Item
  | [] => []
  | i :: is => i.filled :: filledItems is
termination_by structural x => x

/-- Rows with absent fields filled. -/
def filledRows : List (List Cell) → List (List Cell)
  | [] => []
  | r :: rs => filledCells r :: filledRows rs
termination_by structural x => x

/-- Cells with absent fields filled. -/
def filledCells : List Cell → List Cell
  | [] => []
  | c :: cs => c.filled :: filledCells cs
termination_by structural x => x

/-- Properties with absent fields filled. -/
def filledProperties : List Property → List Property
  | [] => []
  | p :: ps => p.filled :: filledProperties ps
termination_by structural x => x

/-- Headings with absent fields filled. -/
def filledHeadings : List Heading → List Heading
  | [] => []
  | h :: hs => h.filled :: filledHeadings hs
termination_by structural x => x
end

theorem filledParts_eq_map (rs : Parts) : filledParts rs = rs.map Record.filled := by
  induction rs with
  | nil => rfl
  | cons r rs ih => rw [filledParts, ih, List.map_cons]

theorem filledItems_eq_map (is : List Item) : filledItems is = is.map Item.filled := by
  induction is with
  | nil => rfl
  | cons i is ih => rw [filledItems, ih, List.map_cons]

theorem filledRows_eq_map (rows : List Row) : filledRows rows = rows.map (List.map Cell.filled) := by
  have hcells : ∀ cells : Row, filledCells cells = cells.map Cell.filled := by
    intro cells
    induction cells with
    | nil => rfl
    | cons c cells ih => rw [filledCells, ih, List.map_cons]
  induction rows with
  | nil => rfl
  | cons row rows ih => rw [filledRows, ih, hcells, List.map_cons]

theorem filledProperties_eq_map (ps : List Property) : filledProperties ps = ps.map Property.filled := by
  induction ps with
  | nil => rfl
  | cons p ps ih => rw [filledProperties, ih, List.map_cons]

theorem filledHeadings_eq_map (hs : List Heading) : filledHeadings hs = hs.map Heading.filled := by
  induction hs with
  | nil => rfl
  | cons h hs ih => rw [filledHeadings, ih, List.map_cons]

/-! ## Values -/

@[simp] theorem Json.isSet_filled (v : Json) : v.filled.isSet = v.isSet := by
  cases v <;> rfl

theorem Json.filled_of_isSet {v : Json} (h : v.isSet = true) : v.filled = v := by
  cases v with
  | null => nomatch h
  | _ => rfl

@[simp] theorem Json.hasLong_filled (v : Json) : v.filled.hasLong = v.hasLong := by
  cases v <;> rfl

theorem Json.toTime_filled (v : Json) : v.filled.toTime = v.toTime := by
  cases v <;> rfl

/-! ## Texts of timestamps -/

/-- A text that is no longer than another one, and exactly under a condition the same. -/
structure Text.CutUnless (same : Prop) (t t' : Text) : Prop where
  length_le : t.length ≤ t'.length
  eq_iff : t = t' ↔ same

namespace Text.CutUnless

variable {p q : Prop} {t t' u u' : Text}

theorem refl (t : Text) : CutUnless True t t := ⟨Nat.le_refl _, iff_true_intro rfl⟩

theorem congr (h : CutUnless p t t') (hpq : p ↔ q) : CutUnless q t t' := ⟨h.length_le, h.eq_iff.trans hpq⟩

theorem append (h : CutUnless p t t') (h' : CutUnless q u u') : CutUnless (p ∧ q) (t ++ u) (t' ++ u') := by
  have hle := h.length_le
  have hle' := h'.length_le
  refine ⟨by rw [List.length_append, List.length_append]; omega, ?_⟩
  rw [← h.eq_iff, ← h'.eq_iff]
  constructor
  · intro he
    have hlength := congrArg List.length he
    rw [List.length_append, List.length_append] at hlength
    exact List.append_inj he (by omega)
  · rintro ⟨rfl, rfl⟩
    rfl

theorem prepend (t : Text) (h : CutUnless p u u') : CutUnless p (t ++ u) (t ++ u') :=
  ((refl t).append h).congr (iff_of_eq (true_and p))

theorem postpend (h : CutUnless p t t') (u : Text) : CutUnless p (t ++ u) (t' ++ u) :=
  (h.append (refl u)).congr (iff_of_eq (and_true p))

end Text.CutUnless

open Text (CutUnless)

theorem Json.cutUnless_shown (v : Json) : CutUnless (v.isNull = false) v.filled.shown v.shown := by
  cases v with
  | null => exact ⟨by decide, by decide⟩
  | _ => exact (CutUnless.refl _).congr (iff_of_true trivial rfl)

/-- A time of day of which the hour is not set without the minute. -/
def TimeOfDay.IsComplete (t : TimeOfDay) : Prop := t.hour.isSet = true → t.minute.isNull = false

/-- A cookie of which the mark is not set without the amount and the unit. -/
def Cookie.IsComplete (c : Cookie) : Prop := c.mark.isSet = true → c.amount.isNull = false ∧ c.unit.isNull = false

namespace Timestamp

/-- A timestamp in which nothing is absent of what is written with something that is set. -/
structure IsComplete (t : Timestamp) : Prop where
  start : t.start.IsComplete
  stop : t.stop.IsComplete
  repeater : t.repeater.IsComplete
  delay : t.delay.IsComplete

theorem cutUnless_timeText (t : TimeOfDay) (mark : Char) :
    CutUnless t.IsComplete (if t.filled.hour.isSet then mark :: t.filled.text else [])
      (if t.hour.isSet then mark :: t.text else []) := by
  unfold TimeOfDay.IsComplete TimeOfDay.filled
  rw [Json.isSet_filled]
  split
  · rename_i h
    rw [TimeOfDay.text, TimeOfDay.text, Json.filled_of_isSet h]
    exact ((t.minute.cutUnless_shown.prepend [':']).prepend (mark :: t.hour.shown)).congr (by simp [h])
  · rename_i h
    exact (CutUnless.refl []).congr (iff_of_true trivial fun hs => absurd hs h)

theorem cutUnless_cookieText (c : Cookie) : CutUnless c.IsComplete (cookieText c.filled) (cookieText c) := by
  unfold Cookie.IsComplete cookieText Cookie.filled
  rw [Json.isSet_filled]
  split
  · rename_i h
    rw [Cookie.text, Cookie.text, Json.filled_of_isSet h]
    have hamount := c.amount.cutUnless_shown.prepend (' ' :: c.mark.shown)
    exact (hamount.append c.unit.cutUnless_shown).congr (by simp [h])
  · rename_i h
    exact (CutUnless.refl []).congr (iff_of_true trivial fun hs => absurd hs h)

theorem weekdayText_filled (t : Timestamp) : t.filled.weekdayText = t.weekdayText := by
  unfold weekdayText filled
  rw [Json.isSet_filled]
  split
  · rename_i h
    rw [Json.filled_of_isSet h]
  · rfl

/-- Filling the absent fields of a timestamp shortens its text, unless the timestamp is complete. -/
theorem cutUnless_text (t : Timestamp) : CutUnless t.IsComplete t.filled.text t.text := by
  have hstart : CutUnless t.start.IsComplete t.filled.startText t.startText := cutUnless_timeText t.start ' '
  have hstop : CutUnless t.stop.IsComplete t.filled.stopText t.stopText := cutUnless_timeText t.stop '-'
  have hopening := (hstart.prepend (t.brackets.1 :: t.dateText ++ t.weekdayText)).append hstop
  have hcookies := (hopening.append (cutUnless_cookieText t.repeater)).append (cutUnless_cookieText t.delay)
  have htext := hcookies.postpend [t.brackets.2]
  rw [text, text, weekdayText_filled]
  refine htext.congr ⟨?_, ?_⟩
  · rintro ⟨⟨⟨h1, h2⟩, h3⟩, h4⟩
    exact ⟨h1, h2, h3, h4⟩
  · rintro ⟨h1, h2, h3, h4⟩
    exact ⟨⟨⟨h1, h2⟩, h3⟩, h4⟩

theorem moment_filled (t : Timestamp) : t.filled.moment = t.moment := by
  have hhour : t.filled.start.hour.toTime = t.start.hour.toTime := Json.toTime_filled _
  have hminute : t.filled.start.minute.toTime = t.start.minute.toTime := Json.toTime_filled _
  rw [moment, moment, hhour, hminute]
  rfl

/-- An integer of too many digits stands in the text of a filled timestamp exactly if one stands in that of the timestamp. -/
theorem toText_filled (t : Timestamp) : t.filled.toText = (Json.checkShown t.shownValues).map fun _ => t.filled.text := by
  have htime : ∀ d : TimeOfDay, d.filled.shownValues.any Json.hasLong = d.shownValues.any Json.hasLong := by
    intro d
    simp only [TimeOfDay.shownValues, TimeOfDay.filled, Json.isSet_filled]
    split
    · simp
    · rfl
  have hcookie : ∀ c : Cookie, c.filled.shownValues.any Json.hasLong = c.shownValues.any Json.hasLong := by
    intro c
    simp only [Cookie.shownValues, Cookie.filled, Json.isSet_filled]
    split
    · simp
    · rfl
  have hshown : t.filled.shownValues.any Json.hasLong = t.shownValues.any Json.hasLong := by
    simp only [shownValues, filled, List.any_append, htime, hcookie, List.any_cons, List.any_nil, Json.hasLong_filled]
  rw [toText, Json.checkShown, Json.checkShown, hshown]

theorem duration_filled (start stop : Timestamp) : start.filled.duration stop.filled = start.duration stop := by
  rw [duration, duration, minutesBetween, minutesBetween, moment_filled, moment_filled]

end Timestamp

/-! ## Writing -/

variable {s : Setup}

theorem Record.isBlock_filled (r : Record) : r.filled.isBlock = r.isBlock := by
  cases r <;> rfl

theorem View.link_filled (view : View) (target title : Json) : view.link target title.filled = view.link target title := by
  cases title <;> cases view <;> rfl

theorem cookieNumber_filled (v : Json) : cookieNumber v.filled = cookieNumber v := by
  cases v <;> rfl

theorem writeParts_filledParts {rs : Parts} {view : View}
    (h : ∀ r ∈ rs, r.filled.write s view = r.write (s.comap Timestamp.filled) view) :
    Parts.write s view (filledParts rs) = Parts.write (s.comap Timestamp.filled) view rs := by
  rw [filledParts_eq_map]
  exact writeParts_map fun r hr => ⟨r.isBlock_filled, h r hr⟩

/-- A record with its absent fields filled is written as it is itself by functions that look at filled timestamps. -/
theorem Record.write_filled (r : Record) (view : View) :
    r.filled.write s view = r.write (s.comap Timestamp.filled) view := by
  induction r using withinInduction generalizing view with
  | step r ih =>
    cases r with
    | link target title =>
      rw [filled, write, write, View.link_filled]
    | fraction done all =>
      rw [filled, write, write, fractionText, fractionText, cookieNumber_filled, cookieNumber_filled]
    | percentage v =>
      rw [filled, write, write, percentageText, percentageText, cookieNumber_filled]
    | stamp first second =>
      rw [filled, write, write, stampText_map]
    | list items bullet ordered terminator =>
      have h : ∀ i ∈ items, i.filled.WritesAs s (s.comap Timestamp.filled) view i := by
        intro i hi
        have hparts : ∀ r ∈ i.title ++ i.contents, r.filled.write s view = r.write (s.comap Timestamp.filled) view :=
          fun r hr => ih (.listItem i) (List.mem_map_of_mem hi) r (mem_within_of_mem_children hr (mem_within_self r)) view
        obtain ⟨ht, hc⟩ := List.forall_mem_append.1 hparts
        cases i
        exact ⟨rfl, rfl, writeParts_filledParts ht, writeParts_filledParts hc⟩
      rw [filled, write, write, filledItems_eq_map, writeItems_map h]
    | table rows =>
      have h : ∀ row ∈ rows, ∀ c ∈ row, c.filled.MeasuresAs s (s.comap Timestamp.filled) c := by
        intro row hrow c hc
        have hparts : ∀ r ∈ c.content, r.filled.write s .seen = r.write (s.comap Timestamp.filled) .seen :=
          fun r hr => ih (.row row) (List.mem_map_of_mem hrow) r
            (mem_within_of_mem_children (List.mem_map_of_mem hc) (mem_within_of_mem_children hr (mem_within_self r))) .seen
        cases c
        exact ⟨rfl, writeParts_filledParts hparts⟩
      rw [filled, filledRows_eq_map]
      exact write_table_map (fun c => by cases c; rfl) h
    | logEntry e => cases e <;> rfl
    | _ => rfl

theorem Title.spacedText_filled (t : Title) : t.filled.spacedText = t.spacedText := by
  have hkeyword : t.filled.keywordText = t.keywordText := by
    unfold keywordText filled
    rw [Json.isSet_filled]
    split
    · rename_i h
      rw [Json.filled_of_isSet h]
    · rfl
  have hshown : Json.checkShown [t.filled.keyword, t.filled.text] = Json.checkShown [t.keyword, t.text] := by
    simp [Json.checkShown, filled]
  rw [spacedText, spacedText, hkeyword, hshown]
  rfl

theorem Heading.write_filled (h : Heading) (withLine : Bool) (flush : Json) :
    h.filled.write s withLine flush = h.write (s.comap Timestamp.filled) withLine flush := by
  obtain ⟨level, title, planning, properties, logbook, body, description⟩ := h
  have hproperties : writeProperties s (filledProperties properties) =
      writeProperties (s.comap Timestamp.filled) properties := by
    rw [filledProperties_eq_map]
    refine writeProperties_map fun p _ => ?_
    cases p
    exact ⟨rfl, writeParts_filledParts fun r _ => r.write_filled .raw⟩
  have hopening : (Heading.filled ⟨level, title, planning, properties, logbook, body, description⟩).openingText withLine =
      (Heading.mk level title planning properties logbook body description).openingText withLine := by
    rw [Heading.filled, openingText, openingText, line, line, Title.spacedText_filled]
    rfl
  rw [Heading.write, Heading.write, hopening]
  simp only [Heading.filled, writePlanning_map, hproperties, writeLogbook_map]
  rfl

theorem Document.write_filled (d : Document) : d.filled.write s = d.write (s.comap Timestamp.filled) := by
  obtain ⟨headings, keywordSets, configLines, firstLines⟩ := d
  have hheadings : writeHeadings s (filledHeadings headings) = writeHeadings (s.comap Timestamp.filled) headings := by
    rw [filledHeadings_eq_map]
    exact writeHeadings_map fun h _ => h.write_filled true .null
  have hlength : (filledHeadings headings).length = headings.length := by rw [filledHeadings_eq_map, List.length_map]
  simp only [Document.filled, Document.write, hheadings, hlength]
  rfl

/-! ## Timestamps that are complete -/

/-- A heading is written with functions that look at changed timestamps as it is with the functions themselves, if the timestamps
that can be written with it stay as they are. -/
theorem Heading.write_comap_of_fixed {f : Timestamp → Timestamp} {h : Heading}
    (planning : ∀ i ∈ h.planning, f i.timestamp = i.timestamp)
    (properties : ∀ p ∈ h.properties, ∀ t, .timestamp t ∈ (Record.property p).within → f t = t)
    (logbook : ∀ e ∈ h.logbook, ∀ t ∈ e.stamps, f t = t) (withLine : Bool) (flush : Json) :
    h.write (s.comap f) withLine flush = h.write s withLine flush := by
  have hplanning : ∀ indentation, writePlanning (s.comap f) indentation h.planning = writePlanning s indentation h.planning := by
    intro indentation
    have hentries : h.planning.map (PlanningEntry.mapTimestamps f) = h.planning.map id :=
      List.map_congr_left fun i hi => by rw [PlanningEntry.mapTimestamps, planning i hi]; rfl
    rw [← writePlanning_map, hentries, List.map_id]
  have hproperties : writeProperties (s.comap f) h.properties = writeProperties s h.properties := by
    have hvalues : h.properties.map (Property.mapTimestamps f) = h.properties.map id :=
      List.map_congr_left fun p hp => Record.property.inj ((Record.property p).mapTimestamps_eq_self (properties p hp))
    rw [← writeProperties_mapProperties, mapProperties_eq_map, hvalues, List.map_id]
  have hlogbook : ∀ indentation, writeLogbook (s.comap f) indentation h.logbook = writeLogbook s indentation h.logbook := by
    intro indentation
    have hentries : h.logbook.map (LogEntry.mapTimestamps f) = h.logbook.map id := by
      refine List.map_congr_left fun e he => ?_
      have hstamps := logbook e he
      cases e with
      | line words => rfl
      | clock start stop => cases stop <;> simp_all [LogEntry.stamps, LogEntry.mapTimestamps]
    rw [← writeLogbook_map, hentries, List.map_id]
  simp only [Heading.write, hplanning, hproperties, hlogbook]
  rfl

/-- A heading in whose planning entries, values of properties and clocks no timestamp is incomplete. -/
structure Heading.IsComplete (h : Heading) : Prop where
  planning : ∀ i ∈ h.planning, i.timestamp.IsComplete
  properties : ∀ p ∈ h.properties, ∀ t, .timestamp t ∈ (Record.property p).within → t.IsComplete
  logbook : ∀ e ∈ h.logbook, ∀ t ∈ e.stamps, t.IsComplete

/-- The default functions for timestamps, of which the one for texts fills them first. -/
theorem comap_filled (k : Collector) (o : Options) :
    Setup.comap Timestamp.filled { collector := k, options := o } =
      { collector := k, timestampText := fun t => t.filled.toText, options := o } := by
  have hduration : (fun start stop : Timestamp => start.filled.duration stop.filled) = Timestamp.duration := by
    funext start stop
    exact Timestamp.duration_filled start stop
  rw [Setup.comap]
  simp only [hduration]
  rfl

/-- A timestamp with its absent fields filled, unless that makes no difference to its text. -/
def Timestamp.filledIfSeen (t : Timestamp) : Timestamp := if t.filled.text = t.text then t else t.filled

theorem Timestamp.filledIfSeen_of_isComplete {t : Timestamp} (h : t.IsComplete) : t.filledIfSeen = t :=
  if_pos (t.cutUnless_text.eq_iff.2 h)

theorem comap_filledIfSeen (k : Collector) (o : Options) :
    Setup.comap Timestamp.filledIfSeen { collector := k, options := o } =
      Setup.comap Timestamp.filled { collector := k, options := o } := by
  have htext : ∀ t : Timestamp, t.filledIfSeen.toText = t.filled.toText := by
    intro t
    unfold Timestamp.filledIfSeen
    split
    · rename_i h
      rw [t.toText_filled, h, Timestamp.toText]
    · rfl
  have hmoment : ∀ t : Timestamp, t.filledIfSeen.moment = t.filled.moment := by
    intro t
    unfold Timestamp.filledIfSeen
    split
    · exact t.moment_filled.symm
    · rfl
  have hduration : ∀ start stop : Timestamp,
      start.filledIfSeen.duration stop.filledIfSeen = start.filled.duration stop.filled := by
    intro start stop
    rw [Timestamp.duration, Timestamp.duration, Timestamp.minutesBetween, Timestamp.minutesBetween, hmoment, hmoment]
  simp only [Setup.comap, htext, hduration]
  rfl

/-- A heading without incomplete timestamps is written by the default functions whether these fill timestamps first or not. -/
theorem Heading.write_comap_filled {h : Heading} (complete : h.IsComplete) (k : Collector) (o : Options) (withLine : Bool)
    (flush : Json) :
    h.write (Setup.comap Timestamp.filled { collector := k, options := o }) withLine flush =
      h.write { collector := k, options := o } withLine flush := by
  rw [← comap_filledIfSeen]
  exact h.write_comap_of_fixed (fun i hi => Timestamp.filledIfSeen_of_isComplete (complete.planning i hi))
    (fun p hp t ht => Timestamp.filledIfSeen_of_isComplete (complete.properties p hp t ht))
    (fun e he t ht => Timestamp.filledIfSeen_of_isComplete (complete.logbook e he t ht)) withLine flush

namespace Document

theorem write_comap_filled {d : Document} (complete : ∀ h ∈ d.headings, h.IsComplete) (k : Collector) (o : Options) :
    d.write (Setup.comap Timestamp.filled { collector := k, options := o }) = d.write { collector := k, options := o } := by
  have hheadings := writeHeadings_map (g := id) fun h hh => Heading.write_comap_filled (complete h hh) k o true .null
  rw [List.map_id] at hheadings
  rw [write, write, hheadings]

/-- A document with one heading, for which one timestamp is planned. -/
def planned (t : Timestamp) : Document where
  headings := [{
    level := .int 1, title := { text := .str "A" }, planning := [⟨.str "SCHEDULED", t⟩], properties := [], logbook := []
    body := .str "", description := [] }]
  keywordSets := []
  configLines := []
  firstLines := []

theorem outcome_export_planned (k : Collector) (timestampText : Timestamp → Except Fault Text) (t : Timestamp) :
    ((planned t).export { collector := k, timestampText } none).outcome = (timestampText t).map fun text =>
      "* A\n  ".toList ++ Text.trimEnd ("SCHEDULED: ".toList ++ text) ++ ['\n'] := by
  -- There is no other timestamp in the document.
  have hconst : ((planned t).export { collector := k, timestampText } none).outcome =
      ((planned t).export { collector := k, timestampText := fun _ => timestampText t } none).outcome := rfl
  rw [hconst]
  cases timestampText t with
  | error f => rfl
  | ok text =>
    have hwrite : ((planned t).export { collector := k, timestampText := fun _ => .ok text } none).outcome =
        .ok ([] ++ ("* A\n".toList ++ planningLine "  ".toList ["SCHEDULED: ".toList ++ text] ++ [] ++ [] ++ [] ++ [])) := rfl
    rw [hwrite, planningLine, List.intercalate_singleton]
    simp only [List.append_nil, List.nil_append]
    rfl

/-- A document is exported with its absent fields filled as it is itself by a function that fills timestamps before it gives their
texts. This gives another text to a timestamp exactly if the timestamp is incomplete. So if no timestamp in the planning entries,
the values of the properties and the clocks is incomplete, the document is exported as it is itself; and for every incomplete
timestamp that has a text there is a document with no other one that is not. -/
theorem export_filled (d : Document) (k : Collector) (o : Option OptionSet) :
    d.filled.export { collector := k } o =
        d.export { collector := k, timestampText := fun t => t.filled.toText } o ∧
      ((∀ h ∈ d.headings, h.IsComplete) → d.filled.export { collector := k } o = d.export { collector := k } o) ∧
      (∀ t : Timestamp, t.filled.text = t.text ↔ t.IsComplete) ∧
      ∀ t : Timestamp, ((planned t).filled.export { collector := k } none).outcome =
        ((planned t).export { collector := k } none).outcome ↔ ((∃ text, t.toText = .ok text) → t.IsComplete) := by
  have hfilled : ∀ (d : Document) (o : Option OptionSet), d.filled.export { collector := k } o =
      d.export { collector := k, timestampText := fun t => t.filled.toText } o := by
    intro d o
    rw [export_eq_bind, export_eq_bind]
    refine bind_congr fun o => ?_
    rw [write_filled, comap_filled]
  refine ⟨hfilled d o, fun complete => ?_, fun t => t.cutUnless_text.eq_iff, fun t => ?_⟩
  · rw [export_eq_bind, export_eq_bind]
    refine bind_congr fun o => ?_
    rw [write_filled, write_comap_filled complete]
  · have htrim : ∀ u : Timestamp, Text.trimEnd ("SCHEDULED: ".toList ++ u.text) = "SCHEDULED: ".toList ++ u.text := by
      intro u
      have hbracket : isBlank u.brackets.2 = false := by
        unfold Timestamp.brackets
        split <;> decide
      rw [Timestamp.text, ← List.append_assoc]
      exact Text.trimEnd_concat _ hbracket
    rw [hfilled, outcome_export_planned, outcome_export_planned k Timestamp.toText t, t.toText_filled, Timestamp.toText]
    cases Json.checkShown t.shownValues with
    | error f => simp [Except.map]
    | ok _ =>
      simp only [Except.map, htrim, Except.ok.injEq, List.append_left_inj, List.append_right_inj, t.cutUnless_text.eq_iff,
        exists_eq', true_imp_iff]

/-- A day, with the given time of day. -/
def dayAt (hour minute : Json) : Timestamp :=
  { year := .str "2019", month := .str "01", day := .str "02", start := ⟨hour, minute⟩ }

theorem isComplete_dayAt {hour minute : Json} :
    (dayAt hour minute).IsComplete ↔ (hour.isSet = true → minute.isNull = false) :=
  ⟨fun h => h.start, fun h => ⟨h, nofun, nofun, nofun⟩⟩

/-- A document with absent fields but without incomplete timestamps. -/
def sparse : Document where
  headings := [{
    level := .int 1, title := { text := .str "A" }, planning := [⟨.str "CLOSED", dayAt (.str "10") (.str "00")⟩]
    properties := [⟨.str "P", [.link (.str "x") .null, .fraction .null (.int 2), .percentage .null, .stamp (dayAt .null .null) none]⟩]
    logbook := [.clock (dayAt .null .null) (some (dayAt (.str "01") (.str "30")))], body := .str "", description := [] }]
  keywordSets := []
  configLines := []
  firstLines := []

theorem export_filled_sparse :
    let text := "* A\n  CLOSED: <2019-01-02 10:00>\n  :PROPERTIES:\n  :P: [[x]][/2][%]<2019-01-02>\n  :END:\n".toList ++
      "  :LOGBOOK:\n  CLOCK: <2019-01-02>--<2019-01-02 01:30> =>  1:30\n  :END:\n".toList
    sparse.WellTyped ∧ (∀ h ∈ sparse.headings, h.IsComplete) ∧ (sparse.filled.export {} none).result? = some text ∧
      sparse.filled.export {} none = sparse.export {} none ∧
      ((planned (dayAt (.str "10") .null)).export {} none).result? = some "* A\n  SCHEDULED: <2019-01-02 10:None>\n".toList ∧
      ((planned (dayAt (.str "10") .null)).filled.export {} none).outcome ≠
        ((planned (dayAt (.str "10") .null)).export {} none).outcome := by
  intro text
  have timeless : (dayAt .null .null).IsComplete := isComplete_dayAt.2 (by decide)
  have complete : ∀ h ∈ sparse.headings, h.IsComplete := by
    refine List.forall_mem_singleton.2 ⟨List.forall_mem_singleton.2 (isComplete_dayAt.2 (by decide)), ?_, ?_⟩
    · refine List.forall_mem_singleton.2 fun t ht => ?_
      obtain rfl : t = dayAt .null .null := by
        simpa [Record.within, Property.within, withinParts, stampRecords] using ht
      exact timeless
    · refine List.forall_mem_singleton.2 (List.forall_mem_cons.2 ⟨timeless, List.forall_mem_singleton.2 ?_⟩)
      exact isComplete_dayAt.2 (by decide)
  have incomplete : ¬ (dayAt (.str "10") .null).IsComplete := fun h => absurd (isComplete_dayAt.1 h) (by decide)
  obtain ⟨-, same, -, tight⟩ := export_filled sparse .absent none
  exact ⟨by decide, complete, by decide +kernel, same complete, by decide +kernel,
    fun h => incomplete ((tight _).1 h ⟨_, rfl⟩)⟩

end Document

end OrgOutline
