import OrgOutline.Proofs.MapTimestamps
import OrgOutline.Proofs.Mapped

/-!
# Writing changed timestamps

Timestamps reach a text only through the functions of the setup. Main statements: writing a record or a document whose
timestamps have been changed is writing it as it is with a setup whose functions look at the changed timestamps
(`Setup.comap`, `Record.write_mapTimestamps`, `Document.write_mapTimestamps`).
-/

namespace OrgOutline

/-- The setup whose functions look at a timestamp as it is after a change. -/
def Setup.comap (f : Timestamp → Timestamp) (s : Setup) : Setup :=
  { s with
    timestampText := fun t => s.timestampText (f t)
    durationText := fun start stop => s.durationText (f start) (f stop)
    keepsEntry := fun i => s.keepsEntry (i.mapTimestamps f) }

variable {s : Setup} {f : Timestamp → Timestamp}

/-! ## Running text -/

theorem Record.isBlock_mapTimestamps (r : Record) : (r.mapTimestamps f).isBlock = r.isBlock := by
  cases r <;> rfl

theorem stampText_map (first : Timestamp) (second : Option Timestamp) :
    stampText s (f first) (second.map f) = stampText (s.comap f) first second := by
  cases second <;> rfl

/-- Running text whose parts are written as with the other setup is written so itself. -/
theorem writeParts_mapParts {rs : Parts} {view : View}
    (h : ∀ r ∈ rs, (r.mapTimestamps f).write s view = r.write (s.comap f) view) :
    Parts.write s view (mapParts f rs) = Parts.write (s.comap f) view rs := by
  rw [mapParts_eq_map]
  exact writeParts_map fun r hr => ⟨r.isBlock_mapTimestamps, h r hr⟩

theorem Item.writesAs_mapTimestamps {i : Item} {view : View}
    (h : ∀ r ∈ i.title ++ i.contents, (r.mapTimestamps f).write s view = r.write (s.comap f) view) :
    (i.mapTimestamps f).WritesAs s (s.comap f) view i := by
  obtain ⟨title, contents, checkbox, state, counter⟩ := i
  obtain ⟨ht, hc⟩ := List.forall_mem_append.1 h
  exact ⟨rfl, rfl, writeParts_mapParts ht, writeParts_mapParts hc⟩

theorem Cell.raw_mapTimestamps (c : Cell) : (c.mapTimestamps f).raw = c.raw := by
  cases c
  rfl

theorem Cell.measuresAs_mapTimestamps {c : Cell}
    (h : ∀ r ∈ c.content, (r.mapTimestamps f).write s .seen = r.write (s.comap f) .seen) :
    (c.mapTimestamps f).MeasuresAs s (s.comap f) c := by
  cases c
  exact ⟨rfl, writeParts_mapParts h⟩

/-- Writing a record whose timestamps have been changed. -/
theorem Record.write_mapTimestamps (r : Record) (view : View) :
    (r.mapTimestamps f).write s view = r.write (s.comap f) view := by
  induction r using Record.withinInduction generalizing view with
  | step r ih =>
    cases r with
    | stamp first second =>
      rw [mapTimestamps, write, write, stampText_map]
    | list items bullet ordered terminator =>
      have h : ∀ i ∈ items, (i.mapTimestamps f).WritesAs s (s.comap f) view i :=
        fun i hi => Item.writesAs_mapTimestamps fun r hr =>
          ih (.listItem i) (List.mem_map_of_mem hi) r (mem_within_of_mem_children hr (mem_within_self r)) view
      rw [mapTimestamps, write, write, mapItems_eq_map, writeItems_map h]
    | table rows =>
      have h : ∀ row ∈ rows, ∀ c ∈ row, (c.mapTimestamps f).MeasuresAs s (s.comap f) c :=
        fun row hrow c hc => Cell.measuresAs_mapTimestamps fun r hr => ih (.row row) (List.mem_map_of_mem hrow) r
          (mem_within_of_mem_children (List.mem_map_of_mem hc) (mem_within_of_mem_children hr (mem_within_self r))) .seen
      have hrows : mapRows f rows = rows.map (List.map (Cell.mapTimestamps f)) := by
        rw [mapRows_eq_map]
        exact List.map_congr_left fun row _ => mapCells_eq_map f row
      rw [mapTimestamps, hrows]
      exact write_table_map Cell.raw_mapTimestamps h
    | logEntry e => cases e <;> rfl
    | _ => rfl

/-! ## Headings and documents -/

theorem keptEntries_map (is : List PlanningEntry) : keptEntries s (is.map (PlanningEntry.mapTimestamps f)) =
    List.map (PlanningEntry.mapTimestamps f) <$> keptEntries (s.comap f) is := by
  induction is with
  | nil => rfl
  | cons i is ih =>
    have hkeep : s.keepsEntry (i.mapTimestamps f) = (s.comap f).keepsEntry i := rfl
    rw [List.map_cons, keptEntries, keptEntries, ih, hkeep]
    simp only [map_bind, bind_map_left, map_pure]
    refine bind_congr ?_
    intro keep
    refine bind_congr ?_
    intro rest
    cases keep <;> rfl

theorem writePlanning_map (indentation : Text) (is : List PlanningEntry) :
    writePlanning s indentation (is.map (PlanningEntry.mapTimestamps f)) = writePlanning (s.comap f) indentation is := by
  have htexts : ∀ kept : List PlanningEntry,
      (kept.map (PlanningEntry.mapTimestamps f)).mapM (planningText s) = kept.mapM (planningText (s.comap f)) :=
    fun _ => List.mapM_map
  simp only [writePlanning, keptEntries_map, bind_map_left, htexts]

theorem writeProperties_mapProperties (ps : List Property) :
    writeProperties s (mapProperties f ps) = writeProperties (s.comap f) ps := by
  rw [mapProperties_eq_map]
  refine writeProperties_map fun p _ => ?_
  cases p
  exact ⟨rfl, writeParts_mapParts fun r _ => r.write_mapTimestamps .raw⟩

theorem writeLogbook_map (indentation : Text) (es : List LogEntry) :
    writeLogbook s indentation (es.map (LogEntry.mapTimestamps f)) = writeLogbook (s.comap f) indentation es := by
  induction es with
  | nil => rfl
  | cons e es ih =>
    have he : writeLogEntry s indentation (e.mapTimestamps f) = writeLogEntry (s.comap f) indentation e := by
      cases e with
      | line words => rfl
      | clock start stop => cases stop <;> rfl
    rw [List.map_cons, writeLogbook, writeLogbook, he, ih]

theorem Heading.write_mapTimestamps (h : Heading) (withLine : Bool) (flush : Json) :
    (h.mapTimestamps f).write s withLine flush = h.write (s.comap f) withLine flush := by
  obtain ⟨level, title, planning, properties, logbook, body, description⟩ := h
  simp only [Heading.mapTimestamps, Heading.write, writePlanning_map, writeProperties_mapProperties, writeLogbook_map]
  rfl

theorem writeHeadings_mapHeadings (hs : List Heading) : writeHeadings s (mapHeadings f hs) = writeHeadings (s.comap f) hs := by
  rw [mapHeadings_eq_map]
  exact writeHeadings_map fun h _ => h.write_mapTimestamps true .null

/-- Writing a document whose timestamps have been changed. -/
theorem Document.write_mapTimestamps (d : Document) : (d.mapTimestamps f).write s = d.write (s.comap f) := by
  obtain ⟨headings, keywordSets, configLines, firstLines⟩ := d
  have hlength : (mapHeadings f headings).length = headings.length := by rw [mapHeadings_eq_map, List.length_map]
  simp only [Document.mapTimestamps, Document.write, writeHeadings_mapHeadings, hlength]
  rfl

end OrgOutline
