import Mathlib.Data.List.Basic
import OrgOutline.Proofs.MapTimestamps

/-!
# Records that differ in their timestamps alone

Two records are the same apart from the contents of their timestamps when they are the same with every timestamp blank
(`Record.SameButStamps`). What stands at the same place of two such records is listed by `Record.pairs`. Any value can stand
in a field of a timestamp, so two timestamps can be kept in one (`Timestamp.both`). Main statement: two such records are the two
sides of one record (`Record.joins`), and what stands at one place of the sides are the sides of what stands there
(`Record.mem_pairs_sides`).
-/

namespace OrgOutline

/-! ## Two timestamps in one -/

namespace Timestamp

/-- A timestamp without contents. -/
def blank : Timestamp := { year := .null, month := .null, day := .null }

/-- Two timestamps kept in one. -/
def both (t u : Timestamp) : Timestamp := { year := .obj t.fields, month := .obj u.fields, day := .null }

/-- The timestamp whose fields a value holds. -/
def ofFields : Json → Timestamp
  | .obj members => (ofMembers members).toOption.getD blank
  | _ => blank

/-- The first of two timestamps kept in one. -/
def left (t : Timestamp) : Timestamp := ofFields t.year

/-- The second of two timestamps kept in one. -/
def right (t : Timestamp) : Timestamp := ofFields t.month

theorem left_both (t u : Timestamp) : (both t u).left = t := rfl

theorem right_both (t u : Timestamp) : (both t u).right = u := rfl

end Timestamp

/-! ## What is inside a changed record -/

section Inside

variable {f : Timestamp → Timestamp}

/-- The children of a changed record are the changed children. -/
theorem Record.children_mapTimestamps (r : Record) : (r.mapTimestamps f).children = r.children.map (Record.mapTimestamps f) := by
  cases r with
  | table rows => simp [mapTimestamps, children, mapRows_eq_map]
  | list items bullet ordered terminator => simp [mapTimestamps, children, mapItems_eq_map]
  | stamp first second => cases second <;> rfl
  | listItem item =>
    cases item
    simp [mapTimestamps, Item.mapTimestamps, children, mapParts_eq_map]
  | row cells => simp [mapTimestamps, children, mapCells_eq_map]
  | cell c =>
    cases c
    simp [mapTimestamps, Cell.mapTimestamps, children, mapParts_eq_map]
  | property p =>
    cases p
    simp [mapTimestamps, Property.mapTimestamps, children, mapParts_eq_map]
  | logEntry e =>
    cases e with
    | line words => rfl
    | clock start stop => cases stop <;> rfl
  | heading h =>
    cases h
    simp [mapTimestamps, Heading.mapTimestamps, children, mapProperties_eq_map, mapParts_eq_map, Function.comp_def]
  | document d =>
    cases d
    simp [mapTimestamps, Document.mapTimestamps, children, mapHeadings_eq_map, Function.comp_def]
  | _ => rfl

/-- What is inside a changed record is what is inside the record, changed. -/
theorem Record.within_mapTimestamps (r : Record) : (r.mapTimestamps f).within = r.within.map (Record.mapTimestamps f) := by
  induction r using childInduction with
  | step r ih =>
    rw [within_eq, within_eq r, children_mapTimestamps, List.map_cons, List.flatMap_map, List.map_flatMap]
    exact congrArg _ (List.flatMap_congr ih)

end Inside

/-! ## Records that differ in their timestamps alone -/

/-- Two records are the same apart from the contents of their timestamps. -/
def Record.SameButStamps (r r' : Record) : Prop :=
  r.mapTimestamps (fun _ => Timestamp.blank) = r'.mapTimestamps fun _ => Timestamp.blank

/-- A record of which the first record is the left side and the second one the right side. -/
def Record.HasSides (r r' k : Record) : Prop := k.mapTimestamps Timestamp.left = r ∧ k.mapTimestamps Timestamp.right = r'

/-- Whatever record is the same as this one apart from its timestamps, the two are the sides of one record. -/
def Record.Joins (r : Record) : Prop := ∀ r', r.SameButStamps r' → ∃ k, r.HasSides r' k

/-- What stands at the same places of two records, in the order in which records are loaded. -/
def Record.pairs (r r' : Record) : List (Record × Record) := r.within.zip r'.within

/-- What stands at one place of two sides are the sides of what stands there. -/
theorem Record.mem_pairs_sides {k x : Record} (hx : x ∈ k.within) :
    (x.mapTimestamps Timestamp.left, x.mapTimestamps Timestamp.right) ∈
      Record.pairs (k.mapTimestamps Timestamp.left) (k.mapTimestamps Timestamp.right) := by
  rw [pairs, within_mapTimestamps, within_mapTimestamps, List.zip_map', List.mem_map]
  exact ⟨x, hx, rfl⟩

/-- A way to take the elements of a list as records of one kind, by which they are changed as the records are. -/
structure WrapsAs {α : Type} (wrap : α → Record) (change : (Timestamp → Timestamp) → α → α) : Prop where
  inj : ∀ x y, wrap x = wrap y → x = y
  change : ∀ f x, (wrap x).mapTimestamps f = wrap (change f x)
  unwrap : ∀ k f x, Record.mapTimestamps f k = wrap x → ∃ y, k = wrap y

/-- Lists whose elements are the same apart from their timestamps are the sides of one list, if this holds of the elements. -/
theorem WrapsAs.exists_sides {α : Type} {wrap : α → Record} {change : (Timestamp → Timestamp) → α → α}
    (hw : WrapsAs wrap change) {xs xs' : List α}
    (h : ∀ c ∈ xs.map wrap, c.Joins)
    (same : xs.map (change fun _ => Timestamp.blank) = xs'.map (change fun _ => Timestamp.blank)) :
    ∃ ys : List α, ys.map (change Timestamp.left) = xs ∧ ys.map (change Timestamp.right) = xs' := by
  induction xs generalizing xs' with
  | nil =>
    obtain rfl : xs' = [] := List.map_eq_nil_iff.1 same.symm
    exact ⟨[], rfl, rfl⟩
  | cons x xs ih =>
    cases xs' with
    | nil => nomatch same
    | cons x' xs' =>
      obtain ⟨hx, hxs⟩ := List.forall_mem_cons.1 h
      obtain ⟨same, rest⟩ := List.cons.inj same
      obtain ⟨k, hleft, hright⟩ := hx (wrap x') (by rw [Record.SameButStamps, hw.change, hw.change, same])
      obtain ⟨y, rfl⟩ := hw.unwrap k _ x hleft
      rw [hw.change] at hleft hright
      obtain ⟨ys, hlefts, hrights⟩ := ih hxs rest
      exact ⟨y :: ys, by rw [List.map_cons, hw.inj _ _ hleft, hlefts], by rw [List.map_cons, hw.inj _ _ hright, hrights]⟩

theorem wrapsAs_part : WrapsAs id Record.mapTimestamps := ⟨fun _ _ h => h, fun _ _ => rfl, fun k _ _ _ => ⟨k, rfl⟩⟩

theorem wrapsAs_item : WrapsAs .listItem Item.mapTimestamps where
  inj _ _ := Record.listItem.inj
  change _ _ := rfl
  unwrap k f x h := by
    cases k with
    | listItem y => exact ⟨y, rfl⟩
    | _ => nomatch h

theorem wrapsAs_row : WrapsAs .row mapCells where
  inj _ _ := Record.row.inj
  change _ _ := rfl
  unwrap k f x h := by
    cases k with
    | row y => exact ⟨y, rfl⟩
    | _ => nomatch h

theorem wrapsAs_cell : WrapsAs .cell Cell.mapTimestamps where
  inj _ _ := Record.cell.inj
  change _ _ := rfl
  unwrap k f x h := by
    cases k with
    | cell y => exact ⟨y, rfl⟩
    | _ => nomatch h

theorem wrapsAs_planning : WrapsAs .planning PlanningEntry.mapTimestamps where
  inj _ _ := Record.planning.inj
  change _ _ := rfl
  unwrap k f x h := by
    cases k with
    | planning y => exact ⟨y, rfl⟩
    | _ => nomatch h

theorem wrapsAs_property : WrapsAs .property Property.mapTimestamps where
  inj _ _ := Record.property.inj
  change _ _ := rfl
  unwrap k f x h := by
    cases k with
    | property y => exact ⟨y, rfl⟩
    | _ => nomatch h

theorem wrapsAs_logEntry : WrapsAs .logEntry LogEntry.mapTimestamps where
  inj _ _ := Record.logEntry.inj
  change _ _ := rfl
  unwrap k f x h := by
    cases k with
    | logEntry y => exact ⟨y, rfl⟩
    | _ => nomatch h

theorem wrapsAs_heading : WrapsAs .heading Heading.mapTimestamps where
  inj _ _ := Record.heading.inj
  change _ _ := rfl
  unwrap k f x h := by
    cases k with
    | heading y => exact ⟨y, rfl⟩
    | _ => nomatch h

/-- Timestamps of a range that are the same apart from their contents are the sides of one range. -/
theorem exists_both_second {second second' : Option Timestamp}
    (same : second.map (fun _ => Timestamp.blank) = second'.map fun _ => Timestamp.blank) :
    ∃ k : Option Timestamp, k.map Timestamp.left = second ∧ k.map Timestamp.right = second' := by
  cases second with
  | none =>
    cases second' with
    | none => exact ⟨none, rfl, rfl⟩
    | some u => nomatch same
  | some t =>
    cases second' with
    | none => nomatch same
    | some u => exact ⟨some (Timestamp.both t u), rfl, rfl⟩

/-- A record that is no timestamp and has nothing inside is one with every record it is the same as. -/
theorem Record.joins_leaf {r : Record} (hr : r.children = []) (ht : ∀ t, r ≠ .timestamp t) : r.Joins := by
  intro r' same
  have hkeep : ∀ f, r.mapTimestamps f = r := fun f =>
    mapTimestamps_eq_self_of_children (fun t h => absurd h (ht t)) (by simp [hr])
  have hr' : r'.children = [] := by
    rw [SameButStamps, hkeep] at same
    rw [same, children_mapTimestamps] at hr
    exact List.map_eq_nil_iff.1 hr
  have ht' : ∀ t, r' = .timestamp t → (Timestamp.blank = t) := by
    rintro t rfl
    rw [SameButStamps, hkeep] at same
    exact absurd same (ht _)
  have heq : r'.mapTimestamps (fun _ => Timestamp.blank) = r' :=
    mapTimestamps_eq_self_of_children ht' (by simp [hr'])
  rw [SameButStamps, hkeep, heq] at same
  exact ⟨r, hkeep _, by rw [hkeep, same]⟩

/-! ### One lemma for each kind of record with something inside -/

theorem Record.joins_table {rows : List Row} (h : ∀ c ∈ (table rows).children, c.Joins) : (table rows).Joins := by
  intro r' same
  cases r' with
  | table rows' =>
    have hrows := Record.table.inj same
    rw [mapRows_eq_map, mapRows_eq_map] at hrows
    obtain ⟨ks, hl, hr⟩ := wrapsAs_row.exists_sides h hrows
    exact ⟨.table ks, by rw [mapTimestamps, mapRows_eq_map, hl], by rw [mapTimestamps, mapRows_eq_map, hr]⟩
  | _ => exact Record.noConfusion same

theorem Record.joins_list {items : List Item} {bullet ordered terminator : Json}
    (h : ∀ c ∈ (list items bullet ordered terminator).children, c.Joins) :
    (list items bullet ordered terminator).Joins := by
  intro r' same
  cases r' with
  | list items' bullet' ordered' terminator' =>
    obtain ⟨hitems, rfl, rfl, rfl⟩ := Record.list.inj same
    rw [mapItems_eq_map, mapItems_eq_map] at hitems
    obtain ⟨ks, hl, hr⟩ := wrapsAs_item.exists_sides h hitems
    exact ⟨.list ks bullet ordered terminator, by rw [mapTimestamps, mapItems_eq_map, hl],
      by rw [mapTimestamps, mapItems_eq_map, hr]⟩
  | _ => exact Record.noConfusion same

theorem Record.joins_stamp (first : Timestamp) (second : Option Timestamp) : (stamp first second).Joins := by
  intro r' same
  cases r' with
  | stamp first' second' =>
    obtain ⟨ks, hl, hr⟩ := exists_both_second (Record.stamp.inj same).2
    exact ⟨.stamp (.both first first') ks, by rw [mapTimestamps, hl, Timestamp.left_both],
      by rw [mapTimestamps, hr, Timestamp.right_both]⟩
  | _ => exact Record.noConfusion same

theorem Record.joins_timestamp (t : Timestamp) : (timestamp t).Joins := by
  intro r' same
  cases r' with
  | timestamp u => exact ⟨.timestamp (.both t u), rfl, rfl⟩
  | _ => exact Record.noConfusion same

theorem Record.joins_listItem {item : Item} (h : ∀ c ∈ (listItem item).children, c.Joins) : (listItem item).Joins := by
  intro r' same
  cases r' with
  | listItem item' =>
    obtain ⟨title, contents, checkbox, state, counter⟩ := item
    obtain ⟨title', contents', checkbox', state', counter'⟩ := item'
    obtain ⟨htitle, hcontents, rfl, rfl, rfl⟩ := Item.mk.inj (Record.listItem.inj same)
    rw [mapParts_eq_map, mapParts_eq_map] at htitle hcontents
    obtain ⟨ih1, ih2⟩ := List.forall_mem_append.1 h
    obtain ⟨ks, hl, hr⟩ := wrapsAs_part.exists_sides (by rwa [List.map_id]) htitle
    obtain ⟨ms, hl', hr'⟩ := wrapsAs_part.exists_sides (by rwa [List.map_id]) hcontents
    refine ⟨.listItem ⟨ks, ms, checkbox, state, counter⟩, ?_, ?_⟩
    · rw [mapTimestamps, Item.mapTimestamps, mapParts_eq_map, mapParts_eq_map, hl, hl']
    · rw [mapTimestamps, Item.mapTimestamps, mapParts_eq_map, mapParts_eq_map, hr, hr']
  | _ => exact Record.noConfusion same

theorem Record.joins_row {cells : Row} (h : ∀ c ∈ (row cells).children, c.Joins) : (row cells).Joins := by
  intro r' same
  cases r' with
  | row cells' =>
    have hcells := Record.row.inj same
    rw [mapCells_eq_map, mapCells_eq_map] at hcells
    obtain ⟨ks, hl, hr⟩ := wrapsAs_cell.exists_sides h hcells
    exact ⟨.row ks, by rw [mapTimestamps, mapCells_eq_map, hl], by rw [mapTimestamps, mapCells_eq_map, hr]⟩
  | _ => exact Record.noConfusion same

theorem Record.joins_cell {c : Cell} (h : ∀ x ∈ (cell c).children, x.Joins) : (cell c).Joins := by
  intro r' same
  cases r' with
  | cell c' =>
    obtain ⟨content, raw⟩ := c
    obtain ⟨content', raw'⟩ := c'
    obtain ⟨hcontent, rfl⟩ := Cell.mk.inj (Record.cell.inj same)
    rw [mapParts_eq_map, mapParts_eq_map] at hcontent
    obtain ⟨ks, hl, hr⟩ := wrapsAs_part.exists_sides (by rwa [List.map_id]) hcontent
    exact ⟨.cell ⟨ks, raw⟩, by rw [mapTimestamps, Cell.mapTimestamps, mapParts_eq_map, hl],
      by rw [mapTimestamps, Cell.mapTimestamps, mapParts_eq_map, hr]⟩
  | _ => exact Record.noConfusion same

theorem Record.joins_planning (i : PlanningEntry) : (planning i).Joins := by
  intro r' same
  cases r' with
  | planning i' =>
    obtain ⟨kind, t⟩ := i
    obtain ⟨kind', u⟩ := i'
    obtain ⟨rfl, -⟩ := PlanningEntry.mk.inj (Record.planning.inj same)
    exact ⟨.planning ⟨kind, .both t u⟩, rfl, rfl⟩
  | _ => exact Record.noConfusion same

theorem Record.joins_property {p : Property} (h : ∀ c ∈ (property p).children, c.Joins) : (property p).Joins := by
  intro r' same
  cases r' with
  | property p' =>
    obtain ⟨name, value⟩ := p
    obtain ⟨name', value'⟩ := p'
    obtain ⟨rfl, hvalue⟩ := Property.mk.inj (Record.property.inj same)
    rw [mapParts_eq_map, mapParts_eq_map] at hvalue
    obtain ⟨ks, hl, hr⟩ := wrapsAs_part.exists_sides (by rwa [List.map_id]) hvalue
    exact ⟨.property ⟨name, ks⟩, by rw [mapTimestamps, Property.mapTimestamps, mapParts_eq_map, hl],
      by rw [mapTimestamps, Property.mapTimestamps, mapParts_eq_map, hr]⟩
  | _ => exact Record.noConfusion same

theorem Record.joins_clock (start : Timestamp) (stop : Option Timestamp) : (logEntry (.clock start stop)).Joins := by
  intro r' same
  cases r' with
  | logEntry e' =>
    cases e' with
    | line words => exact Record.noConfusion same fun h => LogEntry.noConfusion h
    | clock start' stop' =>
      obtain ⟨ks, hl, hr⟩ := exists_both_second (LogEntry.clock.inj (Record.logEntry.inj same)).2
      exact ⟨.logEntry (.clock (.both start start') ks),
        by rw [mapTimestamps, LogEntry.mapTimestamps, hl, Timestamp.left_both],
        by rw [mapTimestamps, LogEntry.mapTimestamps, hr, Timestamp.right_both]⟩
  | _ => exact Record.noConfusion same

theorem Record.joins_heading {x : Heading} (h : ∀ c ∈ (heading x).children, c.Joins) : (heading x).Joins := by
  intro r' same
  cases r' with
  | heading x' =>
    obtain ⟨level, title, planning, properties, logbook, body, description⟩ := x
    obtain ⟨level', title', planning', properties', logbook', body', description'⟩ := x'
    obtain ⟨rfl, rfl, hplanning, hproperties, hlogbook, rfl, hdescription⟩ := Heading.mk.inj (Record.heading.inj same)
    rw [mapProperties_eq_map, mapProperties_eq_map] at hproperties
    rw [mapParts_eq_map, mapParts_eq_map] at hdescription
    simp only [children, List.cons_append, List.forall_mem_cons, List.forall_mem_append] at h
    obtain ⟨-, ⟨⟨ih1, ih2⟩, ih3⟩, ih4⟩ := h
    obtain ⟨is, hl1, hr1⟩ := wrapsAs_planning.exists_sides ih1 hplanning
    obtain ⟨ps, hl2, hr2⟩ := wrapsAs_property.exists_sides ih2 hproperties
    obtain ⟨es, hl3, hr3⟩ := wrapsAs_logEntry.exists_sides ih3 hlogbook
    obtain ⟨ks, hl4, hr4⟩ := wrapsAs_part.exists_sides (by rwa [List.map_id]) hdescription
    refine ⟨.heading ⟨level, title, is, ps, es, body, ks⟩, ?_, ?_⟩
    · rw [mapTimestamps, Heading.mapTimestamps, mapProperties_eq_map, mapParts_eq_map, hl1, hl2, hl3, hl4]
    · rw [mapTimestamps, Heading.mapTimestamps, mapProperties_eq_map, mapParts_eq_map, hr1, hr2, hr3, hr4]
  | _ => exact Record.noConfusion same

theorem Record.joins_document {d : Document} (h : ∀ c ∈ (document d).children, c.Joins) : (document d).Joins := by
  intro r' same
  cases r' with
  | document d' =>
    obtain ⟨headings, keywordSets, configLines, firstLines⟩ := d
    obtain ⟨headings', keywordSets', configLines', firstLines'⟩ := d'
    obtain ⟨hheadings, rfl, rfl, rfl⟩ := Document.mk.inj (Record.document.inj same)
    rw [mapHeadings_eq_map, mapHeadings_eq_map] at hheadings
    obtain ⟨hs, hl, hr⟩ := wrapsAs_heading.exists_sides (List.forall_mem_append.1 h).1 hheadings
    exact ⟨.document ⟨hs, keywordSets, configLines, firstLines⟩,
      by rw [mapTimestamps, Document.mapTimestamps, mapHeadings_eq_map, hl],
      by rw [mapTimestamps, Document.mapTimestamps, mapHeadings_eq_map, hr]⟩
  | _ => exact Record.noConfusion same

/-- Two records that are the same apart from their timestamps are the sides of one record. -/
theorem Record.joins (r : Record) : r.Joins := by
  induction r using childInduction with
  | step r ih =>
    cases r with
    | table rows => exact joins_table ih
    | list items bullet ordered terminator => exact joins_list ih
    | stamp first second => exact joins_stamp first second
    | timestamp t => exact joins_timestamp t
    | listItem item => exact joins_listItem ih
    | row cells => exact joins_row ih
    | cell c => exact joins_cell ih
    | planning i => exact joins_planning i
    | property p => exact joins_property ih
    | logEntry e =>
      cases e with
      | line words => exact joins_leaf rfl fun _ h => Record.noConfusion h
      | clock start stop => exact joins_clock start stop
    | heading x => exact joins_heading ih
    | document d => exact joins_document ih
    | _ => exact joins_leaf rfl fun _ h => Record.noConfusion h

/-- Two documents that are the same apart from their timestamps are the sides of one document. -/
theorem Document.exists_both (d d' : Document) (same : (Record.document d).SameButStamps (.document d')) :
    ∃ k : Document, k.mapTimestamps Timestamp.left = d ∧ k.mapTimestamps Timestamp.right = d' := by
  obtain ⟨k, hl, hr⟩ := (Record.document d).joins _ same
  cases k with
  | document k => exact ⟨k, Record.document.inj hl, Record.document.inj hr⟩
  | _ => nomatch hl

end OrgOutline
