import OrgOutline.Proofs.Within

/-!
# Changing the timestamps of a record

`Record.mapTimestamps` applies a function to every timestamp at any depth of a record and leaves everything else as it is.
Main statement: where the function keeps every timestamp inside, the record stays the same (`Record.mapTimestamps_eq_self`).
-/

namespace OrgOutline

/-- An entry of a planning line with its timestamp changed. -/
def PlanningEntry.mapTimestamps (f : Timestamp → Timestamp) (i : PlanningEntry) : PlanningEntry :=
  { i with timestamp := f i.timestamp }

/-- An entry of a logbook with its timestamps changed. -/
def LogEntry.mapTimestamps (f : Timestamp → Timestamp) : LogEntry → LogEntry
  | .line text => .line text
  | .clock start stop => .clock (f start) (stop.map f)

mutual
/-- A record with its timestamps changed at any depth. -/
def Record.mapTimestamps (f : Timestamp → Timestamp) : Record → Record
  | .table rows => .table (mapRows f rows)
  | .list items bullet ordered terminator => .list (mapItems f items) bullet ordered terminator
  | .stamp first second => .stamp (f first) (second.map f)
  | .timestamp t => .timestamp (f t)
  | .listItem item => .listItem (item.mapTimestamps f)
  | .row cells => .row (mapCells f cells)
  | .cell c => .cell (c.mapTimestamps f)
  | .planning i => .planning (i.mapTimestamps f)
  | .property p => .property (p.mapTimestamps f)
  | .logEntry e => .logEntry (e.mapTimestamps f)
  | .heading h => .heading (h.mapTimestamps f)
  | .document d => .document (d.mapTimestamps f)
  | r => r
termination_by structural x => x

/-- An item of a list with its timestamps changed. -/
def Item.mapTimestamps (f : Timestamp → Timestamp) : Item → Item
  | ⟨title, contents, checkbox, state, counter⟩ => ⟨mapParts f title, mapParts f contents, checkbox, state, counter⟩
termination_by structural x => x

/-- A cell of a table with its timestamps changed. -/
def Cell.mapTimestamps (f : Timestamp → Timestamp) : Cell → Cell
  | ⟨content, raw⟩ => ⟨mapParts f content, raw⟩
termination_by structural x => x

/-- A property with its timestamps changed. -/
def Property.mapTimestamps (f : Timestamp → Timestamp) : Property → Property
  | ⟨name, value⟩ => ⟨name, mapParts f value⟩
termination_by structural x => x

/-- A heading with its timestamps changed. -/
def Heading.mapTimestamps (f : Timestamp → Timestamp) : Heading → Heading
  | ⟨level, title, planning, properties, logbook, body, description⟩ =>
    ⟨level, title, planning.map (PlanningEntry.mapTimestamps f), mapProperties f properties,
      logbook.map (LogEntry.mapTimestamps f), body, mapParts f description⟩
termination_by structural x => x

/-- A document with its timestamps changed. -/
def Document.mapTimestamps (f : Timestamp → Timestamp) : Document → Document
  | ⟨headings, keywordSets, configLines, firstLines⟩ => ⟨mapHeadings f headings, keywordSets, configLines, firstLines⟩
termination_by structural x => x

/-- Running text with its timestamps changed. -/
def mapParts (f : Timestamp → Timestamp) : List Record → List Record
  | [] => []
  | r :: rs => r.mapTimestamps f :: mapParts f rs
termination_by structural x => x

/-- Items with their timestamps changed. -/
def mapItems (f : Timestamp → Timestamp) : List Item → List Item
  | [] => []
  | i :: is => i.mapTimestamps f :: mapItems f is
termination_by structural x => x

/-- Rows with their timestamps changed. -/
def mapRows (f : Timestamp → Timestamp) : List (List Cell) → List (List Cell)
  | [] => []
  | r :: rs => mapCells f r :: mapRows f rs
termination_by structural x => x

/-- Cells with their timestamps changed. -/
def mapCells (f : Timestamp → Timestamp) : List Cell → List Cell
  | [] => []
  | c :: cs => c.mapTimestamps f :: mapCells f cs
termination_by structural x => x

/-- Properties with their timestamps changed. -/
def mapProperties (f : Timestamp → Timestamp) : List Property → List Property
  | [] => []
  | p :: ps => p.mapTimestamps f :: mapProperties f ps
termination_by structural x => x

/-- Headings with their timestamps changed. -/
def mapHeadings (f : Timestamp → Timestamp) : List Heading → List Heading
  | [] => []
  | h :: hs => h.mapTimestamps f :: mapHeadings f hs
termination_by structural x => x
end

/-! ## Lists -/

variable (f : Timestamp → Timestamp)

theorem mapParts_eq_map (rs : Parts) : mapParts f rs = rs.map (Record.mapTimestamps f) := by
  induction rs with
  | nil => simp [mapParts]
  | cons r rs ih => simp [mapParts, ih]

theorem mapItems_eq_map (is : List Item) : mapItems f is = is.map (Item.mapTimestamps f) := by
  induction is with
  | nil => simp [mapItems]
  | cons i is ih => simp [mapItems, ih]

theorem mapCells_eq_map (cs : Row) : mapCells f cs = cs.map (Cell.mapTimestamps f) := by
  induction cs with
  | nil => simp [mapCells]
  | cons c cs ih => simp [mapCells, ih]

theorem mapRows_eq_map (rs : List Row) : mapRows f rs = rs.map (mapCells f) := by
  induction rs with
  | nil => simp [mapRows]
  | cons r rs ih => simp [mapRows, ih]

theorem mapProperties_eq_map (ps : List Property) : mapProperties f ps = ps.map (Property.mapTimestamps f) := by
  induction ps with
  | nil => simp [mapProperties]
  | cons p ps ih => simp [mapProperties, ih]

theorem mapHeadings_eq_map (hs : List Heading) : mapHeadings f hs = hs.map (Heading.mapTimestamps f) := by
  induction hs with
  | nil => simp [mapHeadings]
  | cons h hs ih => simp [mapHeadings, ih]

/-! ## Records that stay the same -/

variable {f}

/-- Elements that stay the same as records stay the same in their list. -/
theorem map_eq_self_of_wrapped {α : Type} {g : α → α} {w : α → Record} (hw : ∀ x y, w x = w y → x = y)
    (hg : ∀ x, (w x).mapTimestamps f = w (g x)) {xs : List α} (h : ∀ c ∈ xs.map w, c.mapTimestamps f = c) :
    xs.map g = xs := by
  have hs : xs.map g = xs.map id :=
    List.map_congr_left fun x hx => hw _ _ ((hg x).symm.trans (h _ (List.mem_map_of_mem hx)))
  rw [hs, List.map_id]

/-- The timestamps of a range that stay the same as records stay the same. -/
theorem stampRecords_eq_self {first : Timestamp} {second : Option Timestamp}
    (h : ∀ c ∈ stampRecords first second, c.mapTimestamps f = c) : f first = first ∧ second.map f = second := by
  have h1 := h (.timestamp first) List.mem_cons_self
  refine ⟨Record.timestamp.inj h1, ?_⟩
  cases second with
  | none => rfl
  | some t =>
    have h2 := h (.timestamp t) (by simp [stampRecords])
    exact congrArg some (Record.timestamp.inj h2)

/-- A record whose children stay the same stays the same, unless it is a timestamp. -/
theorem Record.mapTimestamps_eq_self_of_children {r : Record} (ht : ∀ t, r = .timestamp t → f t = t)
    (h : ∀ c ∈ r.children, c.mapTimestamps f = c) : r.mapTimestamps f = r := by
  cases r with
  | table rows =>
    have hrows := map_eq_self_of_wrapped (g := mapCells f) (fun _ _ => Record.row.inj) (fun _ => rfl) h
    rw [Record.mapTimestamps, mapRows_eq_map, hrows]
  | list items bullet ordered terminator =>
    have hitems := map_eq_self_of_wrapped (g := Item.mapTimestamps f) (fun _ _ => Record.listItem.inj) (fun _ => rfl) h
    rw [Record.mapTimestamps, mapItems_eq_map, hitems]
  | stamp first second =>
    obtain ⟨h1, h2⟩ := stampRecords_eq_self h
    rw [Record.mapTimestamps, h1, h2]
  | timestamp t => rw [Record.mapTimestamps, ht t rfl]
  | listItem item =>
    obtain ⟨title, contents, checkbox, state, counter⟩ := item
    have h1 := List.map_congr_left fun x (hx : x ∈ title) => h x (List.mem_append_left _ hx)
    have h2 := List.map_congr_left fun x (hx : x ∈ contents) => h x (List.mem_append_right _ hx)
    rw [Record.mapTimestamps, Item.mapTimestamps, mapParts_eq_map, mapParts_eq_map, h1, h2, List.map_id', List.map_id']
  | row cells =>
    have hcells := map_eq_self_of_wrapped (g := Cell.mapTimestamps f) (fun _ _ => Record.cell.inj) (fun _ => rfl) h
    rw [Record.mapTimestamps, mapCells_eq_map, hcells]
  | cell c =>
    obtain ⟨content, raw⟩ := c
    have hc := List.map_congr_left fun x (hx : x ∈ content) => h x hx
    rw [Record.mapTimestamps, Cell.mapTimestamps, mapParts_eq_map, hc, List.map_id']
  | planning i =>
    have hi : f i.timestamp = i.timestamp := Record.timestamp.inj (h _ List.mem_cons_self)
    rw [Record.mapTimestamps, PlanningEntry.mapTimestamps, hi]
  | property p =>
    obtain ⟨name, value⟩ := p
    have hv := List.map_congr_left fun x (hx : x ∈ value) => h x hx
    rw [Record.mapTimestamps, Property.mapTimestamps, mapParts_eq_map, hv, List.map_id']
  | logEntry e =>
    cases e with
    | line words => rfl
    | clock start stop =>
      obtain ⟨h1, h2⟩ := stampRecords_eq_self h
      rw [Record.mapTimestamps, LogEntry.mapTimestamps, h1, h2]
  | heading h' =>
    obtain ⟨level, title, planning, properties, logbook, body, description⟩ := h'
    simp only [Record.children, List.cons_append, List.forall_mem_cons, List.forall_mem_append] at h
    obtain ⟨-, ⟨⟨h1, h2⟩, h3⟩, h4⟩ := h
    have h1 := map_eq_self_of_wrapped (g := PlanningEntry.mapTimestamps f) (fun _ _ => Record.planning.inj) (fun _ => rfl) h1
    have h2 := map_eq_self_of_wrapped (g := Property.mapTimestamps f) (fun _ _ => Record.property.inj) (fun _ => rfl) h2
    have h3 := map_eq_self_of_wrapped (g := LogEntry.mapTimestamps f) (fun _ _ => Record.logEntry.inj) (fun _ => rfl) h3
    have h4 := List.map_congr_left fun x (hx : x ∈ description) => h4 x hx
    rw [Record.mapTimestamps, Heading.mapTimestamps, mapProperties_eq_map, mapParts_eq_map, h1, h2, h3, h4, List.map_id']
  | document d =>
    obtain ⟨headings, keywordSets, configLines, firstLines⟩ := d
    have hh := map_eq_self_of_wrapped (g := Heading.mapTimestamps f) (fun _ _ => Record.heading.inj) (fun _ => rfl)
      (fun c hc => h c (List.mem_append_left _ hc))
    rw [Record.mapTimestamps, Document.mapTimestamps, mapHeadings_eq_map, hh]
  | _ => rfl

/-- Where the function keeps every timestamp inside, the record stays the same. -/
theorem Record.mapTimestamps_eq_self (r : Record) (h : ∀ t, .timestamp t ∈ r.within → f t = t) :
    r.mapTimestamps f = r := by
  induction r using Record.childInduction with
  | step r ih =>
    refine mapTimestamps_eq_self_of_children ?_ ?_
    · rintro t rfl
      exact h t (mem_within_self _)
    · intro c hc
      exact ih c hc fun t ht => h t (mem_within_of_mem_children hc ht)

end OrgOutline
