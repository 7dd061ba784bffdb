import OrgOutline.Record.Basic

/-!
# What is inside a record

The records that stand directly inside a record are its children (`Record.children`): the parts of running text, and the
items, rows, cells, properties, headings, titles, entries and timestamps that the record is made of, each taken as a record
of its kind. All that is inside at any depth, the record itself first, is listed by `Record.within`, in the order in which a
record is loaded. Main statements: `within` is the record followed by what is within its children (`Record.within_eq`), and
what holds of a record as soon as it holds of its children holds of every record (`Record.childInduction`).
-/

namespace OrgOutline

/-- The timestamps of a range, each as a record. -/
def stampRecords (first : Timestamp) (second : Option Timestamp) : List Record :=
  .timestamp first :: second.toList.map .timestamp

/-- The records directly inside a record, in the order in which they are loaded. -/
def Record.children : Record → List Record
  | .table rows => rows.map .row
  | .list items _ _ _ => items.map .listItem
  | .stamp first second => stampRecords first second
  | .listItem item => item.title ++ item.contents
  | .row cells => cells.map .cell
  | .cell c => c.content
  | .planning i => [.timestamp i.timestamp]
  | .property p => p.value
  | .logEntry (.clock start stop) => stampRecords start stop
  | .heading h =>
    .title h.title :: h.planning.map .planning ++ h.properties.map .property ++ h.logbook.map .logEntry ++ h.description
  | .document d => d.headings.map .heading ++ d.keywordSets.map .keywordSet
  | _ => []

/-- An entry of a planning line and its timestamp. -/
def PlanningEntry.within (i : PlanningEntry) : List Record := [.planning i, .timestamp i.timestamp]

/-- An entry of a logbook and its timestamps. -/
def LogEntry.within : LogEntry → List Record
  | .line text => [.logEntry (.line text)]
  | .clock start stop => .logEntry (.clock start stop) :: stampRecords start stop

mutual
/-- The record and all that is inside it at any depth, in the order in which it is loaded. -/
def Record.within : Record → List Record
  | .table rows => .table rows :: withinRows rows
  | .list items bullet ordered terminator => .list items bullet ordered terminator :: withinItems items
  | .stamp first second => .stamp first second :: stampRecords first second
  | .listItem item => item.within
  | .row cells => .row cells :: withinCells cells
  | .cell c => c.within
  | .planning i => i.within
  | .property p => p.within
  | .logEntry e => e.within
  | .heading h => h.within
  | .document d => d.within
  | r => [r]
termination_by structural x => x

/-- An item of a list and all that is inside it. -/
def Item.within : Item → List Record
  | ⟨title, contents, checkbox, state, counter⟩ =>
    .listItem ⟨title, contents, checkbox, state, counter⟩ :: (withinParts title ++ withinParts contents)
termination_by structural x => x

/-- A cell of a table and all that is inside it. -/
def Cell.within : Cell → List Record
  | ⟨content, raw⟩ => .cell ⟨content, raw⟩ :: withinParts content
termination_by structural x => x

/-- A property and all that is inside it. -/
def Property.within : Property → List Record
  | ⟨name, value⟩ => .property ⟨name, value⟩ :: withinParts value
termination_by structural x => x

/-- A heading and all that is inside it. -/
def Heading.within : Heading → List Record
  | ⟨level, title, planning, properties, logbook, body, description⟩ =>
    .heading ⟨level, title, planning, properties, logbook, body, description⟩ :: .title title ::
      (planning.flatMap PlanningEntry.within ++ withinProperties properties ++ logbook.flatMap LogEntry.within ++
        withinParts description)
termination_by structural x => x

/-- A document and all that is inside it. -/
def Document.within : Document → List Record
  | ⟨headings, keywordSets, configLines, firstLines⟩ =>
    .document ⟨headings, keywordSets, configLines, firstLines⟩ ::
      (withinHeadings headings ++ keywordSets.map .keywordSet)
termination_by structural x => x

/-- All that is inside running text. -/
def withinParts : List Record → List Record
  | [] => []
  | r :: rs => r.within ++ withinParts rs
termination_by structural x => x

/-- All that is inside the items of a list. -/
def withinItems : List Item → List Record
  | [] => []
  | i :: is => i.within ++ withinItems is
termination_by structural x => x

/-- All that is inside the rows of a table. -/
def withinRows : List (List Cell) → List Record
  | [] => []
  | r :: rs => .row r :: (withinCells r ++ withinRows rs)
termination_by structural x => x

/-- All that is inside the cells of a row. -/
def withinCells : List Cell → List Record
  | [] => []
  | c :: cs => c.within ++ withinCells cs
termination_by structural x => x

/-- All that is inside properties. -/
def withinProperties : List Property → List Record
  | [] => []
  | p :: ps => p.within ++ withinProperties ps
termination_by structural x => x

/-- All that is inside headings. -/
def withinHeadings : List Heading → List Record
  | [] => []
  | h :: hs => h.within ++ withinHeadings hs
termination_by structural x => x
end

/-! ## Lists -/

theorem withinParts_eq_flatMap (rs : Parts) : withinParts rs = rs.flatMap Record.within := by
  induction rs with
  | nil => simp [withinParts]
  | cons r rs ih => simp [withinParts, ih]

theorem withinItems_eq_flatMap (is : List Item) : withinItems is = is.flatMap Item.within := by
  induction is with
  | nil => simp [withinItems]
  | cons i is ih => simp [withinItems, ih]

theorem withinCells_eq_flatMap (cs : Row) : withinCells cs = cs.flatMap Cell.within := by
  induction cs with
  | nil => simp [withinCells]
  | cons c cs ih => simp [withinCells, ih]

theorem withinRows_eq_flatMap (rs : List Row) : withinRows rs = rs.flatMap (fun r => (Record.row r).within) := by
  induction rs with
  | nil => simp [withinRows]
  | cons r rs ih => simp [withinRows, Record.within, ih]

theorem withinProperties_eq_flatMap (ps : List Property) : withinProperties ps = ps.flatMap Property.within := by
  induction ps with
  | nil => simp [withinProperties]
  | cons p ps ih => simp [withinProperties, ih]

theorem withinHeadings_eq_flatMap (hs : List Heading) : withinHeadings hs = hs.flatMap Heading.within := by
  induction hs with
  | nil => simp [withinHeadings]
  | cons h hs ih => simp [withinHeadings, ih]

/-- Timestamps have nothing inside. -/
theorem flatMap_within_stampRecords (first : Timestamp) (second : Option Timestamp) :
    (stampRecords first second).flatMap Record.within = stampRecords first second := by
  cases second <;> simp [stampRecords, Record.within]

/-! ## Sizes -/

/-- Records that wrap the elements of a list are no larger than the list. -/
theorem sizeOf_le_of_mem_map {α : Type} [SizeOf α] {f : α → Record} (hf : ∀ x, sizeOf (f x) = 1 + sizeOf x) {xs : List α}
    {c : Record} (h : c ∈ xs.map f) : sizeOf c ≤ sizeOf xs := by
  obtain ⟨x, hx, rfl⟩ := List.mem_map.1 h
  have := List.sizeOf_lt_of_mem hx
  rw [hf]
  omega

/-- The timestamps of a range are no larger than the range. -/
theorem sizeOf_le_of_mem_stampRecords {first : Timestamp} {second : Option Timestamp} {c : Record}
    (h : c ∈ stampRecords first second) : sizeOf c ≤ sizeOf first + sizeOf second := by
  cases second with
  | none =>
    rw [List.mem_singleton.1 h]
    simp; omega
  | some t =>
    rcases List.mem_cons.1 h with rfl | h
    · simp; omega
    · rw [List.mem_singleton.1 h]
      simp

/-! ## Statements -/

namespace Record

/-- What is inside a record is the record and what is inside its children. -/
theorem within_eq (r : Record) : r.within = r :: r.children.flatMap within := by
  cases r with
  | table rows => simp [within, children, withinRows_eq_flatMap, List.flatMap_map]
  | list items bullet ordered terminator => simp [within, children, withinItems_eq_flatMap, List.flatMap_map]
  | stamp first second => rw [within, children, flatMap_within_stampRecords]
  | listItem item =>
    cases item
    simp [within, Item.within, children, withinParts_eq_flatMap]
  | row cells => simp [within, children, withinCells_eq_flatMap, List.flatMap_map]
  | cell cell =>
    cases cell
    simp [within, Cell.within, children, withinParts_eq_flatMap]
  | planning i => simp [within, PlanningEntry.within, children]
  | property p =>
    cases p
    simp [within, Property.within, children, withinParts_eq_flatMap]
  | logEntry e =>
    cases e with
    | line text => simp [within, LogEntry.within, children]
    | clock start stop => rw [within, LogEntry.within, children, flatMap_within_stampRecords]
  | heading h =>
    cases h
    simp [within, Heading.within, children, withinParts_eq_flatMap, withinProperties_eq_flatMap, List.flatMap_map]
  | document d =>
    cases d
    simp [within, Document.within, children, withinHeadings_eq_flatMap, List.flatMap_map]
    exact List.map_eq_flatMap
  | _ => simp [within, children]

theorem mem_within_self (r : Record) : r ∈ r.within := by
  rw [within_eq]
  exact List.mem_cons_self

/-- What is inside a child is inside the record. -/
theorem mem_within_of_mem_children {r c x : Record} (hc : c ∈ r.children) (hx : x ∈ c.within) : x ∈ r.within := by
  rw [within_eq, List.mem_cons, List.mem_flatMap]
  exact Or.inr ⟨c, hc, hx⟩

/-- Something holds of all that is inside a record when it holds of the record and of all that is inside its children. -/
theorem forall_within_iff {P : Record → Prop} (r : Record) :
    (∀ x ∈ r.within, P x) ↔ P r ∧ ∀ c ∈ r.children, ∀ x ∈ c.within, P x := by
  rw [within_eq r]
  simp only [List.forall_mem_cons, List.mem_flatMap, forall_exists_index, and_imp]
  exact and_congr_right fun _ => ⟨fun h c hc x hx => h x c hc hx, fun h x c hc hx => h c hc x hx⟩

/-- A child is smaller than the record it is inside. -/
theorem sizeOf_lt_of_mem_children {r c : Record} (h : c ∈ r.children) : sizeOf c < sizeOf r := by
  cases r with
  | table rows =>
    have := sizeOf_le_of_mem_map (f := row) (fun _ => by simp) h
    simp; omega
  | list items bullet ordered terminator =>
    have := sizeOf_le_of_mem_map (f := listItem) (fun _ => rfl) h
    simp; omega
  | stamp first second =>
    have := sizeOf_le_of_mem_stampRecords h
    simp; omega
  | listItem item =>
    obtain ⟨title, contents, checkbox, state, counter⟩ := item
    have := (List.mem_append.1 h).imp List.sizeOf_lt_of_mem List.sizeOf_lt_of_mem
    simp at this ⊢; omega
  | row cells =>
    have := sizeOf_le_of_mem_map (f := cell) (fun _ => rfl) h
    simp; omega
  | cell c =>
    obtain ⟨content, raw⟩ := c
    have : sizeOf _ < sizeOf content := List.sizeOf_lt_of_mem h
    simp; omega
  | planning i =>
    obtain ⟨kind, t⟩ := i
    rw [List.mem_singleton.1 h]
    simp only [timestamp.sizeOf_spec, planning.sizeOf_spec, PlanningEntry.mk.sizeOf_spec]
    omega
  | property p =>
    obtain ⟨name, value⟩ := p
    have : sizeOf _ < sizeOf value := List.sizeOf_lt_of_mem h
    simp; omega
  | logEntry e =>
    cases e with
    | line text => exact absurd h List.not_mem_nil
    | clock start stop =>
      have := sizeOf_le_of_mem_stampRecords h
      simp; omega
  | heading h' =>
    obtain ⟨level, title, planning, properties, logbook, body, description⟩ := h'
    simp only [children, List.cons_append, List.mem_cons, List.mem_append, or_assoc] at h
    rcases h with rfl | h | h | h | h
    · simp; omega
    · have := sizeOf_le_of_mem_map (f := Record.planning) (fun _ => rfl) h
      simp; omega
    · have := sizeOf_le_of_mem_map (f := property) (fun _ => rfl) h
      simp; omega
    · have := sizeOf_le_of_mem_map (f := logEntry) (fun _ => rfl) h
      simp; omega
    · have := List.sizeOf_lt_of_mem h
      simp; omega
  | document d =>
    obtain ⟨headings, keywordSets, configLines, firstLines⟩ := d
    rcases List.mem_append.1 h with h | h
    · have := sizeOf_le_of_mem_map (f := heading) (fun _ => rfl) h
      simp at this ⊢; omega
    · have := sizeOf_le_of_mem_map (f := keywordSet) (fun _ => rfl) h
      simp at this ⊢; omega
  | _ => exact absurd h List.not_mem_nil

/-- What holds of a record as soon as it holds of its children holds of every record. -/
theorem childInduction {P : Record → Prop} (step : ∀ r, (∀ c ∈ r.children, P c) → P r) (r : Record) : P r :=
  step r (fun c _ => childInduction step c)
termination_by sizeOf r
decreasing_by exact sizeOf_lt_of_mem_children ‹_›

/-- What is inside something inside a record is inside the record. -/
theorem mem_within_trans {r x y : Record} (hx : x ∈ r.within) (hy : y ∈ x.within) : y ∈ r.within := by
  induction r using childInduction with
  | step r ih =>
    rw [within_eq, List.mem_cons, List.mem_flatMap] at hx
    rcases hx with rfl | ⟨c, hc, hx⟩
    · exact hy
    · exact mem_within_of_mem_children hc (ih c hc hx)

/-- What holds of a record as soon as it holds of all that is inside its children holds of every record. -/
theorem withinInduction {P : Record → Prop} (step : ∀ r, (∀ c ∈ r.children, ∀ x ∈ c.within, P x) → P r) (r : Record) :
    P r := by
  have h : ∀ x ∈ r.within, P x := by
    induction r using childInduction with
    | step r ih => exact (forall_within_iff r).2 ⟨step r ih, ih⟩
  exact h r (mem_within_self r)

end Record
end OrgOutline
