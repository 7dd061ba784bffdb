import OrgOutline.Proofs.Settle

/-!
# What was saved comes back

A record that keeps the rules of the model, and whose unrecognized parts are of kinds that no known record has
(`Record.Storable`), is loaded again from the object it is saved as. What comes back is the record with its timestamps settled
(`Timestamp.settle`), if every timestamp has a date, and a fault otherwise (`ComesBack`). The two modes of loading differ only
where something is unrecognized. Main statement: `comesBack`, for every shape and at every depth, by induction on what is
inside a record; there is one lemma for each kind of record, under the assumption that what is directly inside comes back.
-/

namespace OrgOutline

/-! ## Runs that depend on dates -/

section Gives
variable {α β : Type} {quiet : Prop}

theorem Run.Gives.pure_orWrongKind (a : α) : Gives quiet (Pure.pure a) (orWrongKind true a) := Gives.pure a

theorem Run.Gives.bind_orWrongKind {x : Run α} {f : α → Run β} {c d : Bool} {a : α} {b : β}
    (hx : Gives quiet x (orWrongKind c a)) (hf : Gives quiet (f a) (orWrongKind d b)) :
    Gives quiet (x >>= f) (orWrongKind (c && d) b) := by
  cases c with
  | false => exact hx.bind (g := fun _ => orWrongKind d b) (fun _ h => nomatch h)
  | true =>
    refine hx.bind (g := fun _ => orWrongKind d b) ?_
    intro a' h
    obtain rfl : a = a' := Except.ok.inj h
    exact hf

theorem Run.Gives.map_orWrongKind {x : Run α} {c : Bool} {a : α} (g : α → β) (hx : Gives quiet x (orWrongKind c a)) :
    Gives quiet (g <$> x) (orWrongKind c (g a)) := by
  have h := hx.map g
  cases c <;> exact h

/-- Going through the saved elements of a list gives the list, if every element comes back. -/
theorem Run.Gives.eachOf_map {f : Json → Run α} {enc : α → Json} {dated : α → Bool} {g : α → α} {xs : List α}
    (h : ∀ x ∈ xs, Gives quiet (f (enc x)) (orWrongKind (dated x) (g x))) :
    Gives quiet (eachOf f (xs.map enc)) (orWrongKind (xs.all dated) (xs.map g)) := by
  induction xs with
  | nil => exact Gives.pure []
  | cons x xs ih =>
    obtain ⟨hx, hxs⟩ := List.forall_mem_cons.1 h
    rw [List.map_cons, eachOf, List.all_cons, List.map_cons]
    have hrest := (ih hxs).bind_orWrongKind (f := fun ys => Pure.pure (g x :: ys)) (Gives.pure_orWrongKind (g x :: xs.map g))
    rw [Bool.and_true] at hrest
    exact hx.bind_orWrongKind hrest

end Gives

/-! ## Timestamps and what is made of them -/

/-- A timestamp that may be absent has a date, if it is there. -/
def isDatedOption (t : Option Timestamp) : Bool := (t.map Timestamp.isDated).getD true

theorem loadOptionalTimestamp_encode (strict : Bool) (name : String) (t : Option Timestamp) :
    loadOptionalTimestamp strict (field (optionalTimestamp name t) name .null) =
      .ofExcept (orWrongKind (isDatedOption t) (t.map Timestamp.settle)) := by
  cases t with
  | none => rfl
  | some t =>
    have hl : field (optionalTimestamp name (some t)) name .null = t.encode := by
      simp [field, optionalTimestamp]
    rw [hl, loadOptionalTimestamp, if_neg (by simp [Timestamp.encode, Json.isNull]), loadTimestamp_encode]
    cases h : t.isDated <;> simp [isDatedOption, h, orWrongKind] <;> rfl

theorem field_optionalMember (name : String) (v : Json) : field (optionalMember name v) name .null = v := by
  cases v <;> simp [optionalMember, Json.isNull, field]

theorem loadTitle_encode (t : Title) : loadTitle t.encode = pure t := by
  have h : loadTitle t.encode =
      pure ⟨t.text, field (optionalMember "todo_keyword" t.keyword) "todo_keyword" .null, t.tags⟩ := rfl
  rw [h, field_optionalMember]

theorem loadPlanningEntry_encode (strict : Bool) (i : PlanningEntry) : loadPlanningEntry strict i.encode =
    .ofExcept (orWrongKind i.timestamp.isDated (i.mapTimestamps Timestamp.settle)) := by
  have h : loadPlanningEntry strict i.encode =
    (do let t ← loadTimestamp strict i.timestamp.encode; pure ⟨i.kind, t⟩) := rfl
  rw [h, loadTimestamp_encode]
  cases hd : i.timestamp.isDated <;> rfl

theorem loadClock_encode (strict : Bool) (start : Timestamp) (stop : Option Timestamp) {members : Members}
    (h : (LogEntry.clock start stop).encode = .obj members) : loadClock strict members =
      .ofExcept (orWrongKind (start.isDated && isDatedOption stop) (.clock start.settle (stop.map Timestamp.settle))) := by
  obtain rfl := Json.obj.inj h
  have hl : loadClock strict ([("node_type", .str "ClockEntry"), ("start", start.encode)] ++ optionalTimestamp "end" stop) =
    (do
      let start ← loadTimestamp strict start.encode
      let stop ← loadOptionalTimestamp strict (field (optionalTimestamp "end" stop) "end" .null)
      pure (.clock start stop)) := rfl
  rw [hl, loadTimestamp_encode, loadOptionalTimestamp_encode]
  cases start.isDated <;> cases isDatedOption stop <;> rfl

/-- Whether the timestamps of an entry of a logbook have dates. -/
def LogEntry.isDated : LogEntry → Bool
  | .line _ => true
  | .clock start stop => start.isDated && isDatedOption stop

theorem loadLogEntry_encode (strict : Bool) (e : LogEntry) :
    loadLogEntry strict e.encode = .ofExcept (orWrongKind e.isDated (e.mapTimestamps Timestamp.settle)) := by
  cases e with
  | line words => rfl
  | clock start stop => exact loadClock_encode strict start stop rfl

/-! ## What keeps its form -/

/-- What a record must satisfy so that it comes back: the rules of the model hold, and an unrecognized record is of a kind
that no known one has and that can be shown, and has no payload under the name of the kind. -/
def Record.Storable : Record → Prop
  | .table rows => checkRows rows = pure ()
  | .unrecognized kind payload =>
    kind.isSet = true ∧ kind.isScalar = true ∧ (∀ s, kind = .str s → s ∉ kindNames) ∧ kind.hasLong = false ∧
      "node_type" ∉ payload.map Prod.fst
  | .heading h => checkLevel h.level = pure ()
  | _ => True

/-- Nothing unrecognized is inside the record. -/
def Record.Quiet (r : Record) : Prop := ∀ kind payload, .unrecognized kind payload ∉ r.within

theorem Record.Quiet.child {r c : Record} (h : r.Quiet) (hc : c ∈ r.children) : c.Quiet :=
  fun kind payload hm => h kind payload (mem_within_of_mem_children hc hm)

/-- Whether a record that is a timestamp has a date. -/
def Record.hasDate : Record → Bool
  | .timestamp t => t.isDated
  | _ => true

/-- Whether every timestamp inside the record has a date. -/
def Record.isDated (r : Record) : Bool := r.within.all Record.hasDate

theorem Record.isDated_eq (r : Record) : r.isDated = (r.hasDate && r.children.all isDated) := by
  rw [isDated, within_eq, List.all_cons, List.all_flatMap]
  rfl

theorem all_isDated_stampRecords (first : Timestamp) (second : Option Timestamp) :
    (stampRecords first second).all Record.isDated = (first.isDated && isDatedOption second) := by
  cases second <;> simp [stampRecords, Record.isDated_eq, Record.hasDate, Record.children, isDatedOption]

/-! ## Shapes -/

namespace Shape

/-- What is loaded from a value of a shape, taken as a record. -/
def wrap : (s : Shape) → s.Loaded → Record
  | .record => id
  | .item => .listItem
  | .row => .row
  | .cell => .cell
  | .property => .property
  | .heading => .heading

/-- What is loaded from a value of a shape, with its timestamps changed. -/
def mapTimestamps (f : Timestamp → Timestamp) : (s : Shape) → s.Loaded → s.Loaded
  | .record => Record.mapTimestamps f
  | .item => Item.mapTimestamps f
  | .row => mapCells f
  | .cell => Cell.mapTimestamps f
  | .property => Property.mapTimestamps f
  | .heading => Heading.mapTimestamps f

end Shape

/-- What was saved comes back with its timestamps settled, if they have dates, and without a notice where nothing in it is
unrecognized. -/
def ComesBack (strict : Bool) (quiet : Prop) (s : Shape) (x : s.Loaded) : Prop :=
  Run.Gives quiet (load strict s (s.wrap x).encode)
    (orWrongKind (s.wrap x).isDated (s.mapTimestamps Timestamp.settle x))

section Shapes

variable {strict : Bool} {quiet : Prop}

/-- A list of saved values comes back if its elements do. -/
theorem loadEach_encode {s : Shape} {enc : s.Loaded → Json} (he : ∀ x, enc x = (s.wrap x).encode) {xs : List s.Loaded}
    (h : ∀ x ∈ xs, ComesBack strict quiet s x) : Run.Gives quiet (loadEach strict s (.arr (xs.map enc)))
      (orWrongKind (xs.all fun x => (s.wrap x).isDated) (xs.map (s.mapTimestamps Timestamp.settle))) := by
  rw [loadEach, loadAll_eq_eachOf]
  refine Run.Gives.eachOf_map ?_
  intro x hx
  rw [he]
  exact h x hx

theorem loadEach_encodeParts {rs : Parts} (h : ∀ r ∈ rs, ComesBack strict quiet .record r) :
    Run.Gives quiet (loadEach strict .record (.arr (encodeParts rs)))
      (orWrongKind (rs.all Record.isDated) (mapParts Timestamp.settle rs)) := by
  rw [encodeParts_eq_map, mapParts_eq_map]
  exact loadEach_encode (fun _ => rfl) h

theorem checkCheckboxState_name (state : CheckboxState) : checkCheckboxState (.str state.name) = pure state := by
  cases state <;> rfl

theorem checkBareLinkKind_name (kind : BareLinkKind) : checkBareLinkKind (.str kind.name) = pure kind := by
  cases kind <;> rfl

/-- The search for a row of another length looks at the lengths alone. -/
theorem firstUneven_congr {expected index : Nat} {rows rows' : List Row} (h : rows.map List.length = rows'.map List.length) :
    firstUneven expected index rows = firstUneven expected index rows' := by
  induction rows generalizing rows' index with
  | nil => rw [List.map_eq_nil_iff.1 h.symm]
  | cons r rs ih =>
    obtain ⟨r', rs', rfl, hr, hrs⟩ := List.map_eq_cons_iff.1 h.symm
    rw [firstUneven, firstUneven, hr, ih hrs.symm]

/-- Rows of the same lengths pass the same check. -/
theorem checkRows_congr {rows rows' : List Row} (h : rows.map List.length = rows'.map List.length) :
    checkRows rows = checkRows rows' := by
  cases rows with
  | nil => rw [List.map_eq_nil_iff.1 h.symm]
  | cons r rs =>
    obtain ⟨r', rs', rfl, hr, -⟩ := List.map_eq_cons_iff.1 h.symm
    rw [checkRows, checkRows, hr, firstUneven_congr h]

theorem checkRows_mapRows (f : Timestamp → Timestamp) (rows : List Row) : checkRows (mapRows f rows) = checkRows rows := by
  refine checkRows_congr ?_
  induction rows with
  | nil => rfl
  | cons r rs ih => rw [mapRows, List.map_cons, List.map_cons, mapCells_eq_map, List.length_map, ih]

theorem comesBack_item {i : Item} (h : ∀ r ∈ i.title ++ i.contents, ComesBack strict quiet .record r) :
    ComesBack strict quiet .item i := by
  obtain ⟨title, contents, checkbox, state, counter⟩ := i
  obtain ⟨ht, hc⟩ := List.forall_mem_append.1 h
  have hl : load strict .item (Item.encode ⟨title, contents, checkbox, state, counter⟩) = (do
      let title ← loadEach strict .record (.arr (encodeParts title))
      let contents ← loadEach strict .record (.arr (encodeParts contents))
      let state ← checkCheckboxState (.str state.name)
      pure ⟨title, contents, checkbox, state, field (optionalMember "force_number" counter) "force_number" .null⟩) := rfl
  have hd : (Record.listItem ⟨title, contents, checkbox, state, counter⟩).isDated =
      (title.all Record.isDated && (contents.all Record.isDated && true)) := by
    simp [Record.isDated_eq (.listItem _), Record.hasDate, Record.children]
  rw [ComesBack, Shape.wrap, hd, Record.encode, hl, checkCheckboxState_name, field_optionalMember]
  exact (loadEach_encodeParts ht).bind_orWrongKind ((loadEach_encodeParts hc).bind_orWrongKind
    (Run.Gives.pure_orWrongKind (Item.mapTimestamps Timestamp.settle ⟨title, contents, checkbox, state, counter⟩)))

theorem comesBack_cell {c : Cell} (h : ∀ r ∈ c.content, ComesBack strict quiet .record r) :
    ComesBack strict quiet .cell c := by
  obtain ⟨content, raw⟩ := c
  have hl : load strict .cell (Cell.encode ⟨content, raw⟩) = (do
      let content ← loadEach strict .record (.arr (encodeParts content))
      pure ⟨content, raw⟩) := rfl
  have hd : (Record.cell ⟨content, raw⟩).isDated = (content.all Record.isDated && true) := by
    simp [Record.isDated_eq (.cell _), Record.hasDate, Record.children]
  rw [ComesBack, Shape.wrap, hd, Record.encode, hl]
  exact (loadEach_encodeParts h).bind_orWrongKind
    (Run.Gives.pure_orWrongKind (Cell.mapTimestamps Timestamp.settle ⟨content, raw⟩))

theorem comesBack_row {cells : Row} (h : ∀ c ∈ cells, ComesBack strict quiet .cell c) :
    ComesBack strict quiet .row cells := by
  have hl : load strict .row (Record.row cells).encode = loadEach strict .cell (.arr (encodeCells cells)) := rfl
  have hd : (Record.row cells).isDated = cells.all fun c => (Record.cell c).isDated := by
    simp [Record.isDated_eq (.row _), Record.hasDate, Record.children, Function.comp_def]
  rw [ComesBack, Shape.wrap, hd, hl, encodeCells_eq_map, Shape.mapTimestamps, mapCells_eq_map]
  exact loadEach_encode (fun _ => rfl) h

theorem comesBack_property {p : Property} (h : ∀ r ∈ p.value, ComesBack strict quiet .record r) :
    ComesBack strict quiet .property p := by
  obtain ⟨name, value⟩ := p
  have hl : load strict .property (Property.encode ⟨name, value⟩) = (do
      let value ← loadEach strict .record (.arr (encodeParts value))
      pure ⟨name, value⟩) := rfl
  have hd : (Record.property ⟨name, value⟩).isDated = (value.all Record.isDated && true) := by
    simp [Record.isDated_eq (.property _), Record.hasDate, Record.children]
  rw [ComesBack, Shape.wrap, hd, Record.encode, hl]
  exact (loadEach_encodeParts h).bind_orWrongKind
    (Run.Gives.pure_orWrongKind (Property.mapTimestamps Timestamp.settle ⟨name, value⟩))

theorem eachOf_encodePlanning (strict : Bool) (planning : List PlanningEntry) :
    Run.Gives quiet (eachOf (loadPlanningEntry strict) (planning.map PlanningEntry.encode))
      (orWrongKind (planning.all fun i => i.timestamp.isDated)
        (planning.map (PlanningEntry.mapTimestamps Timestamp.settle))) := by
  refine Run.Gives.eachOf_map ?_
  intro i _
  rw [loadPlanningEntry_encode]
  exact Run.Gives.ofExcept _

theorem eachOf_encodeLogbook (strict : Bool) (logbook : List LogEntry) :
    Run.Gives quiet (eachOf (loadLogEntry strict) (logbook.map LogEntry.encode))
      (orWrongKind (logbook.all LogEntry.isDated) (logbook.map (LogEntry.mapTimestamps Timestamp.settle))) := by
  refine Run.Gives.eachOf_map ?_
  intro e _
  rw [loadLogEntry_encode]
  exact Run.Gives.ofExcept _

/-- An entry of a logbook has dates when it has dates as a record. -/
theorem Record.isDated_logEntry (e : LogEntry) : (Record.logEntry e).isDated = e.isDated := by
  rw [isDated_eq]
  cases e with
  | line words => rfl
  | clock start stop => exact all_isDated_stampRecords start stop

theorem comesBack_heading {h : Heading} (hlevel : checkLevel h.level = pure ())
    (hp : ∀ p ∈ h.properties, ComesBack strict quiet .property p)
    (hd : ∀ r ∈ h.description, ComesBack strict quiet .record r) : ComesBack strict quiet .heading h := by
  obtain ⟨level, title, planning, properties, logbook, body, description⟩ := h
  have hl : load strict .heading (Heading.encode ⟨level, title, planning, properties, logbook, body, description⟩) = (do
      let title ← loadTitle title.encode
      let planning ← eachOf (loadPlanningEntry strict) (planning.map PlanningEntry.encode)
      let properties ← loadEach strict .property (.arr (encodeProperties properties))
      let logbook ← eachOf (loadLogEntry strict) (logbook.map LogEntry.encode)
      let description ← loadEach strict .record (.arr (encodeParts description))
      checkLevel level
      pure ⟨level, title, planning, properties, logbook, body, description⟩) := rfl
  have hdated : (Record.heading ⟨level, title, planning, properties, logbook, body, description⟩).isDated =
      (planning.all (fun i => i.timestamp.isDated) && (properties.all (fun p => (Record.property p).isDated) &&
        (logbook.all LogEntry.isDated && (description.all Record.isDated && true)))) := by
    simp [Record.isDated_eq (.heading _), Record.hasDate, Record.children, Record.isDated_logEntry, Function.comp_def,
      Record.isDated_eq (.planning _), Record.isDated_eq (.title _), Record.isDated_eq (.timestamp _)]
  rw [ComesBack, Shape.wrap, hdated, Record.encode, hl, loadTitle_encode, pure_bind, hlevel]
  rw [Shape.mapTimestamps, Heading.mapTimestamps, mapProperties_eq_map, encodeProperties_eq_map]
  exact (eachOf_encodePlanning strict planning).bind_orWrongKind ((loadEach_encode (fun _ => rfl) hp).bind_orWrongKind
    ((eachOf_encodeLogbook strict logbook).bind_orWrongKind ((loadEach_encodeParts hd).bind_orWrongKind
      (Run.Gives.pure_orWrongKind _))))

/-! ## Records of any kind -/

theorem Shape.wrap_mapTimestamps (f : Timestamp → Timestamp) (s : Shape) (x : s.Loaded) :
    (s.wrap x).mapTimestamps f = s.wrap (s.mapTimestamps f x) := by
  cases s <;> rfl

/-- What stands in a fixed place is loaded as a record in the same way. -/
theorem load_wrap (s : Shape) (x : s.Loaded) :
    load strict .record (s.wrap x).encode = s.wrap <$> load strict s (s.wrap x).encode := by
  cases s with
  | record => exact (id_map _).symm
  | row => rfl
  | _ => cases x; rfl

theorem ComesBack.asRecord {s : Shape} {x : s.Loaded} (h : ComesBack strict quiet s x) :
    ComesBack strict quiet .record (s.wrap x) := by
  rw [ComesBack, Shape.wrap, id, load_wrap, Shape.mapTimestamps, Shape.wrap_mapTimestamps]
  exact Run.Gives.map_orWrongKind s.wrap h

/-- A record without anything inside has no timestamp without a date. -/
theorem Record.isDated_of_children_eq_nil {r : Record} (hd : r.hasDate = true) (h : r.children = []) :
    r.isDated = true := by
  rw [isDated_eq, hd, h]
  rfl

/-- A record that holds no timestamps comes back if it is loaded without a notice. -/
theorem comesBack_leaf {r : Record} (hd : r.hasDate = true) (h : r.children = [])
    (hm : r.mapTimestamps Timestamp.settle = r) (hl : load strict .record r.encode = pure r) :
    ComesBack strict quiet .record r := by
  rw [ComesBack, Shape.wrap, id, hl, Record.isDated_of_children_eq_nil hd h, Shape.mapTimestamps, hm]
  exact Run.Gives.pure_orWrongKind r

theorem load_link (target label : Json) :
    load strict .record (Record.link target label).encode = pure (.link target label) := by
  have hl : load strict .record (Record.link target label).encode =
    pure (.link target (field (optionalMember "title" label) "title" .null)) := rfl
  rw [hl, field_optionalMember]

theorem load_bareLink (kind : BareLinkKind) (content : Json) :
    load strict .record (Record.bareLink kind content).encode = pure (.bareLink kind content) := by
  have hl : load strict .record (Record.bareLink kind content).encode =
    (do let kind ← checkBareLinkKind (.str kind.name); pure (.bareLink kind content)) := rfl
  rw [hl, checkBareLinkKind_name, pure_bind]

theorem load_title (t : Title) : load strict .record (Record.title t).encode = pure (.title t) := by
  have hl : load strict .record (Record.title t).encode = .title <$> loadTitle t.encode := rfl
  rw [hl, loadTitle_encode]
  rfl

/-- The value that is set under a name, and the payload without it. -/
theorem filter_put {payload : Members} {name : String} (h : name ∉ payload.map Prod.fst) (v : Json) :
    (Json.put payload name v).filter (fun m => m.1 != name) = payload := by
  induction payload with
  | nil => simp [Json.put]
  | cons m rest ih =>
    obtain ⟨key, w⟩ := m
    simp only [List.map_cons, List.mem_cons, not_or] at h
    rw [Json.put, if_neg (Ne.symm h.1), List.filter_cons_of_pos (by simpa using Ne.symm h.1), ih h.2]

/-- A name that is none of the known kinds is put together as none. -/
theorem assembleKnown?_eq_none {name : String} (h : name ∉ Record.kindNames) (members : Members) (lists : ListsOf) :
    assembleKnown? strict name members lists = none := by
  simp only [Record.kindNames, List.mem_cons, List.not_mem_nil, or_false, not_or] at h
  unfold assembleKnown?
  split <;> simp_all

theorem load_unrecognized {kind : Json} {payload : Members} (h : (Record.unrecognized kind payload).Storable) :
    load strict .record (Record.unrecognized kind payload).encode =
      keepUnknown strict kind (Json.put payload "node_type" kind) := by
  obtain ⟨hset, hscalar, hname, -⟩ := h
  have hl : load strict .record (Record.unrecognized kind payload).encode =
    assembleRecord strict (Json.put payload "node_type" kind)
      (fun s name => loadAt strict s name (Json.put payload "node_type" kind)) := rfl
  rw [hl, assembleRecord, Json.lookup_put, if_pos rfl]
  simp only [hset, Bool.not_true, Bool.false_eq_true, if_false]
  cases kind with
  | str name => simp [assembleKnown?_eq_none (hname name rfl)]
  | arr items => simp [Json.isScalar] at hscalar
  | obj members => simp [Json.isScalar] at hscalar
  | _ => rfl

theorem comesBack_unrecognized {kind : Json} {payload : Members} (h : (Record.unrecognized kind payload).Storable)
    (hs : strict = true → quiet) (hq : quiet → (Record.unrecognized kind payload).Quiet) :
    ComesBack strict quiet .record (.unrecognized kind payload) := by
  have hn : ¬ quiet := by
    intro q
    exact hq q kind payload (Record.mem_within_self _)
  have hstrict : strict = false := by
    cases strict with
    | false => rfl
    | true => exact absurd (hs rfl) hn
  have hl : load strict .record (Record.unrecognized kind payload).encode = _ := load_unrecognized h
  obtain ⟨-, -, -, hshown, hfree⟩ := h
  have htell : Run.tell (.keptUnknown kind) = .note (.keptUnknown kind) := Run.tell_of_shown (by simp [Notice.shownValues, hshown])
  rw [keepUnknown, hstrict, filter_put hfree, htell] at hl
  refine ⟨?_, fun q => absurd q hn⟩
  rw [Shape.wrap, id, hstrict, hl, Record.isDated_of_children_eq_nil rfl rfl]
  rfl

theorem comesBack_table {rows : List Row} (hr : checkRows rows = pure ())
    (h : ∀ r ∈ rows, ComesBack strict quiet .row r) : ComesBack strict quiet .record (.table rows) := by
  have hl : load strict .record (Record.table rows).encode = (do
      let rows ← loadEach strict .row (.arr (encodeRows rows))
      checkRows rows
      pure (.table rows)) := rfl
  have hd : (Record.table rows).isDated = ((rows.all fun r => (Record.row r).isDated) && true) := by
    simp [Record.isDated_eq (.table _), Record.hasDate, Record.children, Function.comp_def]
  have hm := checkRows_mapRows Timestamp.settle rows
  rw [ComesBack, Shape.wrap, id, hd, hl, encodeRows_eq_map, Shape.mapTimestamps, Record.mapTimestamps]
  rw [mapRows_eq_map, hr] at *
  refine (loadEach_encode (fun _ => rfl) h).bind_orWrongKind ?_
  rw [Shape.mapTimestamps, hm, pure_bind]
  exact Run.Gives.pure_orWrongKind _

theorem comesBack_list {items : List Item} (bullet ordered terminator : Json)
    (h : ∀ i ∈ items, ComesBack strict quiet .item i) :
    ComesBack strict quiet .record (.list items bullet ordered terminator) := by
  have hl : load strict .record (Record.list items bullet ordered terminator).encode = (do
      let items ← loadEach strict .item (.arr (encodeItems items))
      pure (.list items bullet ordered terminator)) := rfl
  have hd : (Record.list items bullet ordered terminator).isDated =
      ((items.all fun i => (Record.listItem i).isDated) && true) := by
    simp [Record.isDated_eq (.list ..), Record.hasDate, Record.children, Function.comp_def]
  rw [ComesBack, Shape.wrap, id, hd, hl, encodeItems_eq_map, Shape.mapTimestamps, Record.mapTimestamps, mapItems_eq_map]
  exact (loadEach_encode (fun _ => rfl) h).bind_orWrongKind (Run.Gives.pure_orWrongKind _)

theorem comesBack_stamp (first : Timestamp) (second : Option Timestamp) :
    ComesBack strict quiet .record (.stamp first second) := by
  have hl : load strict .record (Record.stamp first second).encode = (do
      let first ← loadTimestamp strict first.encode
      let second ← loadOptionalTimestamp strict (field (optionalTimestamp "second_timestamp" second) "second_timestamp" .null)
      pure (.stamp first second)) := rfl
  have hd : (Record.stamp first second).isDated = (first.isDated && (isDatedOption second && true)) := by
    rw [Record.isDated_eq, Record.children, all_isDated_stampRecords, Bool.and_true]
    rfl
  rw [ComesBack, Shape.wrap, id, hd, hl, loadTimestamp_encode, loadOptionalTimestamp_encode]
  exact (Run.Gives.ofExcept _).bind_orWrongKind ((Run.Gives.ofExcept _).bind_orWrongKind
    (Run.Gives.pure_orWrongKind (Record.stamp first.settle (second.map Timestamp.settle))))

theorem comesBack_timestamp (t : Timestamp) : ComesBack strict quiet .record (.timestamp t) := by
  have hl : load strict .record (Record.timestamp t).encode = .timestamp <$> loadTimestamp strict t.encode := rfl
  have hd : (Record.timestamp t).isDated = t.isDated := by
    rw [Record.isDated_eq]
    exact Bool.and_true _
  rw [ComesBack, Shape.wrap, id, hd, hl, loadTimestamp_encode]
  exact (Run.Gives.ofExcept _).map_orWrongKind Record.timestamp

theorem comesBack_planning (i : PlanningEntry) : ComesBack strict quiet .record (.planning i) := by
  have hl : load strict .record (Record.planning i).encode = .planning <$> loadPlanningEntry strict i.encode := rfl
  have hd : (Record.planning i).isDated = i.timestamp.isDated := by
    rw [Record.isDated_eq]
    simp [Record.children, Record.hasDate, Record.isDated_eq (.timestamp _)]
  rw [ComesBack, Shape.wrap, id, hd, hl, loadPlanningEntry_encode]
  exact (Run.Gives.ofExcept _).map_orWrongKind Record.planning

theorem comesBack_clock (start : Timestamp) (stop : Option Timestamp) :
    ComesBack strict quiet .record (.logEntry (.clock start stop)) := by
  have hl : load strict .record (Record.logEntry (.clock start stop)).encode = .logEntry <$> loadClock strict
    ([("node_type", .str "ClockEntry"), ("start", start.encode)] ++ optionalTimestamp "end" stop) := rfl
  rw [ComesBack, Shape.wrap, id, Record.isDated_logEntry, hl, loadClock_encode strict start stop rfl]
  exact (Run.Gives.ofExcept _).map_orWrongKind Record.logEntry

theorem eachOf_encodeKeywordSets (ks : List KeywordSet) :
    eachOf loadKeywordSet (ks.map KeywordSet.encode) = pure ks := by
  induction ks with
  | nil => rfl
  | cons k ks ih =>
    have hk : loadKeywordSet k.encode = pure k := rfl
    rw [List.map_cons, eachOf, hk, ih, pure_bind, pure_bind]

/-- The members of a document make the document, whatever else stands in front of them. -/
theorem gives_assembleDocument {d : Document} {members : Members} (h : ∀ h ∈ d.headings, ComesBack strict quiet .heading h)
    (hm : ∀ name ∈ ["headers", "todo_keyword_sets", "file_config_lines", "lines_before_headings"],
      members.lookup name = d.members.lookup name) :
    Run.Gives quiet (assembleDocument members (fun s name => loadAt strict s name members))
      (orWrongKind (Record.document d).isDated (d.mapTimestamps Timestamp.settle)) := by
  obtain ⟨headings, keywordSets, configLines, firstLines⟩ := d
  have h1 := hm "headers" (by simp)
  have h2 := hm "todo_keyword_sets" (by simp)
  have h3 := hm "file_config_lines" (by simp)
  have h4 := hm "lines_before_headings" (by simp)
  have hl : assembleDocument members (fun s name => loadAt strict s name members) = (do
      let headings ← loadEach strict .heading (.arr (encodeHeadings headings))
      let keywordSets ← eachOf loadKeywordSet (keywordSets.map KeywordSet.encode)
      pure ⟨headings, keywordSets, configLines, firstLines⟩) := by
    simp only [assembleDocument, loadAt_eq, elementsAt, field, h1, h2, h3, h4]
    rfl
  have hd : (Record.document ⟨headings, keywordSets, configLines, firstLines⟩).isDated =
      ((headings.all fun h => (Record.heading h).isDated) && true) := by
    simp [Record.isDated_eq (.document _), Record.hasDate, Record.children, Function.comp_def,
      Record.isDated_eq (.keywordSet _)]
  rw [hd, hl, eachOf_encodeKeywordSets, encodeHeadings_eq_map, Document.mapTimestamps, mapHeadings_eq_map]
  refine (loadEach_encode (fun _ => rfl) h).bind_orWrongKind ?_
  rw [pure_bind]
  exact Run.Gives.pure_orWrongKind _

theorem comesBack_document {d : Document} (h : ∀ h ∈ d.headings, ComesBack strict quiet .heading h) :
    ComesBack strict quiet .record (.document d) := by
  have hl : load strict .record (Record.document d).encode =
    .document <$> assembleDocument d.members (fun s name => loadAt strict s name d.members) := by cases d; rfl
  rw [ComesBack, Shape.wrap, id, hl]
  exact (gives_assembleDocument h fun _ _ => rfl).map_orWrongKind Record.document

/-- A record comes back if the records directly inside it do. -/
theorem comesBack_of_children {r : Record} (hr : r.Storable) (hs : strict = true → quiet) (hq : quiet → r.Quiet)
    (h : ∀ (s : Shape) (x : s.Loaded), s.wrap x ∈ r.children → ComesBack strict quiet s x) :
    ComesBack strict quiet .record r := by
  cases r with
  | text content => exact comesBack_leaf rfl rfl rfl rfl
  | link target label => exact comesBack_leaf rfl rfl rfl (load_link target label)
  | fraction done all => exact comesBack_leaf rfl rfl rfl rfl
  | percentage value => exact comesBack_leaf rfl rfl rfl rfl
  | table rows => exact comesBack_table hr fun r hr => h .row r (List.mem_map_of_mem hr)
  | list items bullet ordered terminator =>
    exact comesBack_list bullet ordered terminator fun i hi => h .item i (List.mem_map_of_mem hi)
  | stamp first second => exact comesBack_stamp first second
  | bareLink kind content => exact comesBack_leaf rfl rfl rfl (load_bareLink kind content)
  | unrecognized kind payload => exact comesBack_unrecognized hr hs hq
  | timestamp t => exact comesBack_timestamp t
  | listItem item => exact (comesBack_item fun r hr => h .record r hr).asRecord
  | row cells => exact (comesBack_row fun c hc => h .cell c (List.mem_map_of_mem hc)).asRecord
  | cell c => exact (comesBack_cell fun r hr => h .record r hr).asRecord
  | title t => exact comesBack_leaf rfl rfl rfl (load_title t)
  | planning i => exact comesBack_planning i
  | property p => exact (comesBack_property fun r hr => h .record r hr).asRecord
  | logEntry e =>
    cases e with
    | line words => exact comesBack_leaf rfl rfl rfl rfl
    | clock start stop => exact comesBack_clock start stop
  | heading h' =>
    refine (comesBack_heading hr (fun p hp => h .property p ?_) fun r hr => h .record r ?_).asRecord
    · simp [Shape.wrap, Record.children, hp]
    · simp [Shape.wrap, Record.children, hr]
  | keywordSet k => exact comesBack_leaf rfl rfl rfl rfl
  | document d => exact comesBack_document fun h' hh => h .heading h' (by simp [Shape.wrap, Record.children, hh])

/-! ## Statements -/

/-- What is saved in a place of any shape comes back. -/
theorem comesBack (hs : strict = true → quiet) (r : Record) (hr : ∀ y ∈ r.within, y.Storable) (hq : quiet → r.Quiet) :
    ∀ (s : Shape) (x : s.Loaded), s.wrap x = r → ComesBack strict quiet s x := by
  induction r using Record.childInduction with
  | step r ih =>
    obtain ⟨hr, hchildren⟩ := (Record.forall_within_iff r).1 hr
    have hc : ∀ (s : Shape) (x : s.Loaded), s.wrap x ∈ r.children → ComesBack strict quiet s x := by
      intro s x hx
      exact ih _ hx (hchildren _ hx) (fun q => (hq q).child hx) s x rfl
    rintro s x rfl
    cases s with
    | record => exact comesBack_of_children hr hs hq hc
    | item => exact comesBack_item fun r hr => hc .record r hr
    | row => exact comesBack_row fun c hcx => hc .cell c (List.mem_map_of_mem hcx)
    | cell => exact comesBack_cell fun r hr => hc .record r hr
    | property => exact comesBack_property fun r hr => hc .record r hr
    | heading =>
      refine comesBack_heading hr ?_ ?_
      · intro p hp
        exact hc .property p (by simp [Shape.wrap, Record.children, hp])
      · intro r hr
        exact hc .record r (by simp [Shape.wrap, Record.children, hr])

end Shapes
end OrgOutline
