import OrgOutline.Export
import OrgOutline.Proofs.ClockFailures
import OrgOutline.Proofs.WritingVisits

/-!
# When an export fails

Whether an export of something well-typed fails, and with which fault, is decided by its places alone: it fails with the fault
of the first place that fails, and if there is none it gives a text. What becomes of reports has no influence on the text
(`Walks.outcome_of_lenient`). When a place fails with the default functions, and how, is said without them (`Place.Fails`). Main
statement: the exact law for documents (`Document.export_fails_iff`). It is not enough to look at the parts that are not
recognized and at the clocks, because a number of too many digits is not written and neither are the stars of a heading that is
too deep (`Document.export_fails_elsewhere`).
-/

namespace OrgOutline

/-! ## Walks -/

/-- A way of writing that visits the same places with every setup, and on which reports have no influence. -/
structure Walks (ps : List Place) (x : Setup → Run Text) : Prop where
  visits : ∀ s : Setup, s.NeverFails → Visits s (fun _ => True) ps (x s)
  retold : ∀ s, x s = (x s.observing).retell s.handOn

/-- Writing well-typed running text walks its places. -/
theorem Parts.walks {parts : Parts} (typed : ∀ r ∈ parts, r.WellTyped) (view : View) :
    Walks (placesInParts view parts) fun s => Parts.write s view parts where
  visits _ hs := visits_writeParts hs typed view
  retold s := Parts.write_eq_retell s.retells_observing view parts

/-- Writing a well-typed document walks its places. -/
theorem Document.walks {d : Document} (typed : d.WellTyped) : Walks d.places d.write where
  visits _ hs := d.visits_write hs typed
  retold s := d.write_eq_retell s.retells_observing rfl

namespace Walks

variable {ps : List Place} {x : Setup → Run Text} {s s' : Setup}

/-- A text that is given with one setup is given with every other one that differs only in what becomes of reports, unless a
place fails that did not fail before. -/
theorem outcome_of_lenient (h : Walks ps x) (hs : s.NeverFails) (hs' : s'.NeverFails) (same : s.observing = s'.observing)
    (lenient : ∀ p ∈ ps, p.fault? s = none → p.fault? s' = none) {text : Text} (hx : (x s).outcome = .ok text) :
    (x s').outcome = .ok text := by
  have hnone : ∀ p ∈ ps, p.fault? s = none := (h.visits s hs).exists_outcome_eq_ok_iff.1 ⟨text, hx⟩
  obtain ⟨text', hx'⟩ := (h.visits s' hs').exists_outcome_eq_ok_iff.2 fun p hp => lenient p hp (hnone p hp)
  -- Both setups retell the same observed run, so its text is the text of both.
  have hobserved : (x s.observing).outcome = .ok text := Run.outcome_of_retell ((h.retold s).symm ▸ hx)
  have hobserved' : (x s'.observing).outcome = .ok text' := Run.outcome_of_retell ((h.retold s').symm ▸ hx')
  rw [hx', ← hobserved', ← same, hobserved]

end Walks

/-! ## Places that fail -/

/-- A place at which an export with the default functions fails, and the fault: a part that is not recognized, if that is a
failure; a number of more than 4300 digits; a level that does not fit into 64 bits with one added; and a clock that ends or
starts at no moment, the end being looked at first. -/
inductive Place.Fails (o : Options) : Place → Fault → Prop
  | part {kind : Json} {view : View} (h : o.failOnUnknown.isSet = true) : Fails o (.part kind view) (.unknownPart kind)
  | number {n : Int} (h : 4300 < digitCount n) : Fails o (.number n) .tooManyDigitsShown
  | level {n : Int} (h : 2 ^ 63 ≤ n + 1) : Fails o (.level n) .outOfRange
  | clockStop {start stop : Timestamp} {f : Fault} (h : stop.LacksMoment f) : Fails o (.clock start stop) f
  | clockStart {start stop : Timestamp} {f : Fault} (hstop : ∃ m, stop.Denotes m) (h : start.LacksMoment f) :
      Fails o (.clock start stop) f

theorem faultOf_eq_some_iff {α : Type} {x : Except Fault α} {f : Fault} : faultOf x = some f ↔ x = .error f := by
  cases x <;> simp [faultOf]

/-- With the default functions a place fails as is said of it. -/
theorem Place.fault?_eq_some_iff (k : Collector) (o : Options) {p : Place} {f : Fault} :
    p.fault? { collector := k, options := o } = some f ↔ p.Fails o f := by
  constructor
  · intro h
    cases p with
    | part kind view =>
      obtain ⟨hset, h⟩ := Option.ite_none_right_eq_some.1 h
      obtain rfl := Option.some.inj h
      exact .part hset
    | number n =>
      obtain ⟨hlong, h⟩ := Option.ite_none_right_eq_some.1 h
      obtain rfl := Option.some.inj h
      exact .number (of_decide_eq_true hlong)
    | level n =>
      obtain ⟨hlarge, h⟩ := Option.ite_none_right_eq_some.1 h
      obtain rfl := Option.some.inj h
      exact .level hlarge
    | clock start stop =>
      rcases Timestamp.duration_eq_error_iff.1 (faultOf_eq_some_iff.1 h) with hstop | ⟨hstop, hstart⟩
      · exact .clockStop hstop
      · exact .clockStart hstop hstart
  · intro h
    cases h with
    | part hset => exact if_pos hset
    | number hlong => exact if_pos (decide_eq_true hlong)
    | level hlarge => exact if_pos hlarge
    | clockStop hstop => exact faultOf_eq_some_iff.2 (Timestamp.duration_eq_error_iff.2 (.inl hstop))
    | clockStart hstop hstart => exact faultOf_eq_some_iff.2 (Timestamp.duration_eq_error_iff.2 (.inr ⟨hstop, hstart⟩))

theorem Place.fault?_eq_none_iff (k : Collector) (o : Options) {p : Place} :
    p.fault? { collector := k, options := o } = none ↔ ∀ f, ¬ p.Fails o f := by
  simp only [← fault?_eq_some_iff k o, Option.eq_none_iff_forall_ne_some, ne_eq]

/-! ## Clocks -/

section Clocks

variable {start stop : Timestamp} {view : View}

/-- A record at whose places no clock is met. -/
def Record.HasNoClock (r : Record) : Prop := ∀ start stop view, .clock start stop ∉ r.places view

theorem clock_not_mem_placesInParts {rs : Parts} (h : ∀ r ∈ rs, r.HasNoClock) : .clock start stop ∉ placesInParts view rs := by
  induction rs with
  | nil => exact List.not_mem_nil
  | cons r rs ih =>
    obtain ⟨hr, hrs⟩ := List.forall_mem_cons.1 h
    exact List.not_mem_append (hr start stop view) (ih hrs)

theorem clock_not_mem_placesInItems {items : List Item} (h : ∀ i ∈ items, ∀ r ∈ i.title ++ i.contents, r.HasNoClock)
    (numbered : Bool) (before : Int) : .clock start stop ∉ placesInItems view numbered before items := by
  induction items generalizing before with
  | nil => exact List.not_mem_nil
  | cons i items ih =>
    obtain ⟨title, contents, checkbox, state, counter⟩ := i
    obtain ⟨hi, hitems⟩ := List.forall_mem_cons.1 h
    obtain ⟨ht, hc⟩ := List.forall_mem_append.1 hi
    have hnumber : .clock start stop ∉ if numbered then [Place.number (numberAfter before counter)] else [] := by
      split <;> simp
    exact List.not_mem_append hnumber (List.not_mem_append (clock_not_mem_placesInParts ht)
      (List.not_mem_append (clock_not_mem_placesInParts hc) (ih hitems _)))

theorem clock_not_mem_placesInCells {cells : Row} (h : ∀ c ∈ cells, ∀ r ∈ c.content, r.HasNoClock) :
    .clock start stop ∉ placesInCells cells := by
  induction cells with
  | nil => exact List.not_mem_nil
  | cons c cells ih =>
    obtain ⟨content, raw⟩ := c
    obtain ⟨hc, hcells⟩ := List.forall_mem_cons.1 h
    exact List.not_mem_append (clock_not_mem_placesInParts hc) (ih hcells)

theorem clock_not_mem_placesInRows {rows : List Row} (h : ∀ row ∈ rows, ∀ c ∈ row, ∀ r ∈ c.content, r.HasNoClock) :
    .clock start stop ∉ placesInRows rows := by
  induction rows with
  | nil => exact List.not_mem_nil
  | cons row rows ih =>
    obtain ⟨hrow, hrows⟩ := List.forall_mem_cons.1 h
    exact List.not_mem_append (clock_not_mem_placesInCells hrow) (ih hrows)

/-- No clock is met in running text. -/
theorem Record.hasNoClock (r : Record) : r.HasNoClock := by
  induction r using Record.withinInduction with
  | step r ih =>
    intro start stop view
    have hnumbers : ∀ v : Json, .clock start stop ∉ numberPlaces v := by simp [numberPlaces]
    cases r with
    | fraction done all => exact List.not_mem_append (hnumbers done) (hnumbers all)
    | percentage v => exact hnumbers v
    | list items bullet ordered terminator =>
      refine clock_not_mem_placesInItems (fun i hi r hr => ?_) _ _
      exact ih (.listItem i) (List.mem_map_of_mem hi) r (mem_within_of_mem_children hr r.mem_within_self)
    | table rows =>
      cases view with
      | seen => exact List.not_mem_nil
      | raw =>
        refine clock_not_mem_placesInRows fun row hrow c hc r hr => ?_
        have hcell : .cell c ∈ (Record.row row).children := List.mem_map_of_mem hc
        exact ih (.row row) (List.mem_map_of_mem hrow) r
          (mem_within_of_mem_children hcell (mem_within_of_mem_children hr r.mem_within_self))
    | text | link | stamp | bareLink => exact List.not_mem_nil
    | _ => simp [places]

/-- The clocks of a well-typed document are those of its logbooks, so their timestamps are well-typed. -/
theorem Document.isTyped_of_clock_mem_places {d : Document} (typed : d.WellTyped) (h : .clock start stop ∈ d.places) :
    start.isTyped = true ∧ stop.isTyped = true := by
  obtain ⟨hd, hhd, h⟩ := List.mem_flatMap.1 h
  rcases List.mem_append.1 h with hlevel | h
  · simp at hlevel
  rcases List.mem_append.1 h with hproperties | hlogbook
  · obtain ⟨p, -, hp⟩ := List.mem_flatMap.1 hproperties
    exact absurd hp (clock_not_mem_placesInParts fun r _ => r.hasNoClock)
  · obtain ⟨e, he, hplace⟩ := List.mem_flatMap.1 hlogbook
    have hentry : (Record.logEntry e).WellTyped :=
      (typed.heading hhd).of_mem_children (c := .logEntry e) (by simp [Record.children, he])
    cases e with
    | line text => exact absurd hplace List.not_mem_nil
    | clock start' stop' =>
      cases stop' with
      | none => exact absurd hplace List.not_mem_nil
      | some stop' =>
        obtain ⟨rfl, rfl⟩ := Place.clock.inj (List.mem_singleton.1 hplace)
        exact ⟨(hentry.of_mem_children (c := .timestamp start) (by simp [Record.children, stampRecords])).fieldsTyped,
          (hentry.of_mem_children (c := .timestamp stop) (by simp [Record.children, stampRecords])).fieldsTyped⟩

end Clocks

/-! ## Documents -/

namespace Document

/-- An export with the default functions visits the places of the document. -/
theorem visits_export (k : Collector) (o : Options) {d : Document} (typed : d.WellTyped) :
    Visits { collector := k, options := o } (fun _ => True) d.places (d.export { collector := k } (some (.own o))) :=
  (d.walks typed).visits { collector := k, options := o } (Collaborators.neverFails_default k)

/-- An export with the default functions gives a text exactly when no place fails. -/
theorem exists_export_iff (k : Collector) (o : Options) {d : Document} (typed : d.WellTyped) :
    (∃ text, (d.export { collector := k } (some (.own o))).outcome = .ok text) ↔ ∀ p ∈ d.places, ∀ f, ¬ p.Fails o f := by
  simp only [(visits_export k o typed).exists_outcome_eq_ok_iff, Place.fault?_eq_none_iff]

/-- It fails with the fault of the first place that fails. -/
theorem export_eq_error_iff (k : Collector) (o : Options) {d : Document} (typed : d.WellTyped) {f : Fault} :
    (d.export { collector := k } (some (.own o))).outcome = .error f ↔ ∃ before p behind, d.places = before ++ p :: behind ∧
      (∀ q ∈ before, ∀ g, ¬ q.Fails o g) ∧ p.Fails o f := by
  simp only [(visits_export k o typed).outcome_eq_error_iff, List.findSome?_eq_some_iff, Place.fault?_eq_some_iff,
    Place.fault?_eq_none_iff, and_comm]

/-- The exact law of failure for the export of a well-typed document with the default functions, whoever collects reports:
it gives a text exactly when no place of the document fails; otherwise it fails with the fault of the first one that does; and a
text that it gives is the one that is given when no part is a failure. The fault is a `RenderingError` at a part, of which it
tells the stage of writing and the kind, a `ValueError` at a number, an `OverflowError` at a level, and one of the latter two at
a clock. -/
theorem export_fails_iff (k : Collector) (o : Options) (d : Document) (typed : d.WellTyped) :
    let exported := (d.export { collector := k } (some (.own o))).outcome
    let lenient := (d.export { collector := k } (some (.own { o with failOnUnknown := .bool false }))).outcome
    ((∃ text, exported = .ok text) ↔ ∀ p ∈ d.places, ∀ f, ¬ p.Fails o f) ∧
      (∀ f, exported = .error f ↔ ∃ before p behind, d.places = before ++ p :: behind ∧
        (∀ q ∈ before, ∀ g, ¬ q.Fails o g) ∧ p.Fails o f) ∧
      (∀ text, exported = .ok text → lenient = .ok text) ∧
      ∀ p ∈ d.places, ∀ f, p.Fails o f → match p with
        | .part kind _ => f.errorName = "RenderingError" ∧ f.stage? = some "attributed_text" ∧
          f.message? = some ("Unknown attributed string part type: ".toList ++ kind.shown)
        | .number _ => f.errorName = "ValueError"
        | .level _ => f.errorName = "OverflowError"
        | .clock _ _ => f.errorName = "ValueError" ∨ f.errorName = "OverflowError" := by
  intro exported lenient
  refine ⟨exists_export_iff k o typed, fun f => export_eq_error_iff k o typed, ?_, ?_⟩
  · intro text htext
    let s : Setup := { collector := k, options := o }
    let s' : Setup := { collector := k, options := { o with failOnUnknown := .bool false } }
    have same : s.observing = s'.observing := rfl
    have hfault : ∀ p ∈ d.places, p.fault? s = none → p.fault? s' = none := by
      intro p _ hp
      cases p with
      | part kind view => rfl
      | number n => exact hp
      | level n => exact hp
      | clock start stop => exact hp
    exact (d.walks typed).outcome_of_lenient (Collaborators.neverFails_default k) (Collaborators.neverFails_default k) same
      hfault htext
  · intro p hp f hf
    cases hf with
    | part h => exact ⟨rfl, rfl, rfl⟩
    | number h => rfl
    | level h => rfl
    | clockStop h => exact h.errorName (isTyped_of_clock_mem_places typed hp).2
    | clockStart hstop h => exact h.errorName (isTyped_of_clock_mem_places typed hp).1

/-- A document with one heading, which has one property and a logbook. -/
def ofHeading (level : Int) (value : Parts) (logbook : List LogEntry) : Document where
  headings := [
    { level := .int level, title := { text := .str "A" }, planning := [], properties := [⟨.str "P", value⟩],
      logbook := logbook, body := .str "", description := [] }]
  keywordSets := []
  configLines := []
  firstLines := []

/-- The first day of a month that does not exist. -/
def thirteenthMonth : Timestamp := { year := .str "2024", month := .str "13", day := .str "01" }

/-- A document with a part that is not recognized and a clock that ends in a month that does not exist. -/
def badClockDocument : Document :=
  ofHeading 1 [.unrecognized (.str "X") []]
    [.clock { year := .str "2024", month := .str "01", day := .str "31" } (some thirteenthMonth)]

/-- The part comes first, if it is a failure. -/
theorem export_fails_badClock : badClockDocument.WellTyped ∧
    (badClockDocument.export {} (some (.own {}))).outcome = .error (.noSuchDate .month) ∧
    (badClockDocument.export {} (some (.own { failOnUnknown := .bool true }))).outcome = .error (.unknownPart (.str "X")) := by
  have typed : badClockDocument.WellTyped := by decide
  have hlevel : ∀ o g, ¬ Place.Fails o (.level 1) g := by
    intro o g hf
    cases hf with
    | level h => exact absurd h (by decide)
  have hpart : ∀ g, ¬ Place.Fails {} (.part (.str "X") .raw) g := by
    intro g hf
    cases hf with
    | part h => exact absurd h (by decide)
  have hmeans : List.Forall₂ Json.Means thirteenthMonth.momentFields [2024, 13, 1, 0, 0] := by
    simp only [Timestamp.momentFields, List.forall₂_cons, ← Json.toInteger_eq_ok_iff]
    exact ⟨rfl, rfl, rfl, rfl, rfl, .nil⟩
  have hdate : NoSuchDate 2024 13 1 0 0 .month := .month (by decide) (by decide)
  have hfits : ∀ n ∈ [(2024 : Int), 13, 1, 0, 0], FitsWord n := by simp [FitsWord]
  refine ⟨typed, ((export_fails_iff .absent {} badClockDocument typed).2.1 _).2 ?_,
    ((export_fails_iff .absent { failOnUnknown := .bool true } badClockDocument typed).2.1 _).2 ?_⟩
  · exact ⟨[.level 1, .part (.str "X") .raw], _, [], rfl,
      List.forall_mem_cons.2 ⟨hlevel _, List.forall_mem_singleton.2 hpart⟩, .clockStop (.outside hmeans hfits hdate)⟩
  · exact ⟨[.level 1], _, _, rfl, List.forall_mem_singleton.2 (hlevel _), .part rfl⟩

/-- An ordered list of two items, the first of which has a counter. -/
def countedList (n : Int) : Record :=
  .list [⟨[.text (.str "a")], [], .bool false, .unchecked, .int n⟩,
    ⟨[.text (.str "b")], [], .bool false, .unchecked, .null⟩] (.str "-") (.bool true) (.str ".")

/-- The greatest integer that is written. -/
def lastShort : Int := 10 ^ digitLimit - 1

theorem isLong_lastShort : isLong lastShort = false := by
  have hpos : (0 : Int) < 10 ^ digitLimit := pow_pos (by decide) _
  have hlt : lastShort.natAbs < (10 ^ digitLimit : Int).natAbs := by
    refine Int.natAbs_lt_natAbs_of_nonneg_of_lt ?_ ?_
    · exact Int.le_sub_one_of_lt hpos
    · exact Int.sub_one_lt_of_le le_rfl
  rw [natAbs_ten_pow] at hlt
  rw [← Bool.not_eq_true, isLong_iff]
  exact not_le.2 hlt

theorem isLong_lastShort_succ : isLong (lastShort + 1) = true := by
  rw [lastShort, Int.sub_add_cancel]
  exact isLong_ten_pow

/-- Parts and clocks are not the only places that fail. A list is not written if it counts from the greatest integer that is
written to the one behind it, and neither is a heading whose level does not fit into 64 bits with one added. -/
theorem export_fails_elsewhere :
    let counting := ofHeading 1 [countedList lastShort] []
    let deep := ofHeading (Json.wordLimit - 1) [] []
    (counting.WellTyped ∧ deep.WellTyped) ∧
      (∀ p ∈ counting.places ++ deep.places, p.part? = none ∧ ∀ start stop, p ≠ .clock start stop) ∧
      (counting.export {} (some (.own {}))).outcome = .error .tooManyDigitsShown ∧
      (deep.export {} (some (.own {}))).outcome = .error .outOfRange := by
  intro counting deep
  have hcounting : counting.WellTyped := by
    have typed : ∀ n, (ofHeading 1 [countedList n] []).WellTyped := fun _ => List.all_eq_true.1 rfl
    exact typed lastShort
  have hdeep : deep.WellTyped := by decide
  have hplaces : counting.places = [.level 1, .number lastShort, .number (lastShort + 1)] := rfl
  have hplaces' : deep.places = [.level (Json.wordLimit - 1)] := rfl
  refine ⟨⟨hcounting, hdeep⟩, ?_, ?_, ?_⟩
  · rw [hplaces, hplaces']
    simp [Place.part?]
  · rw [(visits_export .absent {} hcounting).outcome_eq_error_iff, hplaces]
    simp [Place.fault?, isLong_lastShort, isLong_lastShort_succ, Json.wordLimit]
  · rw [(visits_export .absent {} hdeep).outcome_eq_error_iff, hplaces']
    rfl

end Document
end OrgOutline
