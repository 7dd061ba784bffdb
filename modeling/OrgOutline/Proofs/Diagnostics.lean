import OrgOutline.Proofs.Failures

/-!
# What collectors receive

Who collects reports has no influence on the outcome of an export, and what is told of the parts that are not recognized is
exact (`Delivers`): a collector receives one event for each of them, in their order, without a collector there is one warning for
each in the log, and with a collector that fails one warning that says so; if a place fails, these are the parts before it. Main
statement: this holds of exports of well-typed running text and of well-typed documents, and the parts of a document that are not
recognized are those in the values of its properties (`export_reports_exactly`). Something can fail although parts are no
failures, and then no part behind it is reported (`export_reports_nothing_behind`).
-/

namespace OrgOutline

/-! ## Events and warnings -/

namespace Run

variable {α : Type} (x : Run α)

/-- What is taken from notices is taken from those that are no details, if nothing is taken from a detail. -/
theorem filterMap_withoutDetails {β : Type} {f : Notice → Option β} (h : ∀ n : Notice, n.isDetail = true → f n = none) :
    x.withoutDetails.notices.filterMap f = x.notices.filterMap f := by
  rw [withoutDetails, List.filterMap_filter]
  refine List.filterMap_congr fun n _ => ?_
  cases hn : n.isDetail with
  | true => rw [h n hn]; rfl
  | false => rfl

/-- No event is a detail. -/
theorem events_eq : x.events = x.withoutDetails.notices.filterMap Notice.event? := by
  refine (x.filterMap_withoutDetails fun n hn => ?_).symm
  cases n with
  | reported report => nomatch hn
  | _ => rfl

/-- No warning is a detail. -/
theorem warnings_eq : x.warnings =
    x.withoutDetails.notices.filterMap fun n => n.remark?.filter fun m => m.level = .warning := by
  rw [warnings, remarks, List.filter_filterMap]
  refine (x.filterMap_withoutDetails fun n hn => ?_).symm
  have hlevel : n.level? = some .debug := eq_of_beq hn
  rw [Notice.remark?, hlevel]
  rfl

end Run

/-! ## Exact delivery -/

/-- The parts that are met before writing stops: those before the first place that fails. -/
def partsMet (s : Setup) (places : List Place) : List (Json × View) :=
  partsAt (places.takeWhile fun p => (p.fault? s).isNone)

/-- The name of the component that meets parts in a view. -/
def View.signature : View → String
  | .raw => "AttributedTextRenderer"
  | .seen => "DisplayTextRenderer"

/-- Exports with each collector, which tell of the parts among places and have the same outcome. -/
structure Delivers (s : Setup) (places : List Place) (exported : Collector → Run Text) : Prop where
  /-- The outcome is the same whoever collects. -/
  outcome_eq : ∀ k k', (exported k).outcome = (exported k').outcome
  /-- An export fails with the fault of the first place that fails. -/
  failure : ∀ k f, (exported k).outcome = .error f ↔ places.findSome? (Place.fault? s) = some f
  /-- A collector receives an event for each part that is met, with its kind and the name of the component that met it, and the
  log has no warning. -/
  collected : (exported .keeping).warnings = [] ∧
    (exported .keeping).events = (partsMet s places).map fun p =>
      ⟨"unknown_part", "Unknown attributed string part type: ".toList ++ p.1.shown, p.1, p.2.signature⟩
  /-- Without a collector there is a warning in the log for each part that is met, with the text of that event. -/
  logged : (exported .absent).events = [] ∧
    (exported .absent).warnings = (partsMet s places).map fun p =>
      ⟨.warning, "orgexport.renderers.base", "Unknown attributed string part type: ".toList ++ p.1.shown⟩
  /-- With a collector that fails there is a warning in the log for each part that is met, which says why. -/
  lost : ∀ reason, (exported (.failing reason)).events = [] ∧
    (exported (.failing reason)).warnings = (partsMet s places).map fun _ =>
      ⟨.warning, "orgexport.renderers.base", "Diagnostic callback raised exception: ".toList ++ reason⟩
  /-- If no place fails, there is a text and all parts are met. -/
  complete : (∀ p ∈ places, p.fault? s = none) →
    (∃ text, ∀ k, (exported k).outcome = .ok text) ∧ partsMet s places = partsAt places

theorem filterMap_map_eq_map {α β γ : Type} {f : β → Option γ} {g : α → β} {e : α → γ} (h : ∀ a, f (g a) = some (e a))
    {xs : List α} : (xs.map g).filterMap f = xs.map e := by
  rw [List.filterMap_map, show f ∘ g = some ∘ e from funext h, List.filterMap_eq_map]

theorem filterMap_map_eq_nil {α β γ : Type} {f : β → Option γ} {g : α → β} (h : ∀ a, f (g a) = none) {xs : List α} :
    (xs.map g).filterMap f = [] := by
  rw [List.filterMap_map, show f ∘ g = fun _ => none from funext h, List.filterMap_none]

/-- The setup with another collector. -/
def Setup.collecting (s : Setup) (k : Collector) : Setup := { s with collector := k }

theorem Setup.fault?_collecting (s : Setup) (k : Collector) (p : Place) : p.fault? (s.collecting k) = p.fault? s := by
  cases p <;> rfl

theorem Setup.neverFails_collecting {s : Setup} (hs : s.NeverFails) (k : Collector) : (s.collecting k).NeverFails :=
  ⟨hs.stamps, hs.entries⟩

/-- A walk tells of the parts among its places, whoever collects. -/
theorem Walks.delivers {ps : List Place} {x : Setup → Run Text} (h : Walks ps x) {s : Setup} (hs : s.NeverFails) :
    Delivers s ps fun k => x (s.collecting k) := by
  have hfault : ∀ k, Place.fault? (s.collecting k) = Place.fault? s := fun k => funext (s.fault?_collecting k)
  have hvisits : ∀ k, Visits (s.collecting k) (fun _ => True) ps (x (s.collecting k)) :=
    fun k => h.visits _ (Setup.neverFails_collecting hs k)
  have hfailure : ∀ k f, (x (s.collecting k)).outcome = .error f ↔ ps.findSome? (Place.fault? s) = some f := by
    intro k f
    rw [(hvisits k).outcome_eq_error_iff, hfault k]
  have hnotices : ∀ k, (x (s.collecting k)).withoutDetails.notices = (partsMet s ps).map k.notice := by
    intro k
    rw [(hvisits k).notices_withoutDetails, hfault k]
    rfl
  have hsame : ∀ k k', (x (s.collecting k)).outcome = (x (s.collecting k')).outcome := by
    intro k k'
    cases hx : (x (s.collecting k)).outcome with
    | error f => exact ((hfailure k' f).2 ((hfailure k f).1 hx)).symm
    | ok text =>
      have lenient : ∀ p ∈ ps, p.fault? (s.collecting k) = none → p.fault? (s.collecting k') = none := by
        intro p _ hp
        rwa [s.fault?_collecting] at hp ⊢
      exact (h.outcome_of_lenient (Setup.neverFails_collecting hs k) (Setup.neverFails_collecting hs k') rfl lenient hx).symm
  exact {
    outcome_eq := hsame
    failure := hfailure
    collected := by
      rw [Run.events_eq, Run.warnings_eq, hnotices]
      exact ⟨filterMap_map_eq_nil fun _ => rfl, filterMap_map_eq_map fun | (_, .raw) => rfl | (_, .seen) => rfl⟩
    logged := by
      rw [Run.events_eq, Run.warnings_eq, hnotices]
      exact ⟨filterMap_map_eq_nil fun _ => rfl, filterMap_map_eq_map (by intro p; rfl)⟩
    lost := by
      intro reason
      rw [Run.events_eq, Run.warnings_eq, hnotices]
      exact ⟨filterMap_map_eq_nil fun _ => rfl, filterMap_map_eq_map (by intro p; rfl)⟩
    complete := by
      intro hnone
      obtain ⟨text, htext⟩ := (hvisits .absent).exists_outcome_eq_ok_iff.2 fun p hp => by
        rw [s.fault?_collecting, hnone p hp]
      have hall : (ps.takeWhile fun p => (p.fault? s).isNone) = ps :=
        List.takeWhile_eq_self_iff.2 fun p hp => by rw [hnone p hp]; rfl
      exact ⟨⟨text, fun k => (hsame k .absent).trans htext⟩, by rw [partsMet, hall]⟩ }

/-! ## Exports -/

/-- Exports of well-typed running text tell exactly of the parts that are not recognized. -/
theorem Parts.delivers_export {c : Collaborators} (hc : c.NeverFails) (o : Options) (view : View) {parts : Parts}
    (typed : ∀ r ∈ parts, r.WellTyped) : Delivers { c with options := o } (placesInParts view parts) fun k =>
      parts.export { c with collector := k } (some (.own o)) view :=
  (Parts.walks typed view).delivers (s := { c with options := o }) hc

/-- Exports of a well-typed document tell exactly of the parts that are not recognized. -/
theorem Document.delivers_export {c : Collaborators} (hc : c.NeverFails) (o : Options) {d : Document}
    (typed : d.WellTyped) : Delivers { c with options := o } d.places fun k =>
      d.export { c with collector := k } (some (.own o)) :=
  (d.walks typed).delivers (s := { c with options := o }) hc

theorem partsAt_append (ps qs : List Place) : partsAt (ps ++ qs) = partsAt ps ++ partsAt qs :=
  List.filterMap_append

theorem partsAt_flatMap {α : Type} (xs : List α) (f : α → List Place) :
    partsAt (xs.flatMap f) = xs.flatMap fun x => partsAt (f x) := List.filterMap_flatMap

/-- The parts of a document that are not recognized are those in the values of its properties. -/
theorem Document.partsAt_places (d : Document) : partsAt d.places =
    d.headings.flatMap fun h => h.properties.flatMap fun p => partsAt (placesInParts .raw p.value) := by
  have hlevel : ∀ v : Option Int, partsAt (v.toList.map .level) = [] := by
    intro v
    cases v <;> rfl
  have hclock : ∀ e : LogEntry, partsAt e.places = [] := by
    intro e
    cases e with
    | line words => rfl
    | clock start stop => cases stop <;> rfl
  have hheading : ∀ h : Heading, partsAt h.places = h.properties.flatMap fun p => partsAt (placesInParts .raw p.value) := by
    intro h
    have hlogbook : partsAt (h.logbook.flatMap LogEntry.places) = [] := by
      rw [partsAt_flatMap]
      exact List.flatMap_eq_nil_iff.2 fun e _ => hclock e
    rw [Heading.places, partsAt_append, partsAt_append, hlevel, hlogbook, partsAt_flatMap, List.nil_append,
      List.append_nil]
  rw [Document.places, partsAt_flatMap]
  exact congrArg d.headings.flatMap (funext hheading)

/-- Exports of well-typed running text and of well-typed documents tell exactly of the parts that are not recognized, whoever
collects; those of a document are those in the values of its properties, heading by heading. -/
theorem export_reports_exactly (c : Collaborators) (hc : c.NeverFails) (o : Options) :
    (∀ (view : View) (parts : Parts), (∀ r ∈ parts, r.WellTyped) →
      Delivers { c with options := o } (placesInParts view parts) fun k =>
        parts.export { c with collector := k } (some (.own o)) view) ∧
    ∀ d : Document, d.WellTyped →
      (Delivers { c with options := o } d.places fun k => d.export { c with collector := k } (some (.own o))) ∧
      partsAt d.places =
        d.headings.flatMap fun h => h.properties.flatMap fun p => partsAt (placesInParts .raw p.value) := by
  constructor
  · intro view parts typed
    exact Parts.delivers_export hc o view typed
  · intro d typed
    exact ⟨Document.delivers_export hc o typed, d.partsAt_places⟩

/-- Running text with parts that are not recognized in an item, below it, and in two tables, one of which lies in a cell. -/
def nestedParts : Parts :=
  [.list [⟨[.unrecognized (.str "A") []], [.unrecognized (.str "B") []], .bool false, .unchecked, .null⟩]
      (.str "-") (.bool false) (.str "."),
    .table [[⟨[.unrecognized (.str "C") [], .table [[⟨[.unrecognized (.str "D") []], .str ""⟩]]], .str "c"⟩]]]

/-- The part in the table that lies in a cell is not met. -/
theorem export_reports_nested : ({} : Collaborators).NeverFails ∧ (∀ r ∈ nestedParts, r.WellTyped) ∧
    (nestedParts.export { collector := .keeping } (some (.own {})) .raw).events =
      [⟨"unknown_part", "Unknown attributed string part type: A".toList, .str "A", "AttributedTextRenderer"⟩,
        ⟨"unknown_part", "Unknown attributed string part type: B".toList, .str "B", "AttributedTextRenderer"⟩,
        ⟨"unknown_part", "Unknown attributed string part type: C".toList, .str "C", "DisplayTextRenderer"⟩] ∧
    (nestedParts.export { collector := .failing "full".toList } (some (.own {})) .raw).warnings =
      List.replicate 3 ⟨.warning, "orgexport.renderers.base", "Diagnostic callback raised exception: full".toList⟩ := by
  have hc : ({} : Collaborators).NeverFails := Collaborators.neverFails_default .absent
  have typed : ∀ r ∈ nestedParts, r.WellTyped := by decide
  have hdelivers := (export_reports_exactly {} hc {}).1 .raw nestedParts typed
  exact ⟨hc, typed, hdelivers.collected.2, (hdelivers.lost "full".toList).2⟩

/-- Behind a list that is not written no part is reported, although the part is no failure. -/
theorem export_reports_nothing_behind :
    let parts : Parts := [Document.countedList Document.lastShort, .unrecognized (.str "X") []]
    let exported : Collector → Run Text := fun k => parts.export { collector := k } (some (.own {})) .raw
    (∀ r ∈ parts, r.WellTyped) ∧ partsAt (placesInParts .raw parts) = [(.str "X", .raw)] ∧
      (∀ k, (exported k).outcome = .error .tooManyDigitsShown) ∧
      (exported .keeping).events = [] ∧ (exported .absent).warnings = [] ∧
      ∀ reason, (exported (.failing reason)).warnings = [] := by
  intro parts exported
  have hlist : ∀ n, (Document.countedList n).WellTyped := fun _ => List.all_eq_true.1 rfl
  have hpart : (Record.unrecognized (.str "X") []).WellTyped := by decide
  have typed : ∀ r ∈ parts, r.WellTyped :=
    List.forall_mem_cons.2 ⟨hlist _, List.forall_mem_cons.2 ⟨hpart, List.forall_mem_nil _⟩⟩
  have hplaces : placesInParts .raw parts =
      [.number Document.lastShort, .number (Document.lastShort + 1), .part (.str "X") .raw] := rfl
  have hdelivers := Parts.delivers_export (Collaborators.neverFails_default .absent) {} .raw typed
  have hshort : Place.fault? {} (.number Document.lastShort) = none := by
    rw [Place.fault?, Document.isLong_lastShort]
    rfl
  have hlong : Place.fault? {} (.number (Document.lastShort + 1)) = some .tooManyDigitsShown := by
    rw [Place.fault?, Document.isLong_lastShort_succ]
    rfl
  have hmet : partsMet {} (placesInParts .raw parts) = [] := by
    rw [hplaces, partsMet, List.takeWhile_cons_of_pos (by rw [hshort]; rfl), List.takeWhile_cons_of_neg (by rw [hlong]; simp)]
    rfl
  refine ⟨typed, by rw [hplaces]; rfl, fun k => (hdelivers.failure k _).2 ?_, ?_, ?_, fun reason => ?_⟩
  · rw [hplaces, List.findSome?_cons, hshort, List.findSome?_cons, hlong]
  · refine hdelivers.collected.2.trans ?_
    rw [hmet, List.map_nil]
  · refine hdelivers.logged.2.trans ?_
    rw [hmet, List.map_nil]
  · refine (hdelivers.lost reason).2.trans ?_
    rw [hmet, List.map_nil]

end OrgOutline
