import OrgOutline.Heading.Write
import OrgOutline.Proofs.SideBySide
import OrgOutline.Proofs.Words

/-!
# Places where writing can stop

Writing a well-typed document can stop at four sorts of places (`Place`): at a part that is not recognized, if that is a
failure, at a number of too many digits, at a heading whose level is too large, and at a clock whose duration does not exist.
Nothing else happens at a place but that a part is reported. The places of a document in the order in which they are met are
listed by `Document.places`, those of running text by `placesInParts`. Main statements: visiting places one after another stops
at the first one that fails (`outcome_forM_visit`) and reports the parts before it (`notices_forM_visit`).
-/

namespace OrgOutline

/-- The fault that an outcome is, if it is one. -/
def faultOf {α : Type} : Except Fault α → Option Fault
  | .error f => some f
  | .ok _ => none

/-- A place at which writing can stop or has something to report. -/
inductive Place where
  /-- A part that is not recognized: the name of its kind and the view in which it is met. -/
  | part (kind : Json) (view : View)
  /-- A number that is written: that of an item of an ordered list, or one of a cookie. -/
  | number (n : Int)
  /-- The level of a heading, which is written as stars and as an indentation. -/
  | level (n : Int)
  /-- A clock that has ended. -/
  | clock (start stop : Timestamp)

namespace Place

/-- Why writing stops at a place, if it does. -/
def fault? (s : Setup) : Place → Option Fault
  | .part kind _ => if s.options.failOnUnknown.isSet then some (.unknownPart kind) else none
  | .number n => if isLong n then some .tooManyDigitsShown else none
  | .level n => if Json.wordLimit ≤ n + 1 then some .outOfRange else none
  | .clock start stop => faultOf (s.durationText start stop)

/-- The part that is due to be reported at a place, and the view in which it is met. -/
def part? : Place → Option (Json × View)
  | .part kind view => some (kind, view)
  | _ => none

end Place

/-! ## The places of running text -/

/-- The number of an item, from that of the item before and its counter. -/
def numberAfter (before : Int) (counter : Json) : Int := counter.asInt?.getD (before + 1)

/-- A number of a cookie is a place if it is an integer. -/
def numberPlaces (v : Json) : List Place := v.asInt?.toList.map .number

mutual
/-- The places of a part. A table in a cell is not looked into. -/
def Record.places (view : View) : Record → List Place
  | .text _ | .link .. | .stamp .. | .bareLink .. => []
  | .fraction done all => numberPlaces done ++ numberPlaces all
  | .percentage v => numberPlaces v
  | .list items _ ordered _ => placesInItems view ordered.isSet 0 items
  | .table rows =>
    match view with
    | .raw => placesInRows rows
    | .seen => []
  | r => [.part r.kind view]
termination_by structural x => x

/-- The places of running text. -/
def placesInParts (view : View) : List Record → List Place
  | [] => []
  | r :: rs => r.places view ++ placesInParts view rs
termination_by structural x => x

/-- The places of the items of a list: the number of each item if it is written, then its title and its contents. -/
def placesInItems (view : View) (numbered : Bool) (before : Int) : List Item → List Place
  | [] => []
  | ⟨title, contents, _, _, counter⟩ :: items =>
    (if numbered then [.number (numberAfter before counter)] else []) ++
      (placesInParts view title ++ (placesInParts view contents ++
        placesInItems view numbered (numberAfter before counter) items))
termination_by structural x => x

/-- The places of a table, row by row. -/
def placesInRows : List (List Cell) → List Place
  | [] => []
  | row :: rows => placesInCells row ++ placesInRows rows
termination_by structural x => x

/-- The places of a row, cell by cell. -/
def placesInCells : List Cell → List Place
  | [] => []
  | ⟨content, _⟩ :: cells => placesInParts .seen content ++ placesInCells cells
termination_by structural x => x
end

/-! ## The places of a document -/

/-- The place of a line of a logbook: a clock that has ended. -/
def LogEntry.places : LogEntry → List Place
  | .clock start (some stop) => [.clock start stop]
  | _ => []

/-- The places of a heading: its level, the values of its properties, and its logbook. -/
def Heading.places (h : Heading) : List Place :=
  h.level.asInt?.toList.map .level ++
    (h.properties.flatMap (fun p => placesInParts .raw p.value) ++ h.logbook.flatMap LogEntry.places)

/-- The places of a document, heading by heading. -/
def Document.places (d : Document) : List Place := d.headings.flatMap Heading.places

/-- The parts that are not recognized among places, each with the view in which it is met. -/
def partsAt (places : List Place) : List (Json × View) := places.filterMap Place.part?

/-! ## Visiting -/

/-- The notice that a part becomes. -/
def Collector.notice : Collector → Json × View → Notice
  | .absent, p => .unknownPart p.1
  | .keeping, p => .reported ⟨p.1, p.2.component⟩
  | .failing reason, _ => .collectorFailed reason

variable {s : Setup}

/-- What happens at a place: it fails or, if it is a part that is not recognized, is reported. -/
def Place.visit (s : Setup) (p : Place) : Run Unit :=
  match p.fault? s with
  | some f => .fail f
  | none =>
    match p.part? with
    | some met => .note (s.collector.notice met)
    | none => pure ()

/-- A part that is not recognized is reported by being visited, if its kind can be shown. -/
theorem Setup.report_eq_visit (view : View) {kind : Json} (h : kind.hasLong = false) :
    s.report view.component kind = (Place.part kind view).visit s := by
  rw [Setup.report, Json.checkShown_eq_ok_iff.2 (by simp [h])]
  refine (pure_bind _ _).trans ?_
  unfold Place.visit Place.fault?
  split
  · rfl
  · cases s.collector <;> rfl

theorem Place.visit_of_fault {p : Place} {f : Fault} (h : p.fault? s = some f) : p.visit s = .fail f := by
  rw [visit, h]

theorem Place.outcome_visit (p : Place) : (p.visit s).outcome = match p.fault? s with
    | some f => .error f
    | none => .ok () := by
  unfold visit
  cases p.fault? s with
  | some f => rfl
  | none => cases p.part? <;> rfl

theorem Place.notices_visit (p : Place) (h : p.fault? s = none) :
    (p.visit s).notices = p.part?.toList.map s.collector.notice := by
  rw [visit, h]
  cases p.part? <;> rfl

/-- Visiting places stops at the first one that fails. -/
theorem outcome_forM_visit (ps : List Place) : (ps.forM (Place.visit s)).outcome =
    match ps.findSome? (Place.fault? s) with
    | some f => .error f
    | none => .ok () := by
  induction ps with
  | nil => rfl
  | cons p ps ih =>
    show (p.visit s >>= fun _ => ps.forM (Place.visit s)).outcome = _
    rw [Run.outcome_bind, p.outcome_visit, List.findSome?_cons]
    cases p.fault? s with
    | some f => rfl
    | none => exact ih

/-- Visiting places reports the parts before the first one that fails. -/
theorem notices_forM_visit (ps : List Place) : (ps.forM (Place.visit s)).notices =
    (partsAt (ps.takeWhile fun p => (p.fault? s).isNone)).map s.collector.notice := by
  induction ps with
  | nil => rfl
  | cons p ps ih =>
    show (p.visit s >>= fun _ => ps.forM (Place.visit s)).notices = _
    cases h : p.fault? s with
    | some f =>
      rw [Place.visit_of_fault h, List.takeWhile_cons_of_neg (by simp [h])]
      rfl
    | none =>
      have hok : (p.visit s).outcome = .ok () := by rw [p.outcome_visit, h]
      rw [Run.bind_ok hok, List.takeWhile_cons_of_pos (by simp [h]), partsAt, List.filterMap_cons, p.notices_visit h, ih]
      cases p.part? <;> rfl

end OrgOutline
