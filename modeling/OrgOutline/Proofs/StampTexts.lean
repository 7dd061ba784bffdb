import OrgOutline.Export
import OrgOutline.Proofs.MapWriting
import OrgOutline.Proofs.OtherTimestamps
import OrgOutline.Proofs.Written

/-!
# Timestamps reach a text through the collaborators

What a document says in its timestamps is seen by nobody but the collaborators. Two sets of collaborators correspond on two
records (`Collaborators.Correspond`) when each treats the timestamps, the ended clocks and the planning entries of its own
record as the other one treats those at the same places. Main statement: documents that differ in their timestamps alone are
exported in the same way with collaborators that correspond (`Document.exportWith_eq_of_sameButStamps`).
-/

namespace OrgOutline

/-! ## Collaborators that correspond -/

/-- Two sets of collaborators, each of which treats what stands in its own record as the other one treats what stands at the
same place of the other record. -/
structure Collaborators.Correspond (c c' : Collaborators) (r r' : Record) : Prop where
  stamps : ∀ t t', (.timestamp t, .timestamp t') ∈ Record.pairs r r' → c.timestampText t = c'.timestampText t'
  durations : ∀ a b a' b', (.logEntry (.clock a (some b)), .logEntry (.clock a' (some b'))) ∈ Record.pairs r r' →
    c.durationText a b = c'.durationText a' b'
  entries : ∀ i i', (.planning i, .planning i') ∈ Record.pairs r r' → c.keepsEntry i = c'.keepsEntry i'

variable {s s' : Setup}

/-- Setups with collaborators that correspond on the sides of a record agree on that record, each looking at its own side. -/
theorem Setup.agree_of_correspond {k : Record} (options : s.options = s'.options) (collector : s.collector = s'.collector)
    (h : s.Correspond s'.toCollaborators (k.mapTimestamps .left) (k.mapTimestamps .right)) :
    (s.comap .left).Agree (s'.comap .right) (fun _ => True) k where
  options := options
  collector := collector
  stamps t ht := by
    have heq : (s.comap .left).timestampText t = (s'.comap .right).timestampText t := h.stamps _ _ (Record.mem_pairs_sides ht)
    rw [heq]
    exact RelatedOutcomes.refl Text.AlikeIf.refl _
  durations _ _ hc := h.durations _ _ _ _ (Record.mem_pairs_sides hc)
  entries _ hi := h.entries _ _ (Record.mem_pairs_sides hi)

/-- Documents that differ in their timestamps alone are written in the same way with collaborators that correspond. -/
theorem Document.write_eq_of_sameButStamps {d d' : Document} (same : (Record.document d).SameButStamps (.document d'))
    (options : s.options = s'.options) (collector : s.collector = s'.collector)
    (h : s.Correspond s'.toCollaborators (.document d) (.document d')) : d.write s = d'.write s' := by
  obtain ⟨k, rfl, rfl⟩ := d.exists_both d' same
  rw [write_mapTimestamps, write_mapTimestamps]
  have hrelated := k.write_related (Setup.agree_of_correspond options collector h)
  exact (hrelated.mono fun _ _ ht => ht.eq_iff.2 fun _ _ => trivial).eq

/-! ## Exporting -/

/-- Collaborators given by a caller, who may leave the collector open. -/
def Collaborators.given (c : Collaborators) (collector : Option Collector) : GivenCollaborators :=
  ⟨collector, some c.timestampText, some c.durationText, some c.keepsEntry⟩

/-- The collector when the other collaborators are given: those may not be given again. -/
def collectorAmong (collector : Option Collector) (overrides : Members) : Except Fault (Option Collector) := do
  alwaysGiven.forM (checkNotNamed overrides)
  let collector ← fillIn overrides collectorName Collector.ofValue collector
  checkNotNamed overrides timestampTextName
  checkNotNamed overrides durationTextName
  checkNotNamed overrides keepsEntryName
  .ok collector

/-- What the caller has given cannot be given again. -/
theorem fillIn_some {α : Type} (overrides : Members) (name : String) (ofValue : Json → α) (a : α) :
    fillIn overrides name ofValue (some a) = (checkNotNamed overrides name).map fun _ => some a := by
  unfold fillIn checkNotNamed
  cases overrides.lookup name <;> rfl

/-- Which overrides are refused does not depend on the collaborators that are given. -/
theorem Collaborators.override_given (c : Collaborators) (collector : Option Collector) (overrides : Members) :
    (c.given collector).override overrides = (collectorAmong collector overrides).map c.given := by
  simp only [GivenCollaborators.override, given, collectorAmong, fillIn_some]
  cases alwaysGiven.forM (checkNotNamed overrides) with
  | error e => rfl
  | ok _ =>
    cases fillIn overrides collectorName Collector.ofValue collector with
    | error e => rfl
    | ok col =>
      cases checkNotNamed overrides timestampTextName <;> cases checkNotNamed overrides durationTextName <;>
        cases checkNotNamed overrides keepsEntryName <;> rfl

/-- Documents that differ in their timestamps alone are exported in the same way with collaborators that correspond: with the
same notices, and to the same text or the same fault. -/
theorem Document.exportWith_eq_of_sameButStamps (d d' : Document) (same : (Record.document d).SameButStamps (.document d'))
    (c c' : Collaborators) (corresponding : c.Correspond c' (.document d) (.document d'))
    (collector : Option Collector) (options : Option OptionSet) (overrides : Members) :
    d.exportWith (c.given collector) options overrides = d'.exportWith (c'.given collector) options overrides := by
  rw [exportWith, exportWith, c.override_given, c'.override_given]
  cases collectorAmong collector overrides with
  | error e => rfl
  | ok col =>
    have hc : (c.given col).complete.Correspond (c'.given col).complete (.document d) (.document d') :=
      ⟨corresponding.stamps, corresponding.durations, corresponding.entries⟩
    refine (pure_bind (c.given col) _).trans (Eq.trans ?_ (pure_bind (c'.given col) _).symm)
    refine bind_congr fun o => ?_
    rw [export_eq_bind, export_eq_bind]
    exact bind_congr fun _ => write_eq_of_sameButStamps same rfl rfl hc

/-- A document with two timestamps in its planning line, in a range, in a table, in nested lists and in a clock. -/
def stampedDocument (t u : Timestamp) : Document where
  headings := [{
    level := .int 1, title := { text := .str "A" }
    planning := [⟨.str "SCHEDULED", t⟩, ⟨.str "DEADLINE", u⟩]
    properties := [⟨.str "P", [.stamp t (some u), .table [[⟨[.stamp t none], .str "c"⟩], [⟨[.stamp u none], .str ""⟩]],
      .list [⟨[.stamp u none], [.list [⟨[.stamp t none], [], .bool false, .unchecked, .null⟩] (.str "-") (.bool false)
        (.str ".")], .bool false, .unchecked, .null⟩] (.str "+") (.bool false) (.str ".")]⟩]
    logbook := [.clock t (some u)], body := .str "", description := [.stamp u none] }]
  keywordSets := []
  configLines := []
  firstLines := []

/-- On such documents collaborators correspond that treat the two timestamps, the clock and the two planning entries alike. -/
theorem correspond_stampedDocument {c c' : Collaborators} {t u t' u' : Timestamp}
    (ht : c.timestampText t = c'.timestampText t') (hu : c.timestampText u = c'.timestampText u')
    (hclock : c.durationText t u = c'.durationText t' u')
    (hscheduled : c.keepsEntry ⟨.str "SCHEDULED", t⟩ = c'.keepsEntry ⟨.str "SCHEDULED", t'⟩)
    (hdeadline : c.keepsEntry ⟨.str "DEADLINE", u⟩ = c'.keepsEntry ⟨.str "DEADLINE", u'⟩) :
    c.Correspond c' (.document (stampedDocument t u)) (.document (stampedDocument t' u')) := by
  refine ⟨fun a a' h => ?_, fun a b a' b' h => ?_, fun i i' h => ?_⟩ <;>
    simp [Record.pairs, stampedDocument, Record.within, Document.within, withinHeadings, Heading.within,
      PlanningEntry.within, withinProperties, Property.within, withinParts, withinRows, withinCells, Cell.within,
      withinItems, Item.within, stampRecords, LogEntry.within] at h
  · have h : a = t ∧ a' = t' ∨ a = u ∧ a' = u' := by tauto
    obtain ⟨rfl, rfl⟩ | ⟨rfl, rfl⟩ := h
    · exact ht
    · exact hu
  · obtain ⟨⟨rfl, rfl⟩, rfl, rfl⟩ := h
    exact hclock
  · obtain ⟨rfl, rfl⟩ | ⟨rfl, rfl⟩ := h
    · exact hscheduled
    · exact hdeadline

/-- Collaborators that look at one field of a timestamp, and leave out planning entries in which it is three. -/
def lookingAt (field : Timestamp → Json) : Collaborators where
  timestampText t := .ok (field t).shown
  durationText start stop := .ok ((field start).shown ++ (field stop).shown)
  keepsEntry i := .ok ((field i.timestamp).shown != "three".toList)

/-- The text of the document with timestamps that are written as one and three, the second one not in the planning line. -/
def stampedText : Text :=
  ("* A\n  SCHEDULED: one\n  :PROPERTIES:\n  :P: one--three| c   |\n|-------|\n|  |\n+ three\n  - one\n  :END:\n" ++
    "  :LOGBOOK:\n  CLOCK: one--three => onethree\n  :END:\n").toList

/-- What one set of collaborators reads in the years is what the other one reads in the months. -/
theorem Document.exportWith_eq_of_sameButStamps_sample :
    let d := stampedDocument { year := .str "one", month := .str "01", day := .str "01" }
      { year := .str "three", month := .str "02", day := .str "02" }
    let d' := stampedDocument { year := .str "2019", month := .str "one", day := .str "31", weekday := .str "Fri" }
      { year := .str "2020", month := .str "three", day := .str "30", active := .bool false }
    (Record.document d).SameButStamps (.document d') ∧
      (lookingAt Timestamp.year).Correspond (lookingAt Timestamp.month) (.document d) (.document d') ∧
      d.exportWith ((lookingAt Timestamp.year).given none) none [] =
        d'.exportWith ((lookingAt Timestamp.month).given none) none [] ∧
      (d.exportWith ((lookingAt Timestamp.year).given none) none []).result? = some stampedText := by
  intro d d'
  have same : (Record.document d).SameButStamps (.document d') := rfl
  have corresponding : (lookingAt Timestamp.year).Correspond (lookingAt Timestamp.month) (.document d) (.document d') :=
    correspond_stampedDocument rfl rfl rfl rfl rfl
  exact ⟨same, corresponding, exportWith_eq_of_sameButStamps d d' same _ _ corresponding none none [],
    by decide +kernel⟩

end OrgOutline
