import OrgOutline.Proofs.ComesBack
import OrgOutline.Proofs.Typed

/-!
# Records as objects, there and back

A well-typed record whose unrecognized parts are called by names of their own (`Record.NamesUnknowns`) is loaded again, equal
in every field, from the object it is saved as (`Record.load_encode`). Nothing has to be settled on the way, because the
fields that a timestamp must have are never null in a well-typed record.
-/

namespace OrgOutline

/-- Every unrecognized part inside has a name that is neither empty nor that of a known kind, and no payload under the name
of the kind. -/
def Record.NamesUnknowns (r : Record) : Prop :=
  ∀ kind payload, .unrecognized kind payload ∈ r.within →
    ∃ name, kind = .str name ∧ name ≠ "" ∧ name ∉ kindNames ∧ "node_type" ∉ payload.map Prod.fst

/-! ## Well-typed records keep their form -/

theorem Json.isNull_of_isString {v : Json} (h : v.isString = true) : v.isNull = false := by
  obtain ⟨s, rfl⟩ := exists_of_isString h
  rfl

theorem Json.isNull_of_isBool {v : Json} (h : v.isBool = true) : v.isNull = false := by
  cases v <;> simp_all [isBool, isNull]

/-- A well-typed timestamp has a date. -/
theorem Timestamp.isDated_of_isTyped {t : Timestamp} (h : t.isTyped = true) : t.isDated = true := by
  simp only [isTyped, List.all_cons, List.all_nil, Bool.and_true, Bool.and_eq_true] at h
  obtain ⟨⟨⟨hy, hm, hd⟩, -⟩, -⟩ := h
  simp [isDated, Json.isNull_of_isString hy, Json.isNull_of_isString hm, Json.isNull_of_isString hd]

/-- A well-typed timestamp says whether it is active. -/
theorem Timestamp.settle_of_isTyped {t : Timestamp} (h : t.isTyped = true) : t.settle = t := by
  simp only [isTyped, Bool.and_eq_true] at h
  rw [settle, if_neg (by simp [Json.isNull_of_isBool h.1.2])]

namespace Record

/-- A well-typed record has dates throughout. -/
theorem isDated_of_wellTyped {r : Record} (h : r.WellTyped) : r.isDated = true := by
  refine List.all_eq_true.2 ?_
  intro x hx
  cases x with
  | timestamp t => exact Timestamp.isDated_of_isTyped (h _ hx)
  | _ => rfl

/-- Nothing in a well-typed record has to be settled. -/
theorem settled_of_wellTyped {r : Record} (h : r.WellTyped) : r.mapTimestamps Timestamp.settle = r :=
  mapTimestamps_eq_self r fun _ ht => Timestamp.settle_of_isTyped (h _ ht)

/-- A well-typed record that names its unrecognized parts keeps its form. -/
theorem storable_of_wellTyped {r : Record} (h : r.WellTyped) (hn : r.NamesUnknowns) : ∀ y ∈ r.within, y.Storable := by
  intro y hy
  have ht := h y hy
  cases y with
  | table rows => exact checkRows_of_evenRows ht
  | unrecognized kind payload =>
    obtain ⟨name, rfl, hne, hk, hp⟩ := hn kind payload hy
    refine ⟨?_, rfl, ?_, rfl, hp⟩
    · simp [Json.isSet, hne]
    · rintro s hs
      exact Json.str.inj hs ▸ hk
  | heading h' =>
    simp only [fieldsTyped, Bool.and_eq_true] at ht
    exact checkLevel_of_isLevel ht.1
  | _ => trivial

/-- Loading undoes saving: a well-typed record whose unrecognized parts are named comes back from its object as it was. Where
nothing is unrecognized, both modes of loading bring it back, and without a notice. -/
theorem load_encode (r : Record) (typed : r.WellTyped) (named : r.NamesUnknowns) :
    (Record.load false r.encode).outcome = .ok r ∧ (r.Quiet → ∀ strict, Record.load strict r.encode = ⟨[], .ok r⟩) := by
  have hr := storable_of_wellTyped typed named
  have ho : orWrongKind r.isDated (r.mapTimestamps Timestamp.settle) = .ok r := by
    rw [isDated_of_wellTyped typed, settled_of_wellTyped typed]
    rfl
  constructor
  · have h : ComesBack false r.Quiet .record r := comesBack nofun r hr id .record r rfl
    exact h.outcome.trans ho
  · intro hq strict
    have h : ComesBack strict r.Quiet .record r := comesBack (fun _ => hq) r hr id .record r rfl
    exact Run.ext (h.silent hq) (h.outcome.trans ho)

end Record

/-! ## An example -/

/-- A moment in August. -/
def sampleTimestamp : Timestamp :=
  { year := .str "2019", month := .str "08", day := .str "02", weekday := .str "Fri", start := ⟨.str "10", .str "00"⟩ }

/-- A numbered list with a table below its item, in whose cell a macro stands that is not known. -/
def sampleList : Record :=
  .list [⟨[.text (.str "step")],
    [.table [[⟨[.unrecognized (.str "Macro") [("size", .int 1)], .stamp sampleTimestamp none], .str "x"⟩]]],
    .bool true, .underway, .int 3⟩] (.str "-") (.bool true) (.str ")")

/-- A document with one heading. -/
def sampleDocument : Document where
  headings := [{
    level := .int 2
    title := { text := .str "Plan", keyword := .str "TODO", tags := [.str "work"] }
    planning := [⟨.str "SCHEDULED", sampleTimestamp⟩]
    properties := [⟨.str "STEPS", [sampleList]⟩]
    logbook := [.line (.str ""), .clock sampleTimestamp (some sampleTimestamp)]
    body := .str "Notes"
    description := [.link (.str "https://orgmode.org") .null] }]
  keywordSets := [{ keywords := [.str "TODO"], line := .str "#+TODO: TODO" }]
  configLines := [.str "#+TITLE: Plans"]
  firstLines := []

/-- The macro is the only part of the document that is not recognized. -/
theorem eq_of_unrecognized_mem_sampleDocument {kind : Json} {payload : Members}
    (h : .unrecognized kind payload ∈ (Record.document sampleDocument).within) :
    kind = .str "Macro" ∧ payload = [("size", .int 1)] := by
  simpa [Record.within, sampleDocument, Document.within, withinHeadings, Heading.within, withinProperties, Property.within,
    withinParts, sampleList, withinItems, Item.within, withinRows, withinCells, Cell.within, stampRecords,
    PlanningEntry.within, LogEntry.within] using h

theorem namesUnknowns_sampleDocument : (Record.document sampleDocument).NamesUnknowns := by
  intro kind payload h
  obtain ⟨rfl, rfl⟩ := eq_of_unrecognized_mem_sampleDocument h
  exact ⟨"Macro", rfl, by decide, by decide, by decide⟩

/-- The document of the example comes back from its object, and its moment does in both modes without a notice. -/
theorem Record.load_encode_sample :
    (document sampleDocument).WellTyped ∧ (document sampleDocument).NamesUnknowns ∧
      (Record.load false (document sampleDocument).encode).outcome = .ok (document sampleDocument) ∧
      (timestamp sampleTimestamp).WellTyped ∧ (timestamp sampleTimestamp).Quiet ∧
      ∀ strict, Record.load strict (timestamp sampleTimestamp).encode = ⟨[], .ok (timestamp sampleTimestamp)⟩ := by
  have typed : (document sampleDocument).WellTyped := by decide
  have typed' : (timestamp sampleTimestamp).WellTyped := by decide
  have quiet : (timestamp sampleTimestamp).Quiet := by
    intro kind payload h
    simp [Record.within] at h
  have named : (timestamp sampleTimestamp).NamesUnknowns := by
    intro kind payload h
    exact absurd h (quiet kind payload)
  exact ⟨typed, namesUnknowns_sampleDocument, (load_encode _ typed namesUnknowns_sampleDocument).1, typed', quiet,
    (load_encode _ typed' named).2 quiet⟩

end OrgOutline
