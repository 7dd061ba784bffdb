import OrgOutline.Export
import OrgOutline.Proofs.MapWriting
import OrgOutline.Proofs.Reload
import OrgOutline.Proofs.Typed
import OrgOutline.Proofs.Written

/-!
# What saving changes

A loaded document holds whatever values stood in its file, nulls among them, and a timestamp is saved without its nulls. So a
document with a timestamp whose year, month or day is null cannot be loaded again, and a null that does not say whether a
timestamp is active comes back as true, which shows in the brackets of the timestamp wherever it is written. Main statement:
nothing else is changed by saving; these two conditions say exactly when a saved document means what it meant
(`Document.export_reload_iff`).
-/

namespace OrgOutline

open Text (Alike AlikeIf)

/-! ## Settled timestamps -/

/-- The text of a timestamp between its brackets. -/
def Timestamp.innerText (t : Timestamp) : Text :=
  t.dateText ++ t.weekdayText ++ t.startText ++ t.stopText ++ cookieText t.repeater ++ cookieText t.delay

theorem Timestamp.text_eq (t : Timestamp) : t.text = t.brackets.1 :: t.innerText ++ [t.brackets.2] := by
  simp [text, innerText]

/-- A timestamp that does not say whether it is active is written in square brackets, and in angle brackets once it is
settled. -/
theorem Timestamp.text_settle {t : Timestamp} (h : t.active = .null) :
    t.text = '[' :: t.innerText ++ [']'] ∧ t.settle.text = '<' :: t.innerText ++ ['>'] := by
  rw [text_eq, text_eq, settle, h]
  exact ⟨by rw [brackets, h]; rfl, rfl⟩

/-- The texts of a timestamp and of the settled one are alike, and equal when it says whether it is active. -/
theorem Timestamp.alikeIf_text_settle (t : Timestamp) : AlikeIf (t.active.isNull = false) t.text t.settle.text := by
  cases h : t.active.isNull with
  | false =>
    rw [settle, if_neg (by simp [h])]
    exact (AlikeIf.refl t.text).congr (by simp)
  | true =>
    obtain ⟨h1, h2⟩ := text_settle (Json.isNull_iff.1 h)
    have hleft : Alike ('[' :: t.innerText) ('<' :: t.innerText) :=
      List.Forall₂.cons (Or.inr ⟨by decide, by decide⟩) (Alike.refl t.innerText)
    have hright : Alike [']'] ['>'] := List.Forall₂.cons (Or.inr ⟨by decide, by decide⟩) List.Forall₂.nil
    rw [h1, h2]
    exact ⟨hleft.append hright, by simp⟩

theorem Timestamp.shownValues_settle (t : Timestamp) : t.settle.shownValues = t.shownValues := by
  rw [settle]
  split <;> rfl

/-- A timestamp and the settled one are written alike, or neither is written. -/
theorem Timestamp.related_toText_settle (t : Timestamp) :
    RelatedOutcomes (AlikeIf (t.active.isNull = false)) t.toText t.settle.toText := by
  rw [toText, toText, t.shownValues_settle]
  cases Json.checkShown t.shownValues with
  | error f => exact rfl
  | ok _ => exact t.alikeIf_text_settle

/-- The default setup and the same looking at settled timestamps differ in the brackets of timestamps alone, and there only if a
timestamp does not say whether it is active. -/
theorem agree_comap_settle (r : Record) :
    Setup.Agree {} (Setup.comap Timestamp.settle {}) (fun t => t.active.isNull = false) r where
  options := rfl
  collector := rfl
  stamps t _ := t.related_toText_settle
  durations _ _ _ := rfl
  entries _ _ := rfl

/-! ## Statements -/

/-- Outcomes side by side are equal when the condition on their texts holds wherever there is a text. -/
theorem RelatedOutcomes.eq_iff {same : Prop} {x y : Except Fault Text} (h : RelatedOutcomes (AlikeIf same) x y) :
    y = x ↔ ((∃ t, x = .ok t) → same) := by
  cases x with
  | error e =>
    cases y with
    | error e' => exact iff_of_true (congrArg Except.error (Eq.symm h)) nofun
    | ok u => exact h.elim
  | ok t =>
    cases y with
    | error e => exact h.elim
    | ok u =>
      have hiff : t = u ↔ same := AlikeIf.eq_iff h
      rw [Except.ok.injEq, eq_comm, hiff]
      exact ⟨fun hs _ => hs, fun hs => hs ⟨t, rfl⟩⟩

/-- Every timestamp in a record has a date when its year, month and day are there. -/
theorem Record.isDated_iff (r : Record) : r.isDated = true ↔
    ∀ t, .timestamp t ∈ r.within → t.year.isNull = false ∧ t.month.isNull = false ∧ t.day.isNull = false := by
  have hdate : ∀ t : Timestamp, t.isDated = true ↔ t.year.isNull = false ∧ t.month.isNull = false ∧ t.day.isNull = false := by
    intro t
    simp [Timestamp.isDated, and_assoc]
  rw [isDated, List.all_eq_true]
  constructor
  · intro h t ht
    exact (hdate t).1 (h _ ht)
  · intro h x hx
    cases x with
    | timestamp t => exact (hdate t).2 (h t hx)
    | _ => rfl

namespace Document

/-- The text of a document after saving and loading, beside its text before. -/
theorem related_export_settle (d : Document) : RelatedOutcomes (AlikeIf (∀ t ∈ d.writtenStamps {}, t.active.isNull = false))
    (d.export {} none).outcome ((d.mapTimestamps Timestamp.settle).export {} none).outcome := by
  have hexport : ∀ e : Document, e.export {} none = e.write {} := fun _ => pure_bind _ _
  rw [hexport, hexport, write_mapTimestamps]
  exact (write_related d (agree_comap_settle _)).outcome

/-- A loaded document can be saved and loaded again with the same text or the same fault exactly when every timestamp in it has
a year, a month and a day and, if the document can be written, every written timestamp says whether it is active. -/
theorem export_reload_iff (data : Json) (d : Document) (loaded : (ofFile false true data).outcome = .ok d) :
    (∃ d', (ofFile false true d.toFile).outcome = .ok d' ∧ (d'.export {} none).outcome = (d.export {} none).outcome) ↔
      (∀ t, .timestamp t ∈ (Record.document d).within →
        t.year.isNull = false ∧ t.month.isNull = false ∧ t.day.isNull = false) ∧
      ((∃ text, (d.export {} none).outcome = .ok text) → ∀ t ∈ d.writtenStamps {}, t.active.isNull = false) := by
  rw [outcome_ofFile_toFile (ensures_ofFile _ _ _ d loaded), ← Record.isDated_iff, ← (related_export_settle d).eq_iff]
  cases (Record.document d).isDated with
  | false => simp [orWrongKind]
  | true => simp [orWrongKind]

/-- The file of a document with a timestamp that has null for a year. -/
def undatedFile : Json :=
  .obj [("node_type", .str "Document"), ("headers", .arr [.obj [("nesting_level", .int 1),
    ("title_line", .obj [("raw_title", .str "A")]), ("planning_items", .arr [.obj [("kind", .str "SCHEDULED"),
      ("timestamp", .obj [("year", .null), ("month", .str "01"), ("day", .str "02")])]])]])]

/-- The document in that file. -/
def undatedDocument : Document where
  headings := [{
    level := .int 1, title := { text := .str "A" }
    planning := [⟨.str "SCHEDULED", { year := .null, month := .str "01", day := .str "02" }⟩]
    properties := [], logbook := [], body := .str "", description := [] }]
  keywordSets := []
  configLines := []
  firstLines := []

/-- A document whose timestamp has no year is loaded, but not again once it is saved. -/
theorem export_reload_iff_undated : (ofFile false true undatedFile).outcome = .ok undatedDocument ∧
    ¬ ∃ d', (ofFile false true undatedDocument.toFile).outcome = .ok d' ∧
      (d'.export {} none).outcome = (undatedDocument.export {} none).outcome := by
  have loaded : (ofFile false true undatedFile).outcome = .ok undatedDocument := rfl
  refine ⟨loaded, ?_⟩
  intro h
  obtain ⟨hdates, -⟩ := (export_reload_iff undatedFile undatedDocument loaded).1 h
  have hm : .timestamp { year := .null, month := .str "01", day := .str "02" } ∈ (Record.document undatedDocument).within := by
    simp [undatedDocument, Record.within, Document.within, withinHeadings, Heading.within, PlanningEntry.within]
  exact absurd (hdates _ hm).1 (by decide)

end Document
end OrgOutline
