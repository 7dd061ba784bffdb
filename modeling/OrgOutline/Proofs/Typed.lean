import OrgOutline.Json.Operation
import OrgOutline.Proofs.Within
import OrgOutline.Record.Rule
import OrgOutline.Timestamp.Text

/-!
# Well-typed records

The fields of a record hold any JSON value, because loading keeps what it finds; a record is well-typed when every field, at
any depth, holds a value of the type that is meant for it (`Record.WellTyped`): a text where a text belongs, null only where
something may be absent, and a table and a heading that keep the rules of the model. The type of a field is looked at in one
record at a time (`Record.fieldsTyped`). Main statements: what the rules of the model say in a well-typed record
(`checkRows_of_evenRows`, `checkLevel_of_isLevel`).
-/

namespace OrgOutline
namespace Json

/-- Whether the value is a truth value. -/
def isBool : Json → Bool
  | .bool _ => true
  | _ => false

/-- Whether the value is an integer. -/
def isInteger : Json → Bool
  | .int _ => true
  | _ => false

/-- Whether the value is a string or null. -/
def isOptionalString (v : Json) : Bool := v.isNull || v.isString

/-- Whether the value can be a number of a cookie: an integer, a string or null. -/
def isCookieNumber (v : Json) : Bool := v.isNull || v.isInteger || v.isString

/-- Whether the value is an integer that can be the level of a heading. -/
def isLevel : Json → Bool
  | .int n => 1 ≤ n
  | _ => false

theorem exists_of_isString {v : Json} (h : v.isString = true) : ∃ s, v = .str s := by
  cases v <;> simp_all [isString]

theorem exists_of_isLevel {v : Json} (h : v.isLevel = true) : ∃ n, v = .int n ∧ 0 < n := by
  cases v with
  | int n => exact ⟨n, rfl, of_decide_eq_true h⟩
  | _ => nomatch h

theorem isNull_iff {v : Json} : v.isNull = true ↔ v = .null := by
  cases v <;> simp [isNull]

theorem hasLong_of_isString {v : Json} (h : v.isString = true) : v.hasLong = false := by
  obtain ⟨s, rfl⟩ := exists_of_isString h
  rfl

theorem hasLong_of_isOptionalString {v : Json} (h : v.isOptionalString = true) : v.hasLong = false := by
  rcases Bool.or_eq_true_iff.1 h with hnull | hstring
  · rw [isNull_iff.1 hnull]
    rfl
  · exact hasLong_of_isString hstring

end Json

/-- Whether the fields of a timestamp hold values of their types. -/
def Timestamp.isTyped (t : Timestamp) : Bool :=
  [t.year, t.month, t.day].all Json.isString && t.active.isBool &&
    [t.weekday, t.start.hour, t.start.minute, t.stop.hour, t.stop.minute, t.repeater.mark, t.repeater.amount,
      t.repeater.unit, t.delay.mark, t.delay.amount, t.delay.unit].all Json.isOptionalString

theorem TimeOfDay.any_hasLong_shownValues {t : TimeOfDay} (h : [t.hour, t.minute].any Json.hasLong = false) :
    t.shownValues.any Json.hasLong = false := by
  rw [shownValues]
  split
  · exact h
  · rfl

theorem Cookie.any_hasLong_shownValues {c : Cookie} (h : [c.mark, c.amount, c.unit].any Json.hasLong = false) :
    c.shownValues.any Json.hasLong = false := by
  rw [shownValues]
  split
  · exact h
  · rfl

/-- The text of a well-typed timestamp is written: no integer stands in it. -/
theorem Timestamp.toText_of_isTyped {t : Timestamp} (h : t.isTyped = true) : t.toText = .ok t.text := by
  obtain ⟨hrequired, hoptional⟩ := Bool.and_eq_true_iff.1 h
  have hdate : ∀ v ∈ [t.year, t.month, t.day], v.hasLong = false :=
    fun v hv => Json.hasLong_of_isString (List.all_eq_true.1 (Bool.and_eq_true_iff.1 hrequired).1 v hv)
  have hothers := fun v hv => Json.hasLong_of_isOptionalString (List.all_eq_true.1 hoptional v hv)
  simp only [List.forall_mem_cons] at hdate hothers
  have hshown : t.shownValues.any Json.hasLong = false := by
    simp [shownValues, TimeOfDay.any_hasLong_shownValues, Cookie.any_hasLong_shownValues, hdate, hothers]
  rw [toText, Json.checkShown_eq_ok_iff.2 hshown]
  rfl

/-- Whether the fields of a title hold values of their types. -/
def Title.isTyped (t : Title) : Bool :=
  t.text.isString && t.keyword.isOptionalString && t.tags.all Json.isString

/-- Whether the fields of a set of keywords hold values of their types. -/
def KeywordSet.isTyped (k : KeywordSet) : Bool :=
  k.keywords.all Json.isString && k.line.isString && k.builtIn.isBool

/-- Whether the rows of a table are all as long as the first one. -/
def evenRows (rows : List Row) : Bool := rows.all (fun r => r.length == (rows.head?.map List.length).getD 0)

/-- Whether the fields of a record itself, not of those inside it, hold values of their types and keep the rules of the
model. -/
def Record.fieldsTyped : Record → Bool
  | .text content => content.isString
  | .link target label => target.isString && label.isOptionalString
  | .fraction done all => done.isCookieNumber && all.isCookieNumber
  | .percentage value => value.isCookieNumber
  | .table rows => evenRows rows
  | .list _ bullet ordered terminator => bullet.isString && ordered.isBool && terminator.isString
  | .stamp _ _ => true
  | .bareLink _ content => content.isString
  | .unrecognized kind _ => kind.isString
  | .timestamp t => t.isTyped
  | .listItem item => item.checkbox.isBool && (item.counter.isNull || item.counter.isInteger)
  | .row _ => true
  | .cell c => c.raw.isString
  | .title t => t.isTyped
  | .planning i => i.kind.isString
  | .property p => p.name.isString
  | .logEntry (.line words) => words.isString
  | .logEntry (.clock _ _) => true
  | .heading h => h.level.isLevel && h.body.isString
  | .keywordSet k => k.isTyped
  | .document d => d.configLines.all Json.isString && d.firstLines.all Json.isString

/-- The kind of a record, which is a string if the fields are of their types. -/
theorem Record.hasLong_kind_of_fieldsTyped {r : Record} (h : r.fieldsTyped = true) : r.kind.hasLong = false := by
  cases r with
  | unrecognized kind payload => exact Json.hasLong_of_isString h
  | _ => rfl

/-- Every field at any depth holds a value of its type, and the rules of the model are kept. -/
def Record.WellTyped (r : Record) : Prop := ∀ x ∈ r.within, x.fieldsTyped = true

instance (r : Record) : Decidable r.WellTyped := inferInstanceAs (Decidable (∀ x ∈ r.within, x.fieldsTyped = true))

/-- A document whose fields hold values of their types at any depth. -/
def Document.WellTyped (d : Document) : Prop := (Record.document d).WellTyped

instance (d : Document) : Decidable d.WellTyped := inferInstanceAs (Decidable (Record.document d).WellTyped)

/-- What is inside something well-typed is well-typed. -/
theorem Record.WellTyped.of_mem_within {r x : Record} (h : r.WellTyped) (hx : x ∈ r.within) : x.WellTyped :=
  fun y hy => h y (mem_within_trans hx hy)

theorem Record.WellTyped.of_mem_children {r c : Record} (h : r.WellTyped) (hc : c ∈ r.children) : c.WellTyped :=
  h.of_mem_within (mem_within_of_mem_children hc c.mem_within_self)

theorem Record.WellTyped.fieldsTyped {r : Record} (h : r.WellTyped) : r.fieldsTyped = true := h r r.mem_within_self

/-- The headings of a well-typed document are well-typed. -/
theorem Document.WellTyped.heading {d : Document} (typed : d.WellTyped) {h : Heading} (hh : h ∈ d.headings) :
    (Record.heading h).WellTyped :=
  Record.WellTyped.of_mem_children typed (List.mem_append_left _ (List.mem_map_of_mem hh))

/-- The level and the body of a well-typed heading. -/
theorem Heading.level_and_body_of_wellTyped {h : Heading} (typed : (Record.heading h).WellTyped) :
    h.level.isLevel = true ∧ h.body.isString = true := Bool.and_eq_true_iff.1 typed.fieldsTyped

/-! ## The rules of the model -/

/-- No row is uneven where all have the expected length. -/
theorem firstUneven_eq_none (expected index : Nat) (rows : List Row) (h : ∀ r ∈ rows, r.length = expected) :
    firstUneven expected index rows = none := by
  induction rows generalizing index with
  | nil => rfl
  | cons r rows ih =>
    rw [firstUneven, if_pos (h r List.mem_cons_self)]
    exact ih (index + 1) (fun r hr => h r (List.mem_cons_of_mem _ hr))

/-- Even rows pass the check of a table. -/
theorem checkRows_of_evenRows {rows : List Row} (h : evenRows rows = true) : checkRows rows = pure () := by
  cases rows with
  | nil => rfl
  | cons r rows =>
    have he : ∀ x ∈ r :: rows, x.length = r.length := by simpa [evenRows] using h
    rw [checkRows, firstUneven_eq_none _ _ _ he]

/-- An integer from one on passes the check of a level. -/
theorem checkLevel_of_isLevel {v : Json} (h : v.isLevel = true) : checkLevel v = pure () := by
  cases v with
  | int n =>
    have hn : ¬ n < 1 := by simpa [Json.isLevel] using h
    simp [checkLevel, Json.asInt?, hn]
  | _ => exact absurd h (by simp [Json.isLevel])

end OrgOutline
