import OrgOutline.Proofs.Reading
import OrgOutline.Proofs.RoundTrip

/-!
# Saved records as text

A value is exact when its text says all there is about it: no floats are in it, and every object names each key once. Main
statement: the object that a well-typed record is saved as is exact if the payloads of its unrecognized parts are
(`Record.exact_encode`).
-/

namespace OrgOutline
namespace Json

/-- No floats are in the value, and every object in it names each key once. -/
def Exact (v : Json) : Prop := v.FloatFree ∧ v.WellFormed

theorem exact_arr {items : List Json} : (arr items).Exact ↔ ∀ x ∈ items, x.Exact := by
  rw [Exact, floatFree_arr, wellFormed_arr]
  exact ⟨fun h x hx => ⟨h.1 x hx, h.2 x hx⟩, fun h => ⟨fun x hx => (h x hx).1, fun x hx => (h x hx).2⟩⟩

theorem exact_obj {members : Members} :
    (obj members).Exact ↔ (members.map Prod.fst).Nodup ∧ ∀ m ∈ members, m.2.Exact := by
  rw [Exact, floatFree_obj, wellFormed_obj]
  exact ⟨fun h => ⟨h.2.1, fun m hm => ⟨h.1 m hm, h.2.2 m hm⟩⟩,
    fun h => ⟨fun m hm => (h.2 m hm).1, h.1, fun m hm => (h.2 m hm).2⟩⟩

/-- The elements that an array is made of by a function are exact. -/
theorem exact_arr_map {α : Type} {f : α → Json} {xs : List α} (h : ∀ x ∈ xs, (f x).Exact) : (arr (xs.map f)).Exact :=
  exact_arr.2 (List.forall_mem_map.2 h)

@[simp] theorem exact_obj_nil : (obj []).Exact := exact_obj.2 ⟨List.nodup_nil, nofun⟩

/-- An object is exact when its first key is new, and the value under it and the rest are exact. -/
@[simp] theorem exact_obj_cons {key : String} {v : Json} {ms : Members} :
    (obj ((key, v) :: ms)).Exact ↔ key ∉ ms.map Prod.fst ∧ v.Exact ∧ (obj ms).Exact := by
  simp only [exact_obj, List.map_cons, List.nodup_cons, List.forall_mem_cons]
  exact ⟨fun ⟨⟨h1, h2⟩, h3, h4⟩ => ⟨h1, h3, h2, h4⟩, fun ⟨h1, h3, h2, h4⟩ => ⟨⟨h1, h2⟩, h3, h4⟩⟩

/-! ## Scalars -/

@[simp] theorem exact_null : null.Exact := by simp [Exact, FloatFree, within, WellFormed]

@[simp] theorem exact_bool (b : Bool) : (bool b).Exact := by simp [Exact, FloatFree, within, WellFormed]

@[simp] theorem exact_int (n : Int) : (int n).Exact := by simp [Exact, FloatFree, within, WellFormed]

@[simp] theorem exact_str (s : String) : (str s).Exact := by simp [Exact, FloatFree, within, WellFormed]

theorem exact_of_isString {v : Json} (h : v.isString = true) : v.Exact := by
  obtain ⟨s, rfl⟩ := exists_of_isString h
  exact exact_str s

theorem exact_of_isBool {v : Json} (h : v.isBool = true) : v.Exact := by
  cases v <;> simp_all [isBool]

theorem exact_of_isOptionalString {v : Json} (h : v.isOptionalString = true) : v.Exact := by
  cases v <;> simp_all [isOptionalString, isNull, isString]

theorem exact_of_isCookieNumber {v : Json} (h : v.isCookieNumber = true) : v.Exact := by
  cases v <;> simp_all [isCookieNumber, isNull, isString, isInteger]

theorem exact_of_isLevel {v : Json} (h : v.isLevel = true) : v.Exact := by
  cases v <;> simp_all [isLevel]

theorem exact_of_isNull_or_isInteger {v : Json} (h : (v.isNull || v.isInteger) = true) : v.Exact := by
  cases v <;> simp_all [isNull, isInteger]

theorem exact_arr_of_isString {items : List Json} (h : items.all isString = true) : (arr items).Exact :=
  exact_arr.2 fun x hx => exact_of_isString (List.all_eq_true.1 h x hx)

end Json

/-! ## Records without running text -/

/-- Exact members with others of one new name behind them. -/
theorem exact_append {ms extra : Members} {name : String} (hms : (Json.obj ms).Exact) (hextra : (Json.obj extra).Exact)
    (hkeys : ∀ m ∈ extra, m.1 = name) (hname : name ∉ ms.map Prod.fst) : (Json.obj (ms ++ extra)).Exact := by
  obtain ⟨hk, hm⟩ := Json.exact_obj.1 hms
  obtain ⟨hk', hm'⟩ := Json.exact_obj.1 hextra
  refine Json.exact_obj.2 ⟨?_, List.forall_mem_append.2 ⟨hm, hm'⟩⟩
  rw [List.map_append]
  refine List.nodup_append.2 ⟨hk, hk', ?_⟩
  rintro k h _ h' rfl
  obtain ⟨m, hm, rfl⟩ := List.mem_map.1 h'
  exact hname (hkeys m hm ▸ h)

theorem exact_append_optionalMember {ms : Members} {name : String} {v : Json} (hms : (Json.obj ms).Exact) (hv : v.Exact)
    (hname : name ∉ ms.map Prod.fst) : (Json.obj (ms ++ optionalMember name v)).Exact := by
  have hextra : (Json.obj (optionalMember name v)).Exact := by
    unfold optionalMember
    split <;> simp [hv]
  have hkeys : ∀ m ∈ optionalMember name v, m.1 = name := by
    unfold optionalMember
    split <;> simp
  exact exact_append hms hextra hkeys hname

/-- A saved timestamp is exact. -/
theorem Timestamp.exact_encode {t : Timestamp} (h : t.isTyped = true) : t.encode.Exact := by
  have hkeys : ("node_type" :: t.fields.map Prod.fst).Nodup := by
    rw [map_fst_fields]
    decide
  have hvalues : ∀ m ∈ t.fields, m.2.Exact := by
    simp only [isTyped, List.all_cons, List.all_nil, Bool.and_true, Bool.and_eq_true] at h
    obtain ⟨⟨⟨hyear, hmonth, hday⟩, hactive⟩, hrest⟩ := h
    simp only [fields, List.forall_mem_cons]
    simp only [Json.exact_of_isString, Json.exact_of_isBool, Json.exact_of_isOptionalString, *, true_and]
    exact List.forall_mem_nil _
  refine Json.exact_obj.2 ⟨hkeys.sublist ?_, ?_⟩
  · exact (List.filter_sublist.map Prod.fst).cons_cons _
  · exact List.forall_mem_cons.2 ⟨Json.exact_str _, fun m hm => hvalues m (List.mem_filter.1 hm).1⟩

theorem exact_append_optionalTimestamp {ms : Members} {name : String} {t : Option Timestamp} (hms : (Json.obj ms).Exact)
    (ht : ∀ x ∈ t, x.encode.Exact) (hname : name ∉ ms.map Prod.fst) :
    (Json.obj (ms ++ optionalTimestamp name t)).Exact := by
  cases t with
  | none => rwa [optionalTimestamp, List.append_nil]
  | some t => exact exact_append hms (by simpa [optionalTimestamp] using ht) (by simp [optionalTimestamp]) hname

theorem exact_encodeParts {rs : Parts} (h : ∀ r ∈ rs, r.encode.Exact) : (Json.arr (encodeParts rs)).Exact := by
  rw [encodeParts_eq_map]
  exact Json.exact_arr_map h

/-! ## Statements -/

namespace Record

/-- The payloads of the unrecognized parts inside are exact. -/
def ExactPayloads (r : Record) : Prop := ∀ kind payload, .unrecognized kind payload ∈ r.within → (Json.obj payload).Exact

/-! ### One lemma for each kind of record whose object has others inside -/

theorem exact_encode_table {rows : List Row} (hc : ∀ c ∈ (table rows).children, c.encode.Exact) : (table rows).encode.Exact := by
  have hrows : (Json.arr (encodeRows rows)).Exact := by
    rw [encodeRows_eq_map]
    exact Json.exact_arr_map fun x hx => hc _ (List.mem_map_of_mem hx)
  simp [encode, hrows]

theorem exact_encode_list {items : List Item} {bullet ordered terminator : Json}
    (ht : (list items bullet ordered terminator).fieldsTyped = true)
    (hc : ∀ c ∈ (list items bullet ordered terminator).children, c.encode.Exact) :
    (list items bullet ordered terminator).encode.Exact := by
  have hitems : (Json.arr (encodeItems items)).Exact := by
    rw [encodeItems_eq_map]
    exact Json.exact_arr_map fun x hx => hc _ (List.mem_map_of_mem hx)
  simp only [fieldsTyped, Bool.and_eq_true] at ht
  simp [encode, hitems, Json.exact_of_isString ht.1.1, Json.exact_of_isBool ht.1.2, Json.exact_of_isString ht.2]

theorem exact_encode_stamp {first : Timestamp} {second : Option Timestamp}
    (hc : ∀ c ∈ (stamp first second).children, c.encode.Exact) : (stamp first second).encode.Exact := by
  obtain ⟨h1, h2⟩ := List.forall_mem_cons.1 hc
  refine exact_append_optionalTimestamp ?_ ?_ (by simp)
  · have hfirst : first.encode.Exact := h1
    simp [hfirst]
  · intro t ht
    exact h2 (.timestamp t) (by simpa using ht)

/-- The object of an unrecognized part is its payload with the kind behind it. -/
theorem exact_encode_unrecognized {kind : Json} {payload : Members} (hkind : kind.isString = true)
    (hkey : "node_type" ∉ payload.map Prod.fst) (hpayload : (Json.obj payload).Exact) :
    (unrecognized kind payload).encode.Exact := by
  have hk : (payload.map Prod.fst ++ "node_type" :: []).Nodup :=
    List.nodup_append.2 ⟨(Json.exact_obj.1 hpayload).1, by simp, fun a ha b hb e => hkey (List.mem_singleton.1 hb ▸ e ▸ ha)⟩
  rw [encode, Json.put_of_nodup hk]
  exact exact_append hpayload (by simp [Json.exact_of_isString hkind]) (by simp) hkey

theorem exact_encode_listItem {item : Item} (ht : (listItem item).fieldsTyped = true)
    (hc : ∀ c ∈ (listItem item).children, c.encode.Exact) : (listItem item).encode.Exact := by
  obtain ⟨title, contents, checkbox, state, counter⟩ := item
  obtain ⟨htitle, hcontents⟩ := List.forall_mem_append.1 hc
  rw [fieldsTyped, Bool.and_eq_true] at ht
  refine exact_append_optionalMember ?_ (Json.exact_of_isNull_or_isInteger ht.2) (by simp)
  simp [exact_encodeParts htitle, exact_encodeParts hcontents, Json.exact_of_isBool ht.1]

theorem exact_encode_row {cells : Row} (hc : ∀ c ∈ (row cells).children, c.encode.Exact) : (row cells).encode.Exact := by
  have hcells : (Json.arr (encodeCells cells)).Exact := by
    rw [encodeCells_eq_map]
    exact Json.exact_arr_map fun x hx => hc _ (List.mem_map_of_mem hx)
  simp [encode, hcells]

theorem exact_encode_cell {c : Cell} (ht : (cell c).fieldsTyped = true) (hc : ∀ x ∈ (cell c).children, x.encode.Exact) :
    (cell c).encode.Exact := by
  obtain ⟨content, raw⟩ := c
  have hcontent : (Json.arr (encodeParts content)).Exact := exact_encodeParts hc
  have hraw : raw.Exact := Json.exact_of_isString ht
  simp [encode, Cell.encode, hcontent, hraw]

theorem exact_encode_property {p : Property} (ht : (property p).fieldsTyped = true)
    (hc : ∀ c ∈ (property p).children, c.encode.Exact) : (property p).encode.Exact := by
  obtain ⟨name, value⟩ := p
  have hname : name.Exact := Json.exact_of_isString ht
  have hvalue : (Json.arr (encodeParts value)).Exact := exact_encodeParts hc
  simp [encode, Property.encode, hname, hvalue]

theorem exact_encode_clock {start : Timestamp} {stop : Option Timestamp}
    (hc : ∀ c ∈ (logEntry (.clock start stop)).children, c.encode.Exact) : (logEntry (.clock start stop)).encode.Exact := by
  obtain ⟨h1, h2⟩ := List.forall_mem_cons.1 hc
  refine exact_append_optionalTimestamp ?_ ?_ (by simp)
  · have hstart : start.encode.Exact := h1
    simp [hstart]
  · intro t ht
    exact h2 (.timestamp t) (by simpa using ht)

theorem exact_encode_heading {h : Heading} (ht : (heading h).fieldsTyped = true)
    (hc : ∀ c ∈ (heading h).children, c.encode.Exact) : (heading h).encode.Exact := by
  obtain ⟨level, title, planning, properties, logbook, body, description⟩ := h
  simp only [children, List.cons_append, List.forall_mem_cons, List.forall_mem_append, List.forall_mem_map] at hc
  obtain ⟨htitle, ⟨⟨hplanning, hproperties⟩, hlogbook⟩, hdescription⟩ := hc
  have h1 : title.encode.Exact := htitle
  have h2 : (Json.arr (planning.map PlanningEntry.encode)).Exact := Json.exact_arr_map hplanning
  have h3 : (Json.arr (encodeProperties properties)).Exact := by
    rw [encodeProperties_eq_map]
    exact Json.exact_arr_map hproperties
  have h4 : (Json.arr (logbook.map LogEntry.encode)).Exact := Json.exact_arr_map hlogbook
  rw [fieldsTyped, Bool.and_eq_true] at ht
  simp [encode, Heading.encode, h1, h2, h3, h4, exact_encodeParts hdescription, Json.exact_of_isLevel ht.1,
    Json.exact_of_isString ht.2]

theorem exact_encode_document {d : Document} (ht : (document d).fieldsTyped = true)
    (hc : ∀ c ∈ (document d).children, c.encode.Exact) : (document d).encode.Exact := by
  obtain ⟨headings, keywordSets, configLines, firstLines⟩ := d
  simp only [children, List.forall_mem_append, List.forall_mem_map] at hc
  have h1 : (Json.arr (encodeHeadings headings)).Exact := by
    rw [encodeHeadings_eq_map]
    exact Json.exact_arr_map hc.1
  have h2 : (Json.arr (keywordSets.map KeywordSet.encode)).Exact := Json.exact_arr_map hc.2
  rw [fieldsTyped, Bool.and_eq_true] at ht
  simp [encode, Document.members, h1, h2, Json.exact_arr_of_isString ht.1, Json.exact_arr_of_isString ht.2]

/-- The object of a record is exact if its fields hold values of their types, and the objects of the records directly inside
are exact. -/
theorem exact_encode_of_children {r : Record} (ht : r.fieldsTyped = true) (hc : ∀ c ∈ r.children, c.encode.Exact)
    (hu : ∀ kind payload, r = .unrecognized kind payload →
      "node_type" ∉ payload.map Prod.fst ∧ (Json.obj payload).Exact) : r.encode.Exact := by
  cases r with
  | text content => simp [encode, Json.exact_of_isString ht]
  | link target label =>
    simp only [fieldsTyped, Bool.and_eq_true] at ht
    refine exact_append_optionalMember ?_ (Json.exact_of_isOptionalString ht.2) (by simp)
    simp [Json.exact_of_isString ht.1]
  | fraction done all =>
    simp only [fieldsTyped, Bool.and_eq_true] at ht
    simp [encode, Json.exact_of_isCookieNumber ht.1, Json.exact_of_isCookieNumber ht.2]
  | percentage value => simp [encode, Json.exact_of_isCookieNumber ht]
  | table rows => exact exact_encode_table hc
  | list items bullet ordered terminator => exact exact_encode_list ht hc
  | stamp first second => exact exact_encode_stamp hc
  | bareLink kind content => simp [encode, Json.exact_of_isString ht]
  | unrecognized kind payload =>
    obtain ⟨hkey, hpayload⟩ := hu kind payload rfl
    exact exact_encode_unrecognized ht hkey hpayload
  | timestamp t => exact Timestamp.exact_encode ht
  | listItem item => exact exact_encode_listItem ht hc
  | row cells => exact exact_encode_row hc
  | cell c => exact exact_encode_cell ht hc
  | title t =>
    simp only [fieldsTyped, Title.isTyped, Bool.and_eq_true] at ht
    refine exact_append_optionalMember ?_ (Json.exact_of_isOptionalString ht.1.2) (by simp)
    simp [Json.exact_of_isString ht.1.1, Json.exact_arr_of_isString ht.2]
  | planning i =>
    have hstamp : i.timestamp.encode.Exact := hc (.timestamp i.timestamp) (List.mem_singleton.2 rfl)
    simp [encode, PlanningEntry.encode, hstamp, Json.exact_of_isString ht]
  | property p => exact exact_encode_property ht hc
  | logEntry e =>
    cases e with
    | line words => simp [encode, LogEntry.encode, Json.exact_of_isString ht]
    | clock start stop => exact exact_encode_clock hc
  | heading h => exact exact_encode_heading ht hc
  | keywordSet k =>
    simp only [fieldsTyped, KeywordSet.isTyped, Bool.and_eq_true] at ht
    simp [encode, KeywordSet.encode, Json.exact_arr_of_isString ht.1.1, Json.exact_of_isString ht.1.2,
      Json.exact_of_isBool ht.2]
  | document d => exact exact_encode_document ht hc

/-- A well-typed record is saved as an exact object, if the payloads of its unrecognized parts are exact and do not name a
kind. -/
theorem exact_encode {r : Record} (typed : r.WellTyped) (named : r.NamesUnknowns) (payloads : r.ExactPayloads) :
    r.encode.Exact := by
  induction r using childInduction with
  | step r ih =>
    refine exact_encode_of_children (typed r (mem_within_self r)) ?_ ?_
    · intro c hc
      exact ih c hc (fun x hx => typed x (mem_within_of_mem_children hc hx))
        (fun kind payload hx => named kind payload (mem_within_of_mem_children hc hx))
        (fun kind payload hx => payloads kind payload (mem_within_of_mem_children hc hx))
    · intro kind payload hr
      have hm : .unrecognized kind payload ∈ r.within := by
        rw [← hr]
        exact mem_within_self r
      obtain ⟨_, _, _, _, hp⟩ := named kind payload hm
      exact ⟨hp, payloads kind payload hm⟩

end Record
end OrgOutline
