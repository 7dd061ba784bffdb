import OrgOutline.Proofs.ComesBack
import OrgOutline.Proofs.Nested

/-!
# What loading lets through

Any value can be loaded, but what comes out keeps the rules of the model at every depth, and its unrecognized parts are of
kinds that no known record has; strict loading lets none of them through. Main statement: all that is inside a loaded record
can be saved and loaded again, and is recognized if loading was strict (`ensures_load`), for every shape.
-/

namespace OrgOutline

open Run (Ensures)

/-- Whether a record is of a known kind. -/
def Record.isRecognized : Record → Bool
  | .unrecognized .. => false
  | _ => true

/-- What loading lets through in a mode: a record that keeps its form and, in strict loading, is of a known kind. -/
structure Record.Admitted (strict : Bool) (r : Record) : Prop where
  storable : r.Storable
  recognized : strict = true → r.isRecognized = true

/-- All that is inside what was loaded for a shape is let through. -/
def Shape.Sound (s : Shape) (strict : Bool) (x : s.Loaded) : Prop := ∀ y ∈ (s.wrap x).within, y.Admitted strict

/-- What is loaded is sound if it is let through itself and what is directly inside is sound. -/
theorem Shape.sound_iff (s : Shape) (strict : Bool) (x : s.Loaded) :
    s.Sound strict x ↔ (s.wrap x).Admitted strict ∧ ∀ c ∈ (s.wrap x).children, Shape.record.Sound strict c :=
  Record.forall_within_iff (s.wrap x)

/-- Nothing unrecognized is inside a record that strict loading lets through. -/
theorem Record.quiet_of_sound {r : Record} (h : Shape.record.Sound true r) : r.Quiet := by
  intro kind payload hm
  exact Bool.false_ne_true ((h _ hm).recognized rfl)

/-! ## Rules -/

/-- A table that passes the check of its rows passes without a notice. -/
theorem ensures_checkRows (rows : List Row) : Ensures (fun _ => checkRows rows = pure ()) (checkRows rows) := by
  unfold checkRows
  split
  · exact fun _ _ => rfl
  · split
    · exact Ensures.fail _
    · exact fun _ _ => rfl

/-- A level that passes its check passes without a notice. -/
theorem ensures_checkLevel (v : Json) : Ensures (fun _ => checkLevel v = pure ()) (checkLevel v) := by
  unfold checkLevel
  dsimp only
  split
  · exact Ensures.fail _
  · exact fun _ _ => rfl
  · exact Ensures.fail _

/-- A name that no known record has is none of the known names. -/
theorem notMem_kindNames {strict : Bool} {name : String} {members : Members} {lists : ListsOf}
    (h : assembleKnown? strict name members lists = none) : name ∉ Record.kindNames := by
  unfold assembleKnown? at h
  split at h <;> simp_all [Record.kindNames]

/-! ## Records from their members -/

variable {strict : Bool}

/-- Timestamps keep no rules. -/
theorem sound_timestamp (t : Timestamp) : Shape.record.Sound strict (.timestamp t) :=
  (Shape.record.sound_iff strict _).2 ⟨⟨trivial, fun _ => rfl⟩, List.forall_mem_nil _⟩

theorem sound_of_mem_stampRecords {first : Timestamp} {second : Option Timestamp} :
    ∀ c ∈ stampRecords first second, Shape.record.Sound strict c := by
  cases second <;> simp [stampRecords, sound_timestamp]

theorem sound_planning (i : PlanningEntry) : Shape.record.Sound strict (.planning i) :=
  (Shape.record.sound_iff strict _).2 ⟨⟨trivial, fun _ => rfl⟩, List.forall_mem_singleton.2 (sound_timestamp i.timestamp)⟩

theorem sound_logEntry (e : LogEntry) : Shape.record.Sound strict (.logEntry e) := by
  refine (Shape.record.sound_iff strict _).2 ⟨⟨trivial, fun _ => rfl⟩, ?_⟩
  cases e with
  | line words => exact nofun
  | clock start stop => exact sound_of_mem_stampRecords

section Assemble

variable {members : Members} {lists : ListsOf}

theorem ensures_assembleItem (hl : ∀ t name, Ensures (fun xs => ∀ x ∈ xs, t.Sound strict x) (lists t name)) :
    Ensures (Shape.item.Sound strict) (assembleItem members lists) := by
  refine (hl .record "title_line").bind fun title ht => ?_
  refine (hl .record "contents").bind fun contents hc => ?_
  refine (Ensures.trivial _).bind fun state _ => Ensures.pure ?_
  exact (Shape.item.sound_iff strict _).2 ⟨⟨trivial, fun _ => rfl⟩, List.forall_mem_append.2 ⟨ht, hc⟩⟩

theorem ensures_assembleCell (hl : ∀ t name, Ensures (fun xs => ∀ x ∈ xs, t.Sound strict x) (lists t name)) :
    Ensures (Shape.cell.Sound strict) (assembleCell members lists) := by
  refine (hl .record "content").bind fun content hc => Ensures.pure ?_
  exact (Shape.cell.sound_iff strict _).2 ⟨⟨trivial, fun _ => rfl⟩, hc⟩

theorem ensures_assembleRow (hl : ∀ t name, Ensures (fun xs => ∀ x ∈ xs, t.Sound strict x) (lists t name)) :
    Ensures (Shape.row.Sound strict) (assembleRow lists) :=
  (hl .cell "cells").mono fun _ hcells =>
    (Shape.row.sound_iff strict _).2 ⟨⟨trivial, fun _ => rfl⟩, List.forall_mem_map.2 hcells⟩

theorem ensures_assembleProperty (hl : ∀ t name, Ensures (fun xs => ∀ x ∈ xs, t.Sound strict x) (lists t name)) :
    Ensures (Shape.property.Sound strict) (assembleProperty members lists) := by
  refine (Ensures.trivial _).bind fun name _ => ?_
  refine (hl .record "value").bind fun value hv => Ensures.pure ?_
  exact (Shape.property.sound_iff strict _).2 ⟨⟨trivial, fun _ => rfl⟩, hv⟩

theorem ensures_assembleHeading (hl : ∀ t name, Ensures (fun xs => ∀ x ∈ xs, t.Sound strict x) (lists t name)) :
    Ensures (Shape.heading.Sound strict) (assembleHeading strict members lists) := by
  refine (Ensures.trivial _).bind fun level _ => ?_
  refine (Ensures.trivial _).bind fun title _ => ?_
  refine (Ensures.trivial _).bind fun title _ => ?_
  refine (Ensures.trivial _).bind fun planning _ => ?_
  refine (Ensures.trivial _).bind fun planning _ => ?_
  refine (hl .property "property_list_items").bind fun properties hp => ?_
  refine (Ensures.trivial _).bind fun logbook _ => ?_
  refine (Ensures.trivial _).bind fun logbook _ => ?_
  refine (hl .record "description").bind fun description hd => ?_
  refine (ensures_checkLevel level).bind fun _ hlevel => Ensures.pure ?_
  refine (Shape.heading.sound_iff strict _).2 ⟨⟨hlevel, fun _ => rfl⟩, ?_⟩
  simp only [Shape.wrap, Record.children, List.cons_append, List.forall_mem_cons, List.forall_mem_append, List.forall_mem_map]
  exact ⟨(Shape.record.sound_iff strict _).2 ⟨⟨trivial, fun _ => rfl⟩, List.forall_mem_nil _⟩,
    ⟨⟨fun i _ => sound_planning i, hp⟩, fun e _ => sound_logEntry e⟩, hd⟩

theorem ensures_assembleDocument (hl : ∀ t name, Ensures (fun xs => ∀ x ∈ xs, t.Sound strict x) (lists t name)) :
    Ensures (fun d => Shape.record.Sound strict (.document d)) (assembleDocument members lists) := by
  refine (hl .heading "headers").bind fun headings hh => ?_
  refine (Ensures.trivial _).bind fun keywordSets _ => ?_
  refine (Ensures.trivial _).bind fun keywordSets _ => ?_
  refine (Ensures.trivial _).bind fun configLines _ => ?_
  refine (Ensures.trivial _).bind fun firstLines _ => Ensures.pure ?_
  refine (Shape.record.sound_iff strict _).2 ⟨⟨trivial, fun _ => rfl⟩, ?_⟩
  simp only [Shape.wrap, id, Record.children, List.forall_mem_append, List.forall_mem_map]
  exact ⟨hh, fun k _ => (Shape.record.sound_iff strict _).2 ⟨⟨trivial, fun _ => rfl⟩, List.forall_mem_nil _⟩⟩

theorem ensures_assembleTable (hl : ∀ t name, Ensures (fun xs => ∀ x ∈ xs, t.Sound strict x) (lists t name)) :
    Ensures (Shape.record.Sound strict) (assembleTable lists) := by
  refine (hl .row "rows").bind fun rows hrows => ?_
  refine (ensures_checkRows rows).bind fun _ hcheck => Ensures.pure ?_
  exact (Shape.record.sound_iff strict _).2 ⟨⟨hcheck, fun _ => rfl⟩, List.forall_mem_map.2 hrows⟩

theorem ensures_assembleList (hl : ∀ t name, Ensures (fun xs => ∀ x ∈ xs, t.Sound strict x) (lists t name)) :
    Ensures (Shape.record.Sound strict) (assembleList members lists) := by
  refine (hl .item "items").bind fun items hitems => Ensures.pure ?_
  exact (Shape.record.sound_iff strict _).2 ⟨⟨trivial, fun _ => rfl⟩, List.forall_mem_map.2 hitems⟩

/-- A record that is let through and has nothing inside is sound. -/
theorem sound_leaf {r : Record} (hr : r.Admitted strict) (hc : r.children = []) : Shape.record.Sound strict r := by
  refine (Shape.record.sound_iff strict r).2 ⟨hr, ?_⟩
  rw [Shape.wrap, id, hc]
  exact List.forall_mem_nil _

/-- A record of a known kind is sound if the lists in it are. -/
theorem ensures_assembleKnown (name : String)
    (hl : ∀ t name, Ensures (fun xs => ∀ x ∈ xs, t.Sound strict x) (lists t name)) :
    ∀ x ∈ assembleKnown? strict name members lists, Ensures (Shape.record.Sound strict) x := by
  unfold assembleKnown?
  split <;> rintro x ⟨⟩
  case h_1 => exact Ensures.map fun t _ => sound_timestamp t
  case h_2 => exact Ensures.map fun content _ => sound_leaf ⟨trivial, fun _ => rfl⟩ rfl
  case h_3 => exact Ensures.map fun target _ => sound_leaf ⟨trivial, fun _ => rfl⟩ rfl
  case h_4 => exact Ensures.pure (sound_leaf ⟨trivial, fun _ => rfl⟩ rfl)
  case h_5 => exact Ensures.pure (sound_leaf ⟨trivial, fun _ => rfl⟩ rfl)
  case h_6 =>
    refine (Ensures.trivial _).bind fun first _ => (Ensures.trivial _).bind fun first _ => ?_
    refine (Ensures.trivial _).bind fun second _ => Ensures.pure ?_
    exact (Shape.record.sound_iff strict _).2 ⟨⟨trivial, fun _ => rfl⟩, sound_of_mem_stampRecords⟩
  case h_7 =>
    refine (Ensures.trivial _).bind fun kind _ => (Ensures.trivial _).bind fun content _ => ?_
    exact (Ensures.trivial _).bind fun kind _ => Ensures.pure (sound_leaf ⟨trivial, fun _ => rfl⟩ rfl)
  case h_8 => exact ensures_assembleList hl
  case h_9 => exact Ensures.map (g := Record.listItem) (ensures_assembleItem hl)
  case h_10 => exact ensures_assembleTable hl
  case h_11 => exact Ensures.map (g := Record.row) (ensures_assembleRow hl)
  case h_12 => exact Ensures.map (g := Record.cell) (ensures_assembleCell hl)
  case h_13 => exact Ensures.map fun t _ => sound_leaf ⟨trivial, fun _ => rfl⟩ rfl
  case h_14 => exact Ensures.map fun i _ => sound_planning i
  case h_15 => exact Ensures.map (g := Record.property) (ensures_assembleProperty hl)
  case h_16 => exact Ensures.pure (sound_logEntry _)
  case h_17 => exact Ensures.map fun e _ => sound_logEntry e
  case h_18 => exact Ensures.map (g := Record.heading) (ensures_assembleHeading hl)
  case h_19 => exact Ensures.map fun k _ => sound_leaf ⟨trivial, fun _ => rfl⟩ rfl
  case h_20 => exact (ensures_assembleDocument hl).map

/-- A record that is kept although its kind is not known is sound. -/
theorem ensures_keepUnknown {kind : Json} (hset : kind.isSet = true) (hscalar : kind.isScalar = true)
    (hname : ∀ s, kind = .str s → s ∉ Record.kindNames) :
    Ensures (Shape.record.Sound strict) (keepUnknown strict kind members) := by
  unfold keepUnknown
  split
  · exact Ensures.fail _
  · rename_i hstrict
    refine (Run.ensures_tell _).bind fun _ hshown => Ensures.pure (sound_leaf ⟨⟨hset, hscalar, hname, ?_, ?_⟩, ?_⟩ rfl)
    · exact (Bool.or_false _).symm.trans hshown
    · rw [List.mem_map]
      rintro ⟨m, hm, he⟩
      exact absurd he (bne_iff_ne.1 (List.mem_filter.1 hm).2)
    · intro hs
      exact absurd hs hstrict

theorem ensures_assembleRecord (hl : ∀ t name, Ensures (fun xs => ∀ x ∈ xs, t.Sound strict x) (lists t name)) :
    Ensures (Shape.record.Sound strict) (assembleRecord strict members lists) := by
  unfold assembleRecord
  split
  · exact Ensures.fail _
  · rename_i kind _
    split
    · exact Ensures.fail _
    · rename_i hset
      rw [Bool.not_eq_true', Bool.not_eq_false] at hset
      cases kind with
      | arr items => exact Ensures.fail _
      | obj members => exact Ensures.fail _
      | str name =>
        dsimp only
        cases hk : assembleKnown? strict name members lists with
        | some x => exact ensures_assembleKnown name hl x hk
        | none => exact ensures_keepUnknown hset rfl fun s hs => Json.str.inj hs ▸ notMem_kindNames hk
      | _ => exact ensures_keepUnknown hset rfl nofun

/-- What a shape asks for is sound if the lists in it are. -/
theorem ensures_assemble (s : Shape) (hl : ∀ t name, Ensures (fun xs => ∀ x ∈ xs, t.Sound strict x) (lists t name)) :
    Ensures (s.Sound strict) (assemble strict s members lists) := by
  cases s with
  | record => exact ensures_assembleRecord hl
  | item => exact ensures_assembleItem hl
  | row => exact ensures_assembleRow hl
  | cell => exact ensures_assembleCell hl
  | property => exact ensures_assembleProperty hl
  | heading => exact ensures_assembleHeading hl

end Assemble

/-! ## Statements -/

/-- A list of values is sound if each of them is. -/
theorem ensures_loadAll {s : Shape} {items : List Json} (h : ∀ v ∈ items, Ensures (s.Sound strict) (load strict s v)) :
    Ensures (fun xs => ∀ x ∈ xs, s.Sound strict x) (loadAll strict s items) := by
  induction items with
  | nil =>
    rw [loadAll]
    exact Ensures.pure (List.forall_mem_nil _)
  | cons v items ih =>
    obtain ⟨hv, hitems⟩ := List.forall_mem_cons.1 h
    rw [loadAll]
    exact hv.bind fun x hx => (ih hitems).bind fun xs hxs => Ensures.pure (List.forall_mem_cons.2 ⟨hx, hxs⟩)

/-- Nothing is loaded from a value that is no object. -/
theorem ensures_load_scalar {v : Json} (hv : ∀ members, v ≠ .obj members) (s : Shape) :
    Ensures (s.Sound strict) (load strict s v) := by
  cases v with
  | obj members => exact absurd rfl (hv members)
  | _ =>
    rw [load]
    · exact Ensures.fail _
    · exact nofun

/-- What is loaded from any value, alone or as a list, is sound. -/
theorem ensures_load_loadEach (strict : Bool) (v : Json) :
    (∀ s, Ensures (s.Sound strict) (load strict s v)) ∧
      ∀ s, Ensures (fun xs => ∀ x ∈ xs, s.Sound strict x) (loadEach strict s v) := by
  induction v using Json.nestedInduction with
  | arr items ih =>
    refine ⟨ensures_load_scalar (by simp), ?_⟩
    intro s
    rw [loadEach]
    exact ensures_loadAll fun v hv => (ih v hv).1 s
  | obj members ih =>
    constructor
    · intro s
      rw [load]
      refine ensures_assemble s ?_
      intro t name
      rw [loadAt_eq]
      split
      · rename_i v hv
        obtain ⟨l, l', rfl, -⟩ := List.lookup_eq_some_iff.1 hv
        exact (ih (name, v) (List.mem_append_right l List.mem_cons_self)).2 t
      · exact Ensures.pure (List.forall_mem_nil _)
    · intro s
      cases members with
      | nil => exact Ensures.pure (List.forall_mem_nil _)
      | cons m ms => exact Ensures.fail _
  | str t =>
    refine ⟨ensures_load_scalar (by simp), ?_⟩
    intro s
    rw [loadEach]
    split
    · exact Ensures.pure (List.forall_mem_nil _)
    · exact Ensures.fail _
  | null => exact ⟨ensures_load_scalar (by simp), fun s => Ensures.fail _⟩
  | bool b => exact ⟨ensures_load_scalar (by simp), fun s => Ensures.fail _⟩
  | int n => exact ⟨ensures_load_scalar (by simp), fun s => Ensures.fail _⟩
  | float x => exact ⟨ensures_load_scalar (by simp), fun s => Ensures.fail _⟩

/-- Whatever value a record is loaded from, all that is inside it can be saved and loaded again, and is recognized if loading
was strict. -/
theorem ensures_load (strict : Bool) (s : Shape) (v : Json) : Ensures (s.Sound strict) (load strict s v) :=
  (ensures_load_loadEach strict v).1 s

end OrgOutline
