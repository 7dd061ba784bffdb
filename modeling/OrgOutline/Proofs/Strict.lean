import OrgOutline.Proofs.Loaded

/-!
# Strict loading

Strict loading goes the way of lenient loading up to the first remark of the latter, and stops there with the fault that
belongs to the remark (`Run.CutShort`). Runs that are put together of such runs are such runs (`Run.CutShort.bind`), so it is
enough to look at the two places where the mode counts: a kind that is not known and fields that timestamps do not have.
Main statements: strict loading of any value is lenient loading cut short (`cutShort_load`), what this says about results,
remarks and faults, and that nothing unrecognized is inside a record that was loaded strictly (`Record.load_strict`).
-/

namespace OrgOutline

variable {α β : Type}

/-- The fault that strict loading ends with where lenient loading makes a remark. -/
def Notice.strictFault? : Notice → Option Fault
  | .keptUnknown kind => some (.unknownKind kind)
  | .fieldsIgnored names => some (.unknownTimestampFields names)
  | _ => none

namespace Run

/-- The second run is the first one, cut short at the first remark with the fault that belongs to it. -/
def CutShort (x y : Run α) : Prop :=
  match x.notices with
  | [] => y = x
  | n :: _ => ∃ f, n.strictFault? = some f ∧ y = .fail f

namespace CutShort

theorem refl {x : Run α} (h : x.notices = []) : CutShort x x := by
  unfold CutShort
  rw [h]

theorem pure (a : α) : CutShort (pure a) (pure a) := refl rfl

theorem fail (f : Fault) : CutShort (.fail f : Run α) (.fail f) := refl rfl

theorem refuse (f : Fault) : CutShort (.refuse f : Run α) (.refuse f) := refl rfl

theorem ofExcept (x : Except Fault α) : CutShort (.ofExcept x) (.ofExcept x) := refl rfl

/-- A remark and its fault that show the same values. If one of these cannot be shown, neither of the two is given. -/
theorem tell {n : Notice} {f : Fault} (hf : n.strictFault? = some f) (hshown : f.shownValues = n.shownValues) :
    CutShort (.tell n) (.refuse f) := by
  rw [Run.tell, Run.refuse, Fault.told, hshown]
  split
  · exact fail _
  · exact ⟨f, hf, rfl⟩

/-- What follows two such runs is cut short if it is so for every result. -/
theorem bind {x y : Run α} {f g : α → Run β} (h : CutShort x y) (hf : ∀ a, CutShort (f a) (g a)) :
    CutShort (x >>= f) (y >>= g) := by
  obtain ⟨ns, o⟩ := x
  cases ns with
  | nil =>
    obtain rfl : y = ⟨[], o⟩ := h
    cases o with
    | error e => exact rfl
    | ok a => exact hf a
  | cons n ns =>
    obtain ⟨e, he, rfl⟩ := h
    have hnotices : ∃ ms, ((⟨n :: ns, o⟩ : Run α) >>= f).notices = n :: ms := by
      cases o with
      | error e => exact ⟨ns, rfl⟩
      | ok a => exact ⟨ns ++ (f a).notices, rfl⟩
    obtain ⟨ms, hms⟩ := hnotices
    unfold CutShort
    rw [hms]
    exact ⟨e, he, rfl⟩

theorem map {x y : Run α} (g : α → β) (h : CutShort x y) : CutShort (g <$> x) (g <$> y) := by
  rw [map_eq_pure_bind, map_eq_pure_bind]
  exact h.bind fun a => pure (g a)

end CutShort
end Run

open Run (CutShort)

/-! ## Members -/

theorem cutShort_required (members : Members) (name : String) :
    CutShort (required members name) (required members name) := by
  unfold required
  split
  · exact CutShort.pure _
  · exact CutShort.fail _

theorem cutShort_membersOf (f : Fault) (v : Json) : CutShort (membersOf f v) (membersOf f v) := by
  unfold membersOf
  split
  · exact CutShort.pure _
  · exact CutShort.fail _

theorem cutShort_elements (v : Json) : CutShort (elements v) (elements v) := by
  unfold elements
  split
  · exact CutShort.pure _
  · exact CutShort.pure _
  · exact CutShort.pure _
  · exact CutShort.fail _

theorem cutShort_elementsAt (members : Members) (name : String) :
    CutShort (elementsAt members name) (elementsAt members name) := cutShort_elements _

theorem cutShort_eachOf {f g : Json → Run α} (h : ∀ v, CutShort (f v) (g v)) (items : List Json) :
    CutShort (eachOf f items) (eachOf g items) := by
  induction items with
  | nil => exact CutShort.pure []
  | cons v items ih => exact (h v).bind fun x => ih.bind fun xs => CutShort.pure (x :: xs)

/-! ## Records without running text -/

/-- Fields that timestamps do not have: the first place where the mode counts. -/
theorem cutShort_reportUnknownFields (unknown : List Json) :
    CutShort (reportUnknownFields false unknown) (reportUnknownFields true unknown) := by
  unfold reportUnknownFields
  split
  · exact CutShort.pure ()
  · exact CutShort.tell rfl rfl

theorem cutShort_loadTimestamp (v : Json) : CutShort (loadTimestamp false v) (loadTimestamp true v) := by
  refine (cutShort_elements v).bind fun names => ?_
  split
  · refine (cutShort_reportUnknownFields _).bind fun _ => ?_
    exact (cutShort_membersOf _ v).bind fun members => CutShort.ofExcept _
  · exact CutShort.fail _

theorem cutShort_loadOptionalTimestamp (v : Json) :
    CutShort (loadOptionalTimestamp false v) (loadOptionalTimestamp true v) := by
  unfold loadOptionalTimestamp
  split
  · exact CutShort.pure none
  · exact (cutShort_loadTimestamp v).bind fun t => CutShort.pure (some t)

theorem cutShort_loadTitle (v : Json) : CutShort (loadTitle v) (loadTitle v) := by
  refine (cutShort_membersOf _ v).bind fun members => (cutShort_required members _).bind fun text => ?_
  exact (cutShort_elementsAt members _).bind fun tags => CutShort.pure _

theorem cutShort_loadPlanningEntry (v : Json) : CutShort (loadPlanningEntry false v) (loadPlanningEntry true v) := by
  refine (cutShort_membersOf _ v).bind fun members => (cutShort_required members _).bind fun kind => ?_
  refine (cutShort_required members _).bind fun timestamp => ?_
  exact (cutShort_loadTimestamp timestamp).bind fun t => CutShort.pure _

theorem cutShort_loadClock (members : Members) : CutShort (loadClock false members) (loadClock true members) := by
  refine (cutShort_required members _).bind fun start => (cutShort_loadTimestamp start).bind fun start => ?_
  exact (cutShort_loadOptionalTimestamp _).bind fun stop => CutShort.pure _

theorem cutShort_loadLogEntry (v : Json) : CutShort (loadLogEntry false v) (loadLogEntry true v) := by
  refine (cutShort_membersOf _ v).bind fun members => ?_
  split
  · exact cutShort_loadClock members
  · exact CutShort.pure _
  · exact CutShort.fail _

theorem cutShort_loadKeywordSet (v : Json) : CutShort (loadKeywordSet v) (loadKeywordSet v) := by
  refine (cutShort_membersOf _ v).bind fun members => ?_
  exact (cutShort_elementsAt members _).bind fun keywords => CutShort.pure _

/-! ## Rules -/

theorem cutShort_checkRows (rows : List Row) : CutShort (checkRows rows) (checkRows rows) := by
  unfold checkRows
  split
  · exact CutShort.pure ()
  · split
    · exact CutShort.fail _
    · exact CutShort.pure ()

theorem cutShort_checkLevel (v : Json) : CutShort (checkLevel v) (checkLevel v) := by
  unfold checkLevel
  dsimp only
  split
  · exact CutShort.fail _
  · exact CutShort.pure ()
  · exact CutShort.fail _

theorem cutShort_checkBareLinkKind (v : Json) : CutShort (checkBareLinkKind v) (checkBareLinkKind v) := by
  unfold checkBareLinkKind
  split
  · exact CutShort.pure _
  · exact CutShort.fail _

theorem cutShort_checkCheckboxState (v : Json) : CutShort (checkCheckboxState v) (checkCheckboxState v) := by
  unfold checkCheckboxState
  split
  · exact CutShort.pure _
  · exact CutShort.fail _

/-! ## Records from their members -/

section Assemble

variable {members : Members} {lists lists' : ListsOf}

theorem cutShort_assembleItem (hl : ∀ t name, CutShort (lists t name) (lists' t name)) :
    CutShort (assembleItem members lists) (assembleItem members lists') := by
  refine (hl .record "title_line").bind fun title => (hl .record "contents").bind fun contents => ?_
  exact (cutShort_checkCheckboxState _).bind fun state => CutShort.pure _

theorem cutShort_assembleCell (hl : ∀ t name, CutShort (lists t name) (lists' t name)) :
    CutShort (assembleCell members lists) (assembleCell members lists') :=
  (hl .record "content").bind fun _ => CutShort.pure _

theorem cutShort_assembleProperty (hl : ∀ t name, CutShort (lists t name) (lists' t name)) :
    CutShort (assembleProperty members lists) (assembleProperty members lists') :=
  (cutShort_required members _).bind fun _ => (hl .record "value").bind fun _ => CutShort.pure _

theorem cutShort_assembleHeading (hl : ∀ t name, CutShort (lists t name) (lists' t name)) :
    CutShort (assembleHeading false members lists) (assembleHeading true members lists') := by
  refine (cutShort_required members _).bind fun level => ?_
  refine (cutShort_required members _).bind fun title => (cutShort_loadTitle title).bind fun title => ?_
  refine (cutShort_elementsAt members _).bind fun planning => ?_
  refine (cutShort_eachOf cutShort_loadPlanningEntry planning).bind fun planning => ?_
  refine (hl .property "property_list_items").bind fun properties => ?_
  refine (cutShort_elementsAt members _).bind fun logbook => ?_
  refine (cutShort_eachOf cutShort_loadLogEntry logbook).bind fun logbook => ?_
  refine (hl .record "description").bind fun description => ?_
  exact (cutShort_checkLevel level).bind fun _ => CutShort.pure _

theorem cutShort_assembleDocument (hl : ∀ t name, CutShort (lists t name) (lists' t name)) :
    CutShort (assembleDocument members lists) (assembleDocument members lists') := by
  refine (hl .heading "headers").bind fun headings => ?_
  refine (cutShort_elementsAt members _).bind fun keywordSets => ?_
  refine (cutShort_eachOf cutShort_loadKeywordSet keywordSets).bind fun keywordSets => ?_
  refine (cutShort_elementsAt members _).bind fun configLines => ?_
  exact (cutShort_elementsAt members _).bind fun firstLines => CutShort.pure _

theorem cutShort_assembleTable (hl : ∀ t name, CutShort (lists t name) (lists' t name)) :
    CutShort (assembleTable lists) (assembleTable lists') :=
  (hl .row "rows").bind fun rows => (cutShort_checkRows rows).bind fun _ => CutShort.pure _

theorem cutShort_assembleList (hl : ∀ t name, CutShort (lists t name) (lists' t name)) :
    CutShort (assembleList members lists) (assembleList members lists') :=
  (hl .item "items").bind fun _ => CutShort.pure _

theorem cutShort_assembleStamp (members : Members) :
    CutShort (assembleStamp false members) (assembleStamp true members) := by
  refine (cutShort_required members _).bind fun first => (cutShort_loadTimestamp first).bind fun first => ?_
  exact (cutShort_loadOptionalTimestamp _).bind fun second => CutShort.pure _

theorem cutShort_assembleBareLink (members : Members) :
    CutShort (assembleBareLink members) (assembleBareLink members) := by
  refine (cutShort_required members _).bind fun kind => (cutShort_required members _).bind fun content => ?_
  exact (cutShort_checkBareLinkKind kind).bind fun kind => CutShort.pure _

/-- A record of a kind that is not known: the second place where the mode counts. -/
theorem cutShort_keepUnknown (kind : Json) (members : Members) :
    CutShort (keepUnknown false kind members) (keepUnknown true kind members) := by
  have htell : CutShort (.tell (.keptUnknown kind)) (.refuse (.unknownKind kind)) := CutShort.tell rfl rfl
  exact htell.bind fun _ => CutShort.pure (Record.unrecognized kind (members.filter fun m => m.1 != "node_type"))

/-- The two modes know the same kinds, and records of these kinds are cut short if the lists in them are. -/
theorem cutShort_assembleKnown (name : String) (hl : ∀ t name, CutShort (lists t name) (lists' t name)) :
    CutShort ((assembleKnown? false name members lists).getD (keepUnknown false (.str name) members))
      ((assembleKnown? true name members lists').getD (keepUnknown true (.str name) members)) := by
  unfold assembleKnown?
  split
  case h_1 => exact (cutShort_loadTimestamp _).map Record.timestamp
  case h_2 => exact (cutShort_required members _).map Record.text
  case h_3 => exact (cutShort_required members _).map _
  case h_4 => exact CutShort.pure _
  case h_5 => exact CutShort.pure _
  case h_6 => exact cutShort_assembleStamp members
  case h_7 => exact cutShort_assembleBareLink members
  case h_8 => exact cutShort_assembleList hl
  case h_9 => exact (cutShort_assembleItem hl).map Record.listItem
  case h_10 => exact cutShort_assembleTable hl
  case h_11 => exact (hl .cell "cells").map Record.row
  case h_12 => exact (cutShort_assembleCell hl).map Record.cell
  case h_13 => exact (cutShort_loadTitle _).map Record.title
  case h_14 => exact (cutShort_loadPlanningEntry _).map Record.planning
  case h_15 => exact (cutShort_assembleProperty hl).map Record.property
  case h_16 => exact CutShort.pure _
  case h_17 => exact (cutShort_loadClock members).map Record.logEntry
  case h_18 => exact (cutShort_assembleHeading hl).map Record.heading
  case h_19 => exact (cutShort_loadKeywordSet _).map Record.keywordSet
  case h_20 => exact (cutShort_assembleDocument hl).map Record.document
  case h_21 => exact cutShort_keepUnknown (.str name) members

theorem cutShort_assembleRecord (hl : ∀ t name, CutShort (lists t name) (lists' t name)) :
    CutShort (assembleRecord false members lists) (assembleRecord true members lists') := by
  unfold assembleRecord
  split
  · exact CutShort.fail _
  · rename_i kind _
    split
    · exact CutShort.fail _
    · cases kind with
      | arr items => exact CutShort.fail _
      | obj members => exact CutShort.fail _
      | str name => exact cutShort_assembleKnown name hl
      | _ => exact cutShort_keepUnknown _ members

/-- What a shape asks for is cut short if the lists in it are. -/
theorem cutShort_assemble (s : Shape) (hl : ∀ t name, CutShort (lists t name) (lists' t name)) :
    CutShort (assemble false s members lists) (assemble true s members lists') := by
  cases s with
  | record => exact cutShort_assembleRecord hl
  | item => exact cutShort_assembleItem hl
  | row => exact hl .cell "cells"
  | cell => exact cutShort_assembleCell hl
  | property => exact cutShort_assembleProperty hl
  | heading => exact cutShort_assembleHeading hl

end Assemble

/-! ## Statements -/

theorem cutShort_loadAll {s : Shape} {items : List Json} (h : ∀ v ∈ items, CutShort (load false s v) (load true s v)) :
    CutShort (loadAll false s items) (loadAll true s items) := by
  induction items with
  | nil => exact CutShort.pure []
  | cons v items ih =>
    obtain ⟨hv, hitems⟩ := List.forall_mem_cons.1 h
    rw [loadAll, loadAll]
    exact hv.bind fun x => (ih hitems).bind fun xs => CutShort.pure (x :: xs)

/-- A value that is no object is refused in both modes. -/
theorem cutShort_load_scalar {v : Json} (hv : ∀ members, v ≠ .obj members) (s : Shape) :
    CutShort (load false s v) (load true s v) := by
  cases v with
  | obj members => exact absurd rfl (hv members)
  | _ => exact CutShort.fail s.notAnObject

/-- Strict loading of any value, alone or as a list, is lenient loading cut short. -/
theorem cutShort_load_loadEach (v : Json) : (∀ s, CutShort (load false s v) (load true s v)) ∧
    ∀ s, CutShort (loadEach false s v) (loadEach true s v) := by
  induction v using Json.nestedInduction with
  | arr items ih =>
    refine ⟨cutShort_load_scalar (by simp), ?_⟩
    intro s
    rw [loadEach, loadEach]
    exact cutShort_loadAll fun v hv => (ih v hv).1 s
  | obj members ih =>
    constructor
    · intro s
      rw [load, load]
      refine cutShort_assemble s ?_
      intro t name
      rw [loadAt_eq, loadAt_eq]
      split
      · rename_i v hv
        obtain ⟨l, l', rfl, -⟩ := List.lookup_eq_some_iff.1 hv
        exact (ih (name, v) (List.mem_append_right l List.mem_cons_self)).2 t
      · exact CutShort.pure []
    · intro s
      cases members with
      | nil => exact CutShort.pure []
      | cons m ms => exact CutShort.fail _
  | str t =>
    refine ⟨cutShort_load_scalar (by simp), ?_⟩
    intro s
    rw [loadEach, loadEach]
    split
    · exact CutShort.pure []
    · exact CutShort.fail _
  | null => exact ⟨cutShort_load_scalar (by simp), fun s => CutShort.fail _⟩
  | bool b => exact ⟨cutShort_load_scalar (by simp), fun s => CutShort.fail _⟩
  | int n => exact ⟨cutShort_load_scalar (by simp), fun s => CutShort.fail _⟩
  | float x => exact ⟨cutShort_load_scalar (by simp), fun s => CutShort.fail _⟩

/-- Strict loading of any value is lenient loading cut short at its first remark. -/
theorem cutShort_load (s : Shape) (v : Json) : CutShort (load false s v) (load true s v) := (cutShort_load_loadEach v).1 s

namespace Record

/-- Where lenient loading makes no remark, strict loading does the same; where it makes one, strict loading fails and names what
the first remark names; and nothing unrecognized is inside what strict loading gives. -/
theorem load_strict (v : Json) :
    ((load false v).notices = [] → load true v = load false v) ∧
      (∀ n rest, (load false v).notices = n :: rest →
        (∃ kind, n = .keptUnknown kind ∧ load true v = .fail (.unknownKind kind)) ∨
          ∃ names, n = .fieldsIgnored names ∧ load true v = .fail (.unknownTimestampFields names)) ∧
      ∀ r, (load true v).outcome = .ok r → r.Quiet := by
  have hcut : CutShort (load false v) (load true v) := cutShort_load .record v
  unfold CutShort at hcut
  refine ⟨?_, ?_, ?_⟩
  · intro hsilent
    rw [hsilent] at hcut
    exact hcut
  · intro n rest hremark
    rw [hremark] at hcut
    obtain ⟨f, hf, hstrict⟩ := hcut
    cases n with
    | keptUnknown kind =>
      obtain rfl := Option.some.inj hf
      exact Or.inl ⟨kind, rfl, hstrict⟩
    | fieldsIgnored names =>
      obtain rfl := Option.some.inj hf
      exact Or.inr ⟨names, rfl, hstrict⟩
    | _ => nomatch hf
  · intro r hr
    exact quiet_of_sound (ensures_load true .record v r hr)

/-- A list with an item in which a timestamp has a field that timestamps do not have and a part is of a kind that is not known. -/
def foreignList : Json :=
  .obj [("node_type", .str "List"), ("items", .arr [.obj [("title_line", .arr [
    .obj [("node_type", .str "InlineTimestamp"),
      ("first_timestamp", .obj [("year", .str "2019"), ("zone", .str "Z"), ("month", .str "08"), ("day", .str "02")])],
    .obj [("node_type", .str "InlineMarkup"), ("content", .str "*a*")]])]])]

/-- Both are remarked upon, and strict loading names the field, which is met first. -/
theorem load_strict_foreign :
    (load false foreignList).notices = [.fieldsIgnored [.str "zone"], .keptUnknown (.str "InlineMarkup")] ∧
      load true foreignList = .fail (.unknownTimestampFields [.str "zone"]) := by
  have hremarks : (load false foreignList).notices = [.fieldsIgnored [.str "zone"], .keptUnknown (.str "InlineMarkup")] := rfl
  refine ⟨hremarks, ?_⟩
  rcases (load_strict foreignList).2.1 _ _ hremarks with ⟨kind, hkind, -⟩ | ⟨names, hnames, hstrict⟩
  · nomatch hkind
  · obtain rfl := Notice.fieldsIgnored.inj hnames
    exact hstrict

end Record
end OrgOutline
