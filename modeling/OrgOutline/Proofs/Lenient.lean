import OrgOutline.Proofs.EndsAlike

/-!
# Lenient loading of rearranged values

Lenient loading finds the fields of a record by their names and drops what is no field. Main statement: from a value whose keys
stand in another order and in which records have more keys that are no fields, lenient loading fails for the same cause or gives
the same record (`Record.load_rearranged`), by induction on the value; there is one lemma for each kind of record, under the
assumption that the lists under its fields are loaded alike (`AlikeLists`).
-/

namespace OrgOutline

open Run (EndsAlike)

/-! ## Lists of what is the same -/

/-- Whether what was loaded for a shape is the same. -/
def Shape.same : (s : Shape) → s.Loaded → s.Loaded → Bool
  | .record => Record.same
  | .item => Item.same
  | .row => sameCells
  | .cell => Cell.same
  | .property => Property.same
  | .heading => Heading.same

/-- Two lists loaded for a shape whose elements are the same in order. -/
def Shape.SameLists (s : Shape) : List s.Loaded → List s.Loaded → Prop := List.Forall₂ fun x y => s.same x y = true

theorem sameLists_of_forall₂ {α : Type} {same : α → α → Bool} {xs ys : List α}
    (h : List.Forall₂ (fun x y => same x y = true) xs ys) : sameLists same xs ys = true :=
  sames_of_forall₂ rfl (fun _ _ _ _ => rfl) h

theorem sameParts_of_sameLists {xs ys : Parts} (h : Shape.record.SameLists xs ys) : sameParts xs ys = true :=
  sames_of_forall₂ rfl (fun _ _ _ _ => rfl) h

theorem sameListItems_of_sameLists {xs ys : List Item} (h : Shape.item.SameLists xs ys) : sameListItems xs ys = true :=
  sames_of_forall₂ rfl (fun _ _ _ _ => rfl) h

theorem sameRows_of_sameLists {xs ys : List Row} (h : Shape.row.SameLists xs ys) : sameRows xs ys = true :=
  sames_of_forall₂ rfl (fun _ _ _ _ => rfl) h

theorem sameCells_of_sameLists {xs ys : List Cell} (h : Shape.cell.SameLists xs ys) : sameCells xs ys = true :=
  sames_of_forall₂ rfl (fun _ _ _ _ => rfl) h

theorem sameProperties_of_sameLists {xs ys : List Property} (h : Shape.property.SameLists xs ys) :
    sameProperties xs ys = true :=
  sames_of_forall₂ rfl (fun _ _ _ _ => rfl) h

theorem sameHeadings_of_sameLists {xs ys : List Heading} (h : Shape.heading.SameLists xs ys) : sameHeadings xs ys = true :=
  sames_of_forall₂ rfl (fun _ _ _ _ => rfl) h

/-! ## Rules -/

theorem length_eq_of_sameCells {xs ys : List Cell} (h : sameCells xs ys = true) : xs.length = ys.length := by
  induction xs generalizing ys with
  | nil =>
    cases ys with
    | nil => rfl
    | cons y ys => nomatch h
  | cons x xs ih =>
    cases ys with
    | nil => nomatch h
    | cons y ys =>
      rw [sameCells, Bool.and_eq_true] at h
      rw [List.length_cons, List.length_cons, ih h.2]

/-- The check of the rows of a table ends in one way for rows that are the same. -/
theorem checkRows_eq_of_sameLists {rows rows' : List Row} (h : Shape.row.SameLists rows rows') :
    checkRows rows = checkRows rows' := by
  refine checkRows_congr ?_
  induction h with
  | nil => rfl
  | cons hr _ ih => rw [List.map_cons, List.map_cons, length_eq_of_sameCells hr, ih]

section Rules

variable {v w : Json}

theorem endsAlike_checkLevel (h : Role.kept.Rearranged v w) : EndsAlike (fun _ _ => True) (checkLevel v) (checkLevel w) := by
  obtain ⟨xs, ys, rfl, rfl, -⟩ | ⟨ms, ns, rfl, rfl, -⟩ | ⟨rfl, -⟩ := h.forms
  · exact EndsAlike.fail rfl
  · exact EndsAlike.fail rfl
  · exact EndsAlike.self fun _ _ => trivial

theorem endsAlike_checkBareLinkKind (h : Role.kept.Rearranged v w) :
    EndsAlike Eq (checkBareLinkKind v) (checkBareLinkKind w) := by
  have hlong := h.any_hasLong_eq
  obtain ⟨xs, ys, rfl, rfl, -⟩ | ⟨ms, ns, rfl, rfl, -⟩ | ⟨rfl, -⟩ := h.forms
  · exact EndsAlike.refuse rfl hlong
  · exact EndsAlike.refuse rfl hlong
  · exact EndsAlike.self fun _ _ => rfl

theorem endsAlike_checkCheckboxState (h : Role.kept.Rearranged v w) :
    EndsAlike Eq (checkCheckboxState v) (checkCheckboxState w) := by
  have hlong := h.any_hasLong_eq
  obtain ⟨xs, ys, rfl, rfl, -⟩ | ⟨ms, ns, rfl, rfl, -⟩ | ⟨rfl, -⟩ := h.forms
  · exact EndsAlike.refuse rfl hlong
  · exact EndsAlike.refuse rfl hlong
  · exact EndsAlike.self fun _ _ => rfl

end Rules

/-! ## Records in their places -/

/-- Two ways of loading the lists under the members of two objects that end alike for lists that are rearranged. -/
def AlikeLists (ms ns : Members) (lists lists' : ListsOf) : Prop :=
  ∀ t name, (Role.listOf (.shaped t)).RearrangedIfAny (ms.lookup name) (ns.lookup name) →
    EndsAlike t.SameLists (lists t name) (lists' t name)

section Assemble

variable {role : Role} {ms ns : Members} {lists lists' : ListsOf}

/-- The list under a field of values of a shape. -/
theorem AlikeLists.under (hl : AlikeLists ms ns lists lists') (h : role.Rearranged (.obj ms) (.obj ns)) {t : Shape} {name : String}
    (hr : role.member ms name = some (.listOf (.shaped t))) : EndsAlike t.SameLists (lists t name) (lists' t name) :=
  hl t name (h.member hr)

theorem endsAlike_assembleItem (hl : AlikeLists ms ns lists lists') (h : (Role.shaped .item).Rearranged (.obj ms) (.obj ns)) :
    EndsAlike (fun i j => Item.same i j = true) (assembleItem ms lists) (assembleItem ns lists') := by
  refine (hl.under h rfl).bind fun title title' ht => (hl.under h rfl).bind fun contents contents' hc => ?_
  refine (endsAlike_checkCheckboxState (h.field rfl (.ofScalar rfl rfl))).bind fun state state' hs => EndsAlike.pure ?_
  rw [Item.same, sameParts_of_sameLists ht, sameParts_of_sameLists hc, h.same_field rfl rfl, hs, h.same_field rfl rfl, beq_self_eq_true]
  rfl

theorem endsAlike_assembleCell (hl : AlikeLists ms ns lists lists') (h : (Role.shaped .cell).Rearranged (.obj ms) (.obj ns)) :
    EndsAlike (fun c d => Cell.same c d = true) (assembleCell ms lists) (assembleCell ns lists') := by
  refine (hl.under h rfl).bind fun content content' hc => EndsAlike.pure ?_
  rw [Cell.same, sameParts_of_sameLists hc, h.same_field rfl rfl]
  rfl

theorem endsAlike_assembleRow (hl : AlikeLists ms ns lists lists') (h : (Role.shaped .row).Rearranged (.obj ms) (.obj ns)) :
    EndsAlike (fun r s => sameCells r s = true) (assembleRow lists) (assembleRow lists') :=
  (hl.under h rfl).mono fun _ _ => sameCells_of_sameLists

theorem endsAlike_assembleProperty (hl : AlikeLists ms ns lists lists')
    (h : (Role.shaped .property).Rearranged (.obj ms) (.obj ns)) :
    EndsAlike (fun p q => Property.same p q = true) (assembleProperty ms lists) (assembleProperty ns lists') := by
  refine (h.required rfl).bind fun name name' hn => (hl.under h rfl).bind fun value value' hv => EndsAlike.pure ?_
  rw [Property.same, hn.same, sameParts_of_sameLists hv]
  rfl

theorem endsAlike_assembleHeading (hl : AlikeLists ms ns lists lists')
    (h : (Role.shaped .heading).Rearranged (.obj ms) (.obj ns)) :
    EndsAlike (fun a b => Heading.same a b = true) (assembleHeading false ms lists) (assembleHeading false ns lists') := by
  refine (h.required rfl).bind fun level level' hlevel => (h.required rfl).bind fun title title' ht => ?_
  refine (endsAlike_loadTitle ht).bind fun title title' ht => (endsAlike_elementsAt h rfl).bind fun planning planning' hp => ?_
  refine (hp.eachOf (fun _ _ => endsAlike_loadPlanningEntry) fun _ => rfl).bind fun planning planning' hp => ?_
  refine (hl.under h rfl).bind fun properties properties' hproperties => ?_
  refine (endsAlike_elementsAt h rfl).bind fun logbook logbook' hlog => ?_
  refine (hlog.eachOf (fun _ _ => endsAlike_loadLogEntry) fun _ => rfl).bind fun logbook logbook' hlog => ?_
  refine (hl.under h rfl).bind fun description description' hd => ?_
  refine (endsAlike_checkLevel hlevel).bind fun _ _ _ => EndsAlike.pure ?_
  rw [Heading.same, hlevel.same, ht, sameLists_of_forall₂ hp, sameProperties_of_sameLists hproperties,
    sameLists_of_forall₂ hlog, h.same_field rfl rfl, sameParts_of_sameLists hd]
  rfl

/-! ## Records of known kinds -/

theorem endsAlike_assembleDocument (hl : AlikeLists ms ns lists lists') (h : (Role.shaped .record).Rearranged (.obj ms) (.obj ns))
    (hk : ms.lookup "node_type" = some (.str "Document")) :
    EndsAlike (fun d e => Document.same d e = true) (assembleDocument ms lists) (assembleDocument ns lists') := by
  refine (hl.under h (Role.member_record hk (by decide) rfl)).bind fun headings headings' hh => ?_
  refine (endsAlike_elementsAt h (Role.member_record hk (by decide) rfl)).bind fun keywordSets keywordSets' hs => ?_
  refine (hs.eachOf (fun _ _ => endsAlike_loadKeywordSet) fun _ => rfl).bind fun keywordSets keywordSets' hs => ?_
  refine (endsAlike_elementsAt_kept h (Role.member_record hk (by decide) rfl)).bind fun configLines configLines' hc => ?_
  refine (endsAlike_elementsAt_kept h (Role.member_record hk (by decide) rfl)).bind fun firstLines firstLines' hf => ?_
  refine EndsAlike.pure ?_
  rw [Document.same, sameHeadings_of_sameLists hh, sameLists_of_forall₂ hs, hc, hf]
  rfl

theorem endsAlike_assembleTable (hl : AlikeLists ms ns lists lists') (h : (Role.shaped .record).Rearranged (.obj ms) (.obj ns))
    (hk : ms.lookup "node_type" = some (.str "Table")) :
    EndsAlike (fun r s => Record.same r s = true) (assembleTable lists) (assembleTable lists') := by
  refine (hl.under h (Role.member_record hk (by decide) rfl)).bind fun rows rows' hrows => ?_
  rw [checkRows_eq_of_sameLists hrows]
  exact (EndsAlike.self fun _ _ => trivial).bind fun _ _ (_ : True) => EndsAlike.pure (sameRows_of_sameLists hrows)

theorem endsAlike_assembleList (hl : AlikeLists ms ns lists lists') (h : (Role.shaped .record).Rearranged (.obj ms) (.obj ns))
    (hk : ms.lookup "node_type" = some (.str "List")) :
    EndsAlike (fun r s => Record.same r s = true) (assembleList ms lists) (assembleList ns lists') := by
  have hkept : ∀ key d, key ≠ "node_type" → ((Role.kindFields.lookup "List").bind (·.lookup key)) = some Role.kept →
      d.isScalar = true → (field ms key d).same (field ns key d) = true :=
    fun key d hkey hr hd => h.same_field (Role.member_record hk hkey hr) hd
  refine (hl.under h (Role.member_record hk (by decide) rfl)).bind fun items items' hitems => EndsAlike.pure ?_
  rw [Record.same, sameListItems_of_sameLists hitems, hkept _ _ (by decide) rfl rfl, hkept _ _ (by decide) rfl rfl,
    hkept _ _ (by decide) rfl rfl]
  rfl

theorem endsAlike_assembleStamp (h : (Role.shaped .record).Rearranged (.obj ms) (.obj ns))
    (hk : ms.lookup "node_type" = some (.str "InlineTimestamp")) :
    EndsAlike (fun r s => Record.same r s = true) (assembleStamp false ms) (assembleStamp false ns) := by
  refine (h.required (Role.member_record hk (by decide) rfl)).bind fun first first' hfirst => ?_
  refine (endsAlike_loadTimestamp hfirst).bind fun first first' hfirst => ?_
  refine (endsAlike_loadOptionalTimestamp (h.field (Role.member_record hk (by decide) rfl) (.ofScalar rfl rfl))).bind
    fun second second' hsecond => EndsAlike.pure ?_
  rw [Record.same, hfirst, hsecond]
  rfl

theorem endsAlike_assembleBareLink (h : (Role.shaped .record).Rearranged (.obj ms) (.obj ns))
    (hk : ms.lookup "node_type" = some (.str "BareLink")) :
    EndsAlike (fun r s => Record.same r s = true) (assembleBareLink ms) (assembleBareLink ns) := by
  refine (h.required (Role.member_record hk (by decide) rfl)).bind fun kind kind' hkind => ?_
  refine (h.required (Role.member_record hk (by decide) rfl)).bind fun content content' hcontent => ?_
  refine (endsAlike_checkBareLinkKind hkind).bind fun kind kind' hkind => EndsAlike.pure ?_
  rw [Record.same, hkind, hcontent.same, beq_self_eq_true]
  rfl

/-- A record of a kind that is not known is kept with all its members but the one that names its kind. -/
theorem endsAlike_keepUnknown {kind : Json} (hkind : kind.isScalar = true) (h : Role.kept.Rearranged (.obj ms) (.obj ns)) :
    EndsAlike (fun r s => Record.same r s = true) (keepUnknown false kind ms) (keepUnknown false kind ns) := by
  obtain ⟨hlength, hmembers⟩ := h.same_filter "node_type"
  have hsame : Record.same (.unrecognized kind (ms.filter fun m => m.1 != "node_type"))
      (.unrecognized kind (ns.filter fun m => m.1 != "node_type")) = true := by
    rw [Record.same, Json.same_self_of_isScalar hkind, hlength, hmembers, beq_self_eq_true]
    rfl
  exact (EndsAlike.self (S := fun _ _ => True) fun _ _ => trivial).bind fun _ _ _ => EndsAlike.pure hsame

/-- A record whose kind is named by a string is loaded alike if the lists in it are. -/
theorem endsAlike_assembleKnown {name : String} (hl : AlikeLists ms ns lists lists')
    (h : (Role.shaped .record).Rearranged (.obj ms) (.obj ns)) (hk : ms.lookup "node_type" = some (.str name)) :
    EndsAlike (fun r s => Record.same r s = true)
      ((assembleKnown? false name ms lists).getD (keepUnknown false (.str name) ms))
      ((assembleKnown? false name ns lists').getD (keepUnknown false (.str name) ns)) := by
  -- Both sides go by the same name, so one split decides for both; the cases stand in the order of the definition.
  unfold assembleKnown?
  split
  case h_1 => exact (endsAlike_loadTimestamp (h.ofRecord hk rfl rfl rfl rfl)).map fun _ _ ht => ht
  case h_2 => exact (h.required (Role.member_record hk (by decide) rfl)).map fun _ _ hc => hc.same
  case h_3 =>
    refine (h.required (Role.member_record hk (by decide) rfl)).map fun uri uri' hu => ?_
    rw [Record.same, hu.same, h.same_field (Role.member_record hk (by decide) rfl) rfl]
    rfl
  case h_4 =>
    refine EndsAlike.pure ?_
    rw [Record.same, h.same_field (Role.member_record hk (by decide) rfl) rfl,
      h.same_field (Role.member_record hk (by decide) rfl) rfl]
    rfl
  case h_5 => exact EndsAlike.pure (h.same_field (Role.member_record hk (by decide) rfl) rfl)
  case h_6 => exact endsAlike_assembleStamp h hk
  case h_7 => exact endsAlike_assembleBareLink h hk
  case h_8 => exact endsAlike_assembleList hl h hk
  case h_9 => exact (endsAlike_assembleItem hl (h.ofRecord hk rfl rfl rfl rfl)).map fun _ _ hi => hi
  case h_10 => exact endsAlike_assembleTable hl h hk
  case h_11 => exact (endsAlike_assembleRow hl (h.ofRecord hk rfl rfl rfl rfl)).map fun _ _ hr => hr
  case h_12 => exact (endsAlike_assembleCell hl (h.ofRecord hk rfl rfl rfl rfl)).map fun _ _ hc => hc
  case h_13 => exact (endsAlike_loadTitle (h.ofRecord hk rfl rfl rfl rfl)).map fun _ _ ht => ht
  case h_14 => exact (endsAlike_loadPlanningEntry (h.ofRecord hk rfl rfl rfl rfl)).map fun _ _ hp => hp
  case h_15 => exact (endsAlike_assembleProperty hl (h.ofRecord hk rfl rfl rfl rfl)).map fun _ _ hp => hp
  case h_16 => exact EndsAlike.pure (same_loadLogLine h (Role.fields?_record hk))
  case h_17 => exact (endsAlike_loadClock h (Role.fields?_record hk)).map fun _ _ he => he
  case h_18 => exact (endsAlike_assembleHeading hl (h.ofRecord hk rfl rfl rfl rfl)).map fun _ _ hh => hh
  case h_19 => exact (endsAlike_loadKeywordSet (h.ofRecord hk rfl rfl rfl rfl)).map fun _ _ hs => hs
  case h_20 => exact (endsAlike_assembleDocument hl h hk).map fun _ _ hd => hd
  case h_21 => exact endsAlike_keepUnknown rfl (h.toKept (Role.fields?_unknown hk (by simp_all [Record.kindNames])))

/-- A record is loaded alike if the lists in it are. -/
theorem endsAlike_assembleRecord (hl : AlikeLists ms ns lists lists')
    (h : (Role.shaped .record).Rearranged (.obj ms) (.obj ns)) :
    EndsAlike (fun r s => Record.same r s = true) (assembleRecord false ms lists) (assembleRecord false ns lists') := by
  unfold assembleRecord
  rcases h.member Role.member_nodeType with ⟨hms, hns⟩ | ⟨kind, kind', hms, hns, hkind⟩
  · rw [hms, hns]
    exact EndsAlike.fail rfl
  · have hset : kind.isSet = kind'.isSet := hkind.isSet_eq
    simp only [hms, hns, ← hset]
    split
    · exact EndsAlike.fail rfl
    · obtain ⟨xs, ys, rfl, rfl, -⟩ | ⟨ms', ns', rfl, rfl, -⟩ | ⟨rfl, hscalar, -⟩ := hkind.forms
      · exact EndsAlike.fail rfl
      · exact EndsAlike.fail rfl
      · cases kind' with
        | arr items => exact absurd hscalar Bool.false_ne_true
        | obj members => exact absurd hscalar Bool.false_ne_true
        | str name => exact endsAlike_assembleKnown hl h hms
        | _ => exact endsAlike_keepUnknown rfl (h.toKept (Role.fields?_unnamed hms rfl))

/-- What a shape asks for is loaded alike if the lists in it are. -/
theorem endsAlike_assemble (s : Shape) (hl : AlikeLists ms ns lists lists')
    (h : (Role.shaped s).Rearranged (.obj ms) (.obj ns)) :
    EndsAlike (fun x y => s.same x y = true) (assemble false s ms lists) (assemble false s ns lists') := by
  cases s with
  | record => exact endsAlike_assembleRecord hl h
  | item => exact endsAlike_assembleItem hl h
  | row => exact endsAlike_assembleRow hl h
  | cell => exact endsAlike_assembleCell hl h
  | property => exact endsAlike_assembleProperty hl h
  | heading => exact endsAlike_assembleHeading hl h

end Assemble

/-! ## Statements -/

theorem endsAlike_loadAll {s : Shape} {xs ys : List Json} (h : List.Forall₂ (Role.shaped s).Rearranged xs ys)
    (hx : ∀ x ∈ xs, ∀ y, (Role.shaped s).Rearranged x y →
      EndsAlike (fun a b => s.same a b = true) (load false s x) (load false s y)) :
    EndsAlike s.SameLists (loadAll false s xs) (loadAll false s ys) := by
  induction h with
  | nil => exact EndsAlike.pure .nil
  | cons hxy _ ih =>
    obtain ⟨hx, hxs⟩ := List.forall_mem_cons.1 hx
    rw [loadAll, loadAll]
    exact (hx _ hxy).bind fun a b hab => (ih hxs).bind fun as bs habs => EndsAlike.pure (.cons hab habs)

theorem endsAlike_load_scalar {s : Shape} {v : Json} (hv : v.isScalar = true) :
    EndsAlike (fun a b => s.same a b = true) (load false s v) (load false s v) := by
  cases v with
  | obj members => nomatch hv
  | _ => exact EndsAlike.fail rfl

/-- Of the values that are no arrays and no objects the empty string alone is loaded as a list, which is empty. -/
theorem endsAlike_loadEach_scalar {s : Shape} {v : Json} (hv : v.isScalar = true) :
    EndsAlike s.SameLists (loadEach false s v) (loadEach false s v) := by
  cases v with
  | arr items => nomatch hv
  | obj members => nomatch hv
  | str t =>
    rw [loadEach]
    split
    · exact EndsAlike.pure .nil
    · exact EndsAlike.fail rfl
  | _ => exact EndsAlike.fail rfl

/-- An object is gone through as a list only if it is empty. -/
theorem endsAlike_loadEach_obj {s : Shape} {ms ns : Members} (h : ms.isEmpty = ns.isEmpty) :
    EndsAlike s.SameLists (loadEach false s (.obj ms)) (loadEach false s (.obj ns)) := by
  cases ms with
  | nil =>
    obtain rfl : ns = [] := List.isEmpty_iff.1 h.symm
    exact EndsAlike.pure .nil
  | cons m ms =>
    cases ns with
    | nil => nomatch h
    | cons n ns => exact EndsAlike.fail rfl

/-- The lists under the members of two objects are loaded alike if the values under the members are. -/
theorem alikeLists_loadAt {ms ns : Members} (h : ∀ m ∈ ms, ∀ s w, (Role.listOf (.shaped s)).Rearranged m.2 w →
    EndsAlike s.SameLists (loadEach false s m.2) (loadEach false s w)) :
    AlikeLists ms ns (fun t name => loadAt false t name ms) (fun t name => loadAt false t name ns) := by
  intro t name hlists
  dsimp only
  rw [loadAt_eq, loadAt_eq]
  rcases hlists with ⟨hv, hw⟩ | ⟨v, w, hv, hw, hvw⟩
  · rw [hv, hw]
    exact EndsAlike.pure .nil
  · rw [hv, hw]
    exact h (name, v) (Json.mem_of_lookup hv) t w hvw

/-- Any value and the same value rearranged are loaded alike, alone or as a list. -/
theorem endsAlike_load_loadEach (v : Json) :
    (∀ s w, (Role.shaped s).Rearranged v w → EndsAlike (fun a b => s.same a b = true) (load false s v) (load false s w)) ∧
      ∀ s w, (Role.listOf (.shaped s)).Rearranged v w → EndsAlike s.SameLists (loadEach false s v) (loadEach false s w) := by
  -- An object asks for lists of the values inside, so both ways of loading go through the induction together.
  induction v using Json.nestedInduction with
  | arr xs ih =>
    constructor
    · intro s w h
      obtain ⟨ys, rfl, -⟩ := h.exists_of_arr
      exact EndsAlike.fail rfl
    · intro s w h
      obtain ⟨ys, rfl, hitems⟩ := h.exists_of_arr
      rw [loadEach, loadEach]
      exact endsAlike_loadAll hitems fun x hx => (ih x hx).1 s
  | obj ms ih =>
    constructor
    · intro s w h
      obtain ⟨ns, rfl⟩ := h.exists_of_obj
      rw [load, load]
      exact endsAlike_assemble s (alikeLists_loadAt fun m hm => (ih m hm).2) h
    · intro s w h
      obtain ⟨ns, rfl⟩ := h.exists_of_obj
      exact endsAlike_loadEach_obj (h.isEmpty_eq rfl)
  | _ =>
    constructor
    · intro s w h
      obtain rfl := h.eq_of_isScalar rfl
      exact endsAlike_load_scalar rfl
    · intro s w h
      obtain rfl := h.eq_of_isScalar rfl
      exact endsAlike_loadEach_scalar rfl

namespace Record

/-- Neither the order of keys nor keys that are no fields count in lenient loading: from a value and the same value rearranged it
either fails for the same cause or gives records that are the same. -/
theorem load_rearranged (v w : Json) (wellFormed : v.WellFormed) (wellFormed' : w.WellFormed)
    (rearranged : (Role.shaped .record).rearranged v w = true) :
    RelatedOutcomes (fun r r' => r.same r' = true) ((load false v).outcome.mapError Fault.cause)
      ((load false w).outcome.mapError Fault.cause) :=
  (endsAlike_load_loadEach v).1 .record w ⟨wellFormed, wellFormed', rearranged⟩

/-- A list with an item whose line holds a timestamp and a part of a kind that is not known. -/
def datedList : Json :=
  .obj [("node_type", .str "List"), ("items", .arr [.obj [("title_line", .arr [
    .obj [("node_type", .str "InlineTimestamp"),
      ("first_timestamp", .obj [("year", .str "2019"), ("month", .str "08"), ("day", .str "02")])],
    .obj [("node_type", .str "Macro"), ("arguments", .obj [("from", .int 1), ("to", .int 2)])]]),
    ("checkbox_state", .str "checked")]])]

/-- The same list with its keys in another order and with more of them in the list, the item, the timestamp and the record that
holds it. -/
def datedList' : Json :=
  .obj [("indent", .int 0), ("items", .arr [.obj [("checkbox_state", .str "checked"), ("title_line", .arr [
    .obj [("raw", .str "<2019-08-02>"),
      ("first_timestamp", .obj [("day", .str "02"), ("zone", .str "Z"), ("month", .str "08"), ("year", .str "2019")]),
      ("node_type", .str "InlineTimestamp")],
    .obj [("arguments", .obj [("to", .int 2), ("from", .int 1)]), ("node_type", .str "Macro")]]), ("line", .int 3)]]),
    ("node_type", .str "List")]

theorem load_rearranged_datedList :
    datedList.WellFormed ∧ datedList'.WellFormed ∧ (Role.shaped .record).rearranged datedList datedList' = true ∧
      ∃ r r', (load false datedList).outcome = .ok r ∧ (load false datedList').outcome = .ok r' ∧ r.same r' = true := by
  have wellFormed : datedList.WellFormed := by
    simp [datedList, Json.WellFormed, Json.wellFormedItems, Json.wellFormedMembers]
  have wellFormed' : datedList'.WellFormed := by
    simp [datedList', Json.WellFormed, Json.wellFormedItems, Json.wellFormedMembers]
  have rearranged : (Role.shaped .record).rearranged datedList datedList' = true := by decide
  have same := load_rearranged datedList datedList' wellFormed wellFormed' rearranged
  exact ⟨wellFormed, wellFormed', rearranged, _, _, rfl, rfl, same⟩

end Record
end OrgOutline
