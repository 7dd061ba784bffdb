import OrgOutline.Proofs.Preamble
import OrgOutline.Proofs.Visits

/-!
# Writing visits the places

Writing something well-typed visits its places and does nothing else that could fail or be reported, as long as the functions of
the setup do not fail (`Collaborators.NeverFails`); that for durations may, because each duration is a place. Main statements:
this is so for running text, for headings and for documents (`visits_writeParts`, `Heading.visits_write`,
`Document.visits_write`).
-/

namespace OrgOutline

variable {s : Setup}

/-! ## Setups that do not fail -/

/-- Collaborators of which only the function for durations can fail on what is well-typed. -/
structure Collaborators.NeverFails (c : Collaborators) : Prop where
  stamps : ∀ t : Timestamp, t.isTyped = true → ∃ text, c.timestampText t = .ok text
  entries : ∀ i : PlanningEntry, i.kind.isString = true → ∃ keep, c.keepsEntry i = .ok keep

/-- The default collaborators do not fail, whoever collects. -/
theorem Collaborators.neverFails_default (k : Collector) : ({ collector := k } : Collaborators).NeverFails where
  stamps t ht := ⟨t.text, Timestamp.toText_of_isTyped ht⟩
  entries i hi := by
    obtain ⟨kind, hkind⟩ := Json.exists_of_isString hi
    have hkeep : ({ collector := k } : Collaborators).keepsEntry i = isPlanningKind i.kind := rfl
    rw [hkeep, hkind]
    exact ⟨_, rfl⟩

/-! ## Pieces -/

/-- A piece that is a text. -/
def Piece.IsText (p : Piece) : Prop := ∃ t : Text, p = some t

/-- Pieces that are all texts. -/
def AreTexts (ps : List Piece) : Prop := ∃ ts : List Text, ps = ts.map some

theorem Piece.isText_some (t : Text) : Piece.IsText (some t) := ⟨t, rfl⟩

theorem Piece.isText_ofField {v : Json} (h : v.isString = true) : (Piece.ofField v).IsText := by
  obtain ⟨t, rfl⟩ := Json.exists_of_isString h
  exact isText_some _

theorem visits_place {p : Piece} (h : p.IsText) (view : View) (behindBlock : Bool) :
    Visits s Piece.IsText [] (.ofExcept (view.place behindBlock p)) := by
  obtain ⟨t, rfl⟩ := h
  unfold View.place
  split
  · exact Visits.ofExcept rfl (Piece.isText_some _)
  · exact Visits.ofExcept rfl (Piece.isText_some t)

theorem visits_join {ps : List Piece} (h : AreTexts ps) : Visits s (fun _ => True) [] (.ofExcept (Piece.join ps)) := by
  obtain ⟨ts, rfl⟩ := h
  exact Visits.ofExcept (Piece.join_map_some ts) trivial

/-! ## Numbers -/

theorem Json.checkShown_int (n : Int) : checkShown [.int n] = if isLong n then .error .tooManyDigitsShown else .ok () := by
  simp [checkShown]

/-- A number that is put in a text. -/
theorem visits_checkShown (n : Int) : Visits s (fun _ => True) [.number n] (.ofExcept (Json.checkShown [.int n])) := by
  have hfault : Place.fault? s (.number n) = faultOf (Json.checkShown [.int n]) := by
    rw [Json.checkShown_int, Place.fault?]
    by_cases h : isLong n = true
    · rw [if_pos h, if_pos h, faultOf]
    · rw [if_neg h, if_neg h, faultOf]
  exact (Visits.checked rfl hfault).mono fun _ _ => trivial

theorem visits_cookieNumber {v : Json} (h : v.isCookieNumber = true) :
    Visits s (fun _ => True) (numberPlaces v) (.ofExcept (cookieNumber v)) := by
  cases v with
  | null => exact Visits.ofExcept rfl trivial
  | int n => exact (visits_checkShown n).map _
  | str t => exact Visits.ofExcept rfl trivial
  | _ => nomatch h

theorem visits_fractionText {done all : Json} (hd : done.isCookieNumber = true) (ha : all.isCookieNumber = true) :
    Visits s (fun _ => True) (numberPlaces done ++ numberPlaces all) (.ofExcept (fractionText done all)) := by
  unfold fractionText
  rw [Run.ofExcept_bind]
  refine (visits_cookieNumber hd).bind fun _ _ => ?_
  exact (visits_cookieNumber ha).map _

theorem visits_percentageText {v : Json} (h : v.isCookieNumber = true) :
    Visits s (fun _ => True) (numberPlaces v) (.ofExcept (percentageText v)) := by
  unfold percentageText
  exact (visits_cookieNumber h).map _

/-! ## Running text -/

theorem isString_seenOfLink {target title : Json} (htarget : target.isString = true)
    (htitle : title.isOptionalString = true) : (seenOfLink target title).isString = true := by
  unfold seenOfLink
  split
  · cases title <;> simp_all [Json.isSet, Json.isOptionalString, Json.isNull, Json.isString]
  · exact htarget

/-- A record is written by visiting its places. -/
def Record.IsVisited (s : Setup) (r : Record) : Prop := ∀ view, Visits s Piece.IsText (r.places view) (r.write s view)

theorem visits_writePieces {rs : Parts} (h : ∀ r ∈ rs, r.IsVisited s) (view : View) (behindBlock : Bool) :
    Visits s AreTexts (placesInParts view rs) (writePieces s view behindBlock rs) := by
  induction rs generalizing behindBlock with
  | nil => exact Visits.pure ⟨[], rfl⟩
  | cons r rs ih =>
    obtain ⟨hr, hrs⟩ := List.forall_mem_cons.1 h
    rw [writePieces, placesInParts]
    refine (hr view).bind fun p hp => (visits_place hp view behindBlock).nil_bind fun p hp => ?_
    refine (ih hrs r.isBlock).bind_nil fun ps hps => Visits.pure ?_
    obtain ⟨t, rfl⟩ := hp
    obtain ⟨ts, rfl⟩ := hps
    exact ⟨t :: ts, rfl⟩

theorem nextNumber_eq {counter : Json} (h : (counter.isNull || counter.isInteger) = true) (before : Int) :
    nextNumber (.int before) counter = .ok (.int (numberAfter before counter)) := by
  cases counter with
  | null => rfl
  | int n => rfl
  | _ => nomatch h

/-- A list whose bullet and whose terminator are strings. -/
structure ItemStyle.IsTyped (style : ItemStyle) : Prop where
  bullet : style.bullet.isString = true
  terminator : style.terminator.isString = true

theorem ItemStyle.isTyped_of_fieldsTyped {items : List Item} {bullet ordered terminator : Json}
    (h : (Record.list items bullet ordered terminator).fieldsTyped = true) : IsTyped ⟨bullet, ordered, terminator⟩ := by
  obtain ⟨hmarks, hterminator⟩ := Bool.and_eq_true_iff.1 h
  exact ⟨(Bool.and_eq_true_iff.1 hmarks).1, hterminator⟩

/-- Of what stands in the mark of an item only its number can be too long: the counter is the number if there is one. -/
theorem ItemStyle.markText_eq {style : ItemStyle} (hs : style.IsTyped) {counter : Json}
    (h : (counter.isNull || counter.isInteger) = true) (before : Int) :
    style.markText (.int (numberAfter before counter)) counter = if style.ordered.isSet then
        (Json.checkShown [.int (numberAfter before counter)]).map fun _ =>
          decimalInt (numberAfter before counter) ++ style.terminator.shown ++ counterText counter
      else .ok (style.margin ++ style.bullet.shown) := by
  have hcheck : Json.checkShown [.int (numberAfter before counter), style.terminator, counter] =
      Json.checkShown [.int (numberAfter before counter)] := by
    have hlong := Json.hasLong_of_isString hs.terminator
    cases counter with
    | null => simp [Json.checkShown, hlong, show Json.null.hasLong = false from rfl]
    | int n => simp [Json.checkShown, hlong, numberAfter, Json.asInt?]
    | _ => exact Bool.noConfusion h
  have hbullet : Json.checkShown [style.bullet] = .ok () :=
    Json.checkShown_eq_ok_iff.2 (by simp [Json.hasLong_of_isString hs.bullet])
  rw [markText, hcheck, hbullet]
  rfl

theorem visits_markText {style : ItemStyle} (hs : style.IsTyped) {counter : Json}
    (h : (counter.isNull || counter.isInteger) = true) (before : Int) :
    Visits s (fun _ => True) (if style.ordered.isSet then [.number (numberAfter before counter)] else [])
      (.ofExcept (style.markText (.int (numberAfter before counter)) counter)) := by
  rw [ItemStyle.markText_eq hs h]
  split
  · exact (visits_checkShown _).map _
  · exact Visits.ofExcept rfl trivial

theorem visits_writeItems {items : List Item} (h : ∀ i ∈ items, ∀ r ∈ i.title ++ i.contents, r.IsVisited s)
    (typed : ∀ i ∈ items, (i.counter.isNull || i.counter.isInteger) = true) (view : View) {style : ItemStyle}
    (hs : style.IsTyped) (before : Int) : Visits s (fun _ => True) (placesInItems view style.ordered.isSet before items)
      (writeItems s view style (.int before) items) := by
  induction items generalizing before with
  | nil => exact Visits.pure trivial
  | cons i items ih =>
    obtain ⟨title, contents, checkbox, state, counter⟩ := i
    obtain ⟨hi, hitems⟩ := List.forall_mem_cons.1 h
    obtain ⟨ht, hc⟩ := List.forall_mem_append.1 hi
    obtain ⟨hcounter, typed⟩ := List.forall_mem_cons.1 typed
    rw [writeItems, placesInItems, nextNumber_eq hcounter]
    refine (Visits.ofExcept (P := fun n => n = .int (numberAfter before counter)) rfl rfl).nil_bind fun n hn => ?_
    subst hn
    refine (visits_markText hs hcounter before).bind fun mark _ => ?_
    refine (visits_writePieces ht view false).bind fun ps hps => (visits_join hps).nil_bind fun titleText _ => ?_
    refine (visits_writePieces hc view false).bind fun ps hps => (visits_join hps).nil_bind fun contentsText _ => ?_
    exact (ih hitems typed _).bind_nil fun texts _ => Visits.pure trivial

theorem visits_measureCells {cells : Row} (h : ∀ c ∈ cells, ∀ r ∈ c.content, r.IsVisited s) :
    Visits s (fun _ => True) (placesInCells cells) (measureCells s cells) := by
  induction cells with
  | nil => exact Visits.pure trivial
  | cons c cells ih =>
    obtain ⟨content, raw⟩ := c
    obtain ⟨hc, hcells⟩ := List.forall_mem_cons.1 h
    rw [measureCells, placesInCells]
    refine (visits_writePieces hc .seen false).bind fun ps hps => (visits_join hps).nil_bind fun seen _ => ?_
    exact (ih hcells).bind_nil fun rest _ => Visits.pure trivial

theorem visits_measureRows {rows : List Row} (h : ∀ row ∈ rows, ∀ c ∈ row, ∀ r ∈ c.content, r.IsVisited s) :
    Visits s (fun _ => True) (placesInRows rows) (measureRows s rows) := by
  induction rows with
  | nil => exact Visits.pure trivial
  | cons row rows ih =>
    obtain ⟨hrow, hrows⟩ := List.forall_mem_cons.1 h
    rw [measureRows, placesInRows]
    exact (visits_measureCells hrow).bind fun entries _ => (ih hrows).bind_nil fun rest _ => Visits.pure trivial

/-- A check that strings pass is passed by a table whose raw cells are strings. -/
theorem checkCells_eq_ok {check : Cell → Except Fault Unit} (hcheck : ∀ c : Cell, c.raw.isString = true → check c = .ok ())
    {rows : List Row} (h : ∀ row ∈ rows, ∀ c ∈ row, c.raw.isString = true) : checkCells check rows = .ok () := by
  have hcells : ∀ c ∈ rows.flatten, c.raw.isString = true := by
    intro c hc
    obtain ⟨row, hrow, hc⟩ := List.mem_flatten.1 hc
    exact h row hrow c hc
  unfold checkCells
  generalize rows.flatten = cells at hcells ⊢
  induction cells with
  | nil => rfl
  | cons c cs ih =>
    obtain ⟨hc, hcs⟩ := List.forall_mem_cons.1 hcells
    show (check c >>= fun _ => cs.forM check) = .ok ()
    rw [hcheck c hc]
    exact ih hcs

theorem checkCountable_eq_ok {rows : List Row} (h : ∀ row ∈ rows, ∀ c ∈ row, c.raw.isString = true) :
    checkCells Cell.checkCountable rows = .ok () := by
  refine checkCells_eq_ok ?_ h
  intro c hc
  obtain ⟨t, ht⟩ := Json.exists_of_isString hc
  rw [Cell.checkCountable, ht]

theorem checkText_eq_ok {rows : List Row} (h : ∀ row ∈ rows, ∀ c ∈ row, c.raw.isString = true) :
    checkCells Cell.checkText rows = .ok () := by
  refine checkCells_eq_ok ?_ h
  intro c hc
  obtain ⟨t, ht⟩ := Json.exists_of_isString hc
  rw [Cell.checkText, ht]

theorem visits_finishTable {rows : List Row} (h : ∀ row ∈ rows, ∀ c ∈ row, c.raw.isString = true)
    (entries : List (List Entry)) : Visits s (fun _ => True) [] (finishTable rows entries) := by
  refine (Visits.note rfl).nil_bind fun _ _ => ?_
  exact (Visits.ofExcept (checkText_eq_ok h) trivial).nil_bind fun (_ : Unit) (_ : True) => Visits.pure trivial

theorem visits_stampText (hs : s.NeverFails) {first : Timestamp} {second : Option Timestamp}
    (typed : ∀ t ∈ first :: second.toList, t.isTyped = true) :
    Visits s (fun _ => True) [] (.ofExcept (stampText s first second)) := by
  obtain ⟨hfirst, hsecond⟩ := List.forall_mem_cons.1 typed
  obtain ⟨t, ht⟩ := hs.stamps first hfirst
  cases second with
  | none => exact Visits.ofExcept ht trivial
  | some second =>
    obtain ⟨t', ht'⟩ := hs.stamps second (hsecond second List.mem_cons_self)
    refine Visits.ofExcept (a := t ++ rangeMark ++ t') ?_ trivial
    rw [stampText, ht, ht']
    rfl

/-- A single report. -/
theorem visits_report (view : View) {kind : Json} (h : kind.hasLong = false) :
    Visits s Piece.IsText [.part kind view] (do
      s.report view.component kind
      pure (some [])) := by
  rw [Setup.report_eq_visit view h]
  exact (Visits.visit _).bind_nil fun _ _ => Visits.pure (Piece.isText_some [])

/-- What is known of all that is inside the children of a record. -/
def Record.VisitedBelow (s : Setup) (r : Record) : Prop :=
  ∀ c ∈ r.children, ∀ x ∈ c.within, x.fieldsTyped = true ∧ x.IsVisited s

theorem Record.isVisited_list {items : List Item} {bullet ordered terminator : Json}
    (typed : (list items bullet ordered terminator).fieldsTyped = true)
    (h : (list items bullet ordered terminator).VisitedBelow s) : (list items bullet ordered terminator).IsVisited s := by
  intro view
  have hparts : ∀ i ∈ items, ∀ r ∈ i.title ++ i.contents, r.IsVisited s := fun i hi r hr =>
    (h (.listItem i) (List.mem_map_of_mem hi) r (mem_within_of_mem_children hr r.mem_within_self)).2
  have hcounters : ∀ i ∈ items, (i.counter.isNull || i.counter.isInteger) = true := by
    intro i hi
    have hitem := (h (.listItem i) (List.mem_map_of_mem hi) _ (mem_within_self _)).1
    exact (Bool.and_eq_true_iff.1 hitem).2
  rw [write, places]
  refine (visits_writeItems hparts hcounters view (ItemStyle.isTyped_of_fieldsTyped typed) 0).bind_nil fun texts _ => ?_
  exact Visits.pure (Piece.isText_some _)

theorem Record.isVisited_table {rows : List Row} (h : (table rows).VisitedBelow s) : (table rows).IsVisited s := by
  intro view
  cases view with
  | seen => exact Visits.pure (Piece.isText_some [])
  | raw =>
    have hcell : ∀ row ∈ rows, ∀ c ∈ row, ∀ x ∈ (cell c).within, x.fieldsTyped = true ∧ x.IsVisited s :=
      fun row hrow c hc x hx => h (.row row) (List.mem_map_of_mem hrow) x
        (mem_within_of_mem_children (List.mem_map_of_mem hc) hx)
    have hcontent : ∀ row ∈ rows, ∀ c ∈ row, ∀ r ∈ c.content, r.IsVisited s := fun row hrow c hc r hr =>
      (hcell row hrow c hc r (mem_within_of_mem_children hr r.mem_within_self)).2
    have hraw : ∀ row ∈ rows, ∀ c ∈ row, c.raw.isString = true := fun row hrow c hc =>
      (hcell row hrow c hc _ (mem_within_self _)).1
    rw [write, places]
    split
    · rename_i hempty
      obtain rfl := List.isEmpty_iff.1 hempty
      exact Visits.pure (Piece.isText_some [])
    · refine (Visits.ofExcept (checkCountable_eq_ok hraw) trivial).nil_bind fun (_ : Unit) (_ : True) => ?_
      refine (visits_measureRows hcontent).bind_nil fun entries _ => ?_
      exact (visits_finishTable hraw entries).nil_bind fun text _ => Visits.pure (Piece.isText_some text)

/-- A well-typed record is written by visiting its places. -/
theorem Record.isVisited_of_wellTyped (hs : s.NeverFails) (r : Record) (typed : r.WellTyped) : r.IsVisited s := by
  induction r using Record.withinInduction with
  | step r ih =>
    intro view
    have hfields : r.fieldsTyped = true := typed.fieldsTyped
    -- The parts in the cells of a table are not its children, so what is known must be known of all that is inside.
    have hbelow : r.VisitedBelow s := by
      intro c hc x hx
      have hxr : x ∈ r.within := mem_within_of_mem_children hc hx
      exact ⟨typed x hxr, ih c hc x hx (typed.of_mem_within hxr)⟩
    cases r with
    | text content => exact Visits.pure (Piece.isText_ofField hfields)
    | bareLink kind content => exact Visits.pure (Piece.isText_ofField hfields)
    | link target title =>
      obtain ⟨htarget, htitle⟩ := Bool.and_eq_true_iff.1 hfields
      cases view with
      | raw =>
        have hshown : [target, title].any Json.hasLong = false := by
          simp [Json.hasLong_of_isString htarget, Json.hasLong_of_isOptionalString htitle]
        rw [write, View.link, Json.checkShown_eq_ok_iff.2 hshown]
        exact Visits.ofExcept rfl (Piece.isText_some _)
      | seen => exact Visits.ofExcept rfl (Piece.isText_ofField (isString_seenOfLink htarget htitle))
    | fraction done all =>
      obtain ⟨hdone, hall⟩ := Bool.and_eq_true_iff.1 hfields
      rw [write, places]
      exact (visits_fractionText hdone hall).bind_nil fun t _ => Visits.pure (Piece.isText_some t)
    | percentage v =>
      rw [write, places]
      exact (visits_percentageText hfields).bind_nil fun t _ => Visits.pure (Piece.isText_some t)
    | stamp first second =>
      have hstamps : ∀ t ∈ first :: second.toList, t.isTyped = true := fun t ht =>
        (hbelow (.timestamp t) (List.mem_map_of_mem ht) _ (mem_within_self _)).1
      rw [write]
      exact (visits_stampText hs hstamps).nil_bind fun t _ => Visits.pure (Piece.isText_some t)
    | list items bullet ordered terminator => exact isVisited_list hfields hbelow view
    | table rows => exact isVisited_table hbelow view
    | _ =>
      simp only [write]
      exact visits_report view (hasLong_kind_of_fieldsTyped hfields)

/-- Well-typed running text is written by visiting its places. -/
theorem visits_writeParts (hs : s.NeverFails) {parts : Parts} (typed : ∀ r ∈ parts, r.WellTyped) (view : View) :
    Visits s (fun _ => True) (placesInParts view parts) (Parts.write s view parts) := by
  refine (visits_writePieces (fun r hr => r.isVisited_of_wellTyped hs (typed r hr)) view false).bind_nil fun ps hps => ?_
  exact visits_join hps

/-! ## Headings -/

/-- A positive number of repetitions is counted out unless it is too large. -/
theorem toCount_of_pos {n : Int} (h : 0 < n) :
    (Json.int n).toCount = if Json.wordLimit ≤ n then .error .outOfRange else .ok n.toNat := by
  have hlow : ¬ n < -Json.wordLimit := by
    rw [Json.wordLimit]
    omega
  simp only [Json.toCount, Json.asInt?, hlow, false_or]

theorem indentation_of_level {h : Heading} {n : Int} (hn : h.level = .int n) (hpos : 0 < n) : h.indentation =
    if Json.wordLimit ≤ n + 1 then .error .outOfRange else .ok (Text.spaces (n + 1).toNat) := by
  rw [Heading.indentation, hn]
  show (Json.int (n + 1)).toCount.map Text.spaces = _
  rw [toCount_of_pos (Int.lt_add_one_of_le hpos.le)]
  split <;> rfl

/-- If the indentation of a heading can be written, so can its stars. -/
theorem exists_stars {h : Heading} {n : Int} (hn : h.level = .int n) (hpos : 0 < n) {t : Text}
    (ht : h.indentation = .ok t) : ∃ stars, h.stars = .ok stars := by
  rw [indentation_of_level hn hpos] at ht
  by_cases hword : Json.wordLimit ≤ n + 1
  · rw [if_pos hword] at ht
    cases ht
  · rw [Heading.stars, hn, toCount_of_pos hpos, if_neg (by omega)]
    exact ⟨_, rfl⟩

/-- The indentation of a heading is the place of its level. -/
theorem visits_indentation {h : Heading} {n : Int} (hn : h.level = .int n) (hpos : 0 < n) :
    Visits s (fun t => h.indentation = .ok t) [.level n] (.ofExcept h.indentation) := by
  refine Visits.checked rfl ?_
  rw [indentation_of_level hn hpos, Place.fault?]
  split <;> rfl

theorem exists_spacedText {t : Title} (h : t.isTyped = true) : ∃ text, t.spacedText = .ok text := by
  obtain ⟨hfields, htags⟩ := Bool.and_eq_true_iff.1 h
  obtain ⟨htitle, hkeyword⟩ := Bool.and_eq_true_iff.1 hfields
  have hshown : [t.keyword, t.text].any Json.hasLong = false := by
    simp [Json.hasLong_of_isString htitle, Json.hasLong_of_isOptionalString hkeyword]
  have htext : ∃ text, t.tagText = .ok text := by
    unfold Title.tagText
    split
    · exact ⟨_, rfl⟩
    · have hvisible : t.visibleTags.all Json.isString = true :=
        List.all_eq_true.2 fun tag htag => List.all_eq_true.1 htags tag (List.mem_filter.1 htag).1
      rw [Json.join_of_all_isString hvisible]
      exact ⟨_, rfl⟩
  obtain ⟨text, htext⟩ := htext
  rw [Title.spacedText, Json.checkShown_eq_ok_iff.2 hshown, htext]
  exact ⟨_, rfl⟩

theorem exists_openingText {h : Heading} {stars : Text} (hstars : h.stars = .ok stars) (htitle : h.title.isTyped = true)
    (withLine : Bool) : ∃ text, h.openingText withLine = .ok text := by
  cases withLine with
  | false => exact ⟨[], rfl⟩
  | true =>
    obtain ⟨text, htext⟩ := exists_spacedText htitle
    rw [Heading.openingText, if_pos rfl, Heading.line, hstars, htext]
    exact ⟨_, rfl⟩

theorem visits_keptEntries (hs : s.NeverFails) {is : List PlanningEntry} (typed : ∀ i ∈ is, i.kind.isString = true) :
    Visits s (fun kept => kept ⊆ is) [] (keptEntries s is) := by
  induction is with
  | nil => exact Visits.pure (List.Subset.refl [])
  | cons i is ih =>
    obtain ⟨hi, his⟩ := List.forall_mem_cons.1 typed
    obtain ⟨keep, hkeep⟩ := hs.entries i hi
    rw [keptEntries]
    refine (Visits.ofExcept hkeep trivial).nil_bind fun keep (_ : True) => (ih his).nil_bind fun rest hrest => Visits.pure ?_
    split
    · exact List.cons_subset_cons i hrest
    · exact List.subset_cons_of_subset i hrest

theorem visits_writePlanning (hs : s.NeverFails) {is : List PlanningEntry}
    (typed : ∀ i ∈ is, i.kind.isString = true ∧ i.timestamp.isTyped = true) (indentation : Text) :
    Visits s (fun _ => True) [] (writePlanning s indentation is) := by
  have htexts : ∀ kept : List PlanningEntry, kept ⊆ is → ∃ ts, kept.mapM (planningText s) = .ok ts := by
    intro kept hkept
    induction kept with
    | nil => exact ⟨[], rfl⟩
    | cons i kept ih =>
      obtain ⟨hi, hkept⟩ := List.cons_subset.1 hkept
      obtain ⟨hkind, hstamp⟩ := typed i hi
      have hshown : [i.kind].any Json.hasLong = false := by simp [Json.hasLong_of_isString hkind]
      obtain ⟨t, ht⟩ := hs.stamps i.timestamp hstamp
      obtain ⟨ts, hts⟩ := ih hkept
      rw [List.mapM_cons, planningText, Json.checkShown_eq_ok_iff.2 hshown, ht, hts]
      exact ⟨_, rfl⟩
  refine (visits_keptEntries hs fun i hi => (typed i hi).1).nil_bind fun kept hkept => ?_
  obtain ⟨ts, hts⟩ := htexts kept hkept
  exact (Visits.ofExcept hts trivial).nil_bind fun texts (_ : True) => Visits.pure trivial

theorem visits_writeProperties (hs : s.NeverFails) {ps : List Property}
    (typed : ∀ p ∈ ps, p.name.isString = true ∧ ∀ r ∈ p.value, r.WellTyped) :
    Visits s (fun _ => True) (ps.flatMap fun p => placesInParts .raw p.value) (writeProperties s ps) := by
  induction ps with
  | nil => exact Visits.pure trivial
  | cons p ps ih =>
    obtain ⟨⟨hname, hvalue⟩, hps⟩ := List.forall_mem_cons.1 typed
    have hshown : [p.name].any Json.hasLong = false := by simp [Json.hasLong_of_isString hname]
    rw [writeProperties, List.flatMap_cons]
    refine (Visits.ofExcept (Json.checkShown_eq_ok_iff.2 hshown) trivial).nil_bind fun (_ : Unit) (_ : True) => ?_
    refine (visits_writeParts hs hvalue .raw).bind fun value _ => (ih hps).bind_nil fun rest _ => ?_
    exact Visits.pure trivial

theorem visits_writeLogEntry (hs : s.NeverFails) (indentation : Text) {e : LogEntry} (typed : (Record.logEntry e).WellTyped) :
    Visits s (fun _ => True) e.places (writeLogEntry s indentation e) := by
  cases e with
  | line words =>
    have hwords : words.isString = true := typed.fieldsTyped
    have hshown : [words].any Json.hasLong = false := by simp [Json.hasLong_of_isString hwords]
    refine (Visits.ofExcept (Json.checkShown_eq_ok_iff.2 hshown) trivial).nil_bind fun (_ : Unit) (_ : True) => ?_
    exact Visits.pure trivial
  | clock start stop =>
    have hstamps : ∀ t ∈ start :: stop.toList, t.isTyped = true := fun t ht =>
      (typed.of_mem_children (c := .timestamp t) (List.mem_map_of_mem ht)).fieldsTyped
    obtain ⟨hstart, hstop⟩ := List.forall_mem_cons.1 hstamps
    obtain ⟨t, ht⟩ := hs.stamps start hstart
    cases stop with
    | none => exact (Visits.ofExcept ht trivial).nil_bind fun t (_ : True) => Visits.pure trivial
    | some stop =>
      obtain ⟨t', ht'⟩ := hs.stamps stop (hstop stop List.mem_cons_self)
      refine (Visits.ofExcept ht trivial).nil_bind fun t (_ : True) => ?_
      refine (Visits.ofExcept ht' trivial).nil_bind fun t' (_ : True) => ?_
      exact (Visits.checked (p := .clock start stop) rfl rfl).bind_nil fun d _ => Visits.pure trivial

theorem visits_writeLogbook (hs : s.NeverFails) (indentation : Text) {es : List LogEntry}
    (typed : ∀ e ∈ es, (Record.logEntry e).WellTyped) :
    Visits s (fun _ => True) (es.flatMap LogEntry.places) (writeLogbook s indentation es) := by
  induction es with
  | nil => exact Visits.pure trivial
  | cons e es ih =>
    obtain ⟨he, hes⟩ := List.forall_mem_cons.1 typed
    rw [writeLogbook, List.flatMap_cons]
    refine (visits_writeLogEntry hs indentation he).bind fun line _ => ?_
    exact (ih hes).bind_nil fun rest _ => Visits.pure trivial

/-- A well-typed heading is written by visiting its places. -/
theorem Heading.visits_write (hs : s.NeverFails) {h : Heading} (typed : (Record.heading h).WellTyped) (withLine : Bool)
    (flush : Json) : Visits s (fun _ => True) h.places (h.write s withLine flush) := by
  obtain ⟨hlevel, hbody⟩ := Heading.level_and_body_of_wellTyped typed
  have hchild : ∀ c ∈ (Record.heading h).children, c.WellTyped := fun _ hc => typed.of_mem_children hc
  have htitle : h.title.isTyped = true := (hchild (.title h.title) (by simp [Record.children])).fieldsTyped
  have hplanning : ∀ i ∈ h.planning, i.kind.isString = true ∧ i.timestamp.isTyped = true := by
    intro i hi
    have hentry := hchild (.planning i) (by simp [Record.children, hi])
    exact ⟨hentry.fieldsTyped, (hentry.of_mem_children (c := .timestamp i.timestamp) List.mem_cons_self).fieldsTyped⟩
  have hproperties : ∀ p ∈ h.properties, p.name.isString = true ∧ ∀ r ∈ p.value, r.WellTyped := by
    intro p hp
    have hproperty := hchild (.property p) (by simp [Record.children, hp])
    exact ⟨hproperty.fieldsTyped, fun _ hr => hproperty.of_mem_children hr⟩
  have hlogbook : ∀ e ∈ h.logbook, (Record.logEntry e).WellTyped := fun e he =>
    hchild (.logEntry e) (by simp [Record.children, he])
  obtain ⟨t, hbody⟩ : ∃ t, bodyText h.body = .ok t := by
    obtain ⟨t, ht⟩ := Json.exists_of_isString hbody
    rw [ht]
    exact ⟨_, rfl⟩
  obtain ⟨n, hn, hpos⟩ := Json.exists_of_isLevel hlevel
  rw [places, hn]
  refine (visits_indentation hn hpos).bind fun indentation hindentation => ?_
  obtain ⟨stars, hstars⟩ := exists_stars hn hpos hindentation
  obtain ⟨opening, hopening⟩ := exists_openingText hstars htitle withLine
  refine (Visits.ofExcept hopening trivial).nil_bind fun opening (_ : True) => ?_
  refine (visits_writePlanning hs hplanning indentation).nil_bind fun planning _ => ?_
  refine (visits_writeProperties hs hproperties).bind fun properties _ => ?_
  refine (visits_writeLogbook hs _ hlogbook).bind_nil fun logbook _ => ?_
  exact (Visits.ofExcept hbody trivial).nil_bind fun body (_ : True) => Visits.pure trivial

/-! ## Documents -/

theorem visits_writeHeadings (hs : s.NeverFails) {hds : List Heading} (typed : ∀ h ∈ hds, (Record.heading h).WellTyped) :
    Visits s (fun _ => True) (hds.flatMap Heading.places) (writeHeadings s hds) := by
  induction hds with
  | nil => exact Visits.pure trivial
  | cons h hds ih =>
    obtain ⟨hh, hhds⟩ := List.forall_mem_cons.1 typed
    rw [writeHeadings, List.flatMap_cons]
    exact (Heading.visits_write hs hh true .null).bind fun text _ => (ih hhds).bind_nil fun rest _ => Visits.pure trivial

/-- A well-typed document is written by visiting its places. -/
theorem Document.visits_write (hs : s.NeverFails) {d : Document} (typed : d.WellTyped) :
    Visits s (fun _ => True) d.places (d.write s) := by
  refine (Visits.note rfl).nil_bind fun _ _ => ?_
  refine (Visits.ofExcept (preamble_of_wellTyped typed) trivial).nil_bind fun preamble (_ : True) => ?_
  exact (visits_writeHeadings hs fun _ hh => typed.heading hh).bind_nil fun headings _ => Visits.pure trivial

end OrgOutline
