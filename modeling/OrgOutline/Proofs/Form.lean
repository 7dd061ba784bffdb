import OrgOutline.Proofs.Loaded
import OrgOutline.Proofs.TableLookups

/-!
# The form of what is loaded

Writing looks nothing up twice: it relies on the rules that loading has checked. Whatever value a record is loaded from, at every
depth a level is not below one, a table has rows of one length, a checkbox has one of the three states and a bare link is of
one of the four kinds (`Record.IsFormed`). A level may be no number at all, which lies neither below one nor above it. Main
statement: what is loaded is formed, a table of rows that can be loaded is refused exactly for its first uneven row, and no
look-up in a loaded table misses (`load_isFormed`).
-/

namespace OrgOutline

open Run (Ensures)

/-! ## Levels -/

/-- Whether the number is an integer or lies above it. -/
def Binary64.geInt (x : Binary64) (n : Int) : Bool :=
  match x with
  | .finite s m e => let (num, den) := fraction s m e; n * den ≤ num
  | .infinite negative => !negative
  | .nan => false

namespace Json

/-- Whether the value is a number from one on. -/
def isFromOne : Json → Bool
  | .bool b => b
  | .int n => 1 ≤ n
  | .float x => x.geInt 1
  | _ => false

/-- Whether the value is no number, although it is of the type of numbers. -/
def isNaN : Json → Bool
  | .float .nan => true
  | _ => false

end Json

/-- A level that passes its check is a number from one on or no number at all. -/
theorem isFromOne_of_checkLevel {v : Json} (h : checkLevel v = pure ()) : v.isFromOne = true ∨ v.isNaN = true := by
  cases v with
  | int n =>
    by_cases hn : n < 1
    · simp [checkLevel, Json.asInt?, hn, Run.refuse, Run.fail, Run.pure_def] at h
    · exact Or.inl (decide_eq_true (Int.not_lt.1 hn))
  | bool b =>
    cases b with
    | true => exact Or.inl rfl
    | false => nomatch congrArg Run.outcome h
  | float x =>
    cases x with
    | nan => exact Or.inr rfl
    | infinite negative =>
      cases negative with
      | true => nomatch congrArg Run.outcome h
      | false => exact Or.inl rfl
    | finite s m e =>
      by_cases hx : (Binary64.finite s m e).ltInt 1 = true
      · simp [checkLevel, hx, Run.refuse, Run.fail, Run.pure_def] at h
      · refine Or.inl (decide_eq_true (Int.not_lt.1 fun hlt => hx (decide_eq_true hlt)))
  | _ => nomatch congrArg Run.outcome h

/-! ## Tables -/

/-- The row at an index is the first one that is not of an expected length. -/
structure IsFirstUneven (expected : Nat) (rows : List Row) (i : Nat) (row : Row) : Prop where
  here : rows[i]? = some row
  uneven : row.length ≠ expected
  before : ∀ j < i, ∀ earlier, rows[j]? = some earlier → earlier.length = expected

/-- Behind a row of the expected length the first uneven row is that of the rest. -/
theorem isFirstUneven_cons_succ {expected i : Nat} {r row : Row} {rows : List Row} (h : r.length = expected) :
    IsFirstUneven expected (r :: rows) (i + 1) row ↔ IsFirstUneven expected rows i row := by
  constructor
  · intro hrow
    exact ⟨hrow.here, hrow.uneven, fun j hj earlier he => hrow.before (j + 1) (Nat.succ_lt_succ hj) earlier he⟩
  · intro hrow
    refine ⟨hrow.here, hrow.uneven, ?_⟩
    intro j hj earlier he
    cases j with
    | zero => exact Option.some.inj he ▸ h
    | succ j => exact hrow.before j (Nat.lt_of_succ_lt_succ hj) earlier he

/-- Indices are counted up from the one that is given. -/
theorem le_of_firstUneven {expected index k found : Nat} {rows : List Row}
    (h : firstUneven expected index rows = some (k, found)) : index ≤ k := by
  induction rows generalizing index with
  | nil => nomatch h
  | cons r rows ih =>
    rw [firstUneven] at h
    split at h
    · exact Nat.le_of_succ_le (ih h)
    · obtain ⟨rfl, -⟩ := Prod.mk.inj (Option.some.inj h)
      exact Nat.le_refl index

theorem firstUneven_eq_some_iff {expected index i found : Nat} {rows : List Row} :
    firstUneven expected index rows = some (index + i, found) ↔ ∃ row, IsFirstUneven expected rows i row ∧ found = row.length := by
  induction rows generalizing index i with
  | nil =>
    refine ⟨nofun, ?_⟩
    rintro ⟨row, hrow, -⟩
    exact absurd hrow.here (by simp)
  | cons r rows ih =>
    rw [firstUneven]
    by_cases hr : r.length = expected
    · rw [if_pos hr]
      cases i with
      | zero =>
        refine iff_of_false (fun h => absurd (le_of_firstUneven h) (Nat.not_succ_le_self index)) ?_
        rintro ⟨row, hrow, -⟩
        exact hrow.uneven (Option.some.inj hrow.here ▸ hr)
      | succ i =>
        rw [Nat.add_comm i 1, ← Nat.add_assoc, ih, Nat.add_comm 1 i]
        simp only [isFirstUneven_cons_succ hr]
    · rw [if_neg hr]
      constructor
      · intro h
        obtain ⟨hi, rfl⟩ := Prod.mk.inj (Option.some.inj h)
        obtain rfl : i = 0 := by omega
        exact ⟨r, ⟨rfl, hr, fun j hj => absurd hj (Nat.not_lt_zero j)⟩, rfl⟩
      · rintro ⟨row, hrow, rfl⟩
        cases i with
        | zero => rw [Option.some.inj hrow.here, Nat.add_zero]
        | succ i => exact absurd (hrow.before 0 (Nat.succ_pos i) r rfl) hr

/-- The check of the rows of a table fails exactly for the first row that is not as long as the first one of all. -/
theorem outcome_checkRows_eq_error_iff {rows : List Row} {f : Fault} : (checkRows rows).outcome = .error f ↔
    ∃ i row, IsFirstUneven (columnCount rows) rows i row ∧ f = .invalid (.rowLength i row.length (columnCount rows)) := by
  cases rows with
  | nil =>
    constructor
    · intro h
      cases h
    · rintro ⟨i, row, hrow, -⟩
      exact absurd hrow.here (by simp)
  | cons r rows =>
    have hcount : columnCount (r :: rows) = r.length := rfl
    have hiff : ∀ i found, firstUneven r.length 0 (r :: rows) = some (i, found) ↔
        ∃ row, IsFirstUneven r.length (r :: rows) i row ∧ found = row.length := by
      intro i found
      rw [← firstUneven_eq_some_iff, Nat.zero_add]
    rw [checkRows, hcount]
    cases hfirst : firstUneven r.length 0 (r :: rows) with
    | none =>
      constructor
      · intro h
        cases h
      · rintro ⟨i, row, hrow, -⟩
        rw [(hiff i row.length).2 ⟨row, hrow, rfl⟩] at hfirst
        cases hfirst
    | some p =>
      obtain ⟨i, found⟩ := p
      obtain ⟨row, hrow, rfl⟩ := (hiff i found).1 hfirst
      constructor
      · intro h
        exact ⟨i, row, hrow, (Except.error.inj h).symm⟩
      · rintro ⟨i', row', hrow', rfl⟩
        have hsome := (hiff i' row'.length).2 ⟨row', hrow', rfl⟩
        rw [hfirst] at hsome
        obtain ⟨rfl, hlen⟩ := Prod.mk.inj (Option.some.inj hsome)
        rw [← hlen]
        rfl

/-- Where no row is uneven all rows have the expected length. -/
theorem length_eq_of_firstUneven_eq_none {expected index : Nat} {rows : List Row} (h : firstUneven expected index rows = none) :
    ∀ row ∈ rows, row.length = expected := by
  induction rows generalizing index with
  | nil => exact List.forall_mem_nil _
  | cons r rows ih =>
    rw [firstUneven] at h
    split at h
    · rename_i hr
      exact List.forall_mem_cons.2 ⟨hr, ih h⟩
    · cases h

/-- The rows of a table that passes its check are of one length. -/
theorem isEven_of_checkRows {rows : List Row} (h : checkRows rows = pure ()) : IsEven rows := by
  cases rows with
  | nil => exact List.forall_mem_nil _
  | cons r rows =>
    rw [checkRows] at h
    cases hfirst : firstUneven r.length 0 (r :: rows) with
    | none => exact length_eq_of_firstUneven_eq_none hfirst
    | some p =>
      rw [hfirst] at h
      cases congrArg Run.outcome h

/-! ## Names -/

/-- The names of the states of a checkbox with what is drawn for them. -/
def glyphs : List (String × Text) := [("checked", "[X]".toList), ("unchecked", "[ ]".toList), ("partial", "[-]".toList)]

/-- The names of the kinds of bare links. -/
def bareLinkKindNames : List String := ["url", "www-url", "e-mail", "phone-number"]

theorem ensures_checkCheckboxState (v : Json) :
    Ensures (fun state => CheckboxState.ofJson? v = some state) (checkCheckboxState v) := by
  unfold checkCheckboxState
  split
  · rename_i state hstate
    exact Ensures.pure hstate
  · exact Ensures.fail _

theorem ensures_checkBareLinkKind (v : Json) : Ensures (fun kind => BareLinkKind.ofJson? v = some kind) (checkBareLinkKind v) := by
  unfold checkBareLinkKind
  split
  · rename_i kind hkind
    exact Ensures.pure hkind
  · exact Ensures.fail _

/-! ## Records -/

/-- What holds of a record itself, not of those inside it, once it has been loaded. -/
def Record.IsFormed : Record → Prop
  | .heading h => h.level.isFromOne = true ∨ h.level.isNaN = true
  | .table rows => IsEven rows
  | .listItem item => glyphs.lookup item.state.name = some item.state.glyph
  | .bareLink kind _ => kind.name ∈ bareLinkKindNames
  | _ => True

theorem Record.Storable.isFormed {r : Record} (h : r.Storable) : r.IsFormed := by
  cases r with
  | heading h' => exact isFromOne_of_checkLevel h
  | table rows => exact isEven_of_checkRows h
  | listItem item =>
    obtain ⟨title, contents, checkbox, state, counter⟩ := item
    cases state <;> rfl
  | bareLink kind content => cases kind <;> simp [IsFormed, BareLinkKind.name, bareLinkKindNames]
  | _ => trivial

variable {strict : Bool} {members : Members}

/-- A record of a known kind is put together as its kind is. -/
theorem Record.load_of_kind {name : String} {x : Run Record} (kind : members.lookup "node_type" = some (.str name))
    (known : assembleKnown? strict name members (fun s n => loadAt strict s n members) = some x) (named : name ≠ "") :
    Record.load strict (.obj members) = x := by
  rw [Record.load, OrgOutline.load]
  show assembleRecord strict members (fun s n => loadAt strict s n members) = x
  have hset : (Json.str name).isSet = true := by simp [Json.isSet, named]
  rw [assembleRecord, kind]
  simp only [hset, known]
  rfl

/-- The state of a loaded item is the one that its field names. -/
theorem ensures_load_item (strict : Bool) (members : Members) :
    Ensures (fun item : Item => CheckboxState.ofJson? (field members "checkbox_state" (.str "unchecked")) = some item.state)
      (load strict .item (.obj members)) := by
  rw [load]
  refine (Ensures.trivial _).bind fun title _ => (Ensures.trivial _).bind fun contents _ => ?_
  exact (ensures_checkCheckboxState _).bind fun state hstate => Ensures.pure hstate

/-- The kind of a loaded bare link is the one that its field names. -/
theorem ensures_load_bareLink (kind : members.lookup "node_type" = some (.str "BareLink")) :
    Ensures (fun r => ∃ kind content, r = .bareLink kind content ∧ (members.lookup "kind").bind BareLinkKind.ofJson? = some kind)
      (Record.load strict (.obj members)) := by
  rw [Record.load_of_kind kind rfl (by decide), assembleBareLink, required]
  cases members.lookup "kind" with
  | none => exact Ensures.fail _
  | some v =>
    refine (Ensures.pure (P := fun x => x = v) rfl).bind fun x hx => (Ensures.trivial _).bind fun content _ => ?_
    subst hx
    exact (ensures_checkBareLinkKind x).bind fun kind hkind => Ensures.pure ⟨kind, content, rfl, hkind⟩

/-- A table whose rows can be loaded is refused exactly for its first uneven row. -/
theorem outcome_load_table_eq_error_iff (kind : members.lookup "node_type" = some (.str "Table")) {rows : List Row}
    (loaded : (loadAt strict .row "rows" members).outcome = .ok rows) {f : Fault} :
    (Record.load strict (.obj members)).outcome = .error f ↔ ∃ i row, IsFirstUneven (columnCount rows) rows i row ∧
      f = .invalid (.rowLength i row.length (columnCount rows)) := by
  rw [← outcome_checkRows_eq_error_iff, Record.load_of_kind kind rfl (by decide), assembleTable, Run.outcome_bind, loaded]
  show (checkRows rows >>= fun _ => pure (Record.table rows)).outcome = .error f ↔ _
  rw [Run.outcome_bind]
  cases (checkRows rows).outcome <;> simp

/-- Whatever value a record is loaded from, in either mode, it is formed at every depth, its items and bare links have the
states and kinds that their fields name, and no look-up misses when one of its tables is laid out. A table whose rows can be
loaded is refused exactly for its first row that is not as long as the first one of all. -/
theorem load_isFormed (strict : Bool) :
    (∀ v r, (Record.load strict v).outcome = .ok r → ∀ x ∈ r.within, x.IsFormed) ∧
    (∀ members item, (load strict .item (.obj members)).outcome = .ok item →
      CheckboxState.ofJson? (field members "checkbox_state" (.str "unchecked")) = some item.state) ∧
    (∀ members r, members.lookup "node_type" = some (.str "BareLink") → (Record.load strict (.obj members)).outcome = .ok r →
      ∃ kind content, r = .bareLink kind content ∧ (members.lookup "kind").bind BareLinkKind.ofJson? = some kind) ∧
    (∀ members rows f, members.lookup "node_type" = some (.str "Table") →
      (loadAt strict .row "rows" members).outcome = .ok rows →
      ((Record.load strict (.obj members)).outcome = .error f ↔ ∃ i row, IsFirstUneven (columnCount rows) rows i row ∧
        f = .invalid (.rowLength i row.length (columnCount rows)))) ∧
    ∀ v r, (Record.load strict v).outcome = .ok r → ∀ rows, .table rows ∈ r.within → ∀ s entries,
      (measureRows s rows).outcome = .ok entries → Table.text? entries = some (Table.text entries) := by
  have hformed : ∀ v r, (Record.load strict v).outcome = .ok r → ∀ x ∈ r.within, x.IsFormed :=
    fun v r loaded x hx => (ensures_load strict .record v r loaded x hx).storable.isFormed
  refine ⟨hformed, ensures_load_item strict, ?_, ?_, ?_⟩
  · intro members r kind loaded
    exact ensures_load_bareLink kind r loaded
  · intro members rows f kind loaded
    exact outcome_load_table_eq_error_iff kind loaded
  · intro v r loaded rows hrows s entries measured
    have even : IsEven rows := hformed v r loaded _ hrows
    obtain ⟨hlengths, hlines⟩ := ensures_measureRows s rows entries measured
    exact Table.text?_eq_some (even.congr hlengths.symm) hlines

/-- The members of a bare link. -/
def linkMembers : Members := [("node_type", .str "BareLink"), ("kind", .str "url"), ("content", .str "a")]

/-- The members of an item. -/
def itemMembers : Members := [("checkbox_state", .str "partial")]

/-- The item of these members. -/
def sampleItem : Item := ⟨[], [], .bool false, .underway, .null⟩

/-- The members of a table with a bare link and a list in its first cell, and with more rows of empty cells. -/
def tableMembers (more : List Json) : Members :=
  [("node_type", .str "Table"), ("rows", .arr (.obj [("cells", .arr [.obj [("content", .arr [.obj linkMembers,
    .obj [("node_type", .str "List"), ("items", .arr [.obj itemMembers])]])]])] :: more))]

/-- The first row of such a table. -/
def sampleRow : Row :=
  [⟨[.bareLink .url (.str "a"), .list [sampleItem] (.str "-") (.bool false) (.str ".")], .str ""⟩]

/-- A heading of a given level with such a table in its description. -/
def headingFile (level : Json) : Json :=
  .obj [("node_type", .str "Header"), ("nesting_level", level), ("title_line", .obj [("raw_title", .str "A")]),
    ("description", .arr [.obj (tableMembers [])])]

/-- The heading in that file. -/
def sampleHeading (level : Json) : Heading :=
  ⟨level, ⟨.str "A", .null, []⟩, [], [], [], .str "", [.table [sampleRow]]⟩

/-- A heading of level one and a half is loaded with a table whose look-ups do not miss, and a table with a second row of two
cells is refused. -/
theorem load_isFormed_sample :
    (Record.load false (headingFile (.float (.finite false 3 (-1))))).outcome =
        .ok (.heading (sampleHeading (.float (.finite false 3 (-1))))) ∧
      (∀ x ∈ (Record.heading (sampleHeading (.float (.finite false 3 (-1))))).within, x.IsFormed) ∧
      (load false .item (.obj itemMembers)).outcome = .ok sampleItem ∧
      CheckboxState.ofJson? (field itemMembers "checkbox_state" (.str "unchecked")) = some sampleItem.state ∧
      (∃ kind content, Record.bareLink .url (.str "a") = .bareLink kind content ∧
        (linkMembers.lookup "kind").bind BareLinkKind.ofJson? = some kind) ∧
      (Record.load false (.obj (tableMembers [.obj [("cells", .arr [.obj [], .obj []])]]))).outcome =
        .error (.invalid (.rowLength 1 2 1)) ∧
      Table.text? [[Entry.ofSeen [] "a- ".toList]] = some (Table.text [[Entry.ofSeen [] "a- ".toList]]) := by
  obtain ⟨hformed, hitem, hlink, htable, hlookups⟩ := load_isFormed false
  have loaded : (Record.load false (headingFile (.float (.finite false 3 (-1))))).outcome =
    .ok (.heading (sampleHeading (.float (.finite false 3 (-1))))) := rfl
  have first : IsFirstUneven 1 [sampleRow, [⟨[], .str ""⟩, ⟨[], .str ""⟩]] 1 [⟨[], .str ""⟩, ⟨[], .str ""⟩] := by
    refine ⟨rfl, by decide, ?_⟩
    intro j hj earlier he
    obtain rfl : j = 0 := Nat.lt_one_iff.1 hj
    exact Option.some.inj he ▸ rfl
  have inside : .table [sampleRow] ∈ (Record.heading (sampleHeading (.float (.finite false 3 (-1))))).within := by
    simp [sampleHeading, Record.within, Heading.within, withinParts]
  refine ⟨loaded, hformed _ _ loaded, rfl, hitem itemMembers sampleItem rfl, hlink linkMembers _ rfl rfl, ?_, ?_⟩
  · exact (htable _ [sampleRow, [⟨[], .str ""⟩, ⟨[], .str ""⟩]] _ rfl rfl).2 ⟨1, _, first, rfl⟩
  · exact hlookups _ _ loaded _ inside {} _ rfl

/-- A level that is no number is let through, although it is not from one on. -/
theorem load_isFormed_nan : ¬ ∀ r, (Record.load false (headingFile (.float .nan))).outcome = .ok r →
    ∀ h, .heading h ∈ r.within → h.level.isFromOne = true := by
  intro h
  exact Bool.false_ne_true (h (.heading (sampleHeading (.float .nan))) rfl _ (Record.mem_within_self _))

end OrgOutline
