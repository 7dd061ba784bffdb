import OrgOutline.Export
import OrgOutline.Proofs.Mapped
import OrgOutline.Proofs.Typed

/-!
# What can be seen of a document

Some fields of a document leave no trace in its text: what is parsed of a body, the state of a checkbox that an item does
not have, the bullet of an ordered list, the terminator and the counters of an unordered one, the kind of a bare link,
everything in a table that lies in a cell, the keywords of a set, whether a set behind the first one is built in, and the
lines of all sets if the first one is built in. `Document.visible` puts the same values in all of them. Main statement:
well-typed documents that are the same apart from such fields are exported in the same way
(`Document.exportWith_eq_of_visible_eq`).
-/

namespace OrgOutline

/-! ## Hiding what cannot be seen -/

mutual
/-- A part in which everything is hidden that cannot be seen in a view. -/
def Record.visible (view : View) : Record → Record
  | .list items bullet ordered terminator =>
    .list (visibleItems view ordered.isSet items) (if ordered.isSet then .null else bullet) ordered
      (if ordered.isSet then terminator else .null)
  | .table rows =>
    match view with
    | .raw => .table (visibleRows rows)
    | .seen => .table []
  | .bareLink _ content => .bareLink .url content
  | r => r
termination_by structural x => x

/-- Running text in which everything is hidden that cannot be seen in a view. -/
def visibleParts (view : View) : List Record → List Record
  | [] => []
  | r :: rs => r.visible view :: visibleParts view rs
termination_by structural x => x

/-- Items in which the states of missing checkboxes are hidden, and the counters if the list is not ordered. -/
def visibleItems (view : View) (ordered : Bool) : List Item → List Item
  | [] => []
  | ⟨title, contents, checkbox, state, counter⟩ :: items =>
    ⟨visibleParts view title, visibleParts view contents, checkbox, if checkbox.isSet then state else .unchecked,
      if ordered then counter else .null⟩ :: visibleItems view ordered items
termination_by structural x => x

/-- Rows in which everything is hidden that is not seen of their cells. -/
def visibleRows : List (List Cell) → List (List Cell)
  | [] => []
  | row :: rows => visibleCells row :: visibleRows rows
termination_by structural x => x

/-- Cells in which everything is hidden that is not seen of them. -/
def visibleCells : List Cell → List Cell
  | [] => []
  | ⟨content, raw⟩ :: cells => ⟨visibleParts .seen content, raw⟩ :: visibleCells cells
termination_by structural x => x
end

/-- A property in which everything is hidden that cannot be seen. -/
def Property.visible (p : Property) : Property := { p with value := visibleParts .raw p.value }

/-- A heading in which everything is hidden that cannot be seen. -/
def Heading.visible (h : Heading) : Heading := { h with properties := h.properties.map Property.visible, description := [] }

/-- Sets of keywords of which one sees how many there are, whether the first one is built in and, if it is not, their lines. -/
def visibleSets : List KeywordSet → List KeywordSet
  | [] => []
  | k :: ks =>
    if k.builtIn.isSet then { builtIn := k.builtIn } :: ks.map fun _ => {}
    else { k with keywords := [] } :: ks.map fun x => { line := x.line }

/-- A document in which everything is hidden that cannot be seen. -/
def Document.visible (d : Document) : Document :=
  { d with headings := d.headings.map Heading.visible, keywordSets := visibleSets d.keywordSets }

/-! ## Lists -/

variable {s : Setup}

theorem Record.isBlock_visible (view : View) (r : Record) : (r.visible view).isBlock = r.isBlock := by
  cases r with
  | table rows => cases view <;> rfl
  | _ => rfl

theorem checkboxText_visible (checkbox : Json) (state : CheckboxState) :
    ItemStyle.checkboxText checkbox (if checkbox.isSet then state else .unchecked) = ItemStyle.checkboxText checkbox state := by
  unfold ItemStyle.checkboxText
  split <;> rfl

/-- The style of a list in which what cannot be seen of it is hidden. -/
def ItemStyle.visible (style : ItemStyle) : ItemStyle where
  bullet := if style.ordered.isSet then .null else style.bullet
  ordered := style.ordered
  terminator := if style.ordered.isSet then style.terminator else .null

theorem ItemStyle.margin_visible (style : ItemStyle) : style.visible.margin = style.margin := by
  unfold margin isStarred visible
  cases style.ordered.isSet <;> rfl

theorem ItemStyle.itemText_visible (style : ItemStyle) (mark checkbox title contents : Text) :
    style.visible.itemText mark checkbox title contents = style.itemText mark checkbox title contents := by
  have hindent : style.visible.indentLine = style.indentLine := by
    funext line
    rw [indentLine, indentLine, indentation, indentation, margin_visible]
  rw [itemText, itemText, indent, indent, hindent]

/-- An item has a number whether its counter is hidden or not. In an ordered list it is the same number, and in an unordered one
the mark does not show it. -/
theorem ItemStyle.exists_marks_visible (style : ItemStyle) {counter : Json} (h : (counter.isNull || counter.isInteger) = true)
    (n n' : Int) (hn : style.ordered.isSet = true → n' = n) :
    ∃ m m' : Int, nextNumber (.int n) counter = .ok (.int m) ∧
      nextNumber (.int n') (if style.ordered.isSet then counter else .null) = .ok (.int m') ∧
      (style.ordered.isSet = true → m' = m) ∧
      style.visible.markText (.int m') (if style.ordered.isSet then counter else .null) = style.markText (.int m) counter := by
  have hnext : ∃ m, nextNumber (.int n) counter = .ok (.int m) := by
    cases counter with
    | null => exact ⟨n + 1, rfl⟩
    | int m => exact ⟨m, rfl⟩
    | _ => nomatch h
  obtain ⟨m, hm⟩ := hnext
  cases ho : style.ordered.isSet with
  | true =>
    obtain rfl := hn ho
    refine ⟨m, m, hm, hm, fun _ => rfl, ?_⟩
    simp only [markText, visible, ho, if_true]
  | false =>
    refine ⟨m, n' + 1, hm, rfl, nofun, ?_⟩
    rw [markText, markText, margin_visible]
    simp only [visible, ho, Bool.false_eq_true, if_false]

/-! ## Running text -/

theorem visibleParts_eq_map (view : View) (rs : Parts) : visibleParts view rs = rs.map (Record.visible view) := by
  induction rs with
  | nil => rfl
  | cons r rs ih => rw [visibleParts, ih, List.map_cons]

/-- A cell in which everything is hidden that is not seen of it. -/
def Cell.visible (c : Cell) : Cell := { c with content := visibleParts .seen c.content }

theorem visibleRows_eq_map (rows : List Row) : visibleRows rows = rows.map (List.map Cell.visible) := by
  have hcells : ∀ cells : Row, visibleCells cells = cells.map Cell.visible := by
    intro cells
    induction cells with
    | nil => rfl
    | cons c cells ih =>
      cases c
      rw [visibleCells, ih]
      rfl
  induction rows with
  | nil => rfl
  | cons row rows ih => rw [visibleRows, ih, hcells, List.map_cons]

theorem writeParts_visibleParts {view : View} {rs : Parts} (h : ∀ r ∈ rs, (r.visible view).write s view = r.write s view) :
    Parts.write s view (visibleParts view rs) = Parts.write s view rs := by
  rw [visibleParts_eq_map]
  exact writeParts_map fun r hr => ⟨r.isBlock_visible view, h r hr⟩

/-- Items of a list are written in the same way when what cannot be seen of them is hidden. An unordered list counts its items
as well, from another number if counters are hidden; that number is not seen either. -/
theorem writeItems_visibleItems {view : View} {items : List Item}
    (h : ∀ i ∈ items, ∀ r ∈ i.title ++ i.contents, (r.visible view).write s view = r.write s view)
    (typed : ∀ i ∈ items, (Record.listItem i).WellTyped) (style : ItemStyle) (number number' : Int)
    (hnumber : style.ordered.isSet = true → number' = number) :
    writeItems s view style.visible (.int number') (visibleItems view style.ordered.isSet items) =
      writeItems s view style (.int number) items := by
  induction items generalizing number number' with
  | nil => rfl
  | cons i items ih =>
    obtain ⟨title, contents, checkbox, state, counter⟩ := i
    obtain ⟨hi, hitems⟩ := List.forall_mem_cons.1 h
    obtain ⟨ht, hc⟩ := List.forall_mem_append.1 hi
    obtain ⟨htyped, hstyped⟩ := List.forall_mem_cons.1 typed
    have hcounter : (counter.isNull || counter.isInteger) = true := (Bool.and_eq_true_iff.1 htyped.fieldsTyped).2
    obtain ⟨m, m', hm, hm', hsame, hmark⟩ := style.exists_marks_visible hcounter number number' hnumber
    rw [visibleItems, writeItems_cons, writeItems_cons, writeParts_visibleParts ht, writeParts_visibleParts hc, hm, hm']
    refine (pure_bind _ _).trans (Eq.trans ?_ (pure_bind _ _).symm)
    simp only [hmark, ih hitems hstyped m m' hsame, checkboxText_visible, ItemStyle.itemText_visible]

/-- A well-typed record is written in the same way when what cannot be seen of it is hidden. -/
theorem Record.write_visible (r : Record) (typed : r.WellTyped) (view : View) : (r.visible view).write s view = r.write s view := by
  induction r using withinInduction generalizing view with
  | step r ih =>
    cases r with
    | list items bullet ordered terminator =>
      have hitem : ∀ i ∈ items, .listItem i ∈ (list items bullet ordered terminator).children :=
        fun i hi => List.mem_map_of_mem hi
      have hitems : ∀ i ∈ items, (listItem i).WellTyped := fun i hi => typed.of_mem_children (hitem i hi)
      have h : ∀ i ∈ items, ∀ r ∈ i.title ++ i.contents, (r.visible view).write s view = r.write s view := by
        intro i hi r hr
        exact ih (.listItem i) (hitem i hi) r (mem_within_of_mem_children hr r.mem_within_self)
          ((hitems i hi).of_mem_children hr) view
      have hwrite := writeItems_visibleItems h hitems ⟨bullet, ordered, terminator⟩ 0 0 fun _ => rfl
      rw [visible, write, write, ← hwrite]
      rfl
    | table rows =>
      cases view with
      | seen => rfl
      | raw =>
        have h : ∀ row ∈ rows, ∀ c ∈ row, c.visible.MeasuresAs s s c := by
          intro row hrow c hc
          refine ⟨rfl, writeParts_visibleParts fun r hr => ?_⟩
          have hcell : .cell c ∈ (Record.row row).children := List.mem_map_of_mem hc
          have hr : r ∈ (Record.row row).within :=
            mem_within_of_mem_children hcell (mem_within_of_mem_children hr r.mem_within_self)
          have hrow : .row row ∈ (table rows).children := List.mem_map_of_mem hrow
          exact ih (.row row) hrow r hr ((typed.of_mem_children hrow).of_mem_within hr) .seen
        rw [visible, visibleRows_eq_map]
        exact write_table_map (fun _ => rfl) h
    | logEntry e => cases e <;> rfl
    | _ => rfl

/-! ## Headings and documents -/

theorem writeProperties_map_visible {ps : List Property} (typed : ∀ p ∈ ps, (Record.property p).WellTyped) :
    writeProperties s (ps.map Property.visible) = writeProperties s ps :=
  writeProperties_map fun p hp =>
    ⟨rfl, writeParts_visibleParts fun r hr => r.write_visible ((typed p hp).of_mem_children hr) .raw⟩

theorem Heading.write_visible {h : Heading} (typed : (Record.heading h).WellTyped) (withLine : Bool) (flush : Json) :
    h.visible.write s withLine flush = h.write s withLine flush := by
  have hproperties : writeProperties s h.visible.properties = writeProperties s h.properties :=
    writeProperties_map_visible fun p hp => typed.of_mem_children (by simp [Record.children, hp])
  rw [Heading.write, Heading.write, hproperties]
  rfl

theorem writeHeadings_map_visible {hs : List Heading} (typed : ∀ h ∈ hs, (Record.heading h).WellTyped) :
    writeHeadings s (hs.map Heading.visible) = writeHeadings s hs :=
  writeHeadings_map fun h hh => Heading.write_visible (typed h hh) true .null

namespace Document

/-- The lines that declare keywords can be seen. -/
theorem keywordLines_visible (d : Document) : d.visible.keywordLines = d.keywordLines := by
  obtain ⟨headings, keywordSets, configLines, firstLines⟩ := d
  cases keywordSets with
  | nil => rfl
  | cons k ks =>
    by_cases hk : k.builtIn.isSet = true <;> simp [keywordLines, usesBuiltInKeywords, visible, visibleSets, hk]

theorem preamble_visible (d : Document) : d.visible.preamble = d.preamble := by
  rw [preamble, preamble, keywordLines_visible]
  rfl

/-- A well-typed document is written in the same way when what cannot be seen of it is hidden. -/
theorem write_visible {d : Document} (typed : d.WellTyped) : d.visible.write s = d.write s := by
  have hheadings : writeHeadings s d.visible.headings = writeHeadings s d.headings :=
    writeHeadings_map_visible fun h hh => typed.heading hh
  have hlength : d.visible.headings.length = d.headings.length := List.length_map _
  rw [write, write, preamble_visible, hheadings, hlength]
  rfl

/-- Well-typed documents that are the same when what cannot be seen is hidden are exported in the same way: with the same
notices, and to the same text or the same fault. -/
theorem exportWith_eq_of_visible_eq (d d' : Document) (typed : d.WellTyped) (typed' : d'.WellTyped)
    (same : d.visible = d'.visible) (g : GivenCollaborators) (options : Option OptionSet) (overrides : Members) :
    d.exportWith g options overrides = d'.exportWith g options overrides := by
  have hwrite : ∀ s, d.write s = d'.write s := by
    intro s
    rw [← write_visible typed, same, write_visible typed']
  have hexport : ∀ c o, d.export c o = d'.export c o := by
    intro c o
    rw [export_eq_bind, export_eq_bind]
    exact bind_congr fun _ => hwrite _
  exact bind_congr fun g => bind_congr fun o => hexport g.complete o

/-- A document whose hidden fields hold given values, in lists that lie in each other and in a cell. -/
def disguised (word : String) (flag : Bool) (kind : BareLinkKind) (state : CheckboxState) (counter : Json) (rows : List Row) :
    Document where
  headings := [{
    level := .int 1, title := { text := .str "A" }, planning := [], logbook := [], body := .str ""
    properties := [⟨.str "P", [
      .list [⟨[.bareLink kind (.str "a@b")], [
        .list [⟨[.text (.str "b")], [], .bool false, state, counter⟩] (.str "-") (.bool false) (.str word)],
        .bool true, .underway, .int 4⟩] (.str word) (.bool true) (.str "."),
      .table [[⟨[.text (.str "wide"), .list [⟨[.table rows], [], .bool false, state, .null⟩] (.str word) (.bool true) (.str ")")],
        .str "w"⟩]]]⟩]
    description := [.text (.str word)] }]
  keywordSets := [⟨[.str word], .str word, .bool true⟩, ⟨[.str word, .str "DONE"], .str word, .bool flag⟩]
  configLines := [.str "#+TITLE: A"]
  firstLines := []

/-- The text of such a document. -/
def disguisedText : Text :=
  "#+TITLE: A\n\n* A\n  :PROPERTIES:\n  :P: 4. [@4] [-] a@b\n  - b\n| w |\n  :END:\n".toList

/-- Two documents that differ in every field that cannot be seen. -/
theorem exportWith_eq_of_visible_eq_sample :
    let d := disguised "x" false .url .unchecked .null []
    let d' := disguised "yy" true .mail .checked (.int 7) [[⟨[.unrecognized (.str "U") []], .str "cell"⟩]]
    d.WellTyped ∧ d'.WellTyped ∧ d.visible = d'.visible ∧
      d.exportWith {} none [] = d'.exportWith {} none [] ∧ (d.exportWith {} none []).result? = some disguisedText := by
  intro d d'
  have typed : d.WellTyped := by decide
  have typed' : d'.WellTyped := by decide
  exact ⟨typed, typed', rfl, exportWith_eq_of_visible_eq d d' typed typed' rfl {} none [], by decide +kernel⟩

end Document
end OrgOutline
