import OrgOutline.Document.Write

/-!
# Writing changed parts

What a record is written as depends on its parts only through what these are written as. Main statements: where every part of
running text, of a list, a table, a property or a heading is changed into one that is written in the same way, maybe with another
setup, so is the whole.
-/

namespace OrgOutline

variable {s s' : Setup} {view : View}

/-! ## Running text -/

theorem writePieces_map {g : Record → Record} {rs : Parts}
    (h : ∀ r ∈ rs, (g r).isBlock = r.isBlock ∧ (g r).write s view = r.write s' view) (behindBlock : Bool) :
    writePieces s view behindBlock (rs.map g) = writePieces s' view behindBlock rs := by
  induction rs generalizing behindBlock with
  | nil => rfl
  | cons r rs ih =>
    obtain ⟨⟨hblock, hwrite⟩, hrs⟩ := List.forall_mem_cons.1 h
    rw [List.map_cons, writePieces, writePieces, hwrite, hblock, ih hrs]

theorem writeParts_map {g : Record → Record} {rs : Parts}
    (h : ∀ r ∈ rs, (g r).isBlock = r.isBlock ∧ (g r).write s view = r.write s' view) :
    Parts.write s view (rs.map g) = Parts.write s' view rs := by
  rw [Parts.write, Parts.write, writePieces_map h]

/-! ## Lists -/

/-- An item is written and then the items behind it. -/
theorem writeItems_cons (style : ItemStyle) (number : Json) (i : Item) (items : List Item) :
    writeItems s view style number (i :: items) =
      .ofExcept (nextNumber number i.counter) >>= fun number => .ofExcept (style.markText number i.counter) >>= fun mark =>
        Parts.write s view i.title >>= fun title => Parts.write s view i.contents >>= fun contents =>
          writeItems s view style number items >>= fun texts =>
            pure (style.itemText mark (ItemStyle.checkboxText i.checkbox i.state) title contents :: texts) := by
  cases i
  simp only [writeItems, Parts.write, bind_assoc]

/-- Two items of which only what they are written as is known to be the same. -/
structure Item.WritesAs (s s' : Setup) (view : View) (i i' : Item) : Prop where
  counter : i.counter = i'.counter
  checkbox : ItemStyle.checkboxText i.checkbox i.state = ItemStyle.checkboxText i'.checkbox i'.state
  title : Parts.write s view i.title = Parts.write s' view i'.title
  contents : Parts.write s view i.contents = Parts.write s' view i'.contents

theorem writeItems_map {g : Item → Item} {items : List Item} (h : ∀ i ∈ items, (g i).WritesAs s s' view i)
    (style : ItemStyle) (number : Json) :
    writeItems s view style number (items.map g) = writeItems s' view style number items := by
  induction items generalizing number with
  | nil => rfl
  | cons i items ih =>
    obtain ⟨hi, hitems⟩ := List.forall_mem_cons.1 h
    simp only [List.map_cons, writeItems_cons, hi.counter, hi.checkbox, hi.title, hi.contents, ih hitems]

/-! ## Tables -/

/-- A cell is measured and then the cells behind it. -/
theorem measureCells_cons (c : Cell) (cells : Row) : measureCells s (c :: cells) =
    Parts.write s .seen c.content >>= fun seen => measureCells s cells >>= fun rest =>
      pure (Entry.ofSeen c.rawText seen :: rest) := by
  cases c
  rw [measureCells, Parts.write, bind_assoc]

/-- Two cells with the same raw text, of which the same is seen. -/
structure Cell.MeasuresAs (s s' : Setup) (c c' : Cell) : Prop where
  raw : c.raw = c'.raw
  content : Parts.write s .seen c.content = Parts.write s' .seen c'.content

theorem measureCells_map {g : Cell → Cell} {cells : Row} (h : ∀ c ∈ cells, (g c).MeasuresAs s s' c) :
    measureCells s (cells.map g) = measureCells s' cells := by
  induction cells with
  | nil => rfl
  | cons c cells ih =>
    obtain ⟨hc, hcells⟩ := List.forall_mem_cons.1 h
    have hraw : (g c).rawText = c.rawText := by rw [Cell.rawText, Cell.rawText, hc.raw]
    rw [List.map_cons, measureCells_cons, measureCells_cons, hc.content, hraw, ih hcells]

theorem measureRows_map {g : Cell → Cell} {rows : List Row} (h : ∀ row ∈ rows, ∀ c ∈ row, (g c).MeasuresAs s s' c) :
    measureRows s (rows.map (List.map g)) = measureRows s' rows := by
  induction rows with
  | nil => rfl
  | cons row rows ih =>
    obtain ⟨hrow, hrows⟩ := List.forall_mem_cons.1 h
    rw [List.map_cons, measureRows, measureRows, measureCells_map hrow, ih hrows]

/-- A check that looks at raw cells alone passes the same tables. -/
theorem checkCells_map {check : Cell → Except Fault Unit} {g : Cell → Cell} (h : ∀ c, check (g c) = check c)
    (rows : List Row) : checkCells check (rows.map (List.map g)) = checkCells check rows := by
  rw [checkCells, checkCells, ← List.map_flatten]
  induction rows.flatten with
  | nil => rfl
  | cons c cs ih =>
    show (check (g c) >>= fun _ => (cs.map g).forM check) = check c >>= fun _ => cs.forM check
    rw [h, ih]

theorem write_table_map {g : Cell → Cell} {rows : List Row} (raw : ∀ c, (g c).raw = c.raw)
    (h : ∀ row ∈ rows, ∀ c ∈ row, (g c).MeasuresAs s s' c) :
    (Record.table (rows.map (List.map g))).write s view = (Record.table rows).write s' view := by
  cases view with
  | seen => rfl
  | raw =>
    have hcountable : ∀ c, (g c).checkCountable = c.checkCountable :=
      fun c => by rw [Cell.checkCountable, Cell.checkCountable, raw]
    have htext : ∀ c, (g c).checkText = c.checkText := fun c => by rw [Cell.checkText, Cell.checkText, raw]
    have hempty : (rows.map (List.map g)).isEmpty = rows.isEmpty := List.isEmpty_map
    have hfinish : finishTable (rows.map (List.map g)) = finishTable rows := by
      funext entries
      rw [finishTable, finishTable, checkCells_map htext, List.length_map]
    rw [Record.write, Record.write, hempty, checkCells_map hcountable, measureRows_map h, hfinish]

/-! ## Headings -/

theorem writeProperties_map {g : Property → Property} {ps : List Property}
    (h : ∀ p ∈ ps, (g p).name = p.name ∧ Parts.write s .raw (g p).value = Parts.write s' .raw p.value) :
    writeProperties s (ps.map g) = writeProperties s' ps := by
  induction ps with
  | nil => rfl
  | cons p ps ih =>
    obtain ⟨⟨hname, hvalue⟩, hps⟩ := List.forall_mem_cons.1 h
    rw [List.map_cons, writeProperties, writeProperties, hname, hvalue, ih hps]

theorem writeHeadings_map {g : Heading → Heading} {hs : List Heading}
    (h : ∀ x ∈ hs, (g x).write s true .null = x.write s' true .null) :
    writeHeadings s (hs.map g) = writeHeadings s' hs := by
  induction hs with
  | nil => rfl
  | cons x hs ih =>
    obtain ⟨hx, hrest⟩ := List.forall_mem_cons.1 h
    rw [List.map_cons, writeHeadings, writeHeadings, hx, ih hrest]

end OrgOutline
