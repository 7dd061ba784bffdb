import OrgOutline.Document.Write
import OrgOutline.Proofs.Runs
import OrgOutline.Proofs.Within

/-!
# Reports leave the text alone

Two setups that differ only in what becomes of reports (`Setup.Retells`) write the same. The notices that are given with the
one are retold in the way of the other (`Run.retell`), and what a retold run gives was given before (`Run.outcome_of_retell`).
Main statements: this holds of running text, of the parts of a heading and of documents (`Parts.write_eq_retell`,
`Document.write_eq_retell`), and so every setup writes what one writes whose collector keeps everything (`Setup.observing`).
-/

namespace OrgOutline

variable {α β : Type}

/-- A notice that only tells a detail. -/
def Notice.isDetail (n : Notice) : Bool := n.level? == some .debug

/-! ## Retold runs -/

namespace Run

/-- A run in which something is done for each notice in the place of giving it. -/
def retell (h : Notice → Run Unit) (x : Run α) : Run α := do
  x.notices.forM h
  .ofExcept x.outcome

variable {h : Notice → Run Unit}

@[simp] theorem retell_ofExcept (x : Except Fault α) : (ofExcept x).retell h = ofExcept x := rfl

@[simp] theorem retell_pure (a : α) : (pure a : Run α).retell h = pure a := rfl

theorem retell_note (n : Notice) : (note n).retell h = h n := by
  have hone : (note n).retell h = (do h n; pure ()) >>= fun _ => pure () := rfl
  rw [hone, bind_pure_unit, bind_pure_unit]

/-- Runs after each other are retold one after the other. -/
theorem retell_bind (x : Run α) (f : α → Run β) : (x >>= f).retell h = x.retell h >>= fun a => (f a).retell h := by
  obtain ⟨ns, o⟩ := x
  cases o with
  | error e =>
    show (ns.forM h >>= fun _ => ofExcept (.error e)) = (ns.forM h >>= fun _ => ofExcept (.error e)) >>= _
    rw [bind_assoc]
    rfl
  | ok a =>
    show (forM (ns ++ (f a).notices) h >>= fun _ => ofExcept (f a).outcome) =
      (forM ns h >>= fun _ => ofExcept (.ok a)) >>= _
    rw [List.forM_append, bind_assoc, bind_assoc]
    rfl

/-- A run in which each notice is given again is the run. -/
theorem retell_note_eq (x : Run α) : x.retell note = x := by
  have hnotices : ∀ ns : List Notice, ns.forM note = ⟨ns, .ok ()⟩ := by
    intro ns
    induction ns with
    | nil => rfl
    | cons n ns ih =>
      show (note n >>= fun _ => ns.forM note) = _
      rw [ih]
      rfl
  rw [retell, hnotices]
  exact Run.ext (List.append_nil _) rfl

/-- What a retold run gives is what the run gave. -/
theorem outcome_of_retell {x : Run α} {a : α} (hx : (x.retell h).outcome = .ok a) : x.outcome = .ok a := by
  obtain ⟨_, -, hx⟩ := outcome_bind_eq_ok.1 hx
  exact hx

end Run

open Run (retell retell_bind retell_note retell_pure retell_ofExcept)

/-! ## Setups that retell -/

/-- The first setup writes as the second one does, but has its own way with each notice. -/
structure Setup.Retells (h : Notice → Run Unit) (s s₀ : Setup) : Prop where
  timestampText : s.timestampText = s₀.timestampText
  durationText : s.durationText = s₀.durationText
  keepsEntry : s.keepsEntry = s₀.keepsEntry
  report : ∀ c part, s.report c part = (s₀.report c part).retell h
  detail : ∀ n : Notice, n.isDetail = true → h n = .note n

/-- The setup with a collector that keeps every report, in which no part is a failure. -/
def Setup.observing (s : Setup) : Setup :=
  { s with collector := .keeping, options := { s.options with failOnUnknown := .bool false } }

/-- What a setup does with a notice of the observing one: a report is reported in its own way. -/
def Setup.handOn (s : Setup) : Notice → Run Unit
  | .reported r => s.report r.component r.part
  | n => .note n

/-- Every setup retells the observing one. -/
theorem Setup.retells_observing (s : Setup) : s.Retells s.handOn s.observing where
  timestampText := rfl
  durationText := rfl
  keepsEntry := rfl
  report c part := by
    have hkept : s.observing.report c part = .ofExcept (Json.checkShown [part]) >>= fun _ => .note (.reported ⟨part, c⟩) := rfl
    rw [hkept, retell_bind, retell_ofExcept]
    simp only [retell_note]
    -- Both look whether the part can be shown, and doing so twice is doing so once.
    show s.report c part = .ofExcept (Json.checkShown [part]) >>= fun _ => s.report c part
    rw [report]
    cases Json.checkShown [part] <;> rfl
  detail n hn := by
    cases n with
    | reported r => nomatch hn
    | _ => rfl

/-- The setup with a value of its own for the option for drawers. -/
def Setup.dontIndent (s : Setup) (flush : Json) : Setup := { s with options := { s.options with dontIndent := flush } }

/-- The option for drawers has no influence on what becomes of notices. -/
theorem Setup.retells_dontIndent (s : Setup) (flush : Json) : Setup.Retells .note (s.dontIndent flush) s where
  timestampText := rfl
  durationText := rfl
  keepsEntry := rfl
  report _ _ := (Run.retell_note_eq _).symm
  detail _ _ := rfl

variable {g : Notice → Run Unit} {s s₀ : Setup} (hs : s.Retells g s₀)

/-! ## Running text -/

/-- A record is written with the first setup as it is with the second one, retold. -/
def Record.IsRetold (g : Notice → Run Unit) (s s₀ : Setup) (r : Record) : Prop :=
  ∀ view, r.write s view = (r.write s₀ view).retell g

theorem writePieces_eq_retell {rs : Parts} (h : ∀ r ∈ rs, r.IsRetold g s s₀) (view : View) (behindBlock : Bool) :
    writePieces s view behindBlock rs = (writePieces s₀ view behindBlock rs).retell g := by
  induction rs generalizing behindBlock with
  | nil => rfl
  | cons r rs ih =>
    obtain ⟨hr, hrs⟩ := List.forall_mem_cons.1 h
    rw [writePieces, writePieces, hr view]
    simp only [retell_bind, retell_ofExcept, retell_pure, ih hrs]

theorem writeItems_eq_retell {items : List Item} (h : ∀ i ∈ items, ∀ r ∈ i.title ++ i.contents, r.IsRetold g s s₀)
    (view : View) (style : ItemStyle) (number : Json) :
    writeItems s view style number items = (writeItems s₀ view style number items).retell g := by
  induction items generalizing number with
  | nil => rfl
  | cons i items ih =>
    obtain ⟨title, contents, checkbox, state, counter⟩ := i
    obtain ⟨hi, hitems⟩ := List.forall_mem_cons.1 h
    obtain ⟨ht, hc⟩ := List.forall_mem_append.1 hi
    rw [writeItems, writeItems]
    simp only [retell_bind, retell_ofExcept, retell_pure, writePieces_eq_retell ht, writePieces_eq_retell hc, ih hitems]

theorem measureCells_eq_retell {cells : Row} (h : ∀ c ∈ cells, ∀ r ∈ c.content, r.IsRetold g s s₀) :
    measureCells s cells = (measureCells s₀ cells).retell g := by
  induction cells with
  | nil => rfl
  | cons c cells ih =>
    obtain ⟨content, raw⟩ := c
    obtain ⟨hc, hcells⟩ := List.forall_mem_cons.1 h
    rw [measureCells, measureCells]
    simp only [retell_bind, retell_ofExcept, retell_pure, writePieces_eq_retell hc, ih hcells]

theorem measureRows_eq_retell {rows : List Row} (h : ∀ row ∈ rows, ∀ c ∈ row, ∀ r ∈ c.content, r.IsRetold g s s₀) :
    measureRows s rows = (measureRows s₀ rows).retell g := by
  induction rows with
  | nil => rfl
  | cons row rows ih =>
    obtain ⟨hrow, hrows⟩ := List.forall_mem_cons.1 h
    rw [measureRows, measureRows]
    simp only [retell_bind, retell_pure, measureCells_eq_retell hrow, ih hrows]

include hs

theorem stampText_eq_of_retells (first : Timestamp) (second : Option Timestamp) :
    stampText s first second = stampText s₀ first second := by
  unfold stampText
  rw [hs.timestampText]

theorem finishTable_eq_retell (rows : List Row) (entries : List (List Entry)) :
    finishTable rows entries = (finishTable rows entries).retell g := by
  rw [finishTable, retell_bind, retell_note, hs.detail _ rfl]
  simp only [retell_bind, retell_ofExcept, retell_pure]

theorem Record.write_eq_retell (r : Record) : r.IsRetold g s s₀ := by
  induction r using Record.withinInduction with
  | step r ih =>
    intro view
    cases r with
    | list items bullet ordered terminator =>
      have h : ∀ i ∈ items, ∀ r ∈ i.title ++ i.contents, r.IsRetold g s s₀ :=
        fun i hi r hr => ih (.listItem i) (List.mem_map_of_mem hi) r (mem_within_of_mem_children hr (mem_within_self r))
      rw [write, write, retell_bind, writeItems_eq_retell h]
      rfl
    | table rows =>
      have h : ∀ row ∈ rows, ∀ c ∈ row, ∀ r ∈ c.content, r.IsRetold g s s₀ :=
        fun row hrow c hc r hr => ih (.row row) (List.mem_map_of_mem hrow) r
          (mem_within_of_mem_children (List.mem_map_of_mem hc) (mem_within_of_mem_children hr (mem_within_self r)))
      cases view with
      | seen => rfl
      | raw =>
        rw [write, write]
        split
        · rfl
        · simp only [retell_bind, retell_ofExcept, retell_pure, measureRows_eq_retell h, ← finishTable_eq_retell hs]
    | stamp first second =>
      rw [write, write, retell_bind, stampText_eq_of_retells hs]
      rfl
    | fraction done all =>
      rw [write, write, retell_bind]
      rfl
    | percentage v =>
      rw [write, write, retell_bind]
      rfl
    | text content => rfl
    | link target label => rfl
    | bareLink kind content => rfl
    | _ =>
      simp only [write, retell_bind, retell_pure, ← hs.report]

/-- Running text is written with the first setup as it is with the second one, retold. -/
theorem Parts.write_eq_retell (view : View) (parts : Parts) :
    Parts.write s view parts = (Parts.write s₀ view parts).retell g := by
  rw [Parts.write, Parts.write, retell_bind, writePieces_eq_retell fun r _ => r.write_eq_retell hs]
  rfl

/-! ## Headings and documents -/

theorem keptEntries_eq_retell (is : List PlanningEntry) : keptEntries s is = (keptEntries s₀ is).retell g := by
  induction is with
  | nil => rfl
  | cons i is ih =>
    rw [keptEntries, keptEntries, hs.keepsEntry]
    simp only [retell_bind, retell_ofExcept, retell_pure, ih]

theorem writePlanning_eq_retell (indentation : Text) (is : List PlanningEntry) :
    writePlanning s indentation is = (writePlanning s₀ indentation is).retell g := by
  have htext : planningText s = planningText s₀ := by
    funext i
    rw [planningText, planningText, hs.timestampText]
  rw [writePlanning, writePlanning, htext]
  simp only [retell_bind, retell_ofExcept, retell_pure, ← keptEntries_eq_retell hs]

theorem writeProperties_eq_retell (ps : List Property) : writeProperties s ps = (writeProperties s₀ ps).retell g := by
  induction ps with
  | nil => rfl
  | cons p ps ih =>
    rw [writeProperties, writeProperties]
    simp only [retell_bind, retell_ofExcept, retell_pure, ← Parts.write_eq_retell hs, ih]

theorem writeLogEntry_eq_retell (indentation : Text) (e : LogEntry) :
    writeLogEntry s indentation e = (writeLogEntry s₀ indentation e).retell g := by
  cases e with
  | line words =>
    rw [writeLogEntry, writeLogEntry]
    simp only [retell_bind, retell_ofExcept, retell_pure]
  | clock start stop =>
    cases stop with
    | none =>
      rw [writeLogEntry, writeLogEntry, hs.timestampText]
      simp only [retell_bind, retell_ofExcept, retell_pure]
    | some stop =>
      rw [writeLogEntry, writeLogEntry, hs.timestampText, hs.durationText]
      simp only [retell_bind, retell_ofExcept, retell_pure]

theorem writeLogbook_eq_retell (indentation : Text) (es : List LogEntry) :
    writeLogbook s indentation es = (writeLogbook s₀ indentation es).retell g := by
  induction es with
  | nil => rfl
  | cons e es ih =>
    rw [writeLogbook, writeLogbook]
    simp only [retell_bind, retell_pure, ← writeLogEntry_eq_retell hs, ih]

/-- A heading is written with the first setup as it is with the second one, retold, if its drawers are indented alike. -/
theorem Heading.write_eq_retell (h : Heading) (withLine : Bool) {flush flush₀ : Json}
    (hflush : drawersFlush s flush = drawersFlush s₀ flush₀) :
    h.write s withLine flush = (h.write s₀ withLine flush₀).retell g := by
  rw [Heading.write, Heading.write, hflush]
  simp only [retell_bind, retell_ofExcept, retell_pure, ← writePlanning_eq_retell hs, ← writeProperties_eq_retell hs,
    ← writeLogbook_eq_retell hs]

omit hs in
/-- Whether the drawers are at the left edge is all that the option for drawers and the caller have a say in. -/
theorem Heading.write_eq_of_drawersFlush (s : Setup) (h : Heading) (withLine : Bool) {option told : Json} {flush : Bool}
    (hflush : drawersFlush (s.dontIndent option) told = flush) :
    h.write (s.dontIndent option) withLine told = h.write s withLine (.bool flush) := by
  have hsame : drawersFlush (s.dontIndent option) told = drawersFlush s (.bool flush) := hflush
  rw [h.write_eq_retell (s.retells_dontIndent option) withLine hsame, Run.retell_note_eq]

/-- A document is written with the first setup as it is with the second one, retold, if the option for drawers is the same. -/
theorem Document.write_eq_retell (d : Document) (hindent : s.options.dontIndent = s₀.options.dontIndent) :
    d.write s = (d.write s₀).retell g := by
  have hheadings : ∀ hds, writeHeadings s hds = (writeHeadings s₀ hds).retell g := by
    intro hds
    induction hds with
    | nil => rfl
    | cons h hds ih =>
      have hflush : drawersFlush s .null = drawersFlush s₀ .null := congrArg Json.isSet hindent
      rw [writeHeadings, writeHeadings]
      simp only [retell_bind, retell_pure, ← h.write_eq_retell hs true hflush, ih]
  have hbegun : ∀ m n, g (.documentBegun m n) = .note (.documentBegun m n) := fun _ _ => hs.detail _ rfl
  rw [Document.write, Document.write]
  simp only [retell_bind, retell_ofExcept, retell_pure, retell_note, hbegun, ← hheadings]

end OrgOutline
