import OrgOutline.Document.Write
import OrgOutline.Proofs.Alike
import OrgOutline.Proofs.SideBySide
import OrgOutline.Proofs.Within

/-!
# Which timestamps are written

Not every timestamp of a document leaves a trace in its text: those in the cells of tables are only measured, and so are none
of those in records that are no parts, or in planning entries that stay in the body. The others are listed by
`Document.writtenStamps`. Two setups agree on a record (`Setup.Agree`) when they treat it in the same way, apart from texts of
timestamps that are alike, and equal under a condition on the timestamp. Main statement: writing a document with two setups
that agree on it goes side by side, and the two texts are equal exactly when every written timestamp meets the condition
(`Document.write_related`).
-/

namespace OrgOutline

open Text (Alike AlikeIf AllAlikeIf)
open Run (Related)

/-! ## Written timestamps -/

mutual
/-- The timestamps that are written where a record stands in running text. -/
def Record.writtenStamps : Record → List Timestamp
  | .stamp first second => first :: second.toList
  | .list items _ _ _ => writtenInItems items
  | _ => []
termination_by structural x => x

/-- The timestamps that are written in the items of a list. -/
def writtenInItems : List Item → List Timestamp
  | [] => []
  | ⟨title, contents, _, _, _⟩ :: items => writtenInParts title ++ writtenInParts contents ++ writtenInItems items
termination_by structural x => x

/-- The timestamps that are written in running text. -/
def writtenInParts : List Record → List Timestamp
  | [] => []
  | r :: rs => r.writtenStamps ++ writtenInParts rs
termination_by structural x => x
end

/-- The timestamps of an entry of a logbook. -/
def LogEntry.stamps : LogEntry → List Timestamp
  | .line _ => []
  | .clock start stop => start :: stop.toList

/-- Whether a planning entry is chosen for the planning line. -/
def Setup.keeps (s : Setup) (i : PlanningEntry) : Bool :=
  match s.keepsEntry i with
  | .ok keep => keep
  | .error _ => false

/-- The timestamps that are written with a heading. -/
def Heading.writtenStamps (s : Setup) (h : Heading) : List Timestamp :=
  (h.planning.filter s.keeps).map PlanningEntry.timestamp ++ h.properties.flatMap (fun p => writtenInParts p.value) ++
    h.logbook.flatMap LogEntry.stamps

/-- The timestamps that are written with a document. -/
def Document.writtenStamps (s : Setup) (d : Document) : List Timestamp := d.headings.flatMap (Heading.writtenStamps s)

/-! ## Setups that agree -/

/-- Two setups that differ on a record at most in texts of timestamps: these are alike, and equal under a condition on the
timestamp. -/
structure Setup.Agree (s s' : Setup) (same : Timestamp → Prop) (r : Record) : Prop where
  options : s.options = s'.options
  collector : s.collector = s'.collector
  stamps : ∀ t, .timestamp t ∈ r.within → RelatedOutcomes (AlikeIf (same t)) (s.timestampText t) (s'.timestampText t)
  durations : ∀ a b, .logEntry (.clock a (some b)) ∈ r.within → s.durationText a b = s'.durationText a b
  entries : ∀ i, .planning i ∈ r.within → s.keepsEntry i = s'.keepsEntry i

variable {s s' : Setup} {same : Timestamp → Prop}

/-- Setups that agree on a record agree on all that is inside it. -/
theorem Setup.Agree.of_mem_within {r x : Record} (h : s.Agree s' same r) (hx : x ∈ r.within) : s.Agree s' same x where
  options := h.options
  collector := h.collector
  stamps t ht := h.stamps t (Record.mem_within_trans hx ht)
  durations a b hc := h.durations a b (Record.mem_within_trans hx hc)
  entries i hi := h.entries i (Record.mem_within_trans hx hi)

theorem Setup.Agree.child {r c : Record} (h : s.Agree s' same r) (hc : c ∈ r.children) : s.Agree s' same c :=
  h.of_mem_within (Record.mem_within_of_mem_children hc c.mem_within_self)

/-! ## Pieces -/

/-- Pieces that are both no texts, or texts that are alike and equal exactly under a condition. -/
def PieceAlikeIf (same : Prop) : Piece → Piece → Prop
  | some t, some t' => AlikeIf same t t'
  | none, none => True
  | _, _ => False

theorem PieceAlikeIf.refl (p : Piece) : PieceAlikeIf True p p := by
  cases p with
  | none => trivial
  | some t => exact AlikeIf.refl t

theorem PieceAlikeIf.congr {p q : Prop} {x y : Piece} (h : PieceAlikeIf p x y) (hpq : p ↔ q) : PieceAlikeIf q x y := by
  cases x <;> cases y
  · trivial
  · exact h
  · exact h
  · exact AlikeIf.congr h hpq

/-- A piece is placed behind the part before it in the same way as one that is alike. -/
theorem PieceAlikeIf.place {p : Prop} {x y : Piece} (h : PieceAlikeIf p x y) (view : View) (behindBlock : Bool) :
    RelatedOutcomes (PieceAlikeIf p) (view.place behindBlock x) (view.place behindBlock y) := by
  unfold View.place
  split
  · cases x <;> cases y
    · exact rfl
    · exact h.elim
    · exact h.elim
    · exact AlikeIf.cons '\n' h
  · exact h

/-- Pieces in front of others are joined with them side by side. -/
theorem PieceAlikeIf.join_cons {p q : Prop} {x y : Piece} {xs ys : List Piece} (h : PieceAlikeIf p x y)
    (hs : RelatedOutcomes (AlikeIf q) (Piece.join xs) (Piece.join ys)) :
    RelatedOutcomes (AlikeIf (p ∧ q)) (Piece.join (x :: xs)) (Piece.join (y :: ys)) := by
  cases x <;> cases y
  · exact rfl
  · exact h.elim
  · exact h.elim
  · exact hs.map fun _ _ ht => AlikeIf.append h ht

/-! ## Lists and tables -/

/-- What stands below an item is indented side by side. -/
theorem alikeIf_indent (style : ItemStyle) {t t' : Text} (h : Alike t t') :
    AlikeIf (t = t') (style.indent t) (style.indent t') := by
  have hline : ∀ l l', Alike l l' → AlikeIf (l = l') (style.indentLine l) (style.indentLine l') := by
    intro l l' hl
    unfold ItemStyle.indentLine
    rw [← hl.allBlank_eq]
    split
    · rename_i hb
      exact (AlikeIf.refl []).congr (iff_of_true trivial (hl.eq_of_allBlank hb))
    · exact hl.alikeIf.prepend _
  exact (h.allAlikeIf_lines.map hline).unlines

theorem alikeIf_itemText (style : ItemStyle) (mark checkbox : Text) {p q : Prop} {title title' contents contents' : Text}
    (ht : AlikeIf p title title') (hc : AlikeIf q contents contents') :
    AlikeIf (p ∧ q) (style.itemText mark checkbox title contents) (style.itemText mark checkbox title' contents') := by
  have hbelow : AlikeIf q (if contents.isEmpty then [] else '\n' :: style.indent contents)
      (if contents'.isEmpty then [] else '\n' :: style.indent contents') := by
    rw [← hc.alike.isEmpty_eq]
    split
    · rename_i he
      have hc' : contents' = [] := List.isEmpty_iff.1 (hc.alike.isEmpty_eq ▸ he)
      exact (AlikeIf.refl []).congr (iff_of_true trivial (hc.eq_iff.1 ((List.isEmpty_iff.1 he).trans hc'.symm)))
    · exact ((alikeIf_indent style hc.alike).congr hc.eq_iff).cons '\n'
  have htitle := (ht.cons ' ').prepend (mark ++ checkbox)
  simpa [ItemStyle.itemText] using htitle.append hbelow

/-- A cell is measured by texts that are alike in the same way. -/
theorem ofSeen_eq_of_alike (raw : Text) {seen seen' : Text} (h : Alike seen seen') :
    Entry.ofSeen raw seen = Entry.ofSeen raw seen' := by
  have hwidths : seen.lines.map (fun l => l.trim.length) = seen'.lines.map (fun l => l.trim.length) := by
    have hl := h.lines
    generalize seen.lines = ls at hl ⊢
    generalize seen'.lines = ls' at hl ⊢
    induction hl with
    | nil => rfl
    | cons hl _ ih => rw [List.map_cons, List.map_cons, ih, hl.trim.length_eq]
  rw [Entry.ofSeen, Entry.ofSeen, hwidths]

/-! ## Running text -/

/-- A record is written side by side in every view. -/
def Record.SideBySide (s s' : Setup) (same : Timestamp → Prop) (r : Record) : Prop :=
  ∀ view, Related (PieceAlikeIf (∀ t ∈ r.writtenStamps, same t)) (r.write s view) (r.write s' view)

theorem writePieces_related {rs : Parts} (h : ∀ r ∈ rs, r.SideBySide s s' same) (view : View) (behindBlock : Bool) :
    Related (fun ps ps' => RelatedOutcomes (AlikeIf (∀ t ∈ writtenInParts rs, same t)) (Piece.join ps) (Piece.join ps'))
      (writePieces s view behindBlock rs) (writePieces s' view behindBlock rs) := by
  induction rs generalizing behindBlock with
  | nil => exact Related.pure ((AlikeIf.refl []).congr (iff_of_true trivial (List.forall_mem_nil _)))
  | cons r rs ih =>
    obtain ⟨hr, hrs⟩ := List.forall_mem_cons.1 h
    rw [writePieces, writePieces]
    refine (hr view).bind fun p p' hp => (Related.ofExcept (hp.place view behindBlock)).bind fun p p' hp => ?_
    refine (ih hrs r.isBlock).bind fun ps ps' hps => Related.pure ?_
    exact (hp.join_cons hps).mono fun _ _ ht => ht.congr List.forall_mem_append.symm

theorem writeItems_related {items : List Item} (h : ∀ i ∈ items, ∀ r ∈ i.title ++ i.contents, r.SideBySide s s' same)
    (view : View) (style : ItemStyle) (number : Json) : Related (AllAlikeIf (∀ t ∈ writtenInItems items, same t))
      (writeItems s view style number items) (writeItems s' view style number items) := by
  induction items generalizing number with
  | nil => exact Related.pure (AllAlikeIf.nil.congr (iff_of_true trivial (List.forall_mem_nil _)))
  | cons i items ih =>
    obtain ⟨title, contents, checkbox, state, counter⟩ := i
    obtain ⟨hi, hitems⟩ := List.forall_mem_cons.1 h
    obtain ⟨ht, hc⟩ := List.forall_mem_append.1 hi
    rw [writeItems, writeItems]
    refine Related.bind_self _ fun number _ => Related.bind_self _ fun mark _ => ?_
    refine (writePieces_related ht view false).bind fun ps ps' hps => (Related.ofExcept hps).bind fun t t' htitle => ?_
    refine (writePieces_related hc view false).bind fun ps ps' hps => (Related.ofExcept hps).bind fun c c' hcontents => ?_
    refine (ih hitems number).bind fun ts ts' hts => Related.pure ?_
    refine (AllAlikeIf.cons (alikeIf_itemText style mark _ htitle hcontents) hts).congr ?_
    rw [writtenInItems, List.forall_mem_append, List.forall_mem_append]

theorem measureCells_related {cells : Row} (h : ∀ c ∈ cells, ∀ r ∈ c.content, r.SideBySide s s' same) :
    Related Eq (measureCells s cells) (measureCells s' cells) := by
  induction cells with
  | nil => exact Related.pure rfl
  | cons c cells ih =>
    obtain ⟨content, raw⟩ := c
    obtain ⟨hc, hcells⟩ := List.forall_mem_cons.1 h
    rw [measureCells, measureCells]
    refine (writePieces_related hc .seen false).bind fun ps ps' hps => (Related.ofExcept hps).bind fun t t' ht => ?_
    refine (ih hcells).bind fun es es' hes => Related.pure ?_
    rw [ofSeen_eq_of_alike _ ht.alike, hes]

theorem measureRows_related {rows : List Row} (h : ∀ row ∈ rows, ∀ c ∈ row, ∀ r ∈ c.content, r.SideBySide s s' same) :
    Related Eq (measureRows s rows) (measureRows s' rows) := by
  induction rows with
  | nil => exact Related.pure rfl
  | cons row rows ih =>
    obtain ⟨hrow, hrows⟩ := List.forall_mem_cons.1 h
    rw [measureRows, measureRows]
    refine (measureCells_related hrow).bind fun es es' hes => (ih hrows).bind fun rest rest' hrest => Related.pure ?_
    rw [hes, hrest]

theorem stampText_related {first : Timestamp} {second : Option Timestamp} (h : s.Agree s' same (.stamp first second)) :
    RelatedOutcomes (AlikeIf (∀ t ∈ first :: second.toList, same t)) (stampText s first second) (stampText s' first second) := by
  have hwithin : ∀ t ∈ first :: second.toList, .timestamp t ∈ (Record.stamp first second).within := by
    intro t ht
    cases second <;> simp_all [Record.within, stampRecords]
  have hstamp := fun t ht => h.stamps t (hwithin t ht)
  obtain ⟨h1, h2⟩ := List.forall_mem_cons.1 hstamp
  cases second with
  | none => exact h1.mono fun _ _ ht => ht.congr (by simp)
  | some t =>
    refine h1.bind fun _ _ ht => (h2 t (List.mem_singleton.2 rfl)).bind fun _ _ hu => ?_
    exact ((ht.postpend rangeMark).append hu).congr (by simp)

/-- A part that is not recognized is reported in the same way. -/
theorem Setup.Agree.report_eq {r : Record} (h : s.Agree s' same r) (component : Component) (kind : Json) :
    s.report component kind = s'.report component kind := by
  rw [Setup.report, Setup.report, h.options, h.collector]

/-- A record that is written in the same way, and in which no timestamp is written, is written side by side. -/
theorem Record.sideBySide_of_eq {r : Record} (hr : r.writtenStamps = []) (h : ∀ view, r.write s view = r.write s' view) :
    r.SideBySide s s' same := by
  intro view
  rw [h view, hr]
  exact Related.refl (fun p => (PieceAlikeIf.refl p).congr (iff_of_true trivial (List.forall_mem_nil _))) _

/-- A record is written side by side with setups that agree on it. -/
theorem Record.write_related (r : Record) (h : s.Agree s' same r) : r.SideBySide s s' same := by
  induction r using Record.withinInduction with
  | step r ih =>
    have ih : ∀ c ∈ r.children, ∀ x ∈ c.within, x.SideBySide s s' same :=
      fun c hc x hx => ih c hc x hx ((h.child hc).of_mem_within hx)
    cases r with
    | stamp first second =>
      intro view
      rw [write, write]
      exact (Related.ofExcept (stampText_related h)).bind fun t t' ht => Related.pure ht
    | list items bullet ordered terminator =>
      intro view
      rw [write, write]
      refine (writeItems_related (fun i hi r hr => ?_) view _ _).bind fun ts ts' hts => Related.pure hts.unlines
      exact ih (.listItem i) (List.mem_map_of_mem hi) r (mem_within_of_mem_children hr (mem_within_self r))
    | table rows =>
      have hcells : ∀ row ∈ rows, ∀ c ∈ row, ∀ r ∈ c.content, r.SideBySide s s' same := fun row hrow c hc r hr =>
        ih (.row row) (List.mem_map_of_mem hrow) r
          (mem_within_of_mem_children (List.mem_map_of_mem hc) (mem_within_of_mem_children hr (mem_within_self r)))
      have hrows : measureRows s rows = measureRows s' rows := (measureRows_related hcells).eq
      refine sideBySide_of_eq rfl ?_
      intro view
      cases view with
      | seen => rfl
      | raw => simp only [write, hrows]
    | text content => exact sideBySide_of_eq rfl fun _ => rfl
    | link target label => exact sideBySide_of_eq rfl fun _ => rfl
    | fraction done all => exact sideBySide_of_eq rfl fun _ => rfl
    | percentage v => exact sideBySide_of_eq rfl fun _ => rfl
    | bareLink kind content => exact sideBySide_of_eq rfl fun _ => rfl
    | _ =>
      refine sideBySide_of_eq rfl ?_
      intro view
      simp only [write, h.report_eq]

/-- Running text is written side by side with setups that agree on its parts. -/
theorem writeParts_related {parts : Parts} (h : ∀ r ∈ parts, s.Agree s' same r) (view : View) :
    Related (AlikeIf (∀ t ∈ writtenInParts parts, same t)) (Parts.write s view parts) (Parts.write s' view parts) :=
  (writePieces_related (fun r hr => r.write_related (h r hr)) view false).bind fun _ _ hps => Related.ofExcept hps

/-! ## Headings -/

theorem keptEntries_related {is : List PlanningEntry} (h : ∀ i ∈ is, s.keepsEntry i = s'.keepsEntry i) :
    Related (fun kept kept' => kept = kept' ∧ kept = is.filter s.keeps) (keptEntries s is) (keptEntries s' is) := by
  induction is with
  | nil => exact Related.pure ⟨rfl, rfl⟩
  | cons i is ih =>
    obtain ⟨hi, his⟩ := List.forall_mem_cons.1 h
    have hkeep : RelatedOutcomes (fun keep keep' => keep = keep' ∧ s.keeps i = keep) (s.keepsEntry i) (s'.keepsEntry i) := by
      rw [← hi, Setup.keeps]
      cases s.keepsEntry i with
      | ok keep => exact ⟨rfl, rfl⟩
      | error e => exact rfl
    rw [keptEntries, keptEntries]
    refine (Related.ofExcept hkeep).bind fun keep keep' hk => (ih his).bind fun rest rest' hrest => Related.pure ?_
    obtain ⟨rfl, hk⟩ := hk
    obtain ⟨rfl, rfl⟩ := hrest
    rw [List.filter_cons, hk]
    exact ⟨rfl, rfl⟩

theorem planningTexts_related {is : List PlanningEntry}
    (h : ∀ i ∈ is, RelatedOutcomes (AlikeIf (same i.timestamp)) (s.timestampText i.timestamp) (s'.timestampText i.timestamp)) :
    RelatedOutcomes (AllAlikeIf (∀ t ∈ is.map PlanningEntry.timestamp, same t)) (is.mapM (planningText s))
      (is.mapM (planningText s')) := by
  induction is with
  | nil => exact AllAlikeIf.nil.congr (iff_of_true trivial (List.forall_mem_nil _))
  | cons i is ih =>
    obtain ⟨hi, his⟩ := List.forall_mem_cons.1 h
    have htext : RelatedOutcomes (AlikeIf (same i.timestamp)) (planningText s i) (planningText s' i) := by
      rw [planningText, planningText]
      cases Json.checkShown [i.kind] with
      | error f => exact rfl
      | ok _ => exact hi.bind fun _ _ ht => ((ht.cons ' ').cons ':').prepend i.kind.shown
    rw [List.mapM_cons, List.mapM_cons]
    refine htext.bind fun t t' ht => (ih his).bind fun ts ts' hts => ?_
    exact (AllAlikeIf.cons ht hts).congr List.forall_mem_cons.symm

theorem alikeIf_planningLine (indentation : Text) {p : Prop} {ts ts' : List Text} (h : AllAlikeIf p ts ts') :
    AlikeIf p (planningLine indentation ts) (planningLine indentation ts') :=
  h.ite_isEmpty (f := fun ts => indentation ++ Text.trimEnd ([' '].intercalate ts) ++ ['\n'])
    (((h.intercalate [' ']).trimEnd.prepend indentation).postpend ['\n'])

theorem writePlanning_related {is : List PlanningEntry} (indentation : Text)
    (hk : ∀ i ∈ is, s.keepsEntry i = s'.keepsEntry i)
    (ht : ∀ i ∈ is, RelatedOutcomes (AlikeIf (same i.timestamp)) (s.timestampText i.timestamp) (s'.timestampText i.timestamp)) :
    Related (AlikeIf (∀ t ∈ (is.filter s.keeps).map PlanningEntry.timestamp, same t))
      (writePlanning s indentation is) (writePlanning s' indentation is) := by
  rw [writePlanning, writePlanning]
  refine (keptEntries_related hk).bind fun kept kept' hkept => ?_
  obtain ⟨rfl, rfl⟩ := hkept
  refine (Related.ofExcept (planningTexts_related fun i hi => ht i (List.mem_filter.1 hi).1)).bind fun ts ts' hts => ?_
  exact Related.pure (alikeIf_planningLine indentation hts)

theorem writeProperties_related {ps : List Property} (h : ∀ p ∈ ps, ∀ r ∈ p.value, s.Agree s' same r) :
    Related (AllAlikeIf (∀ t ∈ ps.flatMap fun p => writtenInParts p.value, same t)) (writeProperties s ps)
      (writeProperties s' ps) := by
  induction ps with
  | nil => exact Related.pure (AllAlikeIf.nil.congr (iff_of_true trivial (List.forall_mem_nil _)))
  | cons p ps ih =>
    obtain ⟨hp, hps⟩ := List.forall_mem_cons.1 h
    rw [writeProperties, writeProperties]
    refine Related.bind_self _ fun _ _ => ?_
    refine (writeParts_related hp .raw).bind fun t t' ht => (ih hps).bind fun ts ts' hts => Related.pure ?_
    refine (AllAlikeIf.cons ((ht.cons ' ').cons ':' |>.prepend (':' :: p.name.shown)) hts).congr ?_
    rw [List.flatMap_cons, List.forall_mem_append]

theorem writeLogEntry_related (indentation : Text) {e : LogEntry} (h : s.Agree s' same (.logEntry e)) :
    Related (AlikeIf (∀ t ∈ e.stamps, same t)) (writeLogEntry s indentation e) (writeLogEntry s' indentation e) := by
  cases e with
  | line words => exact Related.refl (fun t => (AlikeIf.refl t).congr (iff_of_true trivial (List.forall_mem_nil _))) _
  | clock start stop =>
    have hstart := h.stamps start (by simp [Record.within, LogEntry.within, stampRecords])
    cases stop with
    | none =>
      rw [writeLogEntry, writeLogEntry]
      refine (Related.ofExcept hstart).bind fun t t' ht => Related.pure ?_
      exact ((ht.prepend _).prepend indentation).congr (by simp [LogEntry.stamps])
    | some stop =>
      have hstop := h.stamps stop (by simp [Record.within, LogEntry.within, stampRecords])
      rw [writeLogEntry, writeLogEntry, h.durations start stop (Record.mem_within_self _)]
      refine (Related.ofExcept hstart).bind fun t t' ht => (Related.ofExcept hstop).bind fun u u' hu => ?_
      refine Related.bind_self _ fun duration _ => Related.pure ?_
      have htimes := ((ht.prepend "CLOCK: ".toList).postpend "--".toList).append hu
      have hclock := (htimes.postpend " => ".toList).postpend duration
      exact (hclock.prepend indentation).congr (by simp [LogEntry.stamps])

theorem writeLogbook_related (indentation : Text) {es : List LogEntry} (h : ∀ e ∈ es, s.Agree s' same (.logEntry e)) :
    Related (AllAlikeIf (∀ t ∈ es.flatMap LogEntry.stamps, same t)) (writeLogbook s indentation es)
      (writeLogbook s' indentation es) := by
  induction es with
  | nil => exact Related.pure (AllAlikeIf.nil.congr (iff_of_true trivial (List.forall_mem_nil _)))
  | cons e es ih =>
    obtain ⟨he, hes⟩ := List.forall_mem_cons.1 h
    rw [writeLogbook, writeLogbook]
    refine (writeLogEntry_related indentation he).bind fun t t' ht => (ih hes).bind fun ts ts' hts => Related.pure ?_
    exact (AllAlikeIf.cons ht hts).congr (by rw [List.flatMap_cons, List.forall_mem_append])

theorem alikeIf_properties (indentation : Text) {p : Prop} {ts ts' : List Text} (h : AllAlikeIf p ts ts') :
    AlikeIf p (Drawer.properties indentation ts) (Drawer.properties indentation ts') := by
  have hlines : AllAlikeIf p (Drawer.propertiesMark :: ts ++ [Drawer.endMark])
      (Drawer.propertiesMark :: ts' ++ [Drawer.endMark]) :=
    ((AllAlikeIf.cons (AlikeIf.refl _) h).postpend _).congr (iff_of_eq (true_and p))
  refine h.ite_isEmpty
    (f := fun ts => Text.unlines ((Drawer.propertiesMark :: ts ++ [Drawer.endMark]).map (indentation ++ ·)) ++ ['\n']) ?_
  exact (hlines.map fun t t' ht => ht.alikeIf.prepend indentation).unlines.postpend ['\n']

theorem alikeIf_logbook (indentation : Text) {p : Prop} {ts ts' : List Text} (h : AllAlikeIf p ts ts') :
    AlikeIf p (Drawer.logbook indentation ts) (Drawer.logbook indentation ts') := by
  refine h.ite_isEmpty (f := fun ts => indentation ++ Drawer.logbookMark ++ '\n' :: (Text.unlines ts).trimEnd ++
    '\n' :: indentation ++ Drawer.endMark ++ ['\n']) ?_
  have htext := (h.unlines.trimEnd.cons '\n').prepend (indentation ++ Drawer.logbookMark)
  exact ((htext.postpend ('\n' :: indentation)).postpend Drawer.endMark).postpend ['\n']

/-- A heading is written side by side with setups that agree on it. -/
theorem Heading.write_related (h : Heading) (hs : s.Agree s' same (.heading h)) (withLine : Bool) (flush : Json) :
    Related (AlikeIf (∀ t ∈ h.writtenStamps s, same t)) (h.write s withLine flush) (h.write s' withLine flush) := by
  have hplanning : ∀ i ∈ h.planning, s.Agree s' same (.planning i) := by
    intro i hi
    exact hs.child (by simp [Record.children, hi])
  have hproperties : ∀ p ∈ h.properties, ∀ r ∈ p.value, s.Agree s' same r := by
    intro p hp r hr
    have hproperty : s.Agree s' same (.property p) := hs.child (by simp [Record.children, hp])
    exact hproperty.child hr
  have hlogbook : ∀ e ∈ h.logbook, s.Agree s' same (.logEntry e) := by
    intro e he
    exact hs.child (by simp [Record.children, he])
  have hflush : drawersFlush s' flush = drawersFlush s flush := by rw [drawersFlush, drawersFlush, hs.options]
  rw [Heading.write, Heading.write, hflush]
  refine Related.bind_self _ fun indentation _ => Related.bind_self _ fun opening _ => ?_
  refine (writePlanning_related indentation (fun i hi => (hplanning i hi).entries i (Record.mem_within_self _))
    (fun i hi => (hplanning i hi).stamps _ (by simp [Record.within, PlanningEntry.within]))).bind fun t t' ht => ?_
  refine (writeProperties_related hproperties).bind fun ps ps' hps => ?_
  refine (writeLogbook_related _ hlogbook).bind fun ls ls' hls => ?_
  refine Related.bind_self _ fun body _ => Related.pure ?_
  refine ((((ht.prepend opening).append (alikeIf_properties _ hps)).append (alikeIf_logbook _ hls)).postpend body).congr ?_
  rw [Heading.writtenStamps, List.forall_mem_append, List.forall_mem_append]

/-! ## Documents -/

theorem writeHeadings_related {hs : List Heading} (h : ∀ x ∈ hs, s.Agree s' same (.heading x)) :
    Related (AlikeIf (∀ t ∈ hs.flatMap (Heading.writtenStamps s), same t)) (writeHeadings s hs) (writeHeadings s' hs) := by
  induction hs with
  | nil => exact Related.pure ((AlikeIf.refl []).congr (iff_of_true trivial (List.forall_mem_nil _)))
  | cons x hs ih =>
    obtain ⟨hx, hrest⟩ := List.forall_mem_cons.1 h
    rw [writeHeadings, writeHeadings]
    refine (x.write_related hx true .null).bind fun t t' ht => (ih hrest).bind fun ts ts' hts => Related.pure ?_
    exact (ht.append hts).congr (by rw [List.flatMap_cons, List.forall_mem_append])

/-- A document is written side by side with setups that agree on it. -/
theorem Document.write_related (d : Document) (h : s.Agree s' same (.document d)) :
    Related (AlikeIf (∀ t ∈ d.writtenStamps s, same t)) (d.write s) (d.write s') := by
  have hheadings : ∀ x ∈ d.headings, s.Agree s' same (.heading x) := by
    intro x hx
    exact h.child (by simp [Record.children, hx])
  rw [Document.write, Document.write]
  refine Related.bind_self _ fun _ _ => Related.bind_self _ fun preamble _ => ?_
  refine (writeHeadings_related hheadings).bind fun t t' ht => Related.pure ?_
  exact ht.prepend preamble

end OrgOutline
