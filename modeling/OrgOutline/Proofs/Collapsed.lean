import OrgOutline.Proofs.Mapped
import OrgOutline.Proofs.Reports
import OrgOutline.Proofs.Typed

/-!
# What is seen, written out

The view by which cells are measured shows what would stand in the file if links were plain texts and tables were empty ones
(`Record.collapsed`), at the top and in the items of lists at any depth. Main statement: running text in which no list is followed
by another part has the same text in the view of what is seen as it has in the raw view when it is collapsed, and gives the same
notices but for the component that signs them (`Parts.write_collapsed`). What follows a list starts on a new line in the raw view
alone, so there the two differ.
-/

namespace OrgOutline

mutual
/-- A part in which each link is the plain text that is seen of it and each table an empty text; only lists are looked into. -/
def Record.collapsed : Record → Record
  | .link target title => .text (seenOfLink target title)
  | .table _ => .text (.str "")
  | .list items bullet ordered terminator => .list (collapsedItems items) bullet ordered terminator
  | r => r
termination_by structural x => x

/-- Running text with its parts collapsed. -/
def collapsedParts : List Record → List Record
  | [] => []
  | r :: rs => r.collapsed :: collapsedParts rs
termination_by structural x => x

/-- Items with their titles and their contents collapsed. -/
def collapsedItems : List Item → List Item
  | [] => []
  | ⟨title, contents, checkbox, state, counter⟩ :: items =>
    ⟨collapsedParts title, collapsedParts contents, checkbox, state, counter⟩ :: collapsedItems items
termination_by structural x => x
end

/-- Whether a record is a list. -/
def Record.isList : Record → Bool
  | .list .. => true
  | _ => false

mutual
/-- Whether lists stand last in the titles and the contents of the items of a part. -/
def Record.listsLast : Record → Bool
  | .list items _ _ _ => listsLastInItems items
  | _ => true
termination_by structural x => x

/-- Whether no list is followed by another part, in running text itself and in the items of the lists in it at any depth. -/
def listsLastInParts : List Record → Bool
  | [] => true
  | r :: rs => (rs.isEmpty || !r.isList) && (r.listsLast && listsLastInParts rs)
termination_by structural x => x

/-- Whether lists stand last in the titles and the contents of items. -/
def listsLastInItems : List Item → Bool
  | [] => true
  | ⟨title, contents, _, _, _⟩ :: items => listsLastInParts title && (listsLastInParts contents && listsLastInItems items)
termination_by structural x => x
end

/-- A notice as it is given when a component signs the report in it. -/
def Notice.signed (c : Component) : Notice → Notice
  | .reported r => .reported { r with component := c }
  | n => n

/-! ## Signed runs -/

variable {s : Setup}

/-- A run in which a component signs all reports. -/
def Run.signed {α : Type} (c : Component) (x : Run α) : Run α := x.retell fun n => .note (n.signed c)

theorem Run.signed_eq {α : Type} (c : Component) (x : Run α) : x.signed c = ⟨x.notices.map (Notice.signed c), x.outcome⟩ := by
  have hnotices : ∀ ns : List Notice, ns.forM (fun n => note (n.signed c)) = ⟨ns.map (Notice.signed c), .ok ()⟩ := by
    intro ns
    induction ns with
    | nil => rfl
    | cons n ns ih =>
      show (note (n.signed c) >>= fun _ => ns.forM fun n => note (n.signed c)) = _
      rw [ih]
      rfl
  rw [signed, retell, hnotices]
  exact Run.ext (List.append_nil _) rfl

theorem Setup.report_eq_signed (s : Setup) (c c' : Component) (part : Json) : s.report c part = (s.report c' part).signed c := by
  rw [Run.signed_eq, report, report]
  cases Json.checkShown [part] with
  | error f => rfl
  | ok _ =>
    split
    · rfl
    · cases s.collector <;> rfl

open Run (retell retell_bind retell_pure retell_ofExcept)

/-! ## Writing what is collapsed -/

/-- A collapsed record is written in the raw view as the record is seen. -/
def Record.IsSeenCollapsed (s : Setup) (r : Record) : Prop :=
  r.listsLast = true → r.collapsed.write s .raw = (r.write s .seen).signed .inline

theorem Record.isBlock_collapsed (r : Record) : r.collapsed.isBlock = r.isList := by
  cases r <;> rfl

theorem writePieces_collapsed {rs : Parts} (h : ∀ r ∈ rs, r.IsSeenCollapsed s) (last : listsLastInParts rs = true)
    (behindBlock : Bool) :
    writePieces s .raw false (collapsedParts rs) = (writePieces s .seen behindBlock rs).signed .inline := by
  induction rs generalizing behindBlock with
  | nil => rfl
  | cons r rs ih =>
    obtain ⟨hr, hrs⟩ := List.forall_mem_cons.1 h
    obtain ⟨hlist, hlast⟩ := Bool.and_eq_true_iff.1 last
    obtain ⟨hlastr, hlastrs⟩ := Bool.and_eq_true_iff.1 hlast
    have hraw : ∀ p, View.place .raw false p = .ok p := fun p => if_neg fun h => Bool.false_ne_true h.2
    have hseen : ∀ p, View.place .seen behindBlock p = .ok p := fun p => if_neg fun h => nomatch h.1
    -- What stands behind a list is nothing, so nothing starts on a new line.
    have hrest : writePieces s .raw r.isList (collapsedParts rs) = (writePieces s .seen r.isBlock rs).signed .inline := by
      rcases Bool.or_eq_true_iff.1 hlist with hempty | hnot
      · obtain rfl := List.isEmpty_iff.1 hempty
        rfl
      · rw [Bool.not_eq_true'] at hnot
        rw [hnot]
        exact ih hrs hlastrs r.isBlock
    rw [collapsedParts, writePieces, writePieces, hr hlastr, r.isBlock_collapsed]
    simp only [hraw, hseen, Run.signed, retell_bind, retell_pure, retell_ofExcept] at hrest ⊢
    rw [hrest]

theorem writeParts_collapsed {rs : Parts} (h : ∀ r ∈ rs, r.IsSeenCollapsed s) (last : listsLastInParts rs = true) :
    Parts.write s .raw (collapsedParts rs) = (Parts.write s .seen rs).signed .inline := by
  rw [Parts.write, Parts.write, writePieces_collapsed h last false, Run.signed, Run.signed, retell_bind]
  rfl

theorem writeItems_collapsed {items : List Item} (h : ∀ i ∈ items, ∀ r ∈ i.title ++ i.contents, r.IsSeenCollapsed s)
    (last : listsLastInItems items = true) (style : ItemStyle) (number : Json) :
    writeItems s .raw style number (collapsedItems items) = (writeItems s .seen style number items).signed .inline := by
  induction items generalizing number with
  | nil => rfl
  | cons i items ih =>
    obtain ⟨title, contents, checkbox, state, counter⟩ := i
    obtain ⟨hi, hitems⟩ := List.forall_mem_cons.1 h
    obtain ⟨ht, hc⟩ := List.forall_mem_append.1 hi
    obtain ⟨hlastt, hlast⟩ := Bool.and_eq_true_iff.1 last
    obtain ⟨hlastc, hlastitems⟩ := Bool.and_eq_true_iff.1 hlast
    rw [collapsedItems, writeItems_cons, writeItems_cons]
    simp only [writeParts_collapsed ht hlastt, writeParts_collapsed hc hlastc, ih hitems hlastitems, Run.signed, retell_bind,
      retell_pure, retell_ofExcept]

/-- A record in which lists stand last is written in the raw view, when it is collapsed, as it is seen. -/
theorem Record.isSeenCollapsed (r : Record) : r.IsSeenCollapsed s := by
  induction r using withinInduction with
  | step r ih =>
    intro last
    have htext : ∀ x : Except Fault Text,
        (Run.ofExcept x >>= fun t => pure (some t) : Run Piece).signed .inline = Run.ofExcept x >>= fun t => pure (some t) := by
      intro x
      cases x <;> rfl
    cases r with
    | list items bullet ordered terminator =>
      have h : ∀ i ∈ items, ∀ r ∈ i.title ++ i.contents, r.IsSeenCollapsed s :=
        fun i hi r hr => ih (.listItem i) (List.mem_map_of_mem hi) r (mem_within_of_mem_children hr (mem_within_self r))
      rw [collapsed, write, write, writeItems_collapsed h last, Run.signed, Run.signed, retell_bind]
      rfl
    | table rows => rfl
    | link target title => rfl
    | text content => rfl
    | bareLink kind content => rfl
    | stamp first second => exact (htext _).symm
    | fraction done all => exact (htext _).symm
    | percentage v => exact (htext _).symm
    | _ =>
      have hreport : ∀ part, s.report .inline part = (s.report .display part).signed .inline :=
        s.report_eq_signed .inline .display
      simp only [collapsed, write, View.component, hreport, Run.signed, retell_bind, retell_pure]

/-- Running text in which no list is followed by another part, at the top and in the items of its lists at any depth, is seen as
it is written when each link is replaced by its title, or by its target if it has none, and each table by an empty text: the
text is the same or the fault is, and so are the notices, but for the component that signs them. -/
theorem Parts.write_collapsed (s : Setup) (parts : Parts) (last : listsLastInParts parts = true) :
    (Parts.write s .seen parts).outcome = (Parts.write s .raw (collapsedParts parts)).outcome ∧
      (Parts.write s .raw (collapsedParts parts)).notices =
        (Parts.write s .seen parts).notices.map (Notice.signed .inline) := by
  rw [writeParts_collapsed (fun r _ => r.isSeenCollapsed) last, Run.signed_eq]
  exact ⟨rfl, rfl⟩

/-- A link in an item of a list in an item, and a table that is not seen. -/
theorem Parts.write_collapsed_nested :
    let inner : Item := ⟨[.link (.str "u") (.str "t"), .link (.str "v") .null], [], .bool false, .unchecked, .null⟩
    let item : Item := ⟨[.table [], .text (.str "a")], [.text (.str "b\n"), .list [inner] (.str "+") (.bool false) (.str ".")],
      .bool true, .checked, .null⟩
    let parts : Parts := [.table [[⟨[.text (.str "wide")], .str "wide"⟩]], .list [item] (.str "-") (.bool true) (.str ")")]
    listsLastInParts parts = true ∧
      (Parts.write {} .raw (collapsedParts parts)).outcome = .ok "1) [X] a\n  b\n  + tv".toList ∧
      (Parts.write {} .seen parts).outcome = (Parts.write {} .raw (collapsedParts parts)).outcome := by
  intro inner item parts
  have last : listsLastInParts parts = true := by decide
  exact ⟨last, by rfl, (Parts.write_collapsed {} parts last).1⟩

end OrgOutline
