import Mathlib.Data.List.Forall2
import OrgOutline.Export
import OrgOutline.Proofs.Mapped
import OrgOutline.Proofs.WholeLines
import OrgOutline.Proofs.WritingVisits

/-!
# Reading lists back

The items of a written list are told apart by their lines: an item starts at each line that is not empty and not indented as far
as the contents of items are (`readItems`). Main statement: a well-typed list whose titles are written on one line is written
exactly if its titles, its contents and its numbers can be, and then its items are read back in order, each as the line of its
title and as the lines of its contents, and no line of the list is a heading line (`Record.readItems_of_writeList`).
-/

namespace OrgOutline

variable {s : Setup}

/-! ## What a list is written as -/

/-- The items of a list with their numbers, the first of which counts on from the given one. -/
def numberedItems (before : Int) : List Item → List (Int × Item)
  | [] => []
  | i :: items => (numberAfter before i.counter, i) :: numberedItems (numberAfter before i.counter) items

theorem map_snd_numberedItems (before : Int) (items : List Item) : (numberedItems before items).map Prod.snd = items := by
  induction items generalizing before with
  | nil => rfl
  | cons i items ih => rw [numberedItems, List.map_cons, ih]

theorem length_numberedItems (before : Int) (items : List Item) : (numberedItems before items).length = items.length := by
  rw [← List.length_map Prod.snd, map_snd_numberedItems]

theorem mem_of_mem_numberedItems {before : Int} {items : List Item} {p : Int × Item} (h : p ∈ numberedItems before items) :
    p.2 ∈ items := by
  rw [← map_snd_numberedItems before items]
  exact List.mem_map_of_mem h

/-- The title of an item as it is written, or nothing if it cannot be written. -/
def Item.titleText (s : Setup) (i : Item) : Text := (Parts.write s .raw i.title).result?.getD []

/-- The contents of an item as they are written, or nothing if they cannot be written. -/
def Item.contentsText (s : Setup) (i : Item) : Text := (Parts.write s .raw i.contents).result?.getD []

/-- The title and the contents of the item can be written. -/
structure Item.IsWritten (s : Setup) (i : Item) : Prop where
  title : (Parts.write s .raw i.title).outcome = .ok (i.titleText s)
  contents : (Parts.write s .raw i.contents).outcome = .ok (i.contentsText s)

namespace ItemStyle

/-- The number or the bullet of an item, if its number can be written. -/
def mark (style : ItemStyle) (number : Int) (counter : Json) : Text :=
  if style.ordered.isSet then decimalInt number ++ style.terminator.shown ++ counterText counter
  else style.margin ++ style.bullet.shown

/-- What stands in front of the title of an item: its number or its bullet, and its checkbox. -/
def prefixText (style : ItemStyle) (number : Int) (i : Item) : Text :=
  style.mark number i.counter ++ checkboxText i.checkbox i.state

/-- The first line of an item. -/
def firstLine (s : Setup) (style : ItemStyle) (number : Int) (i : Item) : Text :=
  style.prefixText number i ++ ' ' :: i.titleText s

/-- What an item with a number is written as. -/
def writtenText (s : Setup) (style : ItemStyle) (number : Int) (i : Item) : Text :=
  style.itemText (style.mark number i.counter) (checkboxText i.checkbox i.state) (i.titleText s) (i.contentsText s)

theorem markText_eq_ok_iff {style : ItemStyle} (hs : style.IsTyped) {counter : Json}
    (h : (counter.isNull || counter.isInteger) = true) {before : Int} {t : Text} :
    style.markText (.int (numberAfter before counter)) counter = .ok t ↔
      (style.ordered.isSet = true → isLong (numberAfter before counter) = false) ∧
        t = style.mark (numberAfter before counter) counter := by
  rw [markText_eq hs h, Json.checkShown_int, mark]
  cases style.ordered.isSet with
  | false =>
    rw [if_neg Bool.false_ne_true, if_neg Bool.false_ne_true, Except.ok.injEq]
    exact ⟨fun h => ⟨nofun, h.symm⟩, fun h => h.2.symm⟩
  | true =>
    rw [if_pos rfl, if_pos rfl]
    cases isLong (numberAfter before counter) with
    | false =>
      rw [if_neg Bool.false_ne_true, Except.map, Except.ok.injEq]
      exact ⟨fun h => ⟨fun _ => rfl, h.symm⟩, fun h => h.2.symm⟩
    | true =>
      rw [if_pos rfl, Except.map]
      exact ⟨nofun, fun h => nomatch h.1 rfl⟩

end ItemStyle

/-- What an item is written as in a view behind its number, if its number, its title and its contents can be written. -/
def ItemStyle.IsWrittenAs (s : Setup) (view : View) (style : ItemStyle) (number : Int) (i : Item) (text : Text) : Prop :=
  (style.ordered.isSet = true → isLong number = false) ∧ ∃ title contents,
    (Parts.write s view i.title).outcome = .ok title ∧ (Parts.write s view i.contents).outcome = .ok contents ∧
      text = style.itemText (style.mark number i.counter) (checkboxText i.checkbox i.state) title contents

/-- A list is written item by item, each behind its number. -/
theorem outcome_writeItems_eq_ok_iff {view : View} {style : ItemStyle} (hs : style.IsTyped) {items : List Item}
    (typed : ∀ i ∈ items, (i.counter.isNull || i.counter.isInteger) = true) {before : Int} {texts : List Text} :
    (writeItems s view style (.int before) items).outcome = .ok texts ↔
      List.Forall₂ (fun p => style.IsWrittenAs s view p.1 p.2) (numberedItems before items) texts := by
  induction items generalizing before texts with
  | nil =>
    rw [writeItems, Run.outcome_pure, Except.ok.injEq, numberedItems, List.forall₂_nil_left_iff]
    exact eq_comm
  | cons i items ih =>
    obtain ⟨hcounter, typed⟩ := List.forall_mem_cons.1 typed
    rw [writeItems_cons, nextNumber_eq hcounter, numberedItems, List.forall₂_cons_left_iff]
    constructor
    · intro h
      obtain ⟨n, hn, h⟩ := Run.outcome_bind_eq_ok.1 h
      obtain rfl := Except.ok.inj hn
      obtain ⟨mark, hmark, h⟩ := Run.outcome_bind_eq_ok.1 h
      obtain ⟨title, htitle, h⟩ := Run.outcome_bind_eq_ok.1 h
      obtain ⟨contents, hcontents, h⟩ := Run.outcome_bind_eq_ok.1 h
      obtain ⟨rest, hrest, h⟩ := Run.outcome_bind_eq_ok.1 h
      obtain ⟨hnumber, rfl⟩ := (ItemStyle.markText_eq_ok_iff hs hcounter).1 hmark
      exact ⟨_, rest, ⟨hnumber, title, contents, htitle, hcontents, rfl⟩, (ih typed).1 hrest, (Except.ok.inj h).symm⟩
    · rintro ⟨_, rest, ⟨hnumber, title, contents, htitle, hcontents, rfl⟩, hrest, rfl⟩
      have hmark := (ItemStyle.markText_eq_ok_iff hs hcounter).2 ⟨hnumber, rfl⟩
      refine Run.outcome_bind_eq_ok.2 ⟨_, rfl, Run.outcome_bind_eq_ok.2 ⟨_, hmark, ?_⟩⟩
      refine Run.outcome_bind_eq_ok.2 ⟨_, htitle, Run.outcome_bind_eq_ok.2 ⟨_, hcontents, ?_⟩⟩
      exact Run.outcome_bind_eq_ok.2 ⟨_, (ih typed).2 hrest, rfl⟩

/-- In the raw view an item is written as one text only. -/
theorem ItemStyle.isWrittenAs_iff {style : ItemStyle} {number : Int} {i : Item} {text : Text} :
    style.IsWrittenAs s .raw number i text ↔
      (i.IsWritten s ∧ (style.ordered.isSet = true → isLong number = false)) ∧ style.writtenText s number i = text := by
  constructor
  · rintro ⟨hnumber, title, contents, htitle, hcontents, rfl⟩
    obtain ⟨ht, rfl⟩ := (Run.outcome_eq_ok_iff_getD []).1 htitle
    obtain ⟨hc, rfl⟩ := (Run.outcome_eq_ok_iff_getD []).1 hcontents
    exact ⟨⟨⟨ht, hc⟩, hnumber⟩, rfl⟩
  · rintro ⟨⟨⟨ht, hc⟩, hnumber⟩, rfl⟩
    exact ⟨hnumber, _, _, ht, hc, rfl⟩

/-- A list is written exactly if the numbers, the titles and the contents of its items can be, item by item. -/
theorem outcome_writeItems_raw_eq_ok_iff {style : ItemStyle} (hs : style.IsTyped) {items : List Item}
    (typed : ∀ i ∈ items, (i.counter.isNull || i.counter.isInteger) = true) {before : Int} {texts : List Text} :
    (writeItems s .raw style (.int before) items).outcome = .ok texts ↔
      (∀ p ∈ numberedItems before items, p.2.IsWritten s ∧ (style.ordered.isSet = true → isLong p.1 = false)) ∧
        texts = (numberedItems before items).map fun p => style.writtenText s p.1 p.2 := by
  have hitem : (fun p : Int × Item => style.IsWrittenAs s .raw p.1 p.2) = fun p t =>
      (p.2.IsWritten s ∧ (style.ordered.isSet = true → isLong p.1 = false)) ∧ style.writtenText s p.1 p.2 = t := by
    funext p t
    exact propext ItemStyle.isWrittenAs_iff
  rw [outcome_writeItems_eq_ok_iff hs typed, hitem, List.forall₂_and_left]
  refine and_congr_right fun _ => ?_
  rw [← List.forall₂_map_left_iff, List.forall₂_eq_eq_eq]
  exact eq_comm

/-! ## Lines of items -/

/-- The lines of a text with blank lines made empty; the empty text has no lines. -/
def Text.blankedLines (t : Text) : List Text := if t.isEmpty then [] else t.lines.map fun l => if l.allBlank then [] else l

theorem Text.blankedLines_eq_nil_iff {t : Text} : t.blankedLines = [] ↔ t = [] := by
  unfold blankedLines
  split
  · rename_i h
    exact iff_of_true rfl (List.isEmpty_iff.1 h)
  · rename_i h
    exact iff_of_false (by simpa using lines_ne_nil t) (by simpa using h)

namespace ItemStyle

/-- The lines below the first line of an item. -/
def lowerLines (style : ItemStyle) (contents : Text) : List Text :=
  if contents.isEmpty then [] else contents.lines.map style.indentLine

theorem lines_itemText {style : ItemStyle} {mark checkbox title : Text}
    (h : '\n' ∉ mark ++ checkbox ++ ' ' :: title) (contents : Text) :
    (style.itemText mark checkbox title contents).lines = (mark ++ checkbox ++ ' ' :: title) :: style.lowerLines contents := by
  unfold itemText lowerLines
  split
  · rw [List.append_nil, Text.lines_of_not_mem h]
  · have hindent : (style.indent contents).lines = contents.lines.map style.indentLine := by
      refine Text.lines_unlines (by simpa using Text.lines_ne_nil contents) (List.forall_mem_map.2 fun l hl => ?_)
      have hspaces : '\n' ∉ style.indentation := by
        unfold indentation margin
        split <;> decide
      unfold indentLine
      split
      · exact List.not_mem_nil
      · exact List.not_mem_append hspaces (Text.newline_not_mem_of_mem_lines hl)
    rw [Text.lines_append_newline, Text.lines_of_not_mem h, hindent]
    rfl

end ItemStyle

/-! ## Telling items apart -/

/-- Lines as groups, of which one starts at each line of a kind: the lines before the first group, and the first line and the
other lines of each group. -/
def groupLines (starts : Text → Bool) : List Text → List Text × List (Text × List Text)
  | [] => ([], [])
  | l :: ls =>
    let groups := groupLines starts ls
    if starts l then ([], (l, groups.1) :: groups.2) else (l :: groups.1, groups.2)

/-- A line starts an item unless it is empty or indented as the contents of items are. -/
def startsItem (indent l : Text) : Bool := !l.isEmpty && !indent.isPrefixOf l

/-- The items that are told apart in a text: the first line of each, and its other lines without the indentation. -/
def readItems (indent t : Text) : List (Text × List Text) :=
  (groupLines (startsItem indent) t.lines).2.map fun g => (g.1, g.2.map (List.drop indent.length))

theorem groupLines_append {starts : Text → Bool} {lower : List Text} (h : ∀ l ∈ lower, starts l = false) (ls : List Text) :
    groupLines starts (lower ++ ls) = (lower ++ (groupLines starts ls).1, (groupLines starts ls).2) := by
  induction lower with
  | nil => rfl
  | cons l lower ih =>
    obtain ⟨hl, hlower⟩ := List.forall_mem_cons.1 h
    rw [List.cons_append, groupLines, ih hlower, hl, if_neg Bool.false_ne_true]
    rfl

/-- Groups written after each other are told apart. -/
theorem groupLines_flatMap {α : Type} {starts : Text → Bool} {first : α → Text} {lower : α → List Text} {xs : List α}
    (hfirst : ∀ x ∈ xs, starts (first x) = true) (hlower : ∀ x ∈ xs, ∀ l ∈ lower x, starts l = false) :
    groupLines starts (xs.flatMap fun x => first x :: lower x) = ([], xs.map fun x => (first x, lower x)) := by
  induction xs with
  | nil => rfl
  | cons x xs ih =>
    obtain ⟨hx, hfirst⟩ := List.forall_mem_cons.1 hfirst
    obtain ⟨hlx, hlower⟩ := List.forall_mem_cons.1 hlower
    rw [List.flatMap_cons, List.cons_append, groupLines, groupLines_append hlx, ih hfirst hlower, hx, if_pos rfl,
      List.append_nil, List.map_cons]

namespace ItemStyle

/-- A list whose items can be told apart: one with a bullet that is known, or one with a known character behind its numbers. -/
inductive IsKnown : ItemStyle → Prop
  | bulleted (bullet : String) (h : bullet ∈ ["-", "+", "*"]) (terminator : Json) :
      IsKnown ⟨.str bullet, .bool false, terminator⟩
  | numbered (terminator : String) (h : terminator ∈ [".", ")"]) (bullet : Json) :
      IsKnown ⟨bullet, .bool true, .str terminator⟩

/-- The indentation of what stands below the first line of an item: two spaces, or three in a list with stars. -/
def contentIndent (style : ItemStyle) : Text := Text.spaces (if style.isStarred then 3 else 2)

variable {style : ItemStyle}

theorem indentation_eq : style.indentation = style.contentIndent := by
  unfold indentation margin contentIndent
  split <;> rfl

theorem newline_not_mem_decimalInt (n : Int) : '\n' ∉ decimalInt n := by
  intro h
  rcases isDigit_or_minus_of_mem_decimalInt h with h | h <;> exact absurd h (by decide)

/-- What stands in front of a title is on one line. -/
theorem IsKnown.newline_not_mem_prefixText (known : style.IsKnown) (number : Int) {i : Item}
    (typed : (i.counter.isNull || i.counter.isInteger) = true) : '\n' ∉ style.prefixText number i := by
  have hcounter : '\n' ∉ counterText i.counter := by
    unfold counterText
    split
    · exact List.not_mem_nil
    · rename_i hnull
      obtain ⟨n, hn⟩ : ∃ n, i.counter = .int n := by
        cases h : i.counter with
        | int n => exact ⟨n, rfl⟩
        | _ => simp_all [Json.isNull, Json.isInteger]
      rw [hn]
      exact List.not_mem_append (List.not_mem_append (by decide) (newline_not_mem_decimalInt n)) (by decide)
  have hmark : '\n' ∉ style.mark number i.counter := by
    cases known with
    | bulleted bullet h terminator =>
      simp only [List.mem_cons, List.not_mem_nil, or_false] at h
      rcases h with rfl | rfl | rfl <;> simp [mark, margin, isStarred, Json.isSet]
    | numbered terminator h bullet =>
      have hterminator : '\n' ∉ (Json.str terminator).shown := by
        simp only [List.mem_cons, List.not_mem_nil, or_false] at h
        rcases h with rfl | rfl <;> decide
      exact List.not_mem_append (List.not_mem_append (newline_not_mem_decimalInt number) hterminator) hcounter
  have hcheckbox : '\n' ∉ checkboxText i.checkbox i.state := by
    unfold checkboxText
    split
    · cases i.state <;> decide
    · exact List.not_mem_nil
  exact List.not_mem_append hmark hcheckbox

/-- The first line of an item starts an item, and not with a star. -/
theorem IsKnown.startsItem_mark (known : style.IsKnown) (number : Int) (counter : Json) (t : Text) :
    startsItem style.contentIndent (style.mark number counter ++ t) = true ∧
      (style.mark number counter ++ t).head? ≠ some '*' := by
  cases known with
  | bulleted bullet h terminator =>
    simp only [List.mem_cons, List.not_mem_nil, or_false] at h
    rcases h with rfl | rfl | rfl <;> exact ⟨rfl, by simp [mark, margin, isStarred, Json.isSet]⟩
  | numbered terminator h bullet =>
    obtain ⟨c, rest, hdecimal⟩ := List.exists_cons_of_ne_nil (decimalInt_ne_nil number)
    have hc := isDigit_or_minus_of_mem_decimalInt (n := number) (c := c) (by rw [hdecimal]; exact List.mem_cons_self)
    have hspace : c ≠ ' ' := by
      rintro rfl
      exact absurd hc (by decide)
    have hstar : c ≠ '*' := by
      rintro rfl
      exact absurd hc (by decide)
    have hmark : mark ⟨bullet, .bool true, .str terminator⟩ number counter = _ := if_pos rfl
    rw [hmark, hdecimal]
    constructor
    · simp [startsItem, contentIndent, isStarred, Json.isSet, Text.spaces, List.replicate, List.isPrefixOf, Ne.symm hspace]
    · simpa using hstar

/-- A line below the first line of an item starts no item, and not with a star either. -/
theorem of_mem_lowerLines {contents l : Text} (h : l ∈ style.lowerLines contents) :
    startsItem style.contentIndent l = false ∧ l.head? ≠ some '*' := by
  unfold lowerLines at h
  split at h
  · nomatch h
  · obtain ⟨l', -, rfl⟩ := List.mem_map.1 h
    unfold indentLine
    split
    · exact ⟨rfl, nofun⟩
    · rw [indentation_eq]
      refine ⟨by simp [startsItem], ?_⟩
      unfold contentIndent
      split <;> exact nofun

/-- Without the indentation, what stands below the first line of an item are the lines of the contents. -/
theorem map_drop_lowerLines (contents : Text) :
    (style.lowerLines contents).map (List.drop style.contentIndent.length) = contents.blankedLines := by
  unfold lowerLines Text.blankedLines
  split
  · rfl
  · rw [List.map_map]
    refine List.map_congr_left fun l _ => ?_
    rw [Function.comp_apply, indentLine]
    split
    · exact List.drop_nil
    · rw [indentation_eq, List.drop_left]

end ItemStyle

/-! ## Reading a list back -/

/-- The counters of a well-typed list are integers. -/
theorem Record.WellTyped.counters {items : List Item} {bullet ordered terminator : Json}
    (typed : (Record.list items bullet ordered terminator).WellTyped) :
    ∀ i ∈ items, (i.counter.isNull || i.counter.isInteger) = true := by
  intro i hi
  have hitem : (Record.listItem i).WellTyped := typed.of_mem_children (List.mem_map_of_mem hi)
  exact (Bool.and_eq_true_iff.1 hitem.fieldsTyped).2

theorem Record.writeList_eq_ok_iff {items : List Item} {bullet ordered terminator : Json}
    (typed : (Record.list items bullet ordered terminator).WellTyped) {text : Text} :
    let style : ItemStyle := ⟨bullet, ordered, terminator⟩
    ((Record.list items bullet ordered terminator).writeList s).outcome = .ok text ↔
      (∀ p ∈ numberedItems 0 items, p.2.IsWritten s ∧ (ordered.isSet = true → isLong p.1 = false)) ∧
        text = Text.unlines ((numberedItems 0 items).map fun p => style.writtenText s p.1 p.2) := by
  intro style
  have hs : style.IsTyped := ItemStyle.isTyped_of_fieldsTyped typed.fieldsTyped
  rw [writeList, Run.outcome_bind_eq_ok]
  constructor
  · rintro ⟨texts, htexts, h⟩
    obtain ⟨hitems, rfl⟩ := (outcome_writeItems_raw_eq_ok_iff hs typed.counters).1 htexts
    exact ⟨hitems, (Except.ok.inj h).symm⟩
  · rintro ⟨hitems, rfl⟩
    exact ⟨_, (outcome_writeItems_raw_eq_ok_iff hs typed.counters).2 ⟨hitems, rfl⟩, rfl⟩

/-- The lines of the items of a list, item by item. -/
theorem lines_items {style : ItemStyle} (known : style.IsKnown) {items : List Item} (hne : items ≠ [])
    (typed : ∀ i ∈ items, (i.counter.isNull || i.counter.isInteger) = true) (titles : ∀ i ∈ items, '\n' ∉ i.titleText s) :
    (Text.unlines ((numberedItems 0 items).map fun p => style.writtenText s p.1 p.2)).lines =
      (numberedItems 0 items).flatMap fun p => style.firstLine s p.1 p.2 :: style.lowerLines (p.2.contentsText s) := by
  have hnumbered : numberedItems 0 items ≠ [] := by
    intro h
    have hlength := length_numberedItems 0 items
    rw [h] at hlength
    exact hne (List.length_eq_zero_iff.1 hlength.symm)
  rw [Text.lines_unlines_eq_flatMap (by simpa using hnumbered), List.flatMap_map]
  refine List.flatMap_congr fun p hp => ?_
  have hi := mem_of_mem_numberedItems hp
  have hprefix := known.newline_not_mem_prefixText p.1 (typed _ hi)
  have htitle : '\n' ∉ ' ' :: p.2.titleText s := List.not_mem_cons_of_ne_of_not_mem (by decide) (titles _ hi)
  exact ItemStyle.lines_itemText (List.not_mem_append hprefix htitle) _

/-- A well-typed list with a known bullet, or a known character behind its numbers, and with titles on one line, is written
exactly if its titles, its contents and its numbers can be. Then its items are told apart in its text, in order: the first line
of each is its number or bullet, its checkbox and its title, and the others are the lines of its contents with blank ones made
empty. No line starts with a star. -/
theorem Record.readItems_of_writeList (s : Setup) (items : List Item) (bullet ordered terminator : Json)
    (typed : (Record.list items bullet ordered terminator).WellTyped)
    (known : ItemStyle.IsKnown ⟨bullet, ordered, terminator⟩) (titles : ∀ i ∈ items, '\n' ∉ i.titleText s) :
    let style : ItemStyle := ⟨bullet, ordered, terminator⟩
    let list := Record.list items bullet ordered terminator
    ((∃ text, (list.writeList s).outcome = .ok text) ↔
        ∀ p ∈ numberedItems 0 items, p.2.IsWritten s ∧ (ordered.isSet = true → isLong p.1 = false)) ∧
      ∀ text, (list.writeList s).outcome = .ok text →
        readItems style.contentIndent text =
            (numberedItems 0 items).map (fun p => (style.firstLine s p.1 p.2, (p.2.contentsText s).blankedLines)) ∧
          (items ≠ [] → (groupLines (startsItem style.contentIndent) text.lines).1 = []) ∧
          (∀ i ∈ items, (i.contentsText s).blankedLines = [] ↔ i.contentsText s = []) ∧
          ∀ l ∈ text.lines, l.head? ≠ some '*' := by
  intro style list
  have hwrite : ∀ text, (list.writeList s).outcome = .ok text ↔ _ := fun text => writeList_eq_ok_iff typed
  refine ⟨⟨fun ⟨_, h⟩ => ((hwrite _).1 h).1, fun h => ⟨_, (hwrite _).2 ⟨h, rfl⟩⟩⟩, fun text htext => ?_⟩
  obtain ⟨-, rfl⟩ := (hwrite _).1 htext
  have hblank : ∀ i ∈ items, (i.contentsText s).blankedLines = [] ↔ i.contentsText s = [] :=
    fun _ _ => Text.blankedLines_eq_nil_iff
  by_cases hne : items = []
  · subst hne
    exact ⟨rfl, fun h => absurd rfl h, hblank, List.forall_mem_singleton.2 nofun⟩
  · rw [readItems, lines_items known hne typed.counters titles]
    have hfirst : ∀ p ∈ numberedItems 0 items, startsItem style.contentIndent (style.firstLine s p.1 p.2) = true ∧
        (style.firstLine s p.1 p.2).head? ≠ some '*' := by
      intro p _
      rw [ItemStyle.firstLine, ItemStyle.prefixText, List.append_assoc]
      exact known.startsItem_mark p.1 p.2.counter _
    have hlower : ∀ p ∈ numberedItems 0 items, ∀ l ∈ style.lowerLines (p.2.contentsText s),
        startsItem style.contentIndent l = false ∧ l.head? ≠ some '*' := fun p _ l hl => ItemStyle.of_mem_lowerLines hl
    have hgroups := groupLines_flatMap (fun p hp => (hfirst p hp).1) fun p hp l hl => (hlower p hp l hl).1
    refine ⟨?_, fun _ => congrArg Prod.fst hgroups, hblank, ?_⟩
    · rw [hgroups, List.map_map]
      exact List.map_congr_left fun p _ => Prod.ext rfl (ItemStyle.map_drop_lowerLines _)
    · intro l hl
      obtain ⟨p, hp, hl⟩ := List.mem_flatMap.1 hl
      rcases List.mem_cons.1 hl with rfl | hl
      · exact (hfirst p hp).2
      · exact (hlower p hp l hl).2

/-- Items whose contents look like items and headings themselves, one of them a list with a counter. -/
def starredItems : List Item :=
  [⟨[.text (.str "a")], [.text (.str "- b\n \n* c")], .bool true, .checked, .null⟩,
    ⟨[.text (.str "d")], [.list [⟨[.text (.str "e")], [], .bool false, .unchecked, .int (-2)⟩] (.str "*") (.bool true) (.str ".")],
      .bool false, .unchecked, .null⟩]

theorem Record.readItems_of_writeList_starred :
    let list := Record.list starredItems (.str "*") (.bool false) (.str ".")
    let text : Text := " * [X] a\n   - b\n\n   * c\n * d\n   -2. [@-2] e".toList
    list.WellTyped ∧ ItemStyle.IsKnown ⟨.str "*", .bool false, .str "."⟩ ∧ (∀ i ∈ starredItems, '\n' ∉ i.titleText {}) ∧
      (list.writeList {}).outcome = .ok text ∧
      readItems (Text.spaces 3) text =
        [(" * [X] a".toList, ["- b".toList, [], "* c".toList]), (" * d".toList, ["-2. [@-2] e".toList])] ∧
      ∀ l ∈ text.lines, l.head? ≠ some '*' := by
  intro list text
  have typed : list.WellTyped := by decide
  have known : ItemStyle.IsKnown ⟨.str "*", .bool false, .str "."⟩ := .bulleted "*" (by decide) _
  have titles : ∀ i ∈ starredItems, '\n' ∉ i.titleText {} := by decide
  have written : (list.writeList {}).outcome = .ok text := by rfl
  obtain ⟨-, hread⟩ := readItems_of_writeList {} starredItems _ _ _ typed known titles
  obtain ⟨hitems, -, -, hstars⟩ := hread text written
  exact ⟨typed, known, titles, written, hitems, hstars⟩

end OrgOutline
