import OrgOutline.Proofs.Composition
import OrgOutline.Proofs.Failures
import OrgOutline.Proofs.ListReading

/-!
# Numbers of items

The items of an ordered list are numbered by the counters of the list alone (`IsNumberAt`): an item counts on from the last
counter at or before it, which may be its own, and from the start of the list where there is none. Main statement: an ordered
list is written exactly if its titles and contents can be and no number has too many digits, and then as its items behind these
numbers; a list that stands in the title or in the contents of an item, at any depth, is numbered in the same way by its own
counters (`Record.write_ordered`). A number of too many digits is not written (`Record.write_ordered_long`).
-/

namespace OrgOutline

/-! ## Numbers by counters -/

/-- The counter of an item, if it has one. -/
def Item.counter? (i : Item) : Option Int := i.counter.asInt?

/-- The number of the item at an index of a list with these counters that counts on from a number: the last counter at or before
the item with the distance to it added, or where there is none, the number from which the list counts on with the place of the
item added. -/
inductive IsNumberAt (before : Int) (counters : List (Option Int)) (k : Nat) (n : Int) : Prop where
  | counted {j : Nat} {start : Int} (le : j ≤ k) (counter : counters[j]? = some (some start))
      (unset : ∀ m, j < m → m ≤ k → counters[m]? = some none) (number : n = start + (k - j : Int))
  | continued (unset : ∀ m ≤ k, counters[m]? = some none) (number : n = before + (k + 1 : Int))

variable {before n : Int} {counter : Option Int} {counters : List (Option Int)} {k : Nat}

theorem isNumberAt_zero_iff : IsNumberAt before (counter :: counters) 0 n ↔ n = counter.getD (before + 1) := by
  constructor
  · intro h
    cases h with
    | counted le hcounter unset number =>
      obtain rfl := Nat.le_zero.1 le
      obtain rfl := Option.some.inj hcounter
      rw [number, Option.getD_some]
      omega
    | continued unset number =>
      obtain rfl := Option.some.inj (unset 0 le_rfl)
      rw [number, Option.getD_none]
      omega
  · rintro rfl
    cases counter with
    | none =>
      refine .continued (fun m hm => ?_) ?_
      · obtain rfl := Nat.le_zero.1 hm
        rfl
      · rw [Option.getD_none]
        omega
    | some start =>
      refine .counted le_rfl rfl (fun m hlt hle => absurd hlt (by omega)) ?_
      rw [Option.getD_some]
      omega

/-- An item behind the first one counts on from the number of the first one. -/
theorem isNumberAt_succ_iff :
    IsNumberAt before (counter :: counters) (k + 1) n ↔ IsNumberAt (counter.getD (before + 1)) counters k n := by
  constructor
  · intro h
    cases h with
    | @counted j start le hcounter unset number =>
      cases j with
      | zero =>
        obtain rfl := Option.some.inj hcounter
        have hunset : ∀ m ≤ k, counters[m]? = some none := fun m hm => unset (m + 1) (by omega) (by omega)
        refine .continued hunset ?_
        rw [number, Option.getD_some]
        omega
      | succ j =>
        have hunset : ∀ m, j < m → m ≤ k → counters[m]? = some none := fun m hlt hle => unset (m + 1) (by omega) (by omega)
        exact .counted (Nat.le_of_succ_le_succ le) hcounter hunset (by omega)
    | continued unset number =>
      obtain rfl := Option.some.inj (unset 0 (Nat.zero_le _))
      have hunset : ∀ m ≤ k, counters[m]? = some none := fun m hm => unset (m + 1) (by omega)
      refine .continued hunset ?_
      rw [number, Option.getD_none]
      omega
  · intro h
    cases h with
    | @counted j start le hcounter unset number =>
      refine .counted (Nat.succ_le_succ le) hcounter (fun m hlt hle => ?_) (by omega)
      cases m with
      | zero => exact absurd hlt (Nat.not_lt_zero _)
      | succ m => exact unset m (Nat.lt_of_succ_lt_succ hlt) (Nat.le_of_succ_le_succ hle)
    | continued unset number =>
      -- Without a counter behind it the item counts on from the first one, and this is counted or continued itself.
      cases counter with
      | none =>
        refine .continued (fun m hm => ?_) (by rw [number, Option.getD_none]; omega)
        cases m with
        | zero => rfl
        | succ m => exact unset m (Nat.le_of_succ_le_succ hm)
      | some start =>
        refine .counted (Nat.zero_le _) rfl (fun m hlt hle => ?_) (by rw [number, Option.getD_some]; omega)
        cases m with
        | zero => exact absurd hlt (Nat.lt_irrefl 0)
        | succ m => exact unset m (Nat.le_of_succ_le_succ hle)

/-- The numbers that are counted item by item are those that the counters of the list tell. -/
theorem getElem?_numberedItems {items : List Item} {i : Item} :
    (numberedItems before items)[k]? = some (n, i) ↔
      items[k]? = some i ∧ IsNumberAt before (items.map Item.counter?) k n := by
  induction items generalizing before k with
  | nil => exact ⟨nofun, fun h => nomatch h.1⟩
  | cons first items ih =>
    have hnumber : numberAfter before first.counter = first.counter?.getD (before + 1) := rfl
    rw [numberedItems, hnumber, List.map_cons]
    cases k with
    | zero =>
      rw [isNumberAt_zero_iff, List.getElem?_cons_zero, List.getElem?_cons_zero, Option.some.injEq, Option.some.injEq,
        Prod.mk.injEq, and_comm, eq_comm (b := n)]
    | succ k => rw [isNumberAt_succ_iff, List.getElem?_cons_succ, List.getElem?_cons_succ, ih]

/-! ## Ordered lists -/

/-- What an item of an ordered list is written as behind its number: the number and the character behind it, the counter in
brackets if the item has one, the checkbox if it has one, and its title, and then what stands below its first line. -/
def Item.IsNumberedText (s : Setup) (view : View) (style : ItemStyle) (number : Int) (i : Item) (text : Text) : Prop :=
  ∃ title contents, (Parts.write s view i.title).outcome = .ok title ∧
    (Parts.write s view i.contents).outcome = .ok contents ∧
    text = decimalInt number ++ style.terminator.shown ++
      (i.counter?.elim [] fun counter => " [@".toList ++ decimalInt counter ++ [']']) ++
      ItemStyle.checkboxText i.checkbox i.state ++ ' ' :: title ++
      (if contents.isEmpty then [] else '\n' :: style.indent contents)

/-- A text of the items of an ordered list, of which each stands behind the number that the counters of the list tell. No number
has too many digits. -/
def ItemStyle.IsNumberedList (s : Setup) (view : View) (style : ItemStyle) (items : List Item) (text : Text) : Prop :=
  ∃ texts : List Text, text = Text.unlines texts ∧ texts.length = items.length ∧
    ∀ k i, items[k]? = some i → ∃ number itemText, texts[k]? = some itemText ∧
      IsNumberAt 0 (items.map Item.counter?) k number ∧ isLong number = false ∧
      i.IsNumberedText s view style number itemText

variable {s : Setup} {view : View} {style : ItemStyle}

theorem ItemStyle.counterText_eq {i : Item} (typed : (i.counter.isNull || i.counter.isInteger) = true) :
    counterText i.counter = i.counter?.elim [] fun counter => " [@".toList ++ decimalInt counter ++ [']'] := by
  unfold Item.counter?
  cases hcounter : i.counter with
  | null => rfl
  | int counter => rfl
  | _ => simp [hcounter, Json.isNull, Json.isInteger] at typed

/-- In an ordered list, what is written for an item is its text behind its number. -/
theorem ItemStyle.isWrittenAs_iff_of_ordered (hordered : style.ordered.isSet = true) {i : Item}
    (typed : (i.counter.isNull || i.counter.isInteger) = true) {number : Int} {text : Text} :
    style.IsWrittenAs s view number i text ↔ isLong number = false ∧ i.IsNumberedText s view style number text := by
  have hmark : style.mark number i.counter = decimalInt number ++ style.terminator.shown ++
      (i.counter?.elim [] fun counter => " [@".toList ++ decimalInt counter ++ [']']) := by
    rw [mark, if_pos hordered, counterText_eq typed]
  unfold IsWrittenAs Item.IsNumberedText itemText
  rw [hmark, forall_prop_of_true hordered]

/-- Related lists, index by index. -/
theorem forall₂_iff_getElem? {α β : Type} {R : α → β → Prop} {xs : List α} {ys : List β} :
    List.Forall₂ R xs ys ↔
      ys.length = xs.length ∧ ∀ (k : Nat) (x : α), xs[k]? = some x → ∃ y : β, ys[k]? = some y ∧ R x y := by
  rw [List.forall₂_iff_get]
  constructor
  · rintro ⟨hlength, h⟩
    refine ⟨hlength.symm, fun k x hx => ?_⟩
    obtain ⟨hlt, rfl⟩ := List.getElem?_eq_some_iff.1 hx
    exact ⟨_, List.getElem?_eq_getElem (hlength ▸ hlt), h k hlt _⟩
  · rintro ⟨hlength, h⟩
    refine ⟨hlength.symm, fun k hx hy => ?_⟩
    obtain ⟨y, hsome, hR⟩ := h k _ (List.getElem?_eq_getElem hx)
    obtain ⟨_, rfl⟩ := List.getElem?_eq_some_iff.1 hsome
    exact hR

/-- An ordered list is written as a text of its items behind their numbers. -/
theorem Record.write_list_eq_ok_iff {items : List Item} {bullet ordered terminator : Json} (hordered : ordered.isSet = true)
    (typed : (Record.list items bullet ordered terminator).WellTyped) {text : Text} :
    ((Record.list items bullet ordered terminator).write s view).outcome = .ok (some text) ↔
      ItemStyle.IsNumberedList s view ⟨bullet, ordered, terminator⟩ items text := by
  let style : ItemStyle := ⟨bullet, ordered, terminator⟩
  have hitem : ∀ {i}, i ∈ items → ∀ {number : Int} {itemText : Text}, style.IsWrittenAs s view number i itemText ↔
      isLong number = false ∧ i.IsNumberedText s view style number itemText :=
    fun hi _ _ => ItemStyle.isWrittenAs_iff_of_ordered hordered (typed.counters _ hi)
  have hlist : ∀ texts, (writeItems s view style (.int 0) items).outcome = .ok texts ↔
      texts.length = items.length ∧ ∀ k i, items[k]? = some i → ∃ number itemText, texts[k]? = some itemText ∧
        IsNumberAt 0 (items.map Item.counter?) k number ∧ isLong number = false ∧
        i.IsNumberedText s view style number itemText := by
    intro texts
    have hstyle := ItemStyle.isTyped_of_fieldsTyped typed.fieldsTyped
    rw [outcome_writeItems_eq_ok_iff hstyle typed.counters, forall₂_iff_getElem?, length_numberedItems]
    refine and_congr_right fun _ => ?_
    constructor
    · intro h k i hi
      rw [← map_snd_numberedItems 0 items, List.getElem?_map, Option.map_eq_some_iff] at hi
      obtain ⟨p, hp, rfl⟩ := hi
      obtain ⟨itemText, htext, hwritten⟩ := h k p hp
      obtain ⟨hi, hnumber⟩ := getElem?_numberedItems.1 hp
      exact ⟨p.1, itemText, htext, hnumber, (hitem (List.mem_of_getElem? hi)).1 hwritten⟩
    · rintro h k ⟨number, i⟩ hp
      obtain ⟨hi, hnumber⟩ := getElem?_numberedItems.1 hp
      obtain ⟨number', itemText, htext, hnumber', hwritten⟩ := h k i hi
      -- The counters tell only one number.
      obtain rfl : number = number' :=
        congrArg Prod.fst (Option.some.inj (hp.symm.trans (getElem?_numberedItems.2 ⟨hi, hnumber'⟩)))
      exact ⟨itemText, htext, (hitem (List.mem_of_getElem? hi)).2 hwritten⟩
  rw [write, Run.outcome_bind_eq_ok]
  constructor
  · rintro ⟨texts, htexts, h⟩
    obtain rfl := Option.some.inj (Except.ok.inj h)
    exact ⟨texts, rfl, (hlist texts).1 htexts⟩
  · rintro ⟨texts, rfl, h⟩
    exact ⟨texts, (hlist texts).2 h, rfl⟩

/-- A well-typed ordered list is written exactly if its titles and contents can be and none of its numbers has too many digits, and
then as its items behind the numbers that its counters tell. A list that stands in the title or the contents of an item at any
depth is written in the same way, by its own counters, between what stands around it. -/
theorem Record.write_ordered (s : Setup) (view : View) (items : List Item) (bullet ordered terminator : Json)
    (typed : (Record.list items bullet ordered terminator).WellTyped) (hordered : ordered.isSet = true) :
    (∀ text, ((Record.list items bullet ordered terminator).write s view).outcome = .ok (some text) ↔
      ItemStyle.IsNumberedList s view ⟨bullet, ordered, terminator⟩ items text) ∧
    ∀ i, .listItem i ∈ (Record.list items bullet ordered terminator).within → ∀ parts ∈ [i.title, i.contents],
      ∀ before behind innerItems innerBullet innerOrdered innerTerminator, innerOrdered.isSet = true →
        let inner := Record.list innerItems innerBullet innerOrdered innerTerminator
        parts = before ++ inner :: behind → ∀ text, (Parts.write s view parts).outcome = .ok text ↔
          ∃ t₁ innerText t₂, (Parts.write s view before).outcome = .ok t₁ ∧
            ItemStyle.IsNumberedList s view ⟨innerBullet, innerOrdered, innerTerminator⟩ innerItems innerText ∧
            (Parts.write s view behind).outcome = .ok t₂ ∧
            text = t₁ ++ view.between before [inner] ++ innerText ++ view.between [inner] behind ++ t₂ := by
  refine ⟨fun text => write_list_eq_ok_iff hordered typed, ?_⟩
  intro i hi parts hparts before behind innerItems innerBullet innerOrdered innerTerminator hinner inner hsplit text
  have typedParts : ∀ r ∈ parts, r.WellTyped := by
    intro r hr
    refine (typed.of_mem_within hi).of_mem_children ?_
    rcases List.mem_cons.1 hparts with rfl | hparts
    · exact List.mem_append_left _ hr
    · obtain rfl := List.mem_singleton.1 hparts
      exact List.mem_append_right _ hr
  subst hsplit
  have typedInner : inner.WellTyped := typedParts inner (List.mem_append_right _ List.mem_cons_self)
  rw [Parts.outcome_write_part_eq_ok_iff fun r hr => (typedParts r hr).fieldsTyped]
  simp only [inner, write_list_eq_ok_iff hinner typedInner]

/-- The items of a list that counts on from a negative counter. -/
def negativeItems : List Item :=
  [⟨[.text (.str "x")], [], .bool false, .unchecked, .int (-1)⟩, ⟨[.text (.str "y")], [], .bool false, .unchecked, .null⟩]

/-- An item with a list in its contents. -/
def nestingItem : Item :=
  ⟨[.text (.str "a")], [.list negativeItems (.str "-") (.bool true) (.str ")")], .bool false, .unchecked, .null⟩

/-- The items of a list that counts on from a counter of zero, the first of which has a list in its contents. -/
def nestedItems : List Item :=
  [nestingItem, ⟨[.text (.str "b")], [], .bool true, .checked, .int 0⟩,
    ⟨[.text (.str "c")], [], .bool false, .unchecked, .null⟩]

/-- The counters of the list inside do not change the numbers of the list around it. -/
theorem Record.write_ordered_nested :
    let list := Record.list nestedItems (.str "-") (.bool true) (.str ".")
    let text : Text := "1. a\n  -1) [@-1] x\n  0) y\n0. [@0] [X] b\n1. c".toList
    list.WellTyped ∧ (list.write {} .raw).outcome = .ok (some text) ∧
      ItemStyle.IsNumberedList {} .raw ⟨.str "-", .bool true, .str "."⟩ nestedItems text ∧
      Record.listItem nestingItem ∈ list.within ∧
      ItemStyle.IsNumberedList {} .raw ⟨.str "-", .bool true, .str ")"⟩ negativeItems "-1) [@-1] x\n0) y".toList := by
  intro list text
  have typed : list.WellTyped := by decide
  have written : (list.write {} .raw).outcome = .ok (some text) := rfl
  have hitem : Record.listItem nestingItem ∈ list.within :=
    mem_within_of_mem_children List.mem_cons_self (mem_within_self _)
  obtain ⟨hlist, hinner⟩ := write_ordered {} .raw nestedItems (.str "-") (.bool true) (.str ".") typed rfl
  refine ⟨typed, written, (hlist text).1 written, hitem, ?_⟩
  have hcontents := hinner nestingItem hitem nestingItem.contents (List.mem_cons_of_mem _ List.mem_cons_self) [] [] negativeItems
    _ _ _ rfl rfl "-1) [@-1] x\n0) y".toList
  obtain ⟨t₁, innerText, t₂, h₁, hnumbered, h₂, htext⟩ := hcontents.1 rfl
  obtain rfl := Except.ok.inj h₁
  obtain rfl := Except.ok.inj h₂
  have hsame : "-1) [@-1] x\n0) y".toList = innerText := htext.trans (List.append_nil _ |>.trans (List.append_nil _))
  exact hsame ▸ hnumbered

/-- A list that counts from the greatest integer that is written to the one behind it is not written, although its counters
tell the numbers of its items. -/
theorem Record.write_ordered_long :
    let list := Document.countedList Document.lastShort
    list.WellTyped ∧ IsNumberAt 0 [some Document.lastShort, none] 0 Document.lastShort ∧
      IsNumberAt 0 [some Document.lastShort, none] 1 (Document.lastShort + 1) ∧
      (Parts.write {} .raw [list]).outcome = .error .tooManyDigitsShown := by
  intro list
  have typed : list.WellTyped := by
    have h : ∀ n, (Document.countedList n).WellTyped := fun _ => List.all_eq_true.1 rfl
    exact h Document.lastShort
  have hplaces : placesInParts .raw [list] = [.number Document.lastShort, .number (Document.lastShort + 1)] := rfl
  refine ⟨typed, isNumberAt_zero_iff.2 rfl, isNumberAt_succ_iff.2 (isNumberAt_zero_iff.2 rfl), ?_⟩
  have hvisits := (Parts.walks (List.forall_mem_singleton.2 typed) .raw).visits {} (Collaborators.neverFails_default .absent)
  rw [hvisits.outcome_eq_error_iff, hplaces]
  simp [Place.fault?, Document.isLong_lastShort, Document.isLong_lastShort_succ]

end OrgOutline
