import OrgOutline.Inline.Write
import OrgOutline.Proofs.Runs
import OrgOutline.Proofs.Typed

/-!
# Reading timestamps back

The text of a timestamp is read back from left to right: its brackets and its date, then five sections that may be absent, the
weekday, the two times of day, the repeater and the delay. Which section stands next is seen from two characters
(`sectionAt`), and the sections stand in a fixed order, so none is taken for another. Main statements: what is written of a
well-formed timestamp is read as the timestamp, whatever follows it (`Timestamp.read_text_append`), and so well-formed timestamps
with the same text are the same, and so are single timestamps and ranges in running text (`Timestamp.eq_of_same_text`).
-/

namespace OrgOutline

/-! ## Well-formed timestamps -/

/-- The ASCII letters and all characters beyond ASCII, among which are the letters of the other scripts. -/
def isLetter (c : Char) : Bool := c.isAlpha || 0x80 ≤ c.toNat

/-- A string of at least one character, all of a kind. -/
def Json.IsWordOf (kind : Char → Bool) (v : Json) : Prop :=
  ∃ s : String, v = .str s ∧ s.toList ≠ [] ∧ s.toList.all kind = true

/-- A time of day is well-formed if it is absent or an hour and a minute in digits. -/
inductive TimeOfDay.IsWellFormed : TimeOfDay → Prop
  | absent : IsWellFormed {}
  | given {hour minute : Json} (hhour : hour.IsWordOf Char.isDigit) (hminute : minute.IsWordOf Char.isDigit) :
      IsWellFormed ⟨hour, minute⟩

/-- The marks of a repeater. -/
def repeaterMarks : List String := ["+", "++", ".+"]

/-- The marks of a delay. -/
def delayMarks : List String := ["-", "--"]

/-- The units of a repeater or a delay: hours, days, weeks, months and years. -/
def cookieUnits : List String := ["h", "d", "w", "m", "y"]

/-- A cookie is well-formed if it is absent or one of some marks, an amount in digits and a unit. -/
inductive Cookie.IsWellFormed (marks : List String) : Cookie → Prop
  | absent : IsWellFormed marks {}
  | given {mark unit : String} {amount : Json} (hmark : mark ∈ marks) (hamount : amount.IsWordOf Char.isDigit)
      (hunit : unit ∈ cookieUnits) : IsWellFormed marks ⟨.str mark, amount, .str unit⟩

/-- A timestamp is well-formed if its date is in digits, its weekday, if it has one, is a word of letters, and its times of day
and cookies are absent or complete; an end may stand without a start. -/
structure Timestamp.IsWellFormed (t : Timestamp) : Prop where
  year : t.year.IsWordOf Char.isDigit
  month : t.month.IsWordOf Char.isDigit
  day : t.day.IsWordOf Char.isDigit
  active : ∃ b, t.active = .bool b
  weekday : t.weekday = .null ∨ t.weekday.IsWordOf isLetter
  start : t.start.IsWellFormed
  stop : t.stop.IsWellFormed
  repeater : t.repeater.IsWellFormed repeaterMarks
  delay : t.delay.IsWellFormed delayMarks

theorem Json.IsWordOf.isString {kind : Char → Bool} {v : Json} (h : v.IsWordOf kind) : v.isString = true := by
  obtain ⟨s, rfl, -⟩ := h
  rfl

/-- The fields of a well-formed timestamp hold values of their types. -/
theorem Timestamp.IsWellFormed.isTyped {t : Timestamp} (h : t.IsWellFormed) : t.isTyped = true := by
  have htime : ∀ {d : TimeOfDay}, d.IsWellFormed → d.hour.isOptionalString = true ∧ d.minute.isOptionalString = true := by
    rintro d (_ | ⟨hhour, hminute⟩)
    · exact ⟨rfl, rfl⟩
    · exact ⟨Bool.or_eq_true_iff.2 (.inr hhour.isString), Bool.or_eq_true_iff.2 (.inr hminute.isString)⟩
  have hcookie : ∀ {marks : List String} {c : Cookie}, c.IsWellFormed marks →
      c.mark.isOptionalString = true ∧ c.amount.isOptionalString = true ∧ c.unit.isOptionalString = true := by
    rintro marks c (_ | ⟨-, hamount, -⟩)
    · exact ⟨rfl, rfl, rfl⟩
    · exact ⟨rfl, Bool.or_eq_true_iff.2 (.inr hamount.isString), rfl⟩
  have hweekday : t.weekday.isOptionalString = true := by
    rcases h.weekday with hnull | hword
    · rw [hnull]
      rfl
    · exact Bool.or_eq_true_iff.2 (.inr hword.isString)
  have hactive : t.active.isBool = true := by
    obtain ⟨b, hb⟩ := h.active
    rw [hb]
    rfl
  simp [Timestamp.isTyped, h.year.isString, h.month.isString, h.day.isString, hactive, hweekday, htime h.start, htime h.stop,
    hcookie h.repeater, hcookie h.delay]

/-! ## Fields -/

/-- The field of characters of a kind at the start of a text, and what follows it. -/
def readField (kind : Char → Bool) (t : Text) : Json × Text := (.str (String.ofList (t.takeWhile kind)), t.dropWhile kind)

theorem readField_append {kind : Char → Bool} {s : String} (h : ∀ c ∈ s.toList, kind c = true) {t : Text}
    (ht : ∀ c ∈ t.head?, kind c = false) : readField kind (s.toList ++ t) = (.str s, t) := by
  obtain ⟨htake, hdrop⟩ := Text.takeWhile_dropWhile_append h ht
  rw [readField, htake, hdrop, String.ofList_toList]

theorem Json.IsWordOf.readField_append {kind : Char → Bool} {v : Json} (h : v.IsWordOf kind) {t : Text}
    (ht : ∀ c ∈ t.head?, kind c = false) : readField kind (v.shown ++ t) = (v, t) := by
  obtain ⟨s, rfl, -, hs⟩ := h
  exact OrgOutline.readField_append (List.all_eq_true.1 hs) ht

theorem Json.IsWordOf.isSet {kind : Char → Bool} {v : Json} (h : v.IsWordOf kind) : v.isSet = true := by
  obtain ⟨s, rfl, hne, -⟩ := h
  refine bne_iff_ne.2 ?_
  rintro rfl
  exact hne rfl

/-- A word starts with a character of its kind. -/
theorem Json.IsWordOf.exists_shown_eq {kind : Char → Bool} {v : Json} (h : v.IsWordOf kind) :
    ∃ c rest, v.shown = c :: rest ∧ kind c = true := by
  obtain ⟨s, rfl, hne, hs⟩ := h
  obtain ⟨c, rest, hc⟩ := List.exists_cons_of_ne_nil hne
  exact ⟨c, rest, hc, List.all_eq_true.1 hs c (hc ▸ List.mem_cons_self)⟩

/-- A word does not start with a character of another kind, whatever follows it. -/
theorem Json.IsWordOf.head_not {kind other : Char → Bool} {v : Json} (h : v.IsWordOf kind)
    (hother : ∀ c, kind c = true → other c = false) (t : Text) : ∀ c ∈ (v.shown ++ t).head?, other c = false := by
  obtain ⟨c, rest, hshown, hc⟩ := h.exists_shown_eq
  intro x hx
  rw [hshown] at hx
  obtain rfl : c = x := Option.some.inj hx
  exact hother c hc

/-! ## Kinds of characters -/

theorem toNat_le_of_isDigit {c : Char} (h : c.isDigit = true) : c.toNat ≤ 57 :=
  of_decide_eq_true (Bool.and_eq_true_iff.1 h).2

theorem le_toNat_of_isAlpha {c : Char} (h : c.isAlpha = true) : 65 ≤ c.toNat := by
  rcases Bool.or_eq_true_iff.1 h with hupper | hlower
  · exact (of_decide_eq_true hupper).1
  · have hle : 97 ≤ c.toNat := of_decide_eq_true (Bool.and_eq_true_iff.1 hlower).1
    omega

theorem le_toNat_of_isLetter {c : Char} (h : isLetter c = true) : 65 ≤ c.toNat := by
  rcases Bool.or_eq_true_iff.1 h with halpha | hbeyond
  · exact le_toNat_of_isAlpha halpha
  · have hle : 0x80 ≤ c.toNat := of_decide_eq_true hbeyond
    omega

theorem not_isLetter_of_isDigit {c : Char} (h : c.isDigit = true) : isLetter c = false := by
  refine Bool.of_not_eq_true fun hletter => ?_
  have hle := toNat_le_of_isDigit h
  have hge := le_toNat_of_isLetter hletter
  omega

theorem not_isDigit_of_isAlpha {c : Char} (h : c.isAlpha = true) : c.isDigit = false := by
  refine Bool.of_not_eq_true fun hdigit => ?_
  have hle := toNat_le_of_isDigit hdigit
  have hge := le_toNat_of_isAlpha h
  omega

/-- The characters of which marks are made. -/
def isMark (c : Char) : Bool := c == '+' || c == '-' || c == '.'

theorem not_isMark_of_isDigit {c : Char} (h : c.isDigit = true) : isMark c = false := by
  cases hm : isMark c with
  | false => rfl
  | true =>
    simp only [isMark, Bool.or_eq_true, beq_iff_eq] at hm
    rcases hm with (rfl | rfl) | rfl <;> nomatch h

/-! ## Times of day and cookies -/

/-- Reads an hour and a minute with a character between them. -/
def readTime (t : Text) : TimeOfDay × Text :=
  let hour := readField Char.isDigit t
  let minute := readField Char.isDigit (hour.2.drop 1)
  (⟨hour.1, minute.1⟩, minute.2)

/-- Reads a mark, an amount and a unit. -/
def readCookie (t : Text) : Cookie × Text :=
  let mark := readField isMark t
  let amount := readField Char.isDigit mark.2
  let unit := readField Char.isAlpha amount.2
  (⟨mark.1, amount.1, unit.1⟩, unit.2)

theorem readTime_append {t : TimeOfDay} {rest : Text} (hhour : t.hour.IsWordOf Char.isDigit)
    (hminute : t.minute.IsWordOf Char.isDigit) (hrest : ∀ c ∈ rest.head?, c.isDigit = false) :
    readTime (t.text ++ rest) = (t, rest) := by
  have hcolon : ∀ c ∈ (':' :: (t.minute.shown ++ rest)).head?, c.isDigit = false := by
    rintro c ⟨⟩
    decide
  rw [TimeOfDay.text, List.append_assoc, List.cons_append, readTime, hhour.readField_append hcolon]
  simp only [List.drop_succ_cons, List.drop_zero, hminute.readField_append hrest]

theorem readCookie_append {c : Cookie} {rest : Text} (hmark : c.mark.IsWordOf isMark)
    (hamount : c.amount.IsWordOf Char.isDigit) (hunit : c.unit.IsWordOf Char.isAlpha)
    (hrest : ∀ x ∈ rest.head?, x.isAlpha = false) : readCookie (c.text ++ rest) = (c, rest) := by
  have hbehindMark := hamount.head_not (fun _ => not_isMark_of_isDigit) (c.unit.shown ++ rest)
  have hbehindAmount := hunit.head_not (fun _ => not_isDigit_of_isAlpha) rest
  rw [Cookie.text, List.append_assoc, List.append_assoc, readCookie, hmark.readField_append hbehindMark]
  simp only [hamount.readField_append hbehindAmount, hunit.readField_append hrest]

theorem isWordOf_unit : ∀ u ∈ cookieUnits, (Json.str u).IsWordOf Char.isAlpha := by
  simp only [cookieUnits, List.forall_mem_cons]
  refine ⟨?_, ?_, ?_, ?_, ?_, nofun⟩ <;> exact ⟨_, rfl, by decide, by decide⟩

/-! ## Sections -/

/-- The section that starts a text, by its place in a timestamp: 0 for the weekday, 1 and 2 for the times of day, 3 for the
repeater and 4 for the delay; 5 if none does. -/
def sectionAt : Text → Nat
  | ' ' :: c :: _ => if isLetter c then 0 else if c.isDigit then 1 else if c = '-' then 4 else 3
  | '-' :: _ => 2
  | _ => 5

/-- Reads a section if it starts the text. -/
def readSection {α : Type} (place : Nat) (read : Text → α × Text) (absent : α) (t : Text) : α × Text :=
  if sectionAt t = place then read (t.drop 1) else (absent, t)

/-- The separators in front of sections and the closing brackets. -/
def separators : List Char := [' ', '-', '>', ']']

/-- What can follow the sections before a place: a later section or a closing bracket. -/
structure Follows (place : Nat) (t : Text) : Prop where
  le_sectionAt : place ≤ sectionAt t
  head_mem : ∀ c ∈ t.head?, c ∈ separators

theorem Follows.head_not {place : Nat} {t : Text} (h : Follows place t) {kind : Char → Bool}
    (hkind : separators.any kind = false) : ∀ c ∈ t.head?, kind c = false :=
  fun c hc => Bool.of_not_eq_true (List.any_eq_false.1 hkind c (h.head_mem c hc))

/-- A section that is written as a text, possibly as nothing, is read back from it before every text that can follow. -/
structure ReadsBack {α : Type} (place : Nat) (read : Text → α × Text) (absent a : α) (text : Text) : Prop where
  read_eq : ∀ t, Follows (place + 1) t → readSection place read absent (text ++ t) = (a, t)
  follows : ∀ t, Follows (place + 1) t → Follows place (text ++ t)

namespace ReadsBack

variable {α : Type} {place : Nat} {read : Text → α × Text} {absent a : α}

/-- An absent section. -/
theorem nil : ReadsBack place read absent absent [] where
  read_eq _ h := if_neg (Nat.ne_of_gt h.le_sectionAt)
  follows _ h := ⟨Nat.le_of_succ_le h.le_sectionAt, h.head_mem⟩

/-- A section behind a separator. -/
theorem cons {separator : Char} {text : Text} (hseparator : separator ∈ separators)
    (hplace : ∀ t, sectionAt (separator :: text ++ t) = place)
    (hread : ∀ t, Follows (place + 1) t → read (text ++ t) = (a, t)) :
    ReadsBack place read absent a (separator :: text) where
  read_eq t h := (if_pos (hplace t)).trans (hread t h)
  follows t _ := by
    refine ⟨Nat.le_of_eq (hplace t).symm, ?_⟩
    intro c hc
    obtain rfl : separator = c := Option.some.inj hc
    exact hseparator

end ReadsBack

theorem readsBack_weekday {v : Json} (h : v = .null ∨ v.IsWordOf isLetter) :
    ReadsBack 0 (readField isLetter) .null v (if v.isSet then ' ' :: v.shown else []) := by
  rcases h with rfl | h
  · exact .nil
  · obtain ⟨c, rest, hshown, hc⟩ := h.exists_shown_eq
    rw [if_pos h.isSet]
    refine .cons (by decide) (fun t => ?_) fun t ht => h.readField_append (ht.head_not (by decide))
    rw [hshown]
    exact if_pos hc

theorem readsBack_time {t : TimeOfDay} (h : t.IsWellFormed) {place : Nat} {separator : Char}
    (hseparator : separator = ' ' ∧ place = 1 ∨ separator = '-' ∧ place = 2) :
    ReadsBack place readTime {} t (if t.hour.isSet then separator :: t.text else []) := by
  cases h with
  | absent => exact .nil
  | @given hour minute hhour hminute =>
    obtain ⟨c, rest, hshown, hc⟩ := hhour.exists_shown_eq
    rw [if_pos hhour.isSet]
    refine .cons ?_ (fun t => ?_) fun t ht => readTime_append hhour hminute (ht.head_not (by decide))
    · rcases hseparator with ⟨rfl, -⟩ | ⟨rfl, -⟩ <;> decide
    · rw [TimeOfDay.text, hshown]
      rcases hseparator with ⟨rfl, rfl⟩ | ⟨rfl, rfl⟩
      · exact (if_neg (by simp [not_isLetter_of_isDigit hc])).trans (if_pos hc)
      · rfl

theorem readsBack_cookie {marks : List String} {place : Nat}
    (hmarks : ∀ m ∈ marks, (Json.str m).IsWordOf isMark ∧ ∀ t, sectionAt (' ' :: (m.toList ++ t)) = place)
    {c : Cookie} (h : c.IsWellFormed marks) : ReadsBack place readCookie {} c (Timestamp.cookieText c) := by
  cases h with
  | absent => exact .nil
  | @given mark unit amount hmark hamount hunit =>
    obtain ⟨hword, hplace⟩ := hmarks mark hmark
    rw [Timestamp.cookieText, if_pos hword.isSet]
    refine .cons (by decide) (fun t => ?_) fun t ht =>
      readCookie_append hword hamount (isWordOf_unit unit hunit) (ht.head_not (by decide))
    rw [Cookie.text, List.append_assoc, List.cons_append, List.append_assoc]
    exact hplace _

theorem readsBack_repeater {c : Cookie} (h : c.IsWellFormed repeaterMarks) :
    ReadsBack 3 readCookie {} c (Timestamp.cookieText c) := by
  refine readsBack_cookie ?_ h
  simp only [repeaterMarks, List.forall_mem_cons]
  refine ⟨?_, ?_, ?_, nofun⟩ <;> exact ⟨⟨_, rfl, by decide, by decide⟩, fun _ => rfl⟩

theorem readsBack_delay {c : Cookie} (h : c.IsWellFormed delayMarks) :
    ReadsBack 4 readCookie {} c (Timestamp.cookieText c) := by
  refine readsBack_cookie ?_ h
  simp only [delayMarks, List.forall_mem_cons]
  refine ⟨?_, ?_, nofun⟩ <;> exact ⟨⟨_, rfl, by decide, by decide⟩, fun _ => rfl⟩

/-! ## Timestamps -/

namespace Timestamp

/-- Reads a timestamp at the start of a text, and gives what follows it. -/
def read (t : Text) : Timestamp × Text :=
  let year := readField Char.isDigit (t.drop 1)
  let month := readField Char.isDigit (year.2.drop 1)
  let day := readField Char.isDigit (month.2.drop 1)
  let weekday := readSection 0 (readField isLetter) .null day.2
  let start := readSection 1 readTime {} weekday.2
  let stop := readSection 2 readTime {} start.2
  let repeater := readSection 3 readCookie {} stop.2
  let delay := readSection 4 readCookie {} repeater.2
  (⟨year.1, month.1, day.1, .bool (t.head? == some '<'), weekday.1, start.1, stop.1, repeater.1, delay.1⟩, delay.2.drop 1)

/-- A well-formed timestamp is read back from its text, whatever follows. -/
theorem read_text_append {t : Timestamp} (h : t.IsWellFormed) (rest : Text) : read (t.text ++ rest) = (t, rest) := by
  have htext : t.text ++ rest = t.brackets.1 :: (t.year.shown ++ '-' :: (t.month.shown ++ '-' :: (t.day.shown ++
      (t.weekdayText ++ (t.startText ++ (t.stopText ++ (cookieText t.repeater ++ (cookieText t.delay ++
        t.brackets.2 :: rest)))))))) := by
    simp only [text, dateText, List.append_assoc, List.cons_append, List.nil_append]
  have hbrackets : Follows 5 (t.brackets.2 :: rest) ∧ Json.bool (some t.brackets.1 == some '<') = t.active := by
    obtain ⟨b, hactive⟩ := h.active
    rw [brackets, hactive]
    cases b <;> exact ⟨⟨Nat.le_refl 5, by rintro c ⟨⟩; decide⟩, rfl⟩
  obtain ⟨hclosing, hopening⟩ := hbrackets
  -- From the right to the left: what follows a section can follow it.
  have hdelay := readsBack_delay h.delay
  have hrepeater := readsBack_repeater h.repeater
  have hstop : ReadsBack 2 readTime {} t.stop t.stopText := readsBack_time h.stop (.inr ⟨rfl, rfl⟩)
  have hstart : ReadsBack 1 readTime {} t.start t.startText := readsBack_time h.start (.inl ⟨rfl, rfl⟩)
  have hweekday : ReadsBack 0 (readField isLetter) .null t.weekday t.weekdayText := readsBack_weekday h.weekday
  have follows4 := hdelay.follows _ hclosing
  have follows3 := hrepeater.follows _ follows4
  have follows2 := hstop.follows _ follows3
  have follows1 := hstart.follows _ follows2
  have follows0 := hweekday.follows _ follows1
  have hdash : ∀ u : Text, ∀ c ∈ ('-' :: u).head?, c.isDigit = false := by
    rintro u c ⟨⟩
    decide
  rw [htext, read]
  simp only [List.drop_succ_cons, List.drop_zero, List.head?_cons, hopening, h.year.readField_append (hdash _),
    h.month.readField_append (hdash _), h.day.readField_append (follows0.head_not (by decide)), hweekday.read_eq _ follows1,
    hstart.read_eq _ follows2, hstop.read_eq _ follows3, hrepeater.read_eq _ follows4, hdelay.read_eq _ hclosing]

/-- Well-formed timestamps that start texts which are the same are the same, and so is what follows them. -/
theorem eq_of_text_append_eq {t t' : Timestamp} (h : t.IsWellFormed) (h' : t'.IsWellFormed) {rest rest' : Text}
    (he : t.text ++ rest = t'.text ++ rest') : t = t' ∧ rest = rest' := by
  have hread := read_text_append h rest
  rw [he, read_text_append h' rest', Prod.mk.injEq] at hread
  exact ⟨hread.1.symm, hread.2.symm⟩

/-- The text of a timestamp or of a range in running text. -/
def rangeText (first : Timestamp) (second : Option Timestamp) : Text :=
  first.text ++ (second.map fun t => rangeMark ++ t.text).getD []

theorem outcome_write_stamp (k : Collector) (o : Options) (view : View) {first : Timestamp} {second : Option Timestamp}
    (h : ∀ t ∈ first :: second.toList, t.IsWellFormed) :
    (Parts.write { collector := k, options := o } view [.stamp first second]).outcome = .ok (rangeText first second) := by
  have hstamp : stampText { collector := k, options := o } first second = .ok (rangeText first second) := by
    obtain ⟨hfirst, hsecond⟩ := List.forall_mem_cons.1 h
    cases second with
    | none =>
      rw [rangeText, Option.map_none, Option.getD_none, List.append_nil]
      exact toText_of_isTyped hfirst.isTyped
    | some t =>
      have htexts : first.toText = .ok first.text ∧ t.toText = .ok t.text :=
        ⟨toText_of_isTyped hfirst.isTyped, toText_of_isTyped (hsecond t List.mem_cons_self).isTyped⟩
      simp only [stampText, htexts, rangeText, Option.map_some, Option.getD_some, ← List.append_assoc]
      rfl
  have hjoined : (Parts.write { collector := k, options := o } view [.stamp first second]).outcome =
      .ok (rangeText first second ++ []) := by
    rw [Parts.write, writePieces, Record.write, hstamp]
    cases view <;> rfl
  rw [hjoined, List.append_nil]

/-- Well-formed timestamps with the same text are the same, and if two single timestamps or ranges of well-formed timestamps have
the same text in running text, in either view, then they are the same. -/
theorem eq_of_same_text :
    (∀ t t' : Timestamp, t.IsWellFormed → t'.IsWellFormed → t.text = t'.text → t = t') ∧
    ∀ (k : Collector) (o : Options) (view : View) (first first' : Timestamp) (second second' : Option Timestamp),
      (∀ t ∈ first :: second.toList, t.IsWellFormed) → (∀ t ∈ first' :: second'.toList, t.IsWellFormed) →
      (Parts.write { collector := k, options := o } view [.stamp first second]).outcome =
        (Parts.write { collector := k, options := o } view [.stamp first' second']).outcome →
      first = first' ∧ second = second' := by
  have hsame : ∀ t t' : Timestamp, t.IsWellFormed → t'.IsWellFormed → t.text = t'.text → t = t' := by
    intro t t' h h' he
    exact (eq_of_text_append_eq h h' (congrArg (· ++ []) he)).1
  refine ⟨hsame, fun k o view first first' second second' h h' he => ?_⟩
  obtain ⟨hfirst, hsecond⟩ := List.forall_mem_cons.1 h
  obtain ⟨hfirst', hsecond'⟩ := List.forall_mem_cons.1 h'
  rw [outcome_write_stamp k o view h, outcome_write_stamp k o view h', Except.ok.injEq] at he
  obtain ⟨rfl, hrest⟩ := eq_of_text_append_eq hfirst hfirst' he
  refine ⟨rfl, ?_⟩
  cases second with
  | none =>
    cases second' with
    | none => rfl
    | some t' => nomatch hrest
  | some t =>
    cases second' with
    | none => nomatch hrest
    | some t' =>
      have htext : t.text = t'.text := List.append_cancel_left hrest
      rw [hsame t t' (hsecond t (by simp)) (hsecond' t' (by simp)) htext]

/-- A timestamp with all its fields, and a range that ends in it: the dashes of the date, of the range, of the end time and of the
delay stand in one text. -/
theorem eq_of_same_text_delayed :
    let t : Timestamp := {
      year := .str "2019", month := .str "08", day := .str "02", weekday := .str "Fri"
      start := ⟨.str "10", .str "00"⟩, stop := ⟨.str "11", .str "30"⟩
      repeater := ⟨.str ".+", .str "1", .str "w"⟩, delay := ⟨.str "--", .str "2", .str "d"⟩ }
    let first : Timestamp := { year := .str "2019", month := .str "08", day := .str "01" }
    let t' := (read t.text).1
    (t.IsWellFormed ∧ t'.IsWellFormed ∧ first.IsWellFormed) ∧ t.text = "<2019-08-02 Fri 10:00-11:30 .+1w --2d>".toList ∧
      t.text = t'.text ∧ (Parts.write {} .raw [.stamp first (some t)]).outcome =
        .ok "<2019-08-01>--<2019-08-02 Fri 10:00-11:30 .+1w --2d>".toList ∧
      t = t' ∧ some t = some t' := by
  intro t first t'
  have digits : ∀ w ∈ ["2019", "08", "01", "02", "10", "00", "11", "30", "1", "2"], (Json.str w).IsWordOf Char.isDigit := by
    intro w hw
    refine ⟨w, rfl, ?_⟩
    revert w
    decide
  have ht : t.IsWellFormed := {
    year := digits _ (by decide), month := digits _ (by decide), day := digits _ (by decide), active := ⟨true, rfl⟩
    weekday := .inr ⟨_, rfl, by decide, by decide⟩
    start := .given (digits _ (by decide)) (digits _ (by decide)), stop := .given (digits _ (by decide)) (digits _ (by decide))
    repeater := .given (by decide) (digits _ (by decide)) (by decide)
    delay := .given (by decide) (digits _ (by decide)) (by decide) }
  have hfirst : first.IsWellFormed := {
    year := digits _ (by decide), month := digits _ (by decide), day := digits _ (by decide), active := ⟨true, rfl⟩
    weekday := .inl rfl, start := .absent, stop := .absent, repeater := .absent, delay := .absent }
  have hread : t' = t := by
    have h := congrArg Prod.fst (read_text_append ht [])
    rwa [List.append_nil] at h
  have ht' : t'.IsWellFormed := hread ▸ ht
  have htext : t.text = t'.text := by rw [hread]
  obtain ⟨hsingle, hrange⟩ := eq_of_same_text
  have hboth : ∀ u ∈ [first, t], u.IsWellFormed := List.forall_mem_cons.2 ⟨hfirst, List.forall_mem_singleton.2 ht⟩
  have hboth' : ∀ u ∈ [first, t'], u.IsWellFormed := List.forall_mem_cons.2 ⟨hfirst, List.forall_mem_singleton.2 ht'⟩
  have hsame : (Parts.write {} .raw [.stamp first (some t)]).outcome =
      (Parts.write {} .raw [.stamp first (some t')]).outcome := by
    rw [hread]
  refine ⟨⟨ht, ht', hfirst⟩, rfl, htext, (outcome_write_stamp .absent {} .raw hboth).trans rfl, hsingle t t' ht ht' htext, ?_⟩
  exact (hrange .absent {} .raw first first (some t) (some t') hboth hboth' hsame).2

end Timestamp
end OrgOutline
