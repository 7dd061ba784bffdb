import Mathlib.Data.List.TakeWhile
import OrgOutline.Json.Operation
import OrgOutline.Proofs.WholeLines

/-!
# Spellings of integers

What a text must look like to be read as an integer: blank characters around, one sign at most, and digits of any script, in
groups with single underscores between them (`Text.Spells`). Main statement: a text is read as an integer exactly if it spells
it in at most `digitLimit` digits (`readInteger_eq_ok_iff`), so a value is read as the integer that it means
(`Json.toInteger_eq_ok_iff`).
-/

namespace OrgOutline
namespace Text

/-- A text of digits alone. -/
def AreDigits (t : Text) : Prop := ∀ c ∈ t, (digitValue? c).isSome = true

/-- The value of digits that are read on behind a value. -/
def digitsFrom (value : Nat) (digits : Text) : Nat := digits.foldl (fun n c => 10 * n + (digitValue? c).getD 0) value

/-- Groups of digits, none of them empty. -/
def AreGroups (groups : List Text) : Prop := ∀ g ∈ groups, g ≠ [] ∧ g.AreDigits

/-- A text spells a natural number in a number of digits: groups of digits with single underscores between them. -/
inductive SpellsNat : Text → Nat → Nat → Prop
  | groups {groups : List Text} (h : AreGroups groups) (hne : groups ≠ []) :
      SpellsNat (['_'].intercalate groups) (digitsFrom 0 groups.flatten) groups.flatten.length

/-- The same with one sign at most in front. -/
inductive SpellsSigned : Text → Int → Nat → Prop
  | plain {t : Text} {n count : Nat} (h : SpellsNat t n count) : SpellsSigned t n count
  | plus {t : Text} {n count : Nat} (h : SpellsNat t n count) : SpellsSigned ('+' :: t) n count
  | minus {t : Text} {n count : Nat} (h : SpellsNat t n count) : SpellsSigned ('-' :: t) (-(n : Int)) count

/-- The same with blank characters around. -/
inductive Spells : Text → Int → Nat → Prop
  | padded {front t back : Text} {z : Int} {count : Nat} (hfront : ∀ c ∈ front, isIntegerPadding c = true)
      (h : SpellsSigned t z count) (hback : ∀ c ∈ back, isIntegerPadding c = true) : Spells (front ++ t ++ back) z count

/-! ## Groups of digits -/

theorem digitValue?_underscore : digitValue? '_' = none := by decide

/-- A character in front of a text of groups is a digit of the first one, or the underscore behind an empty one. -/
theorem cons_eq_intercalate_iff {c : Char} {rest first : Text} {groups : List Text} :
    c :: rest = ['_'].intercalate (first :: groups) ↔
      (∃ ds, first = c :: ds ∧ rest = ['_'].intercalate (ds :: groups)) ∨
        first = [] ∧ c = '_' ∧ groups ≠ [] ∧ rest = ['_'].intercalate groups := by
  constructor
  · intro h
    cases first with
    | nil =>
      cases groups with
      | nil => nomatch h
      | cons g gs =>
        obtain ⟨rfl, rfl⟩ := List.cons.inj h
        exact .inr ⟨rfl, rfl, List.cons_ne_nil _ _, rfl⟩
    | cons d ds =>
      cases groups with
      | nil =>
        obtain ⟨rfl, rfl⟩ := List.cons.inj (h.trans List.intercalate_singleton)
        exact .inl ⟨_, rfl, List.intercalate_singleton.symm⟩
      | cons g gs =>
        rw [List.intercalate_cons_cons] at h
        obtain ⟨rfl, rfl⟩ := List.cons.inj h
        exact .inl ⟨ds, rfl, List.intercalate_cons_cons.symm⟩
  · rintro (⟨ds, rfl, rfl⟩ | ⟨rfl, rfl, hne, rfl⟩)
    · cases groups with
      | nil => rw [List.intercalate_singleton, List.intercalate_singleton]
      | cons g gs =>
        rw [List.intercalate_cons_cons, List.intercalate_cons_cons]
        rfl
    · obtain ⟨g, gs, rfl⟩ := List.exists_cons_of_ne_nil hne
      rw [List.intercalate_cons_cons]
      rfl

theorem AreDigits.of_cons {c : Char} {ds : Text} (h : AreDigits (c :: ds)) :
    (∃ d, digitValue? c = some d) ∧ ds.AreDigits := by
  obtain ⟨hc, hds⟩ := List.forall_mem_cons.1 h
  exact ⟨Option.isSome_iff_exists.1 hc, hds⟩

/-- What is read on behind digits: the rest of their group, which is not empty where no digit stands before, and further groups;
and there are not too many digits. -/
def ReadsOn (value count : Nat) (afterDigit : Bool) (t : Text) (n : Nat) : Prop :=
  ∃ first groups, AreDigits first ∧ (afterDigit = false → first ≠ []) ∧ AreGroups groups ∧
    t = ['_'].intercalate (first :: groups) ∧ n = digitsFrom value (first ++ groups.flatten) ∧
    count + (first ++ groups.flatten).length ≤ digitLimit

variable {value count n : Nat} {afterDigit : Bool}

theorem readsOn_nil_iff : ReadsOn value count afterDigit [] n ↔ afterDigit = true ∧ n = value ∧ count ≤ digitLimit := by
  constructor
  · rintro ⟨first, groups, -, hstart, -, ht, hn, hcount⟩
    cases groups with
    | cons g gs => simp at ht
    | nil =>
      obtain rfl : first = [] := by simpa using ht.symm
      refine ⟨?_, hn, hcount⟩
      by_contra hafter
      exact hstart (Bool.eq_false_iff.2 hafter) rfl
  · rintro ⟨rfl, rfl, hcount⟩
    exact ⟨[], [], List.forall_mem_nil _, nofun, List.forall_mem_nil _, rfl, rfl, hcount⟩

/-- An underscore is read between two groups. -/
theorem readsOn_underscore_iff {rest : Text} : ReadsOn value count afterDigit ('_' :: rest) n ↔
    afterDigit = true ∧ ReadsOn value count false rest n := by
  constructor
  · rintro ⟨first, groups, hfirst, hstart, hgroups, ht, hn, hcount⟩
    rcases cons_eq_intercalate_iff.1 ht with ⟨ds, rfl, -⟩ | ⟨rfl, -, hne, rfl⟩
    · obtain ⟨⟨d, hd⟩, -⟩ := hfirst.of_cons
      rw [digitValue?_underscore] at hd
      nomatch hd
    · obtain ⟨g, gs, rfl⟩ := List.exists_cons_of_ne_nil hne
      obtain ⟨⟨hg, hdigits⟩, hgs⟩ := List.forall_mem_cons.1 hgroups
      refine ⟨?_, g, gs, hdigits, fun _ => hg, hgs, rfl, hn, hcount⟩
      by_contra hafter
      exact hstart (Bool.eq_false_iff.2 hafter) rfl
  · rintro ⟨rfl, first, groups, hfirst, hstart, hgroups, rfl, hn, hcount⟩
    refine ⟨[], first :: groups, List.forall_mem_nil _, nofun, List.forall_mem_cons.2 ⟨⟨hstart rfl, hfirst⟩, hgroups⟩, ?_, hn,
      hcount⟩
    exact cons_eq_intercalate_iff.2 (.inr ⟨rfl, rfl, List.cons_ne_nil _ _, rfl⟩)

/-- A digit is read on behind those before it. -/
theorem readsOn_digit_iff {c : Char} {rest : Text} {d : Nat} (hc : digitValue? c = some d) :
    ReadsOn value count afterDigit (c :: rest) n ↔ ReadsOn (10 * value + d) (count + 1) true rest n := by
  have hvalue : ∀ ds, digitsFrom value (c :: ds) = digitsFrom (10 * value + d) ds := by
    intro ds
    rw [digitsFrom, List.foldl_cons, hc]
    rfl
  have hcount : ∀ ds : Text, count + (c :: ds).length = count + 1 + ds.length := fun ds => by
    rw [List.length_cons]
    omega
  constructor
  · rintro ⟨first, groups, hfirst, -, hgroups, ht, hn, hle⟩
    rcases cons_eq_intercalate_iff.1 ht with ⟨ds, rfl, hrest⟩ | ⟨-, rfl, -⟩
    · rw [List.cons_append, hvalue] at hn
      rw [List.cons_append, hcount] at hle
      exact ⟨ds, groups, hfirst.of_cons.2, nofun, hgroups, hrest, hn, hle⟩
    · rw [digitValue?_underscore] at hc
      nomatch hc
  · rintro ⟨first, groups, hfirst, -, hgroups, rfl, hn, hle⟩
    have hdigits : AreDigits (c :: first) := List.forall_mem_cons.2 ⟨by rw [hc]; rfl, hfirst⟩
    refine ⟨c :: first, groups, hdigits, fun _ => List.cons_ne_nil _ _, hgroups, ?_, ?_, ?_⟩
    · exact cons_eq_intercalate_iff.2 (.inl ⟨first, rfl, rfl⟩)
    · rw [List.cons_append, hvalue, hn]
    · rw [List.cons_append, hcount]
      exact hle

theorem not_readsOn_other {c : Char} {rest : Text} (hunderscore : c ≠ '_') (hc : digitValue? c = none) :
    ¬ ReadsOn value count afterDigit (c :: rest) n := by
  rintro ⟨first, groups, hfirst, -, -, ht, -⟩
  rcases cons_eq_intercalate_iff.1 ht with ⟨ds, rfl, -⟩ | ⟨-, rfl, -⟩
  · obtain ⟨⟨d, hd⟩, -⟩ := hfirst.of_cons
    rw [hc] at hd
    nomatch hd
  · exact hunderscore rfl

theorem readDigits_eq_ok_iff {t : Text} :
    readDigits value count afterDigit t = .ok n ↔ ReadsOn value count afterDigit t n := by
  induction t generalizing value count afterDigit with
  | nil =>
    rw [readsOn_nil_iff, readDigits, checkDigits]
    cases afterDigit with
    | false => simp
    | true =>
      by_cases h : digitLimit < count
      · simp [h]
      · simp [h, Nat.not_lt.1 h, eq_comm]
  | cons c rest ih =>
    rw [readDigits]
    by_cases hunderscore : c = '_'
    · subst hunderscore
      rw [if_pos rfl, readsOn_underscore_iff]
      cases afterDigit with
      | false => simp
      | true => simp [ih]
    · rw [if_neg hunderscore]
      cases hc : digitValue? c with
      | some d => rw [readsOn_digit_iff hc, ← ih]
      | none =>
        have hnot : ¬ ReadsOn value count afterDigit (c :: rest) n := not_readsOn_other hunderscore hc
        cases afterDigit with
        | false => simp [hnot]
        | true => cases h : checkDigits count value <;> simp [hnot, Except.bind]

/-! ## Signs and padding -/

/-- Digits that are read from the start spell a number. -/
theorem readsOn_start_iff {t : Text} : ReadsOn 0 0 false t n ↔ ∃ count ≤ digitLimit, SpellsNat t n count := by
  constructor
  · rintro ⟨first, groups, hfirst, hstart, hgroups, rfl, rfl, hcount⟩
    rw [Nat.zero_add] at hcount
    exact ⟨_, hcount, .groups (List.forall_mem_cons.2 ⟨⟨hstart rfl, hfirst⟩, hgroups⟩) (List.cons_ne_nil first groups)⟩
  · rintro ⟨-, hcount, hgroups, hne⟩
    obtain ⟨g, gs, rfl⟩ := List.exists_cons_of_ne_nil hne
    obtain ⟨⟨hg, hdigits⟩, hgs⟩ := List.forall_mem_cons.1 hgroups
    exact ⟨g, gs, hdigits, fun _ => hg, hgs, rfl, rfl, by rwa [Nat.zero_add]⟩

/-- A spelled number starts with a digit. -/
theorem SpellsNat.exists_eq_cons {t : Text} (h : SpellsNat t n count) :
    ∃ c rest, t = c :: rest ∧ (digitValue? c).isSome = true := by
  obtain ⟨hgroups, hne⟩ := h
  obtain ⟨g, gs, rfl⟩ := List.exists_cons_of_ne_nil hne
  obtain ⟨hg, hdigits⟩ := hgroups g List.mem_cons_self
  obtain ⟨c, ds, rfl⟩ := List.exists_cons_of_ne_nil hg
  exact ⟨c, _, (cons_eq_intercalate_iff.2 (.inl ⟨ds, rfl, rfl⟩)).symm, hdigits c List.mem_cons_self⟩

theorem readSigned_eq_ok_iff {t : Text} {z : Int} :
    readSigned t = .ok z ↔ ∃ count ≤ digitLimit, SpellsSigned t z count := by
  constructor
  · intro h
    unfold readSigned at h
    split at h
    all_goals
      obtain ⟨n, hn, rfl⟩ := map_eq_ok.1 h
      obtain ⟨count, hcount, hspells⟩ := readsOn_start_iff.1 (readDigits_eq_ok_iff.1 hn)
    · exact ⟨count, hcount, .minus hspells⟩
    · exact ⟨count, hcount, .plus hspells⟩
    · exact ⟨count, hcount, .plain hspells⟩
  · rintro ⟨count, hcount, hspells⟩
    have hread : ∀ {t n}, SpellsNat t n count → readDigits 0 0 false t = .ok n :=
      fun h => readDigits_eq_ok_iff.2 (readsOn_start_iff.2 ⟨count, hcount, h⟩)
    cases hspells with
    | minus h => exact map_eq_ok.2 ⟨_, hread h, rfl⟩
    | plus h => exact map_eq_ok.2 ⟨_, hread h, rfl⟩
    | plain h =>
      have hdigits := hread h
      obtain ⟨c, rest, rfl, hc⟩ := h.exists_eq_cons
      unfold readSigned
      split
      · rename_i he
        rw [(List.cons.inj he).1] at hc
        exact absurd hc (by decide)
      · rename_i he
        rw [(List.cons.inj he).1] at hc
        exact absurd hc (by decide)
      · exact map_eq_ok.2 ⟨_, hdigits, rfl⟩

/-- The digits of all scripts and the blank characters are different characters. -/
theorem not_isIntegerPadding_of_digit {c : Char} (h : (digitValue? c).isSome = true) : isIntegerPadding c = false := by
  have hapart : ∀ z ∈ digitZeros, ∀ r ∈ blankRanges, z + 9 < r.1 ∨ r.2 < z := by decide
  obtain ⟨d, hd⟩ := Option.isSome_iff_exists.1 h
  obtain ⟨z, hz, hsome⟩ := List.exists_of_findSome?_eq_some hd
  have hdigit : z ≤ c.toNat ∧ c.toNat < z + 10 := by
    by_contra hnot
    rw [if_neg hnot] at hsome
    nomatch hsome
  have hblank : isBlank c = false := by
    refine List.any_eq_false.2 fun r hr hin => ?_
    rw [Bool.and_eq_true_iff, decide_eq_true_iff, decide_eq_true_iff] at hin
    have := hapart z hz r hr
    omega
  rw [isIntegerPadding, hblank, Bool.false_and]

theorem SpellsNat.not_padding {t : Text} (h : SpellsNat t n count) : ∀ c ∈ t, isIntegerPadding c = false := by
  obtain ⟨hgroups, -⟩ := h
  refine forall_mem_intercalate (List.forall_mem_singleton.2 (by decide)) fun g hg c hc => ?_
  exact not_isIntegerPadding_of_digit ((hgroups g hg).2 c hc)

theorem SpellsSigned.not_padding {t : Text} {z : Int} (h : SpellsSigned t z count) :
    t ≠ [] ∧ ∀ c ∈ t, isIntegerPadding c = false := by
  cases h with
  | plain h =>
    obtain ⟨c, rest, rfl, -⟩ := h.exists_eq_cons
    exact ⟨List.cons_ne_nil _ _, h.not_padding⟩
  | plus h => exact ⟨List.cons_ne_nil _ _, List.forall_mem_cons.2 ⟨by decide, h.not_padding⟩⟩
  | minus h => exact ⟨List.cons_ne_nil _ _, List.forall_mem_cons.2 ⟨by decide, h.not_padding⟩⟩

end Text

open Text (Spells SpellsSigned)

/-- The text is read without the padding at its two ends. -/
theorem readInteger_padded {front t back : Text} (hfront : ∀ c ∈ front, isIntegerPadding c = true)
    (hback : ∀ c ∈ back, isIntegerPadding c = true) (hne : t ≠ []) (ht : ∀ c ∈ t, isIntegerPadding c = false) :
    readInteger (front ++ t ++ back) = readSigned t := by
  have hhead : ∀ {u w : Text}, u ≠ [] → (∀ c ∈ u, isIntegerPadding c = false) →
      ∀ c ∈ (u ++ w).head?, isIntegerPadding c = false := by
    intro u w hu h c hc
    obtain ⟨d, ds, rfl⟩ := List.exists_cons_of_ne_nil hu
    obtain rfl : d = c := Option.some.inj hc
    exact h d List.mem_cons_self
  have hdrop := (Text.takeWhile_dropWhile_append hfront (hhead hne ht (w := back))).2
  have hdropBack : (back.reverse ++ t.reverse).dropWhile isIntegerPadding = t.reverse := by
    have hlast := hhead (u := t.reverse) (w := []) (by simpa using hne) (by simpa using ht)
    rw [List.append_nil] at hlast
    exact (Text.takeWhile_dropWhile_append (by simpa using hback) hlast).2
  rw [readInteger, List.append_assoc, hdrop, List.reverse_append, hdropBack, List.reverse_reverse]

/-- A text is read as an integer exactly if it spells it in no more digits than may be read. -/
theorem readInteger_eq_ok_iff {t : Text} {z : Int} : readInteger t = .ok z ↔ ∃ count ≤ digitLimit, Spells t z count := by
  constructor
  · intro h
    obtain ⟨count, hcount, hspells⟩ := Text.readSigned_eq_ok_iff.1 h
    refine ⟨count, hcount, ?_⟩
    have hfront : ∀ c ∈ t.takeWhile isIntegerPadding, isIntegerPadding c = true := fun c => List.mem_takeWhile_imp
    have hback : ∀ c ∈ ((t.dropWhile isIntegerPadding).reverse.takeWhile isIntegerPadding).reverse,
        isIntegerPadding c = true := fun c hc => List.mem_takeWhile_imp (List.mem_reverse.1 hc)
    have htext : t = t.takeWhile isIntegerPadding ++
        ((t.dropWhile isIntegerPadding).reverse.dropWhile isIntegerPadding).reverse ++
        ((t.dropWhile isIntegerPadding).reverse.takeWhile isIntegerPadding).reverse := by
      rw [List.append_assoc, ← List.reverse_append, List.takeWhile_append_dropWhile, List.reverse_reverse,
        List.takeWhile_append_dropWhile]
    rw [htext]
    exact .padded hfront hspells hback
  · rintro ⟨count, hcount, hfront, hspells, hback⟩
    obtain ⟨hne, hnot⟩ := hspells.not_padding
    rw [readInteger_padded hfront hback hne hnot]
    exact Text.readSigned_eq_ok_iff.2 ⟨count, hcount, hspells⟩

/-- A value means an integer: a string spells it in no more digits than may be read; what other values mean is not a matter of
spelling. -/
def Json.Means (v : Json) (z : Int) : Prop :=
  match v with
  | .str s => ∃ count ≤ digitLimit, Spells s.toList z count
  | v => v.toInteger = .ok z

/-- A value is read as the integer that it means. -/
theorem Json.toInteger_eq_ok_iff {v : Json} {z : Int} : v.toInteger = .ok z ↔ v.Means z := by
  cases v with
  | str s =>
    rw [Means, ← readInteger_eq_ok_iff, toInteger]
    cases readInteger s.toList with
    | ok n => simp
    | error refusal => cases refusal <;> simp
  | _ => exact Iff.rfl

end OrgOutline
