import Mathlib.Algebra.Order.Ring.Int
import Mathlib.Data.List.TakeWhile
import Mathlib.Tactic.IntervalCases
import OrgOutline.Json.Reader

/-!
# Written integers

The decimal text of an integer has digits alone behind its sign, and no zero in front of other digits. Main statement: it is
read back as the integer, unless it has more than `digitLimit` digits (`Json.ofWord_decimalInt`), which is so for the
integers from `10 ^ digitLimit` on (`isLong_iff`).
-/

namespace OrgOutline

/-- The integers of too many digits are those that are too far from zero. -/
theorem isLong_iff (n : Int) : isLong n = true ↔ 10 ^ digitLimit ≤ n.natAbs := by
  have h : digitCount n ≤ digitLimit ↔ n.natAbs < 10 ^ digitLimit :=
    Nat.length_toDigits_le_iff (by decide) (by decide)
  rw [isLong, decide_eq_true_iff, ← Nat.not_le, h, Nat.not_lt]

theorem natAbs_ten_pow (k : Nat) : (10 ^ k : Int).natAbs = 10 ^ k := Int.natAbs_pow 10 k

theorem isLong_ten_pow : isLong (10 ^ digitLimit) = true := by rw [isLong_iff, natAbs_ten_pow]

/-! ## Digits -/

theorem isDigit_of_mem_decimalNat {n : Nat} {c : Char} (h : c ∈ decimalNat n) : c.isDigit = true :=
  Nat.isDigit_of_mem_toDigits (by decide) (by decide) h

theorem decimalNat_ne_nil (n : Nat) : decimalNat n ≠ [] := Nat.toDigits_ne_nil

/-- Only zero starts with a zero. -/
theorem decimalNat_eq_zero_cons {n : Nat} {t : Text} (h : decimalNat n = '0' :: t) : n = 0 := by
  induction n using Nat.strongRecOn generalizing t with
  | ind n ih =>
    by_cases hn : n < 10
    · rw [decimalNat, Nat.toDigits_of_lt_base hn] at h
      interval_cases n <;> simp_all [Nat.digitChar]
    · rw [decimalNat, Nat.toDigits_of_base_le (by decide) (by omega)] at h
      obtain ⟨c, cs, hc⟩ := List.exists_cons_of_ne_nil (decimalNat_ne_nil (n / 10))
      have hd : decimalNat (n / 10) = '0' :: cs := by
        rw [decimalNat] at hc ⊢
        rw [hc] at h ⊢
        rw [List.cons_append, List.cons.injEq] at h
        rw [h.1]
      have := ih (n / 10) (by omega) hd
      omega

/-- Only digits and a minus sign are in a written integer. -/
theorem isDigit_or_minus_of_mem_decimalInt {n : Int} {c : Char} (h : c ∈ decimalInt n) : c.isDigit = true ∨ c = '-' := by
  cases n with
  | ofNat n => exact Or.inl (isDigit_of_mem_decimalNat h)
  | negSucc n => exact (List.mem_cons.1 h).symm.imp isDigit_of_mem_decimalNat id

theorem decimalInt_ne_nil (n : Int) : decimalInt n ≠ [] := by
  cases n with
  | ofNat n => exact decimalNat_ne_nil n
  | negSucc n => exact List.cons_ne_nil _ _

namespace Json

/-! ## Reading digits -/

/-- The digits of a natural number are the whole part of a number, and nothing is left. -/
theorem wholePart_decimalNat (n : Nat) : wholePart? (decimalNat n) = some (decimalNat n, []) := by
  have hl : leadingDigits (decimalNat n) = (decimalNat n, []) := by
    have hd : ∀ c ∈ decimalNat n, c.isDigit = true := fun c => isDigit_of_mem_decimalNat
    rw [leadingDigits, List.takeWhile_eq_self_iff.2 hd, List.dropWhile_eq_nil_iff.2 hd]
  unfold wholePart?
  split
  · rename_i t ht
    have h0 := decimalNat_eq_zero_cons ht
    subst h0
    have ht' : t = [] := (List.cons.inj ht).2.symm
    rw [ht']
    rfl
  · rw [hl, if_neg]
    simpa using decimalNat_ne_nil n

/-- The digits of a natural number, read behind a sign. -/
theorem unsigned_decimalNat (negative : Bool) (n : Nat) : unsigned negative (decimalNat n) =
    if digitLimit < (decimalNat n).length then .error (.tooManyDigits (decimalNat n).length)
    else .ok (.int (if negative then -(n : Int) else n)) := by
  have hv : digitsValue (decimalNat n) = n := Nat.ofDigitChars_ten_toDigits
  rw [unsigned, wholePart_decimalNat]
  simp only [fractionPart, exponentPart, numberOf, hv, checkDigits]
  by_cases h : digitLimit < (decimalNat n).length
  · rw [if_pos h, if_pos h]
    rfl
  · rw [if_neg h, if_neg h]
    rfl

theorem number_decimalInt (n : Int) :
    number (decimalInt n) = if isLong n then .error (.tooManyDigits (digitCount n)) else .ok (.int n) := by
  simp only [isLong, decide_eq_true_eq]
  cases n with
  | negSucc n => exact unsigned_decimalNat true (n + 1)
  | ofNat n =>
    have h : number (decimalNat n) = unsigned false (decimalNat n) := by
      unfold number
      split
      · rename_i t ht
        have hd : ('-').isDigit = true := isDigit_of_mem_decimalNat (n := n) (ht ▸ List.mem_cons_self)
        exact absurd hd (by decide)
      · rfl
    exact h.trans (unsigned_decimalNat false n)

/-- A word of digits and signs is none of the words that have names. -/
theorem lookup_namedWords {w : List Char} (h : ∀ c ∈ w, c.isDigit = true ∨ c = '-') : namedWords.lookup w = none := by
  have hnames : ∀ m ∈ namedWords, ∃ c ∈ m.1, ¬ (c.isDigit = true ∨ c = '-') := by
    simp only [namedWords, List.forall_mem_cons]
    exact ⟨⟨'n', by simp, by decide⟩, ⟨'t', by simp, by decide⟩, ⟨'f', by simp, by decide⟩, ⟨'N', by simp, by decide⟩,
      ⟨'I', by simp, by decide⟩, ⟨'I', by simp, by decide⟩, nofun⟩
  refine List.lookup_eq_none_iff.2 ?_
  intro m hm
  refine bne_iff_ne.2 ?_
  rintro rfl
  obtain ⟨c, hc, hn⟩ := hnames m hm
  exact hn (h c hc)

/-- A written integer is read back, unless it has too many digits. -/
theorem ofWord_decimalInt (n : Int) :
    ofWord (decimalInt n) = if isLong n then .error (.tooManyDigits (digitCount n)) else .ok (.int n) := by
  rw [ofWord, lookup_namedWords fun c hc => isDigit_or_minus_of_mem_decimalInt hc]
  exact number_decimalInt n

end Json
end OrgOutline
