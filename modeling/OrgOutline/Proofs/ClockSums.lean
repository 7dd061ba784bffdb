import OrgOutline.Proofs.Minutes
import OrgOutline.Proofs.Runs
import OrgOutline.Proofs.Words
import OrgOutline.Timestamp.Duration

/-!
# Sums of clocks

The text of the time between two timestamps is read back as a number of minutes (`readDuration`). Main statement: between
timestamps that denote moments of the calendar there always is such a text, and what it shows are the minutes of the calendar
exactly: nothing from a moment to itself, the opposite on the way back, the sum on a way in two parts, one minute more to the next
minute, and a minus sign only to an earlier moment (`Timestamp.duration_exact`).
-/

namespace OrgOutline

open Json (digitsValue)

/-! ## Reading a duration -/

/-- The minutes that hours and minutes spell: digits, a colon, and two digits for a number below sixty. -/
def readHoursAndMinutes (t : Text) : Option Nat :=
  match t.takeWhile Char.isDigit, t.dropWhile Char.isDigit with
  | hours, [':', tens, ones] =>
    if hours.isEmpty = false ∧ tens.isDigit = true ∧ ones.isDigit = true ∧ digitsValue [tens, ones] < 60 then
      some (digitsValue hours * 60 + digitsValue [tens, ones])
    else none
  | _, _ => none

/-- The minutes that a duration shows: behind spaces, a minus sign if they are negative, and then hours and minutes. -/
def readDuration (t : Text) : Option Int :=
  match t.dropWhile (· == ' ') with
  | '-' :: rest => (readHoursAndMinutes rest).map fun n : Nat => -(n : Int)
  | rest => (readHoursAndMinutes rest).map fun n : Nat => (n : Int)

theorem twoDigits_of_lt : ∀ n < 60, (twoDigits n).length = 2 ∧ (twoDigits n).all Char.isDigit = true ∧
    digitsValue (twoDigits n) = n := by decide

theorem digitsValue_decimalNat (n : Nat) : digitsValue (decimalNat n) = n := Nat.ofDigitChars_ten_toDigits

theorem readHoursAndMinutes_text (hours : Nat) {minutes : Nat} (h : minutes < 60) :
    readHoursAndMinutes (decimalNat hours ++ ':' :: twoDigits minutes) = some (hours * 60 + minutes) := by
  obtain ⟨hlength, hdigits, hvalue⟩ := twoDigits_of_lt minutes h
  obtain ⟨tens, ones, htwo⟩ := List.length_eq_two.1 hlength
  have hhours : ∀ c ∈ decimalNat hours, c.isDigit = true := fun c => isDigit_of_mem_decimalNat
  have hcolon : ∀ c ∈ (':' :: twoDigits minutes).head?, c.isDigit = false := by
    rintro c ⟨⟩
    decide
  obtain ⟨htake, hdrop⟩ := Text.takeWhile_dropWhile_append hhours hcolon
  have hempty : (decimalNat hours).isEmpty = false := by simpa using decimalNat_ne_nil hours
  rw [htwo] at hdigits hvalue
  simp only [List.all_cons, List.all_nil, Bool.and_true, Bool.and_eq_true] at hdigits
  rw [readHoursAndMinutes, htake, hdrop, htwo]
  simp only [hempty, hdigits, hvalue, h, digitsValue_decimalNat, and_self, if_true]

/-- What is written behind the spaces and the sign of a duration starts with a digit. -/
theorem exists_hours_eq_cons (hours : Nat) (t : Text) : ∃ c rest, decimalNat hours ++ t = c :: rest ∧ c.isDigit = true := by
  obtain ⟨c, rest, h⟩ := List.exists_cons_of_ne_nil (decimalNat_ne_nil hours)
  exact ⟨c, rest ++ t, by rw [h]; rfl, isDigit_of_mem_decimalNat (n := hours) (h ▸ List.mem_cons_self)⟩

/-- A duration is read back. -/
theorem readDuration_durationText (n : Int) : readDuration (durationText n) = some n := by
  have hread := readHoursAndMinutes_text (n.natAbs / 60) (Nat.mod_lt n.natAbs (by decide : 0 < 60))
  rw [Nat.div_add_mod'] at hread
  obtain ⟨c, rest, htext, hc⟩ := exists_hours_eq_cons (n.natAbs / 60) (':' :: twoDigits (n.natAbs % 60))
  rw [htext] at hread
  have hspaces : ∀ k, ∀ x ∈ Text.spaces k, (x == ' ') = true := fun k x hx => beq_iff_eq.2 (List.eq_of_mem_replicate hx)
  rw [readDuration, durationText, Text.alignRight, List.dropWhile_append_of_pos (hspaces _), List.append_assoc, htext]
  by_cases hn : n < 0
  · rw [if_pos hn]
    show (readHoursAndMinutes (c :: rest)).map (fun n : Nat => -(n : Int)) = some n
    rw [hread, Option.map_some, Int.ofNat_natAbs_of_nonpos hn.le, Int.neg_neg]
  · have hspace : c ≠ ' ' := by
      rintro rfl
      nomatch hc
    have hminus : c ≠ '-' := by
      rintro rfl
      nomatch hc
    rw [if_neg hn, List.nil_append, List.dropWhile_cons_of_neg (by simpa using hspace)]
    split
    · rename_i he
      exact absurd (List.cons.inj he).1 hminus
    · rw [hread, Option.map_some, Int.natAbs_of_nonneg (Int.not_lt.1 hn)]

/-- A duration has a minus sign exactly if it is negative. -/
theorem minus_mem_durationText (n : Int) : '-' ∈ durationText n ↔ n < 0 := by
  have hdigits : ∀ k, '-' ∉ decimalNat k := by
    intro k h
    exact absurd (isDigit_of_mem_decimalNat h) (by decide)
  have htwo : ∀ k, '-' ∉ twoDigits k := by
    intro k
    unfold twoDigits
    split
    · exact List.not_mem_cons_of_ne_of_not_mem (by decide) (hdigits k)
    · exact hdigits k
  have hspaces : ∀ k, '-' ∉ Text.spaces k := by
    intro k h
    exact absurd (List.eq_of_mem_replicate h) (by decide)
  by_cases hn : n < 0
  · simp [durationText, Text.alignRight, hn]
  · simp [durationText, Text.alignRight, hn, hdigits, htwo, hspaces]

theorem five_le_length_durationText (n : Int) : 5 ≤ (durationText n).length := by
  rw [durationText, Text.alignRight, List.length_append, Text.length_spaces]
  omega

/-! ## Timestamps that denote moments -/

/-- A timestamp denotes a moment of the calendar: its fields are integers or spell them, an hour or minute that is not set being
zero, and these are the parts of the moment. -/
structure Timestamp.Denotes (t : Timestamp) (m : Moment) : Prop where
  year : t.year.toInteger = .ok m.year
  month : t.month.toInteger = .ok m.month
  day : t.day.toInteger = .ok m.day
  hour : t.start.hour.toTime = .ok m.hour
  minute : t.start.minute.toTime = .ok m.minute
  valid : m.IsValid

theorem Moment.IsValid.check_eq {m : Moment} (h : m.IsValid) : check m.year m.month m.day m.hour m.minute = .ok m := by
  obtain ⟨h1, h2, h3, h4, h5, h6, h7, h8⟩ := h
  simp only [check, Int.toNat_natCast]
  rw [if_neg (by omega), if_neg (by omega), if_neg (by omega), if_neg (by omega), if_neg (by omega)]

theorem Timestamp.Denotes.moment_eq {t : Timestamp} {m : Moment} (h : t.Denotes m) : t.moment = .ok m := by
  have hsize : ∀ n : Nat, n ≤ 9999 → checkSize n = .ok () := by
    intro n hn
    rw [checkSize, if_pos (by omega)]
  have hv := h.valid
  have hday := Nat.le_trans hv.day_le (daysInMonth_le _ _)
  have hmonth := hv.month_le
  have hhour := hv.hour_le
  have hminute := hv.minute_le
  have hbind : ∀ {α β : Type} (a : α) (f : α → Except Fault β), Except.ok a >>= f = f a := fun _ _ => rfl
  simp only [moment, h.year, h.month, h.day, h.hour, h.minute, hbind, hsize _ hv.year_le, hsize m.month (by omega),
    hsize m.day (by omega), hsize m.hour (by omega), hsize m.minute (by omega), hv.check_eq]

namespace Timestamp

variable {a b c : Timestamp} {ma mb mc : Moment}

/-- The text of the time between two timestamps that denote moments. -/
theorem Denotes.duration_eq (ha : a.Denotes ma) (hb : b.Denotes mb) :
    a.duration b = .ok (durationText ((mb.minutes : Int) - ma.minutes)) := by
  rw [duration, minutesBetween, ha.moment_eq, hb.moment_eq]
  rfl

/-- The text of the time between two timestamps shows a number of minutes. -/
def Shows (a b : Timestamp) (n : Int) : Prop := ∃ text, a.duration b = .ok text ∧ readDuration text = some n

theorem Denotes.shows (ha : a.Denotes ma) (hb : b.Denotes mb) : a.Shows b ((mb.minutes : Int) - ma.minutes) :=
  ⟨_, ha.duration_eq hb, readDuration_durationText _⟩

/-- Between timestamps that denote moments of the calendar there is a text of at least five characters: spaces, a minus sign if
the second one is earlier, hours, a colon, and two digits of minutes below sixty. The minutes that it shows are none from a
timestamp to itself, the opposite on the way back, the sum on the way to a third one, and one more to the next minute of the
calendar, which exists unless the calendar ends. -/
theorem duration_exact (ha : a.Denotes ma) (hb : b.Denotes mb) (hc : c.Denotes mc) :
    ∃ (text : Text) (n k : Int),
      (a.duration b = .ok text ∧ 5 ≤ text.length ∧ readDuration text = some n ∧ ('-' ∈ text ↔ mb.Before ma)) ∧
        a.Shows a 0 ∧ b.Shows a (-n) ∧ b.Shows c k ∧ a.Shows c (n + k) ∧
        (∀ b' : Timestamp, b'.Denotes mb.next → a.Shows b' (n + 1)) ∧ (mb ≠ .last → mb.next.IsValid) := by
  have hsign : '-' ∈ durationText ((mb.minutes : Int) - ma.minutes) ↔ mb.Before ma := by
    rw [minus_mem_durationText, ← Moment.minutes_lt_iff_before hb.valid ha.valid]
    omega
  have haa : a.Shows a 0 := by
    have h := ha.shows ha
    rwa [Int.sub_self] at h
  have hba : b.Shows a (-((mb.minutes : Int) - ma.minutes)) := by
    have h := hb.shows ha
    rwa [← Int.neg_sub] at h
  have hac : a.Shows c ((mb.minutes : Int) - ma.minutes + (mc.minutes - mb.minutes)) := by
    have h := ha.shows hc
    rwa [show (mc.minutes : Int) - ma.minutes = mb.minutes - ma.minutes + (mc.minutes - mb.minutes) by omega] at h
  have hnext : ∀ b' : Timestamp, b'.Denotes mb.next → a.Shows b' ((mb.minutes : Int) - ma.minutes + 1) := by
    intro b' hb'
    have h := ha.shows hb'
    rwa [Moment.minutes_next hb.valid,
      show ((mb.minutes + 1 : Nat) : Int) - ma.minutes = mb.minutes - ma.minutes + 1 by omega] at h
  exact ⟨_, _, _, ⟨ha.duration_eq hb, five_le_length_durationText _, readDuration_durationText _, hsign⟩, haa, hba,
    hb.shows hc, hac, hnext, hb.valid.next⟩

/-- From the last minute before a leap day into it, and back to the end of a year; the fields are spelled in several ways. -/
theorem duration_exact_leapDay :
    let a : Timestamp := { year := .str "٢٠٢٤", month := .str " 02", day := .str "+28", start := ⟨.str "2_3", .str "59"⟩ }
    let b : Timestamp := { year := .str "2024", month := .int 2, day := .str "29", start := ⟨.str "", .null⟩ }
    let c : Timestamp := { year := .str "2023", month := .str "12", day := .str "31", start := ⟨.str "23", .str "59"⟩ }
    (a.Denotes ⟨2024, 2, 28, 23, 59⟩ ∧ b.Denotes (Moment.next ⟨2024, 2, 28, 23, 59⟩) ∧ c.Denotes ⟨2023, 12, 31, 23, 59⟩) ∧
      a.duration b = .ok " 0:01".toList ∧ b.duration c = .ok "-1416:01".toList ∧
      ∃ n k, a.Shows b n ∧ b.Shows a (-n) ∧ b.Shows c k ∧ a.Shows c (n + k) := by
  intro a b c
  have hvalid : ∀ m : Moment, m ∈ [⟨2024, 2, 28, 23, 59⟩, Moment.next ⟨2024, 2, 28, 23, 59⟩, ⟨2023, 12, 31, 23, 59⟩] →
      m.IsValid := by
    simp only [List.forall_mem_cons]
    exact ⟨by constructor <;> decide, by constructor <;> decide, by constructor <;> decide, nofun⟩
  have ha : a.Denotes ⟨2024, 2, 28, 23, 59⟩ := ⟨rfl, rfl, rfl, rfl, rfl, hvalid _ (by simp)⟩
  have hb : b.Denotes (Moment.next ⟨2024, 2, 28, 23, 59⟩) := ⟨rfl, rfl, rfl, rfl, rfl, hvalid _ (by simp)⟩
  have hc : c.Denotes ⟨2023, 12, 31, 23, 59⟩ := ⟨rfl, rfl, rfl, rfl, rfl, hvalid _ (by simp)⟩
  obtain ⟨text, n, k, ⟨htext, -, hread, -⟩, -, hba, hbc, hac, -⟩ := duration_exact ha hb hc
  have hab : a.duration b = .ok " 0:01".toList := by
    have hminutes : ((Moment.next ⟨2024, 2, 28, 23, 59⟩).minutes : Int) - Moment.minutes ⟨2024, 2, 28, 23, 59⟩ = 1 := by decide
    rw [ha.duration_eq hb, hminutes]
    rfl
  have hbc' : b.duration c = .ok "-1416:01".toList := by
    have hminutes : (Moment.minutes ⟨2023, 12, 31, 23, 59⟩ : Int) - (Moment.next ⟨2024, 2, 28, 23, 59⟩).minutes = -84961 := by
      decide
    rw [hb.duration_eq hc, hminutes]
    rfl
  exact ⟨⟨ha, hb, hc⟩, hab, hbc', n, k, ⟨text, htext, hread⟩, hba, hbc, hac⟩

end Timestamp
end OrgOutline
