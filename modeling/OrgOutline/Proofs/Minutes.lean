import Mathlib.Data.List.Lex
import Mathlib.Order.Monotone.Basic
import OrgOutline.Calendar

/-!
# Counting minutes

The minutes of the calendar are numbered without a gap: a moment (`Moment.IsValid`) has one minute more in front of it than the
minute before has. Main statements: one moment has fewer minutes in front of it than another one exactly if it is before it, year
by year, month by month and so on (`Moment.minutes_lt_iff_before`), and the next minute of the calendar, which may be the first
one of an hour, a day, a month or a year, has one minute more in front of it (`Moment.minutes_next`).
-/

namespace OrgOutline

/-! ## Days -/

theorem daysInMonth_mem (year month : Nat) : daysInMonth year month ∈ [28, 29, 30, 31] := by
  unfold daysInMonth
  split
  · split <;> decide
  · split <;> decide

theorem one_le_daysInMonth (year month : Nat) : 1 ≤ daysInMonth year month :=
  (by decide : ∀ n ∈ [28, 29, 30, 31], 1 ≤ n) _ (daysInMonth_mem year month)

theorem daysInMonth_le (year month : Nat) : daysInMonth year month ≤ 31 :=
  (by decide : ∀ n ∈ [28, 29, 30, 31], n ≤ 31) _ (daysInMonth_mem year month)

theorem daysBeforeMonth_succ (year : Nat) {month : Nat} (h : 1 ≤ month) :
    daysBeforeMonth year (month + 1) = daysBeforeMonth year month + daysInMonth year month := by
  obtain ⟨k, rfl⟩ := Nat.exists_eq_add_of_le' h
  rfl

theorem daysBeforeMonth_mono (year : Nat) : Monotone (daysBeforeMonth year) := by
  refine monotone_nat_of_le_succ fun month => ?_
  cases month with
  | zero => exact Nat.le_refl 0
  | succ month => exact Nat.le_add_right _ _

/-- The months of a year are as long together as the year is. -/
theorem daysBeforeMonth_thirteen (year : Nat) : daysBeforeMonth year 13 = if isLeapYear year then 366 else 365 := by
  cases h : isLeapYear year <;> simp [daysBeforeMonth, daysInMonth, h]

/-- A year is a leap year if four divides it, and no hundred does unless four hundred does. -/
theorem isLeapYear_iff (year : Nat) : isLeapYear year = true ↔ 4 ∣ year ∧ (¬ 100 ∣ year ∨ 400 ∣ year) := by
  simp [isLeapYear, Nat.dvd_iff_mod_eq_zero]

/-- A year ends where the next one starts. -/
theorem daysBeforeYear_succ {year : Nat} (h : 1 ≤ year) :
    daysBeforeYear (year + 1) = daysBeforeYear year + daysBeforeMonth year 13 := by
  obtain ⟨past, rfl⟩ := Nat.exists_eq_add_of_le' h
  have hle : past / 100 ≤ past * 365 := by omega
  have hcentury : 100 ∣ past + 1 → 4 ∣ past + 1 := Nat.dvd_trans (by decide)
  have hcycle : 400 ∣ past + 1 → 100 ∣ past + 1 := Nat.dvd_trans (by decide)
  rw [daysBeforeMonth_thirteen]
  simp only [isLeapYear_iff, daysBeforeYear, Nat.add_sub_cancel, Nat.succ_div]
  generalize past / 4 = fours, past / 100 = centuries, past / 400 = cycles at hle ⊢
  by_cases h4 : 4 ∣ past + 1 <;> by_cases h100 : 100 ∣ past + 1 <;> by_cases h400 : 400 ∣ past + 1 <;>
    simp only [h4, h100, h400, if_true, if_false, true_and, not_true, not_false_iff, or_true, false_and, or_false]
      at hcentury hcycle ⊢ <;>
    omega

theorem daysBeforeYear_mono {year year' : Nat} (h : 1 ≤ year) (hle : year ≤ year') :
    daysBeforeYear year ≤ daysBeforeYear year' := by
  induction hle with
  | refl => exact Nat.le_refl _
  | step hle ih =>
    rw [Nat.succ_eq_add_one, daysBeforeYear_succ (Nat.le_trans h hle)]
    exact Nat.le_trans ih (Nat.le_add_right _ _)

namespace Moment

/-! ## Moments of the calendar -/

/-- A moment of the calendar: a day that exists in one of the years 1 to 9999, and a minute that exists. -/
structure IsValid (m : Moment) : Prop where
  one_le_year : 1 ≤ m.year
  year_le : m.year ≤ 9999
  one_le_month : 1 ≤ m.month
  month_le : m.month ≤ 12
  one_le_day : 1 ≤ m.day
  day_le : m.day ≤ daysInMonth m.year m.month
  hour_le : m.hour ≤ 23
  minute_le : m.minute ≤ 59

/-- Year, month, day, hour and minute. -/
def parts (m : Moment) : List Nat := [m.year, m.month, m.day, m.hour, m.minute]

/-- One moment is before another if the first part in which they differ is less, years first and minutes last. -/
def Before (m m' : Moment) : Prop := m.parts < m'.parts

theorem before_iff {m m' : Moment} : m.Before m' ↔ m.year < m'.year ∨ m.year = m'.year ∧ (m.month < m'.month ∨
    m.month = m'.month ∧ (m.day < m'.day ∨ m.day = m'.day ∧ (m.hour < m'.hour ∨ m.hour = m'.hour ∧ m.minute < m'.minute))) := by
  simp [Before, parts, List.cons_lt_cons_iff]

variable {m m' : Moment}

/-- The day of a moment is before the end of its month. -/
theorem IsValid.days_lt_month (h : m.IsValid) : m.days < daysBeforeYear m.year + daysBeforeMonth m.year (m.month + 1) := by
  have hday := h.day_le
  have hone := h.one_le_day
  rw [days, daysBeforeMonth_succ _ h.one_le_month]
  omega

/-- The day of a moment is before the end of its year. -/
theorem IsValid.days_lt_year (h : m.IsValid) : m.days < daysBeforeYear (m.year + 1) := by
  have hmonth : m.month + 1 ≤ 13 := Nat.succ_le_succ h.month_le
  have hle := daysBeforeMonth_mono m.year hmonth
  have hlt := h.days_lt_month
  rw [daysBeforeYear_succ h.one_le_year]
  omega

/-- What is before another moment has fewer minutes in front of it. -/
theorem minutes_lt_of_before (h : m.IsValid) (h' : m'.IsValid) (hb : m.Before m') : m.minutes < m'.minutes := by
  have hhour := h.hour_le
  have hminute := h.minute_le
  -- An earlier day is enough, since a day has no more than its 1440 minutes.
  have hday : m.days < m'.days → m.minutes < m'.minutes := by
    intro hlt
    unfold minutes
    omega
  rcases before_iff.1 hb with hyear | ⟨hyear, hmonth | ⟨hmonth, hb⟩⟩
  · refine hday (Nat.lt_of_lt_of_le h.days_lt_year ?_)
    have hle := daysBeforeYear_mono (Nat.le_add_left 1 m.year) hyear
    unfold days
    omega
  · refine hday (Nat.lt_of_lt_of_le h.days_lt_month ?_)
    have hle := daysBeforeMonth_mono m'.year hmonth
    rw [Nat.succ_eq_add_one] at hle
    unfold days
    rw [hyear]
    omega
  · have hone := h.one_le_day
    have hsame : m.days + m'.day = m'.days + m.day := by
      have hone' := h'.one_le_day
      unfold days
      rw [hyear, hmonth]
      omega
    unfold minutes
    omega

/-- One moment has fewer minutes in front of it than another one exactly if it is before it. -/
theorem minutes_lt_iff_before (h : m.IsValid) (h' : m'.IsValid) : m.minutes < m'.minutes ↔ m.Before m' := by
  refine ⟨fun hlt => ?_, minutes_lt_of_before h h'⟩
  rcases lt_trichotomy m.parts m'.parts with hb | he | hb
  · exact hb
  · obtain ⟨year, month, day, hour, minute⟩ := m
    obtain ⟨year', month', day', hour', minute'⟩ := m'
    simp only [parts, List.cons.injEq, and_true] at he
    obtain ⟨rfl, rfl, rfl, rfl, rfl⟩ := he
    exact absurd hlt (Nat.lt_irrefl _)
  · exact absurd hlt (Nat.not_lt.2 (Nat.le_of_lt (minutes_lt_of_before h' h hb)))

/-! ## The next minute -/

/-- The next minute of the calendar. -/
def next (m : Moment) : Moment :=
  if m.minute < 59 then { m with minute := m.minute + 1 }
  else if m.hour < 23 then { m with hour := m.hour + 1, minute := 0 }
  else if m.day < daysInMonth m.year m.month then { m with day := m.day + 1, hour := 0, minute := 0 }
  else if m.month < 12 then { m with month := m.month + 1, day := 1, hour := 0, minute := 0 }
  else ⟨m.year + 1, 1, 1, 0, 0⟩

/-- The last minute of the calendar. -/
def last : Moment := ⟨9999, 12, 31, 23, 59⟩

/-- The first minute of the day behind a moment at the end of a day. -/
theorem minutes_of_days_succ (hhour : m.hour = 23) (hminute : m.minute = 59) (hdays : m'.days = m.days + 1)
    (hhour' : m'.hour = 0) (hminute' : m'.minute = 0) : m'.minutes = m.minutes + 1 := by
  unfold minutes
  omega

/-- The next minute has one minute more in front of it. -/
theorem minutes_next (h : m.IsValid) : m.next.minutes = m.minutes + 1 := by
  have hone := h.one_le_day
  have hday := h.day_le
  unfold next
  by_cases hminute : m.minute < 59
  · rw [if_pos hminute]
    exact (Nat.add_assoc _ _ _).symm
  have hminute' : m.minute = 59 := Nat.le_antisymm h.minute_le (Nat.not_lt.1 hminute)
  rw [if_neg hminute]
  by_cases hhour : m.hour < 23
  · rw [if_pos hhour]
    show (m.days * 24 + (m.hour + 1)) * 60 + 0 = (m.days * 24 + m.hour) * 60 + m.minute + 1
    omega
  have hhour' : m.hour = 23 := Nat.le_antisymm h.hour_le (Nat.not_lt.1 hhour)
  rw [if_neg hhour]
  have hmonths := daysBeforeMonth_succ m.year h.one_le_month
  by_cases hlast : m.day < daysInMonth m.year m.month
  · rw [if_pos hlast]
    refine minutes_of_days_succ hhour' hminute' ?_ rfl rfl
    show daysBeforeYear m.year + daysBeforeMonth m.year m.month + (m.day + 1 - 1) = m.days + 1
    unfold days
    omega
  rw [if_neg hlast]
  by_cases hmonth : m.month < 12
  · rw [if_pos hmonth]
    refine minutes_of_days_succ hhour' hminute' ?_ rfl rfl
    show daysBeforeYear m.year + daysBeforeMonth m.year (m.month + 1) + (1 - 1) = m.days + 1
    unfold days
    omega
  · rw [if_neg hmonth]
    refine minutes_of_days_succ hhour' hminute' ?_ rfl rfl
    have hmonth' : m.month = 12 := Nat.le_antisymm h.month_le (Nat.not_lt.1 hmonth)
    have hyear := daysBeforeYear_succ h.one_le_year
    have hfirst : daysBeforeMonth (m.year + 1) 1 = 0 := rfl
    have htwelve : daysBeforeMonth m.year 13 = daysBeforeMonth m.year 12 + daysInMonth m.year 12 := rfl
    rw [hmonth'] at hlast hday
    show daysBeforeYear (m.year + 1) + daysBeforeMonth (m.year + 1) 1 + (1 - 1) = m.days + 1
    rw [days, hmonth']
    omega

/-- The end of the last day of the last month of the last year is the last minute. -/
theorem IsValid.eq_last (h : m.IsValid) (hyear : ¬ m.year < 9999) (hmonth : ¬ m.month < 12)
    (hday : ¬ m.day < daysInMonth m.year m.month) (hhour : ¬ m.hour < 23) (hminute : ¬ m.minute < 59) : m = last := by
  obtain ⟨year, month, day, hour, minute⟩ := m
  obtain rfl : year = 9999 := Nat.le_antisymm h.year_le (Nat.not_lt.1 hyear)
  obtain rfl : month = 12 := Nat.le_antisymm h.month_le (Nat.not_lt.1 hmonth)
  obtain rfl : day = 31 := Nat.le_antisymm h.day_le (Nat.not_lt.1 hday)
  obtain rfl : hour = 23 := Nat.le_antisymm h.hour_le (Nat.not_lt.1 hhour)
  obtain rfl : minute = 59 := Nat.le_antisymm h.minute_le (Nat.not_lt.1 hminute)
  rfl

/-- The next minute is one of the calendar, unless the calendar ends. -/
theorem IsValid.next (h : m.IsValid) (hlast : m ≠ last) : m.next.IsValid := by
  have hone := one_le_daysInMonth
  unfold Moment.next
  by_cases hminute : m.minute < 59
  · rw [if_pos hminute]
    exact { h with minute_le := hminute }
  rw [if_neg hminute]
  by_cases hhour : m.hour < 23
  · rw [if_pos hhour]
    exact { h with hour_le := hhour, minute_le := Nat.zero_le _ }
  rw [if_neg hhour]
  by_cases hday : m.day < daysInMonth m.year m.month
  · rw [if_pos hday]
    exact { h with one_le_day := Nat.le_add_left 1 _, day_le := hday, hour_le := Nat.zero_le _, minute_le := Nat.zero_le _ }
  rw [if_neg hday]
  by_cases hmonth : m.month < 12
  · rw [if_pos hmonth]
    exact { h with
      one_le_month := Nat.le_add_left 1 _, month_le := hmonth, one_le_day := Nat.le_refl 1, day_le := hone _ _
      hour_le := Nat.zero_le _, minute_le := Nat.zero_le _ }
  rw [if_neg hmonth]
  have hyear : m.year < 9999 := by
    by_contra hyear
    exact hlast (h.eq_last hyear hmonth hday hhour hminute)
  exact {
    one_le_year := Nat.le_add_left 1 _, year_le := hyear, one_le_month := Nat.le_refl 1, month_le := Nat.le_add_left 1 11
    one_le_day := Nat.le_refl 1, day_le := hone _ _, hour_le := Nat.zero_le _, minute_le := Nat.zero_le _ }

end Moment
end OrgOutline
