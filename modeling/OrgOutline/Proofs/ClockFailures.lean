import Mathlib.Data.List.Forall2
import OrgOutline.Proofs.ClockSums
import OrgOutline.Proofs.Spellings
import OrgOutline.Proofs.Typed

/-!
# Timestamps without a moment

A timestamp denotes no moment for one of three reasons (`Timestamp.LacksMoment`): a field of its date or of its start time is no
integer, an integer in one of them does not fit into 32 bits, or there is no such date or time. Main statement: the time between
two timestamps fails exactly if one of them denotes no moment, and then with the reason of the second one if it has one
(`Timestamp.duration_eq_error_iff`); there is no other way in which it could fail (`Timestamp.exists_duration_iff`).
-/

namespace OrgOutline

/-! ## Dates and times that do not exist -/

/-- Five integers that are no date and time, and the first of them that is out of its range. -/
inductive NoSuchDate (year month day hour minute : Int) : DateFault → Prop
  | year (h : ¬ (1 ≤ year ∧ year ≤ 9999)) : NoSuchDate year month day hour minute (.year year)
  | month (hyear : 1 ≤ year ∧ year ≤ 9999) (h : ¬ (1 ≤ month ∧ month ≤ 12)) :
      NoSuchDate year month day hour minute .month
  | day (hyear : 1 ≤ year ∧ year ≤ 9999) (hmonth : 1 ≤ month ∧ month ≤ 12)
      (h : ¬ (1 ≤ day ∧ day ≤ daysInMonth year.toNat month.toNat)) : NoSuchDate year month day hour minute .day
  | hour (hyear : 1 ≤ year ∧ year ≤ 9999) (hmonth : 1 ≤ month ∧ month ≤ 12)
      (hday : 1 ≤ day ∧ day ≤ daysInMonth year.toNat month.toNat) (h : ¬ (0 ≤ hour ∧ hour ≤ 23)) :
      NoSuchDate year month day hour minute .hour
  | minute (hyear : 1 ≤ year ∧ year ≤ 9999) (hmonth : 1 ≤ month ∧ month ≤ 12)
      (hday : 1 ≤ day ∧ day ≤ daysInMonth year.toNat month.toNat) (hhour : 0 ≤ hour ∧ hour ≤ 23)
      (h : ¬ (0 ≤ minute ∧ minute ≤ 59)) : NoSuchDate year month day hour minute .minute

theorem NoSuchDate.check_eq {year month day hour minute : Int} {f : DateFault} (h : NoSuchDate year month day hour minute f) :
    Moment.check year month day hour minute = .error f := by
  unfold Moment.check
  cases h with
  | year h => rw [if_pos h]
  | month hyear h => rw [if_neg (not_not_intro hyear), if_pos h]
  | day hyear hmonth h => rw [if_neg (not_not_intro hyear), if_neg (not_not_intro hmonth), if_pos h]
  | hour hyear hmonth hday h =>
    rw [if_neg (not_not_intro hyear), if_neg (not_not_intro hmonth), if_neg (not_not_intro hday), if_pos h]
  | minute hyear hmonth hday hhour h =>
    rw [if_neg (not_not_intro hyear), if_neg (not_not_intro hmonth), if_neg (not_not_intro hday),
      if_neg (not_not_intro hhour), if_pos h]

/-- Five integers are the parts of a moment of the calendar, or no date and time. -/
theorem exists_moment_or_noSuchDate (year month day hour minute : Int) :
    (∃ m : Moment, m.IsValid ∧ [year, month, day, hour, minute] = m.parts.map fun n : Nat => (n : Int)) ∨
      ∃ f, NoSuchDate year month day hour minute f := by
  by_cases hyear : 1 ≤ year ∧ year ≤ 9999
  · by_cases hmonth : 1 ≤ month ∧ month ≤ 12
    · by_cases hday : 1 ≤ day ∧ day ≤ daysInMonth year.toNat month.toNat
      · by_cases hhour : 0 ≤ hour ∧ hour ≤ 23
        · by_cases hminute : 0 ≤ minute ∧ minute ≤ 59
          · refine .inl ⟨⟨year.toNat, month.toNat, day.toNat, hour.toNat, minute.toNat⟩, ?_, ?_⟩
            · constructor <;> simp only <;> omega
            · simp only [Moment.parts, List.map_cons, List.map_nil, List.cons.injEq, and_true]
              omega
          · exact .inr ⟨_, .minute hyear hmonth hday hhour hminute⟩
        · exact .inr ⟨_, .hour hyear hmonth hday hhour⟩
      · exact .inr ⟨_, .day hyear hmonth hday⟩
    · exact .inr ⟨_, .month hyear hmonth⟩
  · exact .inr ⟨_, .year hyear⟩

/-! ## Reading the fields -/

/-- An integer that fits into 32 bits. -/
def FitsWord (n : Int) : Prop := -2 ^ 31 ≤ n ∧ n < 2 ^ 31

theorem checkSize_of_fits {n : Int} (h : FitsWord n) : checkSize n = .ok () := if_pos h

theorem checkSize_of_not_fits {n : Int} (h : ¬ FitsWord n) : checkSize n = .error .outOfRange := if_neg h

theorem forM_checkSize_of_fits {ns : List Int} (h : ∀ n ∈ ns, FitsWord n) : ns.forM checkSize = .ok () := by
  induction ns with
  | nil => rfl
  | cons n ns ih =>
    obtain ⟨hn, hns⟩ := List.forall_mem_cons.1 h
    show (checkSize n >>= fun _ => ns.forM checkSize) = .ok ()
    rw [checkSize_of_fits hn]
    exact ih hns

theorem forM_checkSize_of_not_fits {ns : List Int} {n : Int} (hn : n ∈ ns) (h : ¬ FitsWord n) :
    ns.forM checkSize = .error .outOfRange := by
  induction ns with
  | nil => nomatch hn
  | cons m ns ih =>
    show (checkSize m >>= fun _ => ns.forM checkSize) = .error .outOfRange
    by_cases hm : FitsWord m
    · rw [checkSize_of_fits hm]
      rcases List.mem_cons.1 hn with rfl | hn
      · exact absurd hm h
      · exact ih hn
    · rw [checkSize_of_not_fits hm]
      rfl

theorem Json.exists_means_or (v : Json) : (∃ n, v.Means n) ∨ (∀ n, ¬ v.Means n) ∧ ∃ f, v.toInteger = .error f := by
  cases h : v.toInteger with
  | ok n => exact .inl ⟨n, Json.toInteger_eq_ok_iff.1 h⟩
  | error f =>
    refine .inr ⟨fun n hn => ?_, f, rfl⟩
    nomatch h.symm.trans (Json.toInteger_eq_ok_iff.2 hn)

/-- Values that mean integers are read as these. -/
theorem mapM_toInteger_of_means {vs : List Json} {ns : List Int} (h : List.Forall₂ Json.Means vs ns) :
    vs.mapM Json.toInteger = .ok ns := by
  induction h with
  | nil => rfl
  | cons hv _ ih =>
    rw [List.mapM_cons, Json.toInteger_eq_ok_iff.2 hv, ih]
    rfl

/-- Values are not read if there is one among them that is not, and the first such value is at fault. -/
theorem mapM_toInteger_of_first {before behind : List Json} {v : Json} {f : Fault} (h : ∀ u ∈ before, ∃ n, u.Means n)
    (hv : v.toInteger = .error f) : (before ++ v :: behind).mapM Json.toInteger = .error f := by
  induction before with
  | nil =>
    rw [List.nil_append, List.mapM_cons, hv]
    rfl
  | cons u before ih =>
    obtain ⟨⟨n, hn⟩, hbefore⟩ := List.forall_mem_cons.1 h
    rw [List.cons_append, List.mapM_cons, Json.toInteger_eq_ok_iff.2 hn, ih hbefore]
    rfl

/-- All of some values mean integers, or there is a first one that does not. -/
theorem means_or_first (vs : List Json) : (∃ ns, List.Forall₂ Json.Means vs ns) ∨
    ∃ before v behind, vs = before ++ v :: behind ∧ (∀ u ∈ before, ∃ n, u.Means n) ∧ (∀ n, ¬ v.Means n) ∧
      ∃ f, v.toInteger = .error f := by
  induction vs with
  | nil => exact .inl ⟨[], .nil⟩
  | cons v vs ih =>
    rcases v.exists_means_or with ⟨n, hn⟩ | ⟨hv, hf⟩
    · rcases ih with ⟨ns, hns⟩ | ⟨before, w, behind, rfl, hbefore, hw⟩
      · exact .inl ⟨n :: ns, .cons hn hns⟩
      · exact .inr ⟨v :: before, w, behind, rfl, List.forall_mem_cons.2 ⟨⟨n, hn⟩, hbefore⟩, hw⟩
    · exact .inr ⟨[], v, vs, rfl, List.forall_mem_nil _, hv, hf⟩

/-- An hour or minute as it is read: zero if it is not set. -/
def Json.orZero (v : Json) : Json := if v.isSet then v else .int 0

theorem Json.toTime_eq (v : Json) : v.toTime = v.orZero.toInteger := by
  rw [toTime, orZero]
  split <;> rfl

namespace Timestamp

/-- The fields that make a moment: year, month, day, hour and minute. -/
def momentFields (t : Timestamp) : List Json := [t.year, t.month, t.day, t.start.hour.orZero, t.start.minute.orZero]

/-- Why a timestamp denotes no moment. The fields are read in order, and all of them before one is checked. -/
inductive LacksMoment (t : Timestamp) : Fault → Prop
  /-- A field is no integer; those before it are. -/
  | unread {before behind : List Json} {v : Json} {f : Fault} (h : t.momentFields = before ++ v :: behind)
      (hbefore : ∀ u ∈ before, ∃ n, u.Means n) (hv : ∀ n, ¬ v.Means n) (hf : v.toInteger = .error f) : LacksMoment t f
  /-- All fields are integers, and one of them does not fit into 32 bits. -/
  | oversized {year month day hour minute : Int}
      (h : List.Forall₂ Json.Means t.momentFields [year, month, day, hour, minute]) {n : Int}
      (hn : n ∈ [year, month, day, hour, minute]) (hsize : ¬ FitsWord n) : LacksMoment t .outOfRange
  /-- All fields are integers that fit, and there is no such date or time. -/
  | outside {year month day hour minute : Int}
      (h : List.Forall₂ Json.Means t.momentFields [year, month, day, hour, minute])
      (hsize : ∀ n ∈ [year, month, day, hour, minute], FitsWord n) {f : DateFault}
      (hf : NoSuchDate year month day hour minute f) : LacksMoment t (.noSuchDate f)

/-- The moment that five integers are. -/
def checkParts : List Int → Except Fault Moment
  | [year, month, day, hour, minute] => do
    checkSize year
    checkSize month
    checkSize day
    checkSize hour
    checkSize minute
    match Moment.check year month day hour minute with
    | .ok m => .ok m
    | .error f => .error (.noSuchDate f)
  | _ => .error .wrongKind

/-- All fields are read before one is checked. -/
theorem moment_eq (t : Timestamp) : t.moment = t.momentFields.mapM Json.toInteger >>= checkParts := by
  simp only [momentFields, List.mapM_cons, List.mapM_nil, ← Json.toTime_eq, bind_assoc, pure_bind]
  rfl

/-- The sizes of all five integers are checked before the date is. -/
theorem checkParts_eq (year month day hour minute : Int) : checkParts [year, month, day, hour, minute] =
    [year, month, day, hour, minute].forM checkSize >>= fun _ =>
      (Moment.check year month day hour minute).mapError .noSuchDate := by
  simp only [checkParts, List.forM, bind_assoc, pure_bind]
  cases Moment.check year month day hour minute <;> rfl

/-- A timestamp denotes a moment if its fields mean the parts of the moment. -/
theorem denotes_iff {t : Timestamp} {m : Moment} :
    t.Denotes m ↔ m.IsValid ∧ List.Forall₂ Json.Means t.momentFields (m.parts.map fun n : Nat => (n : Int)) := by
  simp only [momentFields, Moment.parts, List.map_cons, List.map_nil, List.forall₂_cons, List.forall₂_nil_left_iff, and_true,
    ← Json.toInteger_eq_ok_iff, ← Json.toTime_eq]
  constructor
  · rintro ⟨hyear, hmonth, hday, hhour, hminute, hvalid⟩
    exact ⟨hvalid, hyear, hmonth, hday, hhour, hminute⟩
  · rintro ⟨hvalid, hyear, hmonth, hday, hhour, hminute⟩
    exact ⟨hyear, hmonth, hday, hhour, hminute, hvalid⟩

theorem LacksMoment.moment_eq {t : Timestamp} {f : Fault} (h : t.LacksMoment f) : t.moment = .error f := by
  rw [t.moment_eq]
  cases h with
  | unread h hbefore hv hf =>
    rw [h, mapM_toInteger_of_first hbefore hf]
    rfl
  | @oversized year month day hour minute h n hn hsize =>
    rw [mapM_toInteger_of_means h]
    refine (checkParts_eq year month day hour minute).trans ?_
    rw [forM_checkSize_of_not_fits hn hsize]
    rfl
  | @outside year month day hour minute h hsize f hf =>
    rw [mapM_toInteger_of_means h]
    refine (checkParts_eq year month day hour minute).trans ?_
    rw [forM_checkSize_of_fits hsize, hf.check_eq]
    rfl

/-- Every timestamp denotes a moment or has a reason why it does not. -/
theorem denotes_or_lacksMoment (t : Timestamp) : (∃ m, t.Denotes m) ∨ ∃ f, t.LacksMoment f := by
  rcases means_or_first t.momentFields with ⟨ns, hns⟩ | ⟨before, v, behind, h, hbefore, hv, f, hf⟩
  · obtain ⟨year, month, day, hour, minute, rfl⟩ : ∃ year month day hour minute, ns = [year, month, day, hour, minute] := by
      have hlength : ns.length = 5 := hns.length_eq.symm
      match ns, hlength with
      | [year, month, day, hour, minute], _ => exact ⟨year, month, day, hour, minute, rfl⟩
    by_cases hsize : ∀ n ∈ [year, month, day, hour, minute], FitsWord n
    · rcases exists_moment_or_noSuchDate year month day hour minute with ⟨m, hvalid, hparts⟩ | ⟨f, hf⟩
      · exact .inl ⟨m, denotes_iff.2 ⟨hvalid, hparts ▸ hns⟩⟩
      · exact .inr ⟨_, .outside hns hsize hf⟩
    · obtain ⟨n, hnot⟩ := not_forall.1 hsize
      obtain ⟨hn, hfits⟩ := Classical.not_imp.1 hnot
      exact .inr ⟨_, .oversized hns hn hfits⟩
  · exact .inr ⟨f, .unread h hbefore hv hf⟩

/-- A timestamp has a moment exactly if it denotes one. -/
theorem moment_eq_ok_iff {t : Timestamp} {m : Moment} : t.moment = .ok m ↔ t.Denotes m := by
  refine ⟨fun h => ?_, Denotes.moment_eq⟩
  rcases t.denotes_or_lacksMoment with ⟨m', hm⟩ | ⟨f, hf⟩
  · obtain rfl := Except.ok.inj (h.symm.trans hm.moment_eq)
    exact hm
  · nomatch h.symm.trans hf.moment_eq

/-- It has none exactly if there is a reason for it, and the first reason is the fault. -/
theorem moment_eq_error_iff {t : Timestamp} {f : Fault} : t.moment = .error f ↔ t.LacksMoment f := by
  refine ⟨fun h => ?_, LacksMoment.moment_eq⟩
  rcases t.denotes_or_lacksMoment with ⟨m, hm⟩ | ⟨f', hf⟩
  · nomatch h.symm.trans hm.moment_eq
  · obtain rfl := Except.error.inj (h.symm.trans hf.moment_eq)
    exact hf

variable {start stop : Timestamp}

/-- There is a text of the time between two timestamps exactly if both denote moments. -/
theorem exists_duration_iff :
    (∃ text, start.duration stop = .ok text) ↔ (∃ m, start.Denotes m) ∧ ∃ m, stop.Denotes m := by
  constructor
  · rintro ⟨text, h⟩
    obtain ⟨n, hn, -⟩ := map_eq_ok.1 h
    obtain ⟨b, hb, hn⟩ := bind_eq_ok.1 hn
    obtain ⟨a, ha, -⟩ := bind_eq_ok.1 hn
    exact ⟨⟨a, moment_eq_ok_iff.1 ha⟩, b, moment_eq_ok_iff.1 hb⟩
  · rintro ⟨⟨a, ha⟩, b, hb⟩
    exact ⟨_, ha.duration_eq hb⟩

/-- The time between two timestamps fails exactly if one of them denotes no moment; the second one is looked at first. -/
theorem duration_eq_error_iff {f : Fault} :
    start.duration stop = .error f ↔ stop.LacksMoment f ∨ (∃ m, stop.Denotes m) ∧ start.LacksMoment f := by
  rw [← moment_eq_error_iff, ← moment_eq_error_iff, duration, minutesBetween]
  simp only [← moment_eq_ok_iff]
  cases hstop : stop.moment with
  | error g => simp [bind, Except.bind, Except.map]
  | ok b => cases hstart : start.moment <;> simp [bind, Except.bind, Except.map]

/-- What is wrong with a string that is no integer is told by its spelling or by the number of its digits. -/
theorem errorName_of_toInteger_str {s : String} {f : Fault} (h : (Json.str s).toInteger = .error f) :
    f.errorName = "ValueError" := by
  rw [Json.toInteger] at h
  split at h
  · cases h
  · obtain rfl := Except.error.inj h
    rfl
  · obtain rfl := Except.error.inj h
    rfl

theorem errorName_of_toInteger {v : Json} (h : v.isOptionalString = true) (hset : v.isSet = true) {f : Fault}
    (hf : v.toInteger = .error f) : f.errorName = "ValueError" := by
  cases v with
  | str s => exact errorName_of_toInteger_str hf
  | null => exact Bool.noConfusion hset
  | _ => exact Bool.noConfusion h

/-- What a well-typed timestamp without a moment fails with. -/
theorem LacksMoment.errorName {t : Timestamp} (typed : t.isTyped = true) {f : Fault} (h : t.LacksMoment f) :
    f.errorName = "ValueError" ∨ f.errorName = "OverflowError" := by
  cases h with
  | @unread before behind v f h hbefore hv hf =>
    obtain ⟨hrequired, hoptional⟩ := Bool.and_eq_true_iff.1 typed
    have hdate : ∀ u ∈ [t.year, t.month, t.day], u.toInteger = .error f → f.errorName = "ValueError" := by
      intro u hu hf
      obtain ⟨s, rfl⟩ := Json.exists_of_isString (List.all_eq_true.1 (Bool.and_eq_true_iff.1 hrequired).1 u hu)
      exact errorName_of_toInteger_str hf
    have htime : ∀ u ∈ [t.start.hour, t.start.minute], u.orZero.toInteger = .error f → f.errorName = "ValueError" := by
      intro u hu hf
      have hstring : u.isOptionalString = true := by
        refine List.all_eq_true.1 hoptional u ?_
        rcases List.mem_pair.1 hu with rfl | rfl <;> simp
      cases hset : u.isSet with
      | true =>
        rw [Json.orZero, if_pos hset] at hf
        exact errorName_of_toInteger hstring hset hf
      | false =>
        rw [Json.orZero, hset] at hf
        cases hf
    have hmem : v ∈ t.momentFields := h ▸ List.mem_append_right _ List.mem_cons_self
    simp only [momentFields, List.mem_cons, List.not_mem_nil, or_false] at hmem
    rcases hmem with rfl | rfl | rfl | rfl | rfl
    · exact .inl (hdate _ (by simp) hf)
    · exact .inl (hdate _ (by simp) hf)
    · exact .inl (hdate _ (by simp) hf)
    · exact .inl (htime _ (by simp) hf)
    · exact .inl (htime _ (by simp) hf)
  | oversized h hn hsize => exact .inr rfl
  | outside h hsize hf => exact .inl rfl

end Timestamp
end OrgOutline
