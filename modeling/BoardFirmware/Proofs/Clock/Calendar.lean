import BoardFirmware.Clock.Calendar
import Mathlib.Order.Monotone.Basic
import Mathlib.Tactic.IntervalCases

namespace BoardFirmware.Calendar

-- The days of a year that are over when its month `month` is.
def daysThroughMonth (year : Nat) : Nat → Nat
  | 0         => 0
  | month + 1 => daysThroughMonth year month + daysInMonth year (month + 1)

-- The days from the start of year 0 to that of the given year.
def daysBeforeYear : Nat → Nat
  | 0        => 0
  | year + 1 => daysBeforeYear year + daysThroughMonth year 12

-- There is such a day in the calendar.
structure IsDate (year month day : Nat) : Prop where
  month_pos : 1 ≤ month
  month_le  : month ≤ 12
  day_pos   : 1 ≤ day
  day_le    : day ≤ daysInMonth year month

-- The days from the start of year 0 to a date.
def dayNumber (year month day : Nat) : Nat :=
  daysBeforeYear year + daysThroughMonth year (month - 1) + (day - 1)

variable {year month day year' month' day' : Nat}

theorem daysThroughMonth_twelve (year : Nat) :
    daysThroughMonth year 12 = if IsLeapYear year then 366 else 365 := by
  simp only [daysThroughMonth, daysInMonth]
  split <;> rfl

theorem daysInMonth_le (year month : Nat) : daysInMonth year month ≤ 31 := by
  unfold daysInMonth
  split
  · split <;> decide
  all_goals decide

theorem daysThroughMonth_mono (year : Nat) : Monotone (daysThroughMonth year) :=
  monotone_nat_of_le_succ fun _ => Nat.le_add_right _ _

theorem daysBeforeYear_mono : Monotone daysBeforeYear :=
  monotone_nat_of_le_succ fun _ => Nat.le_add_right _ _

-- A place lies between two neighbouring steps only.
theorem eq_of_between {f : Nat → Nat} (mono : Monotone f) {a b n : Nat} (ha : f a ≤ n)
    (ha' : n < f (a + 1)) (hb : f b ≤ n) (hb' : n < f (b + 1)) : a = b := by
  obtain lt | heq | gt := Nat.lt_trichotomy a b
  · exact absurd (Nat.lt_of_lt_of_le ha' (mono lt)) (Nat.not_lt.mpr hb)
  · exact heq
  · exact absurd (Nat.lt_of_lt_of_le hb' (mono gt)) (Nat.not_lt.mpr ha)

namespace IsDate

-- The day lies in its month.
theorem month_between (h : IsDate year month day) :
    daysThroughMonth year (month - 1) + (day - 1) < daysThroughMonth year (month - 1 + 1) := by
  have ⟨pos, _, day_pos, day_le⟩ := h
  rw [daysThroughMonth, Nat.sub_add_cancel pos]
  omega

-- The day lies in its year.
theorem year_between (h : IsDate year month day) :
    daysBeforeYear year ≤ dayNumber year month day ∧
      dayNumber year month day < daysBeforeYear (year + 1) := by
  have lt := h.month_between
  have le : daysThroughMonth year (month - 1 + 1) ≤ daysThroughMonth year 12 :=
    daysThroughMonth_mono year (Nat.sub_add_cancel h.month_pos ▸ h.month_le)
  rw [dayNumber, daysBeforeYear]
  omega

theorem dayNumber_inj (h : IsDate year month day) (h' : IsDate year' month' day')
    (heq : dayNumber year month day = dayNumber year' month' day') :
    year = year' ∧ month = month' ∧ day = day' := by
  have ⟨le, lt⟩ := h.year_between
  have ⟨le', lt'⟩ := h'.year_between
  obtain rfl : year = year' := eq_of_between daysBeforeYear_mono le lt (heq ▸ le') (heq ▸ lt')
  have same : daysThroughMonth year (month - 1) + (day - 1) =
      daysThroughMonth year (month' - 1) + (day' - 1) := by
    rw [dayNumber, dayNumber] at heq
    omega
  have months : month - 1 = month' - 1 :=
    eq_of_between (daysThroughMonth_mono year) (Nat.le_add_right _ _) h.month_between
      (same ▸ Nat.le_add_right _ _) (same ▸ h'.month_between)
  rw [months] at same
  have := h.month_pos
  have := h'.month_pos
  have := h.day_pos
  have := h'.day_pos
  omega

end IsDate

-- The days from 1 March of year 0 to 1 March of the given year.
def daysBeforeMarch (year : Int) : Int :=
  365 * year + year / 4 - year / 100 + year / 400

theorem daysBeforeMarch_eq (year : Nat) :
    daysBeforeMarch year = daysBeforeMarch (year - 1) + if IsLeapYear year then 366 else 365 := by
  simp only [daysBeforeMarch]
  by_cases leap : IsLeapYear year
  case pos => rw [if_pos leap]; unfold IsLeapYear at leap; omega
  case neg => rw [if_neg leap]; unfold IsLeapYear at leap; omega

theorem daysBeforeYear_eq (year : Nat) :
    daysBeforeYear year = daysBeforeMarch (year - 1) + 366 := by
  induction year
  case zero => rfl
  case succ year ih =>
    have hsucc : ((year + 1 : Nat) : Int) - 1 = year := by omega
    rw [daysBeforeYear, Nat.cast_add, ih, daysThroughMonth_twelve, hsucc, daysBeforeMarch_eq]
    split <;> omega

-- From March on, the days of a month do not depend on the year.
theorem daysThroughMonth_from_march (pos : 3 ≤ month) (le : month ≤ 12) :
    (daysThroughMonth year (month - 1) : Int) =
      (if IsLeapYear year then 60 else 59) + (153 * (month - 3) + 2) / 5 := by
  interval_cases month <;> simp [daysThroughMonth, daysInMonth] <;> split <;> rfl

theorem daysThroughMonth_to_march (pos : 1 ≤ month) (le : month ≤ 2) :
    (daysThroughMonth year (month - 1) : Int) = (153 * (month + 9) + 2) / 5 - 306 := by
  interval_cases month <;> simp [daysThroughMonth, daysInMonth]

-- Eras and years from March count the days of the calendar.
theorem daysOfDate_eq_march (year month day : Int) :
    daysOfDate year month day =
      daysBeforeMarch (if month ≤ 2 then year - 1 else year) +
        (153 * (month + if month > 2 then -3 else 9) + 2) / 5 + day - 1 - 719468 := by
  simp only [daysOfDate, daysBeforeMarch]
  omega

theorem dayNumber_epoch : (dayNumber 1970 1 1 : Int) = 719528 := by
  rw [dayNumber, Nat.cast_add, Nat.cast_add, daysBeforeYear_eq]
  rfl

theorem IsDate.daysOfDate_eq (h : IsDate year month day) :
    daysOfDate year month day = dayNumber year month day - dayNumber 1970 1 1 := by
  have ⟨pos, le, day_pos, _⟩ := h
  have hday : ((day - 1 : Nat) : Int) = day - 1 := by omega
  rw [daysOfDate_eq_march, dayNumber_epoch, dayNumber, Nat.cast_add, Nat.cast_add,
    daysBeforeYear_eq, hday]
  by_cases early : month ≤ 2
  case pos =>
    rw [daysThroughMonth_to_march pos early, if_pos (by omega), if_neg (by omega)]
    omega
  case neg =>
    rw [daysThroughMonth_from_march (by omega) le, if_neg (by omega), if_pos (by omega),
      daysBeforeMarch_eq]
    split <;> omega

-- The place of day `n` in an era: after `c` centuries, `q` spans of four years, `j` years and `t`
-- days. The last span of a century has no leap day, unless the century is the last one.
structure EraDay (n c q j t : Int) : Prop where
  eq             : n = 36524 * c + 1461 * q + 365 * j + t
  century_nonneg : 0 ≤ c
  century_le     : c ≤ 3
  span_nonneg    : 0 ≤ q
  span_le        : q ≤ 24
  year_nonneg    : 0 ≤ j
  year_le        : j ≤ 3
  day_nonneg     : 0 ≤ t
  day_le         : t ≤ 364 ∨ t = 365 ∧ j = 3 ∧ (q ≤ 23 ∨ c = 3)

theorem exists_eraDay {n : Int} (pos : 0 ≤ n) (lt : n < 146097) : ∃ c q j t, EraDay n c q j t := by
  let c := min (n / 36524) 3
  let r := n - 36524 * c
  let q := r / 1461
  let s := r - 1461 * q
  let j := min (s / 365) 3
  refine ⟨c, q, j, s - 365 * j, ?_, ?_, ?_, ?_, ?_, ?_, ?_, ?_, ?_⟩ <;> omega

namespace EraDay

variable {n c q j t : Int}

-- The leap days of an era, and the centuries that go without one, leave years of 365 days.
theorem yearOfEra (h : EraDay n c q j t) :
    (n - n / 1460 + n / 36524 - n / 146096) / 365 = 100 * c + 4 * q + j := by
  have ⟨eq, _, _, _, _, _, _, _, _⟩ := h
  have leap : n / 1460 = 25 * c + q + (24 * c + q + 365 * j + t) / 1460 := by omega
  have centuries : n / 36524 - n / 146096 = c := by
    obtain last | before : n = 146096 ∨ 1461 * q + 365 * j + t < 36524 := by omega
    case inl => omega
    case inr => omega
  omega

theorem daysBeforeMarch_eq (h : EraDay n c q j t) (era : Int) :
    daysBeforeMarch (100 * c + 4 * q + j + era * 400) + t = era * 146097 + n := by
  have ⟨_, _, _, _, _, _, _, _, _⟩ := h
  rw [daysBeforeMarch]
  omega

end EraDay

-- The year that starts in March of the given year ends on a leap day.
def EndsLeap (year : Int) : Prop :=
  year % 4 = 3 ∧ (year % 100 ≠ 99 ∨ year % 400 = 399)

-- The date of a day of a year that starts in March.
def dateFromMarch (year dayOfYear : Int) : Int × Int × Int :=
  let shiftedMonth := (5 * dayOfYear + 2) / 153
  let month := if shiftedMonth < 10 then shiftedMonth + 3 else shiftedMonth - 9
  (year + (if month ≤ 2 then 1 else 0), month, dayOfYear - (153 * shiftedMonth + 2) / 5 + 1)

theorem exists_dateFromMarch (days : Int) :
    ∃ year t, dateOfDays days = dateFromMarch year t ∧
      days + 719468 = daysBeforeMarch year + t ∧
      0 ≤ t ∧ (t ≤ 364 ∨ t = 365 ∧ EndsLeap year) := by
  let era := (days + 719468) / 146097
  let n := days + 719468 - era * 146097
  have ⟨c, q, j, t, h⟩ : ∃ c q j t, EraDay n c q j t := exists_eraDay (by omega) (by omega)
  have ⟨eq, _, _, _, _, _, _, _, _⟩ := h
  refine ⟨100 * c + 4 * q + j + era * 400, t, ?date, ?day, h.day_nonneg, ?leap⟩
  case date =>
    have ofYear :
        n - (365 * (100 * c + 4 * q + j) + (100 * c + 4 * q + j) / 4 - (100 * c + 4 * q + j) / 100)
          = t := by
      omega
    show dateFromMarch (_ + era * 400) (n - _) = _
    rw [h.yearOfEra, ofYear]
  case day =>
    rw [h.daysBeforeMarch_eq]
    omega
  case leap =>
    rw [EndsLeap]
    omega

theorem daysInMonth_from_march (year month : Nat) (pos : 3 ≤ month) (le : month ≤ 12) :
    (daysInMonth year month : Int) = (153 * (month - 2) + 2) / 5 - (153 * (month - 3) + 2) / 5 := by
  interval_cases month <;> rfl

-- The days of March to December are in the year in which they are counted from March.
theorem isDate_dateFromMarch_early {year t : Int} (year_nonneg : 0 ≤ year) (pos : 0 ≤ t)
    (lt : t < 306) :
    ∃ y m d : Nat, dateFromMarch year t = (↑y, ↑m, ↑d) ∧ IsDate y m d ∧
      daysOfDate y m d = daysBeforeMarch year + t - 719468 := by
  have ⟨s, hs⟩ : ∃ s, s = (5 * t + 2) / 153 := ⟨_, rfl⟩
  have early : s < 10 := by omega
  have ⟨y, hy⟩ : ∃ y : Nat, (y : Int) = year := ⟨_, Int.toNat_of_nonneg year_nonneg⟩
  have ⟨m, hm⟩ : ∃ m : Nat, (m : Int) = s + 3 := ⟨_, Int.toNat_of_nonneg (by omega)⟩
  have ⟨d, hd⟩ : ∃ d : Nat, (d : Int) = t - (153 * s + 2) / 5 + 1 :=
    ⟨_, Int.toNat_of_nonneg (by omega)⟩
  have days := daysInMonth_from_march y m (by omega) (by omega)
  have shift : (m : Int) - 3 = s := by omega
  have next : (m : Int) - 2 = s + 1 := by omega
  rw [shift, next] at days
  refine ⟨y, m, d, ?_, ⟨by omega, by omega, by omega, by omega⟩, ?_⟩
  · simp only [dateFromMarch, ← hs, if_pos early, ← hd, ← hm, ← hy]
    rw [if_neg (by omega), add_zero]
  · rw [daysOfDate_eq_march, if_neg (by omega), if_pos (by omega), hy, hd, hm]
    omega

-- Those of January and February are in the next year, which a leap day tells to be a leap year.
theorem isDate_dateFromMarch_late {year t : Int} (year_ge : -1 ≤ year) (ge : 306 ≤ t)
    (le : t ≤ 364 ∨ t = 365 ∧ EndsLeap year) :
    ∃ y m d : Nat, dateFromMarch year t = (↑y, ↑m, ↑d) ∧ IsDate y m d ∧
      daysOfDate y m d = daysBeforeMarch year + t - 719468 := by
  rw [EndsLeap] at le
  have ⟨s, hs⟩ : ∃ s, s = (5 * t + 2) / 153 := ⟨_, rfl⟩
  have late : ¬s < 10 := by omega
  have ⟨y, hy⟩ : ∃ y : Nat, (y : Int) = year + 1 := ⟨_, Int.toNat_of_nonneg (by omega)⟩
  have ⟨m, hm⟩ : ∃ m : Nat, (m : Int) = s - 9 := ⟨_, Int.toNat_of_nonneg (by omega)⟩
  have ⟨d, hd⟩ : ∃ d : Nat, (d : Int) = t - (153 * s + 2) / 5 + 1 :=
    ⟨_, Int.toNat_of_nonneg (by omega)⟩
  have day_le : d ≤ daysInMonth y m := by
    obtain january | february : s = 10 ∨ s = 11 := by omega
    case inl =>
      obtain rfl : m = 1 := by omega
      show d ≤ 31
      omega
    case inr =>
      obtain rfl : m = 2 := by omega
      show d ≤ if IsLeapYear y then 29 else 28
      split
      case isTrue => omega
      case isFalse notLeap =>
        unfold IsLeapYear at notLeap
        omega
  have march : (y : Int) - 1 = year := by omega
  refine ⟨y, m, d, ?_, ⟨by omega, by omega, by omega, day_le⟩, ?_⟩
  · simp only [dateFromMarch, ← hs, if_neg late, ← hd, ← hm]
    rw [if_pos (by omega), hy]
  · rw [daysOfDate_eq_march, if_pos (by omega), if_neg (by omega), march, hd, hm]
    omega

-- A day from the start of year 0 on has a date, which counts back to the day.
theorem exists_dateOfDays (days : Int) (start : -(dayNumber 1970 1 1 : Int) ≤ days) :
    ∃ year month day : Nat, dateOfDays days = (↑year, ↑month, ↑day) ∧ IsDate year month day ∧
      daysOfDate year month day = days := by
  have ⟨year, t, heq, count, pos, le⟩ := exists_dateFromMarch days
  have year_ge : -1 ≤ year ∧ (year = -1 → 306 ≤ t) := by
    rw [dayNumber_epoch] at start
    rw [daysBeforeMarch] at count
    omega
  have back : days = daysBeforeMarch year + t - 719468 := by omega
  rw [heq, back]
  by_cases early : t < 306
  case pos => exact isDate_dateFromMarch_early (by omega) pos early
  case neg => exact isDate_dateFromMarch_late year_ge.left (Int.not_lt.mp early) le

theorem IsDate.dateOfDays_daysOfDate (h : IsDate year month day) :
    dateOfDays (daysOfDate year month day) = (↑year, ↑month, ↑day) := by
  have count := h.daysOfDate_eq
  have ⟨y, m, d, hdate, isDate, back⟩ :=
    exists_dateOfDays (daysOfDate year month day) (by omega)
  rw [isDate.daysOfDate_eq] at back
  have ⟨hy, hm, hd⟩ := h.dayNumber_inj isDate (by omega)
  rw [hdate, hy, hm, hd]

end BoardFirmware.Calendar
