import BoardFirmware.Proofs.Clock.CalendarTime
import Mathlib.Logic.Function.Iterate

namespace BoardFirmware

namespace Calendar

variable {year month day : Nat}

theorem daysInMonth_pos (year month : Nat) : 1 ≤ daysInMonth year month := by
  unfold daysInMonth
  split
  · split <;> decide
  all_goals decide

theorem daysBeforeYear_strictMono : StrictMono daysBeforeYear := by
  refine strictMono_nat_of_lt_succ fun year => ?_
  rw [daysBeforeYear, daysThroughMonth_twelve]
  split <;> omega

theorem isDate_first (year : Nat) : IsDate year 1 1 :=
  ⟨Nat.le_refl 1, by decide, Nat.le_refl 1, daysInMonth_pos year 1⟩

namespace IsDate

theorem succ_day (h : IsDate year month day) (lt : day < daysInMonth year month) :
    IsDate year month (day + 1) ∧
      dayNumber year month (day + 1) = dayNumber year month day + 1 := by
  have ⟨month_pos, month_le, day_pos, _⟩ := h
  refine ⟨⟨month_pos, month_le, Nat.le_add_left 1 day, lt⟩, ?_⟩
  rw [dayNumber, dayNumber]
  omega

-- With its last day, a month is over.
theorem daysThroughMonth_last (h : IsDate year month day) (last : ¬day < daysInMonth year month) :
    daysThroughMonth year month = daysThroughMonth year (month - 1) + (day - 1) + 1 := by
  have ⟨month_pos, _, day_pos, day_le⟩ := h
  obtain ⟨month, rfl⟩ := Nat.exists_eq_add_of_le' month_pos
  rw [daysThroughMonth, Nat.add_sub_cancel]
  omega

theorem succ_month (h : IsDate year month day) (last : ¬day < daysInMonth year month)
    (lt : month < 12) :
    IsDate year (month + 1) 1 ∧ dayNumber year (month + 1) 1 = dayNumber year month day + 1 := by
  refine ⟨⟨Nat.le_add_left 1 month, lt, Nat.le_refl 1, daysInMonth_pos year _⟩, ?_⟩
  rw [dayNumber, dayNumber, Nat.add_sub_cancel, h.daysThroughMonth_last last]
  omega

-- With the last day of December, the year is over, too.
theorem succ_year (h : IsDate year month day) (last : ¬day < daysInMonth year month)
    (december : ¬month < 12) :
    IsDate (year + 1) 1 1 ∧ dayNumber (year + 1) 1 1 = dayNumber year month day + 1 := by
  obtain rfl : month = 12 := Nat.le_antisymm h.month_le (Nat.le_of_not_lt december)
  have first : dayNumber (year + 1) 1 1 = daysBeforeYear (year + 1) := rfl
  refine ⟨isDate_first (year + 1), ?_⟩
  rw [first, daysBeforeYear, h.daysThroughMonth_last last, dayNumber]
  omega

end IsDate

end Calendar

namespace CalendarTime

open Calendar

-- The same time on the next day.
def nextDay (t : CalendarTime) : CalendarTime :=
  if t.day.toNat < daysInMonth t.year.toNat t.month.toNat then
    { t with day := t.day + 1 }
  else if t.month < 12 then
    { t with month := t.month + 1, day := 1 }
  else
    { t with year := t.year + 1, month := 1, day := 1 }

-- The same time on the first day of 1970.
def onFirstDay (t : CalendarTime) : CalendarTime :=
  { t with year := 1970, month := 1, day := 1 }

-- The days from the start of year 0 to the day of the time.
def dayCount (t : CalendarTime) : Nat :=
  dayNumber t.year.toNat t.month.toNat t.day.toNat

-- The two times differ in nothing but their days.
def SameTimeOfDay (t u : CalendarTime) : Prop :=
  { t with year := u.year, month := u.month, day := u.day } = u

variable {t u v : CalendarTime}

theorem SameTimeOfDay.symm (h : SameTimeOfDay t u) : SameTimeOfDay u t := by
  unfold SameTimeOfDay at *
  rw [← h]

theorem SameTimeOfDay.trans (h : SameTimeOfDay t u) (h' : SameTimeOfDay u v) :
    SameTimeOfDay t v := by
  unfold SameTimeOfDay at *
  rw [← h', ← h]

theorem sameTimeOfDay_nextDay (t : CalendarTime) : SameTimeOfDay t t.nextDay := by
  unfold SameTimeOfDay nextDay
  split
  case isTrue => rfl
  case isFalse => split <;> rfl

namespace OnCalendar

theorem onFirstDay (h : t.OnCalendar) : t.onFirstDay.OnCalendar :=
  ⟨isDate_first 1970, h.hour_le, h.minute_le, h.second_le⟩

theorem dayCount_lt (h : t.OnCalendar) : t.dayCount < daysBeforeYear 65536 :=
  Nat.lt_of_lt_of_le h.isDate.year_between.2 (daysBeforeYear_mono t.year.toNat_lt)

-- Whichever part of the date goes on, the count goes on by one, as far as years can be held.
theorem nextDay (h : t.OnCalendar) (lt : t.dayCount + 1 < daysBeforeYear 65536) :
    t.nextDay.OnCalendar ∧ t.nextDay.dayCount = t.dayCount + 1 := by
  have ⟨isDate, hour_le, minute_le, second_le⟩ := h
  have month_le := isDate.month_le
  have day_le := isDate.day_le
  have days := daysInMonth_le t.year.toNat t.month.toNat
  have one : (1 : UInt8).toNat = 1 := rfl
  unfold CalendarTime.nextDay
  split
  case isTrue before =>
    have day : (t.day + 1).toNat = t.day.toNat + 1 := by
      rw [UInt8.toNat_add, one]
      omega
    have ⟨next, count⟩ := day ▸ isDate.succ_day before
    exact ⟨⟨next, hour_le, minute_le, second_le⟩, count⟩
  case isFalse last =>
  split
  case isTrue before =>
    have before : t.month.toNat < 12 := before
    have month : (t.month + 1).toNat = t.month.toNat + 1 := by
      rw [UInt8.toNat_add, one]
      omega
    have ⟨next, count⟩ := month ▸ isDate.succ_month last before
    exact ⟨⟨next, hour_le, minute_le, second_le⟩, count⟩
  case isFalse december =>
    have ⟨next, count⟩ := isDate.succ_year last december
    have held : t.year.toNat + 1 < 65536 := by
      by_contra le
      have start_le := daysBeforeYear_mono (Nat.le_of_not_lt le)
      exact Nat.not_lt_of_le (start_le.trans (Nat.le_of_eq count)) lt
    have year : (t.year + 1).toNat = t.year.toNat + 1 := by
      rw [UInt16.toNat_add]
      exact Nat.mod_eq_of_lt held
    rw [← year] at next count
    exact ⟨⟨next, hour_le, minute_le, second_le⟩, count⟩

-- On each day, there is one such time.
theorem eq_of_dayCount (h : t.OnCalendar) (h' : u.OnCalendar) (same : SameTimeOfDay t u)
    (count : t.dayCount = u.dayCount) : t = u := by
  have ⟨year, month, day⟩ := h.isDate.dayNumber_inj h'.isDate count
  rw [SameTimeOfDay, ← UInt16.toNat_inj.mp year, ← UInt8.toNat_inj.mp month,
    ← UInt8.toNat_inj.mp day] at same
  exact same

-- What one day preserves, any number of them do.
theorem iterate_nextDay (h : t.OnCalendar) (n : Nat) (lt : t.dayCount + n < daysBeforeYear 65536) :
    (CalendarTime.nextDay^[n] t).OnCalendar ∧
      (CalendarTime.nextDay^[n] t).dayCount = t.dayCount + n ∧
      SameTimeOfDay t (CalendarTime.nextDay^[n] t) := by
  induction n
  case zero => exact ⟨h, rfl, rfl⟩
  case succ n ih =>
    have ⟨onCalendar, count, same⟩ := ih (by omega)
    have ⟨next, step⟩ := onCalendar.nextDay (by omega)
    rw [Function.iterate_succ_apply']
    exact ⟨next, by omega, same.trans (sameTimeOfDay_nextDay _)⟩

-- A later day is reached by going on from day to day.
theorem eq_iterate_nextDay (h : t.OnCalendar) (h' : u.OnCalendar) (same : SameTimeOfDay t u)
    {n : Nat} (count : u.dayCount = t.dayCount + n) : u = CalendarTime.nextDay^[n] t := by
  have ⟨onCalendar, reached, same'⟩ := h.iterate_nextDay n (count ▸ h'.dayCount_lt)
  exact h'.eq_of_dayCount onCalendar (same.symm.trans same') (count.trans reached.symm)

theorem toEpoch_eq (h : t.OnCalendar) :
    t.toEpoch = (t.dayCount - dayNumber 1970 1 1 : Int) * secondsPerDay +
      (t.hour.toNat * secondsPerHour + t.minute.toNat * secondsPerMinute + t.second.toNat) := by
  rw [← h.toEpoch_mod, dayCount, ← h.isDate.daysOfDate_eq, ← h.toEpoch_div,
    Int.ediv_mul_add_emod]

-- The count starts on a Saturday.
theorem weekday_eq (h : t.OnCalendar) : t.weekday.toNat = (t.dayCount + 6) % 7 := by
  have days : t.toEpoch / secondsPerDay = t.dayCount - dayNumber 1970 1 1 :=
    h.toEpoch_div.trans h.isDate.daysOfDate_eq
  have weekday := toNat_ofInt8 (n := (t.toEpoch / secondsPerDay + 4) % 7) (by omega) (by omega)
  rw [days, dayNumber_epoch] at weekday
  rw [CalendarTime.weekday, days, dayNumber_epoch]
  omega

-- The time of day is the same share of the epoch on all days.
theorem toEpoch_add (h : t.OnCalendar) (h' : u.OnCalendar) (same : SameTimeOfDay t u) {n : Nat}
    (count : u.dayCount = t.dayCount + n) : u.toEpoch = t.toEpoch + n * secondsPerDay := by
  have hour : u.hour = t.hour := (congrArg CalendarTime.hour same).symm
  have minute : u.minute = t.minute := (congrArg CalendarTime.minute same).symm
  have second : u.second = t.second := (congrArg CalendarTime.second same).symm
  rw [h.toEpoch_eq, h'.toEpoch_eq, hour, minute, second, count]
  simp only [secondsPerDay, secondsPerHour, secondsPerMinute]
  omega

end OnCalendar

-- An epoch is 86400 seconds more on the next day, and the day of the week goes on by one. The first
-- day of 1970 is a Thursday, and its midnight has epoch 0. So any epoch is the time of day and the
-- days that it takes to get from that day to its own, or back.
theorem toEpoch_counts_days {t : CalendarTime} (h : t.OnCalendar) (lt : t.year < 65535) :
    t.nextDay.OnCalendar ∧
    t.nextDay.toEpoch = t.toEpoch + 86400 ∧
    t.nextDay.weekday = (t.weekday + 1) % 7 ∧
    ({} : CalendarTime).toEpoch = 0 ∧
    ({} : CalendarTime).weekday = 4 ∧
    ∃ n : Nat,
      t = nextDay^[n] t.onFirstDay ∧
        t.toEpoch = n * 86400 + t.hour.toNat * 3600 + t.minute.toNat * 60 + t.second.toNat ∧
        t.weekday.toNat = (4 + n) % 7 ∨
      t.onFirstDay = nextDay^[n] t ∧
        t.toEpoch = -n * 86400 + t.hour.toNat * 3600 + t.minute.toNat * 60 + t.second.toNat ∧
        (t.weekday.toNat + n) % 7 = 4 := by
  have held : t.dayCount + 1 < daysBeforeYear 65536 :=
    calc t.dayCount + 1
      _ ≤ daysBeforeYear (t.year.toNat + 1) := h.isDate.year_between.2
      _ ≤ daysBeforeYear 65535              := daysBeforeYear_mono (UInt16.lt_iff_toNat_lt.mp lt)
      _ < daysBeforeYear 65536              := daysBeforeYear_strictMono (by decide)
  have ⟨next, count⟩ := h.nextDay held
  have same := t.sameTimeOfDay_nextDay
  have first := h.onFirstDay
  have firstCount : t.onFirstDay.dayCount = 719528 := Int.ofNat_inj.mp dayNumber_epoch
  refine ⟨next, h.toEpoch_add next same count, ?weekday, by decide, by decide, ?days⟩
  case weekday =>
    have seven : (7 : UInt8).toNat = 7 := rfl
    have one : (1 : UInt8).toNat = 1 := rfl
    have weekday := h.weekday_eq
    rw [← UInt8.toNat_inj, UInt8.toNat_mod, UInt8.toNat_add, seven, one, next.weekday_eq, count]
    omega
  case days =>
    have epoch := h.toEpoch_eq
    have weekday := h.weekday_eq
    rw [dayNumber_epoch] at epoch
    simp only [secondsPerDay, secondsPerHour, secondsPerMinute] at epoch
    obtain after | before := Nat.le_total t.onFirstDay.dayCount t.dayCount
    case inl =>
      refine ⟨t.dayCount - 719528, .inl ⟨?_, ?_, ?_⟩⟩
      · exact first.eq_iterate_nextDay h rfl (by omega)
      · omega
      · omega
    case inr =>
      refine ⟨719528 - t.dayCount, .inr ⟨?_, ?_, ?_⟩⟩
      · exact h.eq_iterate_nextDay first rfl (by omega)
      · omega
      · omega

-- There is no 29 February in 1900, and the first of March is a Thursday.
theorem toEpoch_counts_days_1900 :
    let t : CalendarTime := { year := 1900, month := 2, day := 28 }
    t.OnCalendar ∧ t.nextDay = { year := 1900, month := 3 } ∧ t.weekday = 3 ∧
      t.nextDay.toEpoch = t.toEpoch + 86400 ∧ t.nextDay.weekday = 4 := by
  intro t
  have isDate : IsDate 1900 2 28 := ⟨by decide, by decide, by decide, by decide⟩
  have onCalendar : t.OnCalendar := ⟨isDate, by decide, by decide, by decide⟩
  have ⟨_, epoch, weekday, _⟩ := toEpoch_counts_days onCalendar (by decide)
  exact ⟨onCalendar, by decide, by decide, epoch, weekday.trans (by decide)⟩

end CalendarTime

end BoardFirmware
