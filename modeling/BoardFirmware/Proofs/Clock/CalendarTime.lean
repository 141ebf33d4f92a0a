import BoardFirmware.Proofs.Clock.Calendar

namespace BoardFirmware

open Calendar

-- The epoch at which a year starts.
def startOfYear (year : Nat) : Int :=
  (dayNumber year 1 1 - dayNumber 1970 1 1 : Int) * secondsPerDay

-- The epoch lies in the year.
structure InYear (epoch : Int) (year : Nat) : Prop where
  start_le : startOfYear year ≤ epoch
  lt_end   : epoch < startOfYear (year + 1)

variable {epoch : Int} {year : Nat}

theorem startOfYear_eq (year : Nat) :
    startOfYear year = (daysBeforeMarch (year - 1) - 719162) * secondsPerDay := by
  have start : dayNumber year 1 1 = daysBeforeYear year := rfl
  rw [startOfYear, start, daysBeforeYear_eq, dayNumber_epoch]
  congr 1
  omega

theorem startOfYear_mono {a b : Nat} (h : a ≤ b) : startOfYear a ≤ startOfYear b := by
  have le : dayNumber a 1 1 ≤ dayNumber b 1 1 := daysBeforeYear_mono h
  simp only [startOfYear, secondsPerDay, secondsPerHour, secondsPerMinute]
  omega

-- A day lies in a year with all its seconds.
theorem inYear_iff : InYear epoch year ↔
    (daysBeforeYear year : Int) ≤ epoch / secondsPerDay + dayNumber 1970 1 1 ∧
      epoch / secondsPerDay + dayNumber 1970 1 1 < daysBeforeYear (year + 1) := by
  have start (year : Nat) : dayNumber year 1 1 = daysBeforeYear year := rfl
  constructor
  case mp =>
    intro ⟨le, lt⟩
    simp only [startOfYear, start, secondsPerDay, secondsPerHour, secondsPerMinute] at *
    omega
  case mpr =>
    intro h
    constructor <;>
    · simp only [startOfYear, start, secondsPerDay, secondsPerHour, secondsPerMinute] at *
      omega

theorem InYear.unique {year' : Nat} (h : InYear epoch year) (h' : InYear epoch year') :
    year = year' := by
  have days := inYear_iff.mp h
  have days' := inYear_iff.mp h'
  refine eq_of_between (n := (epoch / secondsPerDay + dayNumber 1970 1 1).toNat)
    daysBeforeYear_mono ?_ ?_ ?_ ?_ <;> omega

theorem exists_inYear {first last : Nat} (ge : startOfYear first ≤ epoch)
    (lt : epoch < startOfYear (last + 1)) :
    ∃ year, first ≤ year ∧ year ≤ last ∧ InYear epoch year := by
  have le : first ≤ last := by
    by_contra h
    have := startOfYear_mono (show last + 1 ≤ first from Nat.lt_of_not_le h)
    omega
  induction last, le using Nat.le_induction
  case base => exact ⟨first, Nat.le_refl _, Nat.le_refl _, ge, lt⟩
  case succ last le ih =>
    by_cases before : epoch < startOfYear (last + 1)
    case pos =>
      have ⟨year, ge, le, inYear⟩ := ih before
      exact ⟨year, ge, Nat.le_succ_of_le le, inYear⟩
    case neg => exact ⟨last + 1, Nat.le_succ_of_le le, Nat.le_refl _, Int.not_lt.mp before, lt⟩

theorem toNat_ofInt8 {n : Int} (nonneg : 0 ≤ n) (lt : n < 256) :
    ((UInt8.ofInt n).toNat : Int) = n := by
  rw [UInt8.ofInt, UInt8.toNat_ofNat']
  omega

theorem toNat_ofInt16 {n : Int} (nonneg : 0 ≤ n) (lt : n < 65536) :
    ((UInt16.ofInt n).toNat : Int) = n := by
  rw [UInt16.ofInt, UInt16.toNat_ofNat']
  omega

attribute [ext] CalendarTime

namespace CalendarTime

-- The date is in the calendar, and the day has such a time.
structure OnCalendar (t : CalendarTime) : Prop where
  isDate    : IsDate t.year.toNat t.month.toNat t.day.toNat
  hour_le   : t.hour.toNat ≤ 23
  minute_le : t.minute.toNat ≤ 59
  second_le : t.second.toNat ≤ 59

variable {t : CalendarTime}

theorem isValid_iff : t.IsValid ↔
    t.OnCalendar ∧ (1900 ≤ t.year ∧ t.year ≤ 9999) ∧ t.nanosecond < 1000000000 ∧
      (t.zone = unspecifiedZone ∨ -1440 ≤ t.zone.toInt ∧ t.zone.toInt ≤ 1440) := by
  constructor
  case mp =>
    intro ⟨le_year, year_le, month_pos, month_le, day_pos, day_le, hour, minute, second, nano, zone⟩
    exact ⟨⟨⟨month_pos, month_le, day_pos, day_le⟩, hour, minute, second⟩, ⟨le_year, year_le⟩,
      nano, zone⟩
  case mpr =>
    intro ⟨⟨⟨month_pos, month_le, day_pos, day_le⟩, hour, minute, second⟩, ⟨le_year, year_le⟩,
      nano, zone⟩
    exact ⟨le_year, year_le, month_pos, month_le, day_pos, day_le, hour, minute, second, nano, zone⟩

theorem hour_atEpoch (t : CalendarTime) (epoch : Int) :
    ((t.atEpoch epoch).hour.toNat : Int) = epoch % secondsPerDay / secondsPerHour := by
  apply toNat_ofInt8 <;>
  · simp only [secondsPerDay, secondsPerHour, secondsPerMinute]
    omega

theorem minute_atEpoch (t : CalendarTime) (epoch : Int) :
    ((t.atEpoch epoch).minute.toNat : Int) =
      epoch % secondsPerDay % secondsPerHour / secondsPerMinute := by
  apply toNat_ofInt8 <;>
  · simp only [secondsPerDay, secondsPerHour, secondsPerMinute]
    omega

theorem second_atEpoch (t : CalendarTime) (epoch : Int) :
    ((t.atEpoch epoch).second.toNat : Int) = epoch % secondsPerDay % secondsPerMinute := by
  apply toNat_ofInt8 <;>
  · simp only [secondsPerDay, secondsPerHour, secondsPerMinute]
    omega

theorem date_atEpoch (t : CalendarTime) {y m d : Nat} (isDate : IsDate y m d) (le : y ≤ 65535)
    (date : dateOfDays (epoch / secondsPerDay) = (↑y, ↑m, ↑d)) :
    (t.atEpoch epoch).year.toNat = y ∧ (t.atEpoch epoch).month.toNat = m ∧
      (t.atEpoch epoch).day.toNat = d := by
  have ⟨_, month_le, _, day_le⟩ := isDate
  have days := daysInMonth_le y m
  have year := toNat_ofInt16 (n := y) (by omega) (by omega)
  have month := toNat_ofInt8 (n := m) (by omega) (by omega)
  have day := toNat_ofInt8 (n := d) (by omega) (by omega)
  rw [atEpoch, date]
  exact ⟨Int.ofNat_inj.mp year, Int.ofNat_inj.mp month, Int.ofNat_inj.mp day⟩

theorem onCalendar_atEpoch (t : CalendarTime) (h : InYear epoch year) (le : year ≤ 65535) :
    (t.atEpoch epoch).OnCalendar ∧ (t.atEpoch epoch).year.toNat = year ∧
      (t.atEpoch epoch).toEpoch = epoch := by
  have days := inYear_iff.mp h
  have ⟨y, m, d, date, isDate, back⟩ := exists_dateOfDays (epoch / secondsPerDay) (by omega)
  have ⟨from_year, before_next⟩ := isDate.year_between
  obtain rfl : y = year := by
    rw [isDate.daysOfDate_eq] at back
    exact eq_of_between daysBeforeYear_mono from_year before_next (by omega) (by omega)
  have ⟨hy, hm, hd⟩ := t.date_atEpoch isDate le date
  have hour := t.hour_atEpoch epoch
  have minute := t.minute_atEpoch epoch
  have second := t.second_atEpoch epoch
  refine ⟨⟨?_, ?_, ?_, ?_⟩, hy, ?_⟩
  · rwa [hy, hm, hd]
  · simp only [secondsPerDay, secondsPerHour, secondsPerMinute] at hour
    omega
  · simp only [secondsPerDay, secondsPerHour, secondsPerMinute] at minute
    omega
  · simp only [secondsPerDay, secondsPerMinute, secondsPerHour] at second
    omega
  · rw [toEpoch, hy, hm, hd, back, hour, minute, second]
    simp only [secondsPerDay, secondsPerHour, secondsPerMinute]
    omega

theorem toEpoch_atEpoch (t : CalendarTime) (ge : startOfYear 0 ≤ epoch)
    (lt : epoch < startOfYear (65535 + 1)) : (t.atEpoch epoch).toEpoch = epoch := by
  have ⟨_, _, le, inYear⟩ := exists_inYear ge lt
  exact (t.onCalendar_atEpoch inYear le).2.2

namespace OnCalendar

theorem toEpoch_div (h : t.OnCalendar) :
    t.toEpoch / secondsPerDay = daysOfDate t.year.toNat t.month.toNat t.day.toNat := by
  have ⟨_, hour_le, minute_le, second_le⟩ := h
  simp only [toEpoch, secondsPerDay, secondsPerHour, secondsPerMinute]
  omega

theorem toEpoch_mod (h : t.OnCalendar) :
    t.toEpoch % secondsPerDay =
      t.hour.toNat * secondsPerHour + t.minute.toNat * secondsPerMinute + t.second.toNat := by
  have ⟨_, hour_le, minute_le, second_le⟩ := h
  simp only [toEpoch, secondsPerDay, secondsPerHour, secondsPerMinute]
  omega

theorem atEpoch_toEpoch (h : t.OnCalendar) (u : CalendarTime) :
    u.atEpoch t.toEpoch =
      { t with nanosecond := u.nanosecond, zone := u.zone, daylight := u.daylight } := by
  have ⟨isDate, hour_le, minute_le, second_le⟩ := h
  have date := h.toEpoch_div ▸ isDate.dateOfDays_daysOfDate
  have ⟨year, month, day⟩ := u.date_atEpoch isDate (Nat.le_of_lt_succ t.year.toNat_lt) date
  have hour : (u.atEpoch t.toEpoch).hour.toNat = t.hour.toNat := by
    have := u.hour_atEpoch t.toEpoch
    simp only [h.toEpoch_mod, secondsPerHour, secondsPerMinute] at this
    omega
  have minute : (u.atEpoch t.toEpoch).minute.toNat = t.minute.toNat := by
    have := u.minute_atEpoch t.toEpoch
    simp only [h.toEpoch_mod, secondsPerHour, secondsPerMinute] at this
    omega
  have second : (u.atEpoch t.toEpoch).second.toNat = t.second.toNat := by
    have := u.second_atEpoch t.toEpoch
    simp only [h.toEpoch_mod, secondsPerHour, secondsPerMinute] at this
    omega
  ext1
  case year => exact UInt16.toNat_inj.mp year
  case month => exact UInt8.toNat_inj.mp month
  case day => exact UInt8.toNat_inj.mp day
  case hour => exact UInt8.toNat_inj.mp hour
  case minute => exact UInt8.toNat_inj.mp minute
  case second => exact UInt8.toNat_inj.mp second
  all_goals rfl

theorem inYear (h : t.OnCalendar) : InYear t.toEpoch t.year.toNat := by
  have ⟨le, lt⟩ := h.isDate.year_between
  rw [inYear_iff, h.toEpoch_div, h.isDate.daysOfDate_eq]
  omega

end OnCalendar

-- The epoch that a local time stands for.
def utcEpoch (t : CalendarTime) : Int :=
  t.toEpoch - localOffset t.zone t.daylight

-- Zones that are not allowed are no more than 23 days from UTC, either.
theorem localOffset_near (zone : Int16) (daylight : UInt8) :
    -23 * secondsPerDay ≤ localOffset zone daylight ∧
      localOffset zone daylight ≤ 23 * secondsPerDay := by
  have := zone.le_toInt
  have := zone.toInt_lt
  simp only [localOffset, secondsPerDay, secondsPerHour, secondsPerMinute]
  split
  case isTrue  => omega
  case isFalse => split <;> omega

-- Local time is never more than a day from UTC.
theorem IsValid.localOffset_near (h : t.IsValid) :
    -secondsPerDay ≤ localOffset t.zone t.daylight ∧
      localOffset t.zone t.daylight ≤ secondsPerDay := by
  have ⟨_, _, _, zone⟩ := isValid_iff.mp h
  simp only [localOffset, secondsPerDay, secondsPerHour, secondsPerMinute]
  split
  case isTrue specified =>
    obtain unspecified | near := zone
    case inl => exact absurd unspecified specified
    case inr => omega
  case isFalse => split <;> omega

-- Its epoch is no more than a day outside of the year.
theorem IsValid.utcEpoch_between (h : t.IsValid) :
    startOfYear t.year.toNat - secondsPerDay ≤ t.utcEpoch ∧
      t.utcEpoch < startOfYear (t.year.toNat + 1) + secondsPerDay := by
  have ⟨start_le, lt_end⟩ := (isValid_iff.mp h).1.inYear
  have ⟨ge, le⟩ := h.localOffset_near
  rw [utcEpoch]
  omega

theorem IsValid.utcEpoch_near (h : t.IsValid) :
    startOfYear 0 ≤ t.utcEpoch ∧ t.utcEpoch < startOfYear (65535 + 1) := by
  have ⟨_, ⟨le_year, year_le⟩, _, _⟩ := isValid_iff.mp h
  have ge := startOfYear_mono (show 1900 ≤ t.year.toNat from le_year)
  have le := startOfYear_mono (show t.year.toNat + 1 ≤ 10000 from Nat.succ_le_succ year_le)
  have between := h.utcEpoch_between
  rw [startOfYear_eq 1900] at ge
  rw [startOfYear_eq 10000] at le
  rw [startOfYear_eq, startOfYear_eq]
  simp only [Calendar.daysBeforeMarch, secondsPerDay, secondsPerHour, secondsPerMinute] at *
  omega

theorem IsValid.toEpoch_atEpoch_succ (h : t.IsValid) (u : CalendarTime) :
    (u.atEpoch (t.toEpoch + 1)).toEpoch = t.toEpoch + 1 := by
  have ⟨onCalendar, ⟨_, year_le⟩, _⟩ := isValid_iff.mp h
  have ⟨start_le, lt_end⟩ := onCalendar.inYear
  have ge := startOfYear_mono (Nat.zero_le t.year.toNat)
  have le := startOfYear_mono (show t.year.toNat + 1 ≤ 10000 from Nat.succ_le_succ year_le)
  have last : startOfYear 10000 < startOfYear (65535 + 1) := by
    rw [startOfYear_eq, startOfYear_eq]
    decide
  exact toEpoch_atEpoch u (by omega) (by omega)

-- Even if the bytes of a time stand for no date, they do not lead far from its year.
theorem toEpoch_near (t : CalendarTime) (le_year : 1900 ≤ t.year) (year_le : t.year ≤ 9999) :
    startOfYear 0 ≤ t.toEpoch ∧ t.toEpoch < startOfYear (65535 + 1) := by
  have le_year : 1900 ≤ t.year.toNat := le_year
  have year_le : t.year.toNat ≤ 9999 := year_le
  have := t.month.toNat_lt
  have := t.day.toNat_lt
  have := t.hour.toNat_lt
  have := t.minute.toNat_lt
  have := t.second.toNat_lt
  rw [startOfYear_eq, startOfYear_eq, toEpoch, daysOfDate_eq_march]
  simp only [daysBeforeMarch, secondsPerDay, secondsPerHour, secondsPerMinute]
  omega

-- An epoch comes back from its time, as far as years can be held. Of the times whose year, zone and
-- nanoseconds are allowed, the valid ones are those that come back from their epochs.
theorem atEpoch_bijection :
    (∀ (t : CalendarTime) (epoch : Int) (year : Nat), InYear epoch year → year ≤ 65535 →
      (t.atEpoch epoch).OnCalendar ∧ (t.atEpoch epoch).year.toNat = year ∧
        (t.atEpoch epoch).toEpoch = epoch) ∧
    ∀ t : CalendarTime, 1900 ≤ t.year → t.year ≤ 9999 → t.nanosecond < 1000000000 →
      (t.zone = unspecifiedZone ∨ -1440 ≤ t.zone.toInt ∧ t.zone.toInt ≤ 1440) →
      (t.IsValid ↔ t.atEpoch t.toEpoch = t) := by
  refine ⟨fun t _ _ => t.onCalendar_atEpoch, fun t le_year year_le nano zone => ⟨?mp, ?mpr⟩⟩
  case mp =>
    intro valid
    exact (isValid_iff.mp valid).1.atEpoch_toEpoch t
  case mpr =>
    intro back
    have ⟨ge, lt⟩ := t.toEpoch_near le_year year_le
    have ⟨_, _, le, inYear⟩ := exists_inYear ge lt
    have onCalendar := (t.onCalendar_atEpoch inYear le).1
    rw [back] at onCalendar
    exact isValid_iff.mpr ⟨onCalendar, ⟨le_year, year_le⟩, nano, zone⟩

-- The second before 1970 comes back from its time, and 29 February 1900 does not from its epoch.
theorem atEpoch_bijection_negative :
    InYear (-1) 1969 ∧
      ((({} : CalendarTime).atEpoch (-1)).OnCalendar ∧
        (({} : CalendarTime).atEpoch (-1)).year.toNat = 1969 ∧
        (({} : CalendarTime).atEpoch (-1)).toEpoch = -1) ∧
      ¬({ year := 1900, month := 2, day := 29 } : CalendarTime).IsValid ∧
      ({ year := 1900, month := 2, day := 29 } : CalendarTime).atEpoch
        ({ year := 1900, month := 2, day := 29 } : CalendarTime).toEpoch ≠
          { year := 1900, month := 2, day := 29 } := by
  have inYear : InYear (-1) 1969 := by
    constructor
    · rw [startOfYear_eq]
      decide
    · rw [startOfYear_eq]
      decide
  have invalid : ¬({ year := 1900, month := 2, day := 29 } : CalendarTime).IsValid := by decide
  exact ⟨inYear, atEpoch_bijection.1 {} (-1) 1969 inYear (by decide), invalid, fun back =>
    invalid ((atEpoch_bijection.2 _ (by decide) (by decide) (by decide) (by decide)).mpr back)⟩

end CalendarTime

end BoardFirmware
