import BoardFirmware.Proofs.Clock.RegisterFile
import BoardFirmware.Proofs.Clock.Watched

/-!
The range of a virtual clock. It can be set to any valid time, up to the year 9999, but nanoseconds
are counted in a signed word, which is full in April of 2262: a later time is a trap, and by then
the clock has its new epoch already. Times before 1970 are in range, but the clock tells them one
second late unless the counter reads whole seconds.
-/

namespace BoardFirmware.Clock

open BoardFirmware.Action

-- The clock can be read where the counter reads `nanos`.
def Counts (c : Clock δ) (nanos : Int) : Prop :=
  match c.counterOffset with
  | some offset => Fits (nanos + offset)
  | none        => Fits (offsetAt c.rtcOffset nanos)

variable {c : Clock δ} {counter : UInt64} {zone : Int16} {daylight : UInt8} {t : CalendarTime}
  {nanos : Int}

theorem result_virtualEpoch_of_counts (h : c.Counts nanos) (nonneg : 0 ≤ nanos)
    (lt : nanos < 0x8000000000000000) :
    ∃ epoch c', (virtualEpoch nanos).result c = (.done epoch, c') ∧
      -10000000000 ≤ epoch ∧ epoch ≤ 20000000000 := by
  rw [Counts] at h
  rcases tied : c.counterOffset with _ | offset <;> rw [tied] at h
  case none => exact ⟨_, _, result_virtualEpoch_of_none tied rfl nonneg h, h.epoch_near nonneg lt⟩
  case some =>
    have near := h.tdiv_near
    exact ⟨_, _, result_virtualEpoch tied h, by omega, by omega⟩

theorem trapped_virtualEpoch (h : ¬c.Counts nanos) (nonneg : 0 ≤ nanos) :
    ((virtualEpoch nanos).result c).1 = .trapped := by
  rw [Counts] at h
  rw [virtualEpoch]
  rcases tied : c.counterOffset with _ | offset <;> rw [tied] at h
  case none =>
    rw [result_bind_of_done (result_counterEpoch?_of_none tied nanos)]
    dsimp only
    rw [result_bind_of_done (result_get c), Int.tdiv_eq_ediv_of_nonneg nonneg]
    exact trapped_bind (trapped_anchor h c) _
  case some =>
    rw [counterEpoch?]
    refine trapped_bind ?_ _
    rw [result_bind_of_done (result_get c), tied]
    exact trapped_bind (by rw [result_checked_of_not_fits h c]) _

-- From 1970 up to the last full second in range, it does not matter what the counter reads.
theorem fits_offsetAt (valid : t.IsValid) (le : t.utcEpoch ≤ 9223372035) (nonneg : 0 ≤ nanos)
    (lt : nanos < 0x8000000000000000) (early : 0 ≤ t.utcEpoch ∨ nanos ≤ 7000000000000000000) :
    Fits (offsetAt t.utcEpoch nanos) ∧ Fits (nanos + offsetAt t.utcEpoch nanos) := by
  have ge : startOfYear 1900 - secondsPerDay ≤ t.utcEpoch := by
    have start := startOfYear_mono (show 1900 ≤ t.year.toNat from valid.1)
    have between := valid.utcEpoch_between
    omega
  rw [startOfYear_eq] at ge
  simp only [Calendar.daysBeforeMarch, secondsPerDay, secondsPerHour, secondsPerMinute] at ge
  rw [add_offsetAt, Fits, Fits, offsetAt, nanosPerSecond]
  omega

section

variable [RegisterBus δ]

variable (isVirtual : c.config.isVirtual = true)
include isVirtual

theorem getTime_trapped_iff (lt : counter.toNat < 0x8000000000000000) :
    ((getTime counter zone daylight).result c).1 = .trapped ↔
      c.Serves getTimeService ∧ ¬c.Counts counter.toNat := by
  have nonneg : 0 ≤ (counter.toNat : Int) := Int.natCast_nonneg _
  by_cases serves : c.Serves getTimeService
  case neg =>
    have refused : (getTime counter zone daylight).result c = (.failed .unsupported, c) := by
      rw [getTime, result_bind, result_checkRuntime_of_not_serves serves]
    simp [refused, serves]
  case pos =>
    by_cases counts : c.Counts counter.toNat
    case neg =>
      have trapped := trapped_virtualEpoch counts nonneg
      rw [result_getTime_of_serves serves lt, if_pos isVirtual]
      exact ⟨fun _ => ⟨serves, counts⟩, fun _ => trapped_bind trapped _⟩
    case pos =>
      obtain ⟨epoch, c', known, ge, le⟩ := result_virtualEpoch_of_counts counts nonneg (by omega)
      have near := CalendarTime.localOffset_near zone daylight
      have fits : Fits (epoch + CalendarTime.localOffset zone daylight) := by
        simp only [secondsPerDay, secondsPerHour, secondsPerMinute] at near
        rw [Fits]
        omega
      have told := result_getTime_of_epoch serves lt (by rwa [if_pos isVirtual]) fits
      simp [told, counts]

theorem setTime_trapped_iff (valid : t.IsValid) :
    ((setTime counter t).result c).1 = .trapped ↔
      c.Serves setTimeService ∧ ¬Fits (offsetAt t.utcEpoch counter.toNat) := by
  by_cases serves : c.Serves setTimeService
  case neg => simp [result_setTime_of_not_serves valid serves counter, serves]
  case pos =>
    by_cases fits : Fits (offsetAt t.utcEpoch counter.toNat)
    case pos => simp [result_setTime_of_virtual valid isVirtual serves fits, fits]
    case neg =>
      rw [result_setTime_of_anchor valid isVirtual serves]
      exact ⟨fun _ => ⟨serves, fits⟩, fun _ => trapped_anchor fits _⟩

-- Once the clock is set, it goes by its new offset. If setting it is refused, nothing changes.
theorem getTime_after_setTime_trapped_iff (valid : t.IsValid)
    (lt : counter.toNat < 0x8000000000000000)
    (ret : ((setTime counter t).result c).1 ≠ .trapped) :
    ((getTime counter zone daylight).result ((setTime counter t).result c).2).1 = .trapped ↔
      c.Serves getTimeService ∧
      (c.Serves setTimeService → ¬Fits (counter.toNat + offsetAt t.utcEpoch counter.toNat)) ∧
      (¬c.Serves setTimeService → ¬c.Counts counter.toNat) := by
  by_cases serves : c.Serves setTimeService
  case neg =>
    rw [result_setTime_of_not_serves valid serves counter, getTime_trapped_iff isVirtual lt]
    simp [serves]
  case pos =>
    have fits : Fits (offsetAt t.utcEpoch counter.toNat) := by
      by_contra far
      exact ret ((setTime_trapped_iff isVirtual valid).mpr ⟨serves, far⟩)
    have set := result_setTime_of_virtual valid isVirtual serves fits
    rw [set]
    refine (getTime_trapped_iff (by exact isVirtual) lt).trans (and_congr Iff.rfl ?_)
    simp [serves, Counts, CalendarTime.utcEpoch]

end

-- Setting a virtual clock and reading it is trapped exactly if the offset, or its sum with the
-- counter, leaves its word. No other number does, even if all of the arithmetic is watched.
theorem virtual_trapped_iff [RegisterBus δ] {c : Clock δ} (isVirtual : c.config.isVirtual = true)
    {t : CalendarTime} (valid : t.IsValid) {counter : UInt64}
    (lt : counter.toNat < 0x8000000000000000) :
    (Watched.perform : Call → Action (Clock δ) _) = Call.perform ∧
    (((setTime counter t).result c).1 = .trapped ↔
      c.Serves setTimeService ∧ ¬Fits (offsetAt t.utcEpoch counter.toNat)) ∧
    (((setTime counter t).result c).1 ≠ .trapped → ∀ zone daylight,
      (((getTime counter zone daylight).result ((setTime counter t).result c).2).1 = .trapped ↔
        c.Serves getTimeService ∧
        (c.Serves setTimeService → ¬Fits (counter.toNat + offsetAt t.utcEpoch counter.toNat)) ∧
        (¬c.Serves setTimeService → ¬c.Counts counter.toNat))) ∧
    (t.utcEpoch ≤ 9223372035 → 0 ≤ t.utcEpoch ∨ counter.toNat ≤ 7000000000000000000 →
      Fits (offsetAt t.utcEpoch counter.toNat) ∧
      Fits (counter.toNat + offsetAt t.utcEpoch counter.toNat)) := by
  refine ⟨funext Watched.perform_eq, setTime_trapped_iff isVirtual valid, ?_, ?_⟩
  case refine_1 =>
    exact fun ret _ _ => getTime_after_setTime_trapped_iff isVirtual valid lt ret
  case refine_2 =>
    intro le early
    exact fits_offsetAt valid le (Int.natCast_nonneg _) (by omega) (by omega)

-- The last reading of the counter in the last second that can be told. The sum of the counter and
-- the offset is the greatest number in its word.
theorem virtual_trapped_iff_last_second :
    let t : CalendarTime :=
      { year := 2262, month := 4, day := 11, hour := 23, minute := 47, second := 16 }
    let c : Clock RegisterFile := ofBus ⟨fun _ => 0⟩ ⟨2000, true, false, 0⟩ none
    t.IsValid ∧ ((setTime 854775807 t).result c).1 ≠ .trapped ∧
      ((getTime 854775807 60 0).result ((setTime 854775807 t).result c).2).1 ≠ .trapped := by
  intro t c
  have valid : t.IsValid := by decide
  have lt : (854775807 : UInt64).toNat < 0x8000000000000000 := by decide
  have ⟨_, set, get, _⟩ := virtual_trapped_iff (c := c) rfl valid lt
  have fits : Fits (offsetAt t.utcEpoch 854775807) := by unfold Fits; decide
  have ret := fun h => (set.mp h).2 fits
  have sum : Fits (854775807 + offsetAt t.utcEpoch 854775807) := by unfold Fits; decide
  exact ⟨valid, ret, fun h => ((get ret 60 0).mp h).2.1 trivial sum⟩

-- The year 9999 is valid, and out of range. The clock is trapped when it has its new epoch already.
theorem virtual_trapped_year_9999 :
    let t : CalendarTime := { year := 9999, month := 12, day := 31 }
    let c : Clock RegisterFile := ofBus ⟨fun _ => 0⟩ ⟨2000, true, false, 0⟩ none
    t.IsValid ∧ ((setTime 0 t).result c).1 = .trapped ∧
      ((setTime 0 t).result c).2.rtcOffset = 253402214400 := by
  decide

theorem getTime_after_setTime [RegisterBus δ] {c : Clock δ}
    (isVirtual : c.config.isVirtual = true) (booting : c.runtimeServices = none)
    (valid : t.IsValid) (lt : counter.toNat < 0x8000000000000000)
    (fits : Fits (offsetAt t.utcEpoch counter.toNat))
    (sum_fits : Fits (counter.toNat + offsetAt t.utcEpoch counter.toNat)) :
    ∃ c', (setTime counter t).result c = (.done (), c') ∧
      (getTime counter t.zone t.daylight).result c' =
        (.done (CalendarTime.atEpoch
          { t with nanosecond := .ofNat (counter.toNat % 1000000000) }
          (t.toEpoch + if 0 ≤ t.utcEpoch ∨ nanosPerSecond ∣ counter.toNat then 0 else 1)), c') := by
  refine ⟨_, result_setTime_of_virtual valid isVirtual (.of_booting booting) fits, ?_⟩
  have known := result_virtualEpoch (c := { c with
    rtcOffset := t.utcEpoch
    counterOffset := some (offsetAt t.utcEpoch counter.toNat) }) rfl sum_fits
  rw [add_offsetAt_tdiv_eq] at known
  generalize hlate : (if 0 ≤ t.utcEpoch ∨ nanosPerSecond ∣ counter.toNat then 0 else 1 : Int) = late
    at known ⊢
  have back :
      t.utcEpoch + late + CalendarTime.localOffset t.zone t.daylight = t.toEpoch + late := by
    rw [CalendarTime.utcEpoch]
    omega
  have local_fits : Fits (t.utcEpoch + late + CalendarTime.localOffset t.zone t.daylight) := by
    have near := Watched.toEpoch_bounds t
    rw [back, Fits]
    split at hlate <;> omega
  rw [← back]
  exact result_getTime_of_epoch (.of_booting booting) lt (by rwa [if_pos (by exact isVirtual)])
    local_fits

-- A virtual clock tells the time that it was set to, or the next second.
theorem virtual_reads_back [RegisterBus δ] {c : Clock δ} (isVirtual : c.config.isVirtual = true)
    (booting : c.runtimeServices = none) {t : CalendarTime} (valid : t.IsValid)
    (le : t.year ≤ 2250) {counter : UInt64} (lt : counter.toNat < 2 ^ 56) :
    ∃ c' told, (setTime counter t).result c = (.done (), c') ∧
      (getTime counter t.zone t.daylight).result c' = (.done told, c') ∧
      (0 ≤ t.utcEpoch ∨ 1000000000 ∣ counter.toNat →
        told = { t with nanosecond := .ofNat (counter.toNat % 1000000000) }) ∧
      (t.utcEpoch < 0 → ¬1000000000 ∣ counter.toNat → told.toEpoch = t.toEpoch + 1) := by
  have le_epoch : t.utcEpoch ≤ 9223372035 := by
    have year_le := startOfYear_mono (show t.year.toNat + 1 ≤ 2251 from Nat.succ_le_succ le)
    have between := valid.utcEpoch_between
    rw [startOfYear_eq 2251] at year_le
    simp only [Calendar.daysBeforeMarch, secondsPerDay, secondsPerHour, secondsPerMinute] at *
    omega
  obtain ⟨fits, sum_fits⟩ := fits_offsetAt valid le_epoch
    (Int.natCast_nonneg counter.toNat) (by omega) (by omega)
  obtain ⟨c', set, get⟩ :=
    getTime_after_setTime isVirtual booting valid (by omega) fits sum_fits
  refine ⟨c', _, set, get, ?exact, ?late⟩
  case exact =>
    intro even
    have second : 0 ≤ t.utcEpoch ∨ nanosPerSecond ∣ counter.toNat := by
      rw [nanosPerSecond]
      omega
    rw [if_pos second, Int.add_zero, (CalendarTime.isValid_iff.mp valid).1.atEpoch_toEpoch]
  case late =>
    intro negative uneven
    have second : ¬(0 ≤ t.utcEpoch ∨ nanosPerSecond ∣ counter.toNat) := by
      rw [nanosPerSecond]
      omega
    rw [if_neg second, valid.toEpoch_atEpoch_succ]

-- The first valid time, which is in UTC still of the year before.
theorem virtual_reads_back_1900 :
    let t : CalendarTime := { year := 1900, zone := 60, daylight := 1 }
    let c : Clock RegisterFile := ofBus ⟨fun _ => 0⟩ ⟨2000, true, false, 1700000000⟩ none
    t.IsValid ∧ t.utcEpoch = -2208992400 ∧ ∃ c', (setTime 7000000000 t).result c = (.done (), c') ∧
      (getTime 7000000000 60 1).result c' = (.done t, c') := by
  intro t c
  have valid : t.IsValid := by decide
  have lt : (7000000000 : UInt64).toNat < 2 ^ 56 := by decide
  have ⟨c', told, set, get, even, _⟩ := virtual_reads_back (c := c) rfl rfl valid (by decide) lt
  have same : told = t := even (.inr (by decide))
  exact ⟨valid, by decide, c', set, same ▸ get⟩

-- The last second but one before 1970 is told as the last one if the counter is within a second.
theorem virtual_reads_back_late :
    let t : CalendarTime :=
      { year := 1969, month := 12, day := 31, hour := 23, minute := 59, second := 58 }
    let c : Clock RegisterFile := ofBus ⟨fun _ => 0⟩ ⟨2000, true, false, 0⟩ none
    t.IsValid ∧ ((setTime 500000000 t).result c).1 = .done () ∧
      ((getTime 500000000 t.zone t.daylight).result ((setTime 500000000 t).result c).2).1 =
        .done { t with second := 59, nanosecond := 500000000 } := by
  decide +kernel

end BoardFirmware.Clock
