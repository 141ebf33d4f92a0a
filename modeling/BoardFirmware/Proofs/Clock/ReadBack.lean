import BoardFirmware.Proofs.Clock.Registers
import BoardFirmware.Proofs.Clock.RegisterFile

namespace BoardFirmware

namespace Clock

open BoardFirmware.Action

-- The control register among the registers.
def controlOf (registers : Nat → UInt8) : Control :=
  ⟨registers Control.register.toNat⟩

-- A clock with hardware that runs and may be set, before the operating system takes over.
structure Settable (registers : Nat → UInt8) (c : Clock δ) : Prop where
  physical : c.config.isVirtual = false
  booting  : c.runtimeServices = none
  running  : ¬(controlOf registers).Has Control.stopped
  -- The CPU may take the ownership of the time registers, or nobody else has it.
  access   : c.config.hasControl ∨ ¬(controlOf registers).Has Control.primaryOwns

-- The registers tell the years of a century from the base year on.
def InReach (base : UInt16) (epoch : Int) : Prop :=
  ∃ year, InYear epoch year ∧ base.toNat ≤ year ∧ year ≤ base.toNat + 99

theorem InReach.near {base : UInt16} {epoch : Int} (h : InReach base epoch) (ge : 1970 ≤ base)
    (le : base ≤ 2160) : 0 ≤ epoch ∧ epoch < 9151488000 := by
  have ⟨year, ⟨start_le, lt_end⟩, base_le, le_base⟩ := h
  have ge : 1970 ≤ base.toNat := ge
  have le : base.toNat ≤ 2160 := le
  have start : startOfYear 1970 = 0 := by
    rw [startOfYear_eq]
    rfl
  have first := startOfYear_mono (show 1970 ≤ year by omega)
  have last := startOfYear_mono (show year + 1 ≤ 2260 by omega)
  have end_eq : startOfYear 2260 = 9151488000 := by
    rw [startOfYear_eq]
    rfl
  omega

-- An epoch in reach is that of a date, in one of the years that the registers tell.
theorem InReach.atEpoch {base : UInt16} {epoch : Int} (h : InReach base epoch) (le : base ≤ 2160)
    (t : CalendarTime) :
    (t.atEpoch epoch).OnCalendar ∧ (t.atEpoch epoch).toEpoch = epoch ∧
      base.toNat ≤ (t.atEpoch epoch).year.toNat ∧
      (t.atEpoch epoch).year.toNat ≤ base.toNat + 99 := by
  have ⟨year, inYear, base_le, le_base⟩ := h
  have le : base.toNat ≤ 2160 := le
  have ⟨onCalendar, hyear, hepoch⟩ := t.onCalendar_atEpoch inYear (by omega)
  exact ⟨onCalendar, hepoch, hyear ▸ base_le, hyear ▸ le_base⟩

theorem reach_iff {base year : UInt16} :
    year < base ∨ 100 ≤ year - base ↔
      ¬(base.toNat ≤ year.toNat ∧ year.toNat ≤ base.toNat + 99) := by
  by_cases before : base ≤ year
  case pos =>
    have sub : (year - base).toNat = year.toNat - base.toNat := UInt16.toNat_sub_of_le _ _ before
    rw [UInt16.lt_iff_toNat_lt, UInt16.le_iff_toNat_le, sub]
    have : base.toNat ≤ year.toNat := before
    have : (100 : UInt16).toNat = 100 := rfl
    omega
  case neg =>
    have lt : year.toNat < base.toNat := Nat.lt_of_not_le before
    rw [UInt16.lt_iff_toNat_lt]
    exact ⟨fun _ h => absurd h.1 before, fun _ => .inl lt⟩

theorem toNat_yearByte {base year : UInt16} (ge : base.toNat ≤ year.toNat)
    (le : year.toNat ≤ base.toNat + 99) :
    (year - base).toUInt8.toNat = year.toNat - base.toNat := by
  rw [UInt16.toNat_toUInt8, UInt16.toNat_sub_of_le _ _ ge]
  omega

-- An epoch in the reach of the registers, and a reading of the counter, fit their words as
-- nanoseconds.
theorem InReach.fits {base : UInt16} {epoch nanos : Int} (h : InReach base epoch) (ge : 1970 ≤ base)
    (le : base ≤ 2160) (nonneg : 0 ≤ nanos) (lt : nanos < 0x8000000000000000) :
    Fits (offsetAt epoch nanos) ∧ Fits (nanos + offsetAt epoch nanos) := by
  have ⟨epoch_nonneg, before_end⟩ := h.near ge le
  rw [add_offsetAt, offsetAt, Fits, Fits, nanosPerSecond]
  omega

variable [RegisterBus δ] {registers : δ → Nat → UInt8}

theorem result_setHardware (file : IsRegisterFile registers) {c : Clock δ}
    (settable : Settable (registers c.bus) c) (epoch : Int) {utc : CalendarTime} {year : UInt16}
    (hutc : ({} : CalendarTime).atEpoch epoch = utc) (hyear : utc.year - c.config.baseYear = year) :
    ∃ d d', (setHardware epoch).result c =
        (if c.config.baseYear.toNat ≤ utc.year.toNat ∧
            utc.year.toNat ≤ c.config.baseYear.toNat + 99 then
          (.done (), { c with bus := d' })
        else
          (.failed .invalidParameter, { c with bus := d })) ∧
      registers d' = written (registers c.bus) 0
        ((controlOf (registers c.bus)).format.encode utc year.toUInt8) := by
  subst hutc hyear
  obtain ⟨d, hread, same⟩ := file.read Control.register 1 c.bus (by decide)
  have answer : c.controlAnswer = (.ok (controlOf (registers c.bus)), d) := by
    rw [controlAnswer, hread]
    rfl
  obtain ⟨d', hwrite, after⟩ :=
    file.write 0 (timeBytes (controlOf (registers c.bus)) c.config.baseYear epoch) d
      (by simp [timeBytes, Format.encode])
  have free : ¬((controlOf (registers c.bus)).Has Control.stopped ∨
      ¬c.config.hasControl = true ∧ (controlOf (registers c.bus)).Has Control.primaryOwns) := by
    have := settable.running
    have := settable.access
    tauto
  have written : c.writeAnswer (controlOf (registers c.bus)) epoch = (.ok (), d') := by
    rw [writeAnswer, answer, hwrite]
  refine ⟨d, d', ?_, same ▸ after⟩
  rw [result_setHardware_answered, answer]
  dsimp only
  rw [if_neg free, written]
  split
  case isTrue outside => rw [if_neg (reach_iff.mp outside)]
  case isFalse inside =>
    rw [reach_iff, not_not] at inside
    rw [if_pos inside]

-- The registers of a clock that runs hold an epoch, in the format that their control register
-- tells. Those of the alarm and of the weekday hold anything.
structure Shows (registers : Nat → UInt8) (base : UInt16) (epoch : Int) : Prop where
  running : ¬(controlOf registers).Has Control.stopped
  holds   : ∀ i ∈ timeFields, registers i =
    ((controlOf registers).format.encode (({} : CalendarTime).atEpoch epoch)
      ((({} : CalendarTime).atEpoch epoch).year - base).toUInt8).getD i 0

-- The time registers hold what was written to them.
theorem shows_written {before : Nat → UInt8} (running : ¬(controlOf before).Has Control.stopped)
    (base : UInt16) (epoch : Int) :
    Shows (written before 0 ((controlOf before).format.encode
      (({} : CalendarTime).atEpoch epoch)
      ((({} : CalendarTime).atEpoch epoch).year - base).toUInt8)) base epoch := by
  refine ⟨running, ?_⟩
  show ∀ i ∈ [0, 2, 4, 7, 8, 9], _
  simp only [List.forall_mem_cons]
  exact ⟨rfl, rfl, rfl, rfl, rfl, rfl, nofun⟩

-- The hardware tells the epoch that the registers hold, in whichever format.
theorem result_hardwareEpoch (file : IsRegisterFile registers) {c : Clock δ} {epoch : Int}
    (shows : Shows (registers c.bus) c.config.baseYear epoch)
    (reach : InReach c.config.baseYear epoch) (le : c.config.baseYear ≤ 2160) :
    ∃ d, hardwareEpoch.result c = (.done epoch, { c with bus := d }) := by
  have ⟨onCalendar, hepoch, base_le, le_base⟩ := reach.atEpoch le {}
  have yearByte := toNat_yearByte base_le le_base
  have ⟨d, hread, _⟩ :=
    result_readRegisters file 0 (timeRegisters + 1) "time registers" c (by decide)
  have control : (⟨((List.range' (UInt8.toNat 0) (timeRegisters + 1)).map
      (registers c.bus)).getD timeRegisters 0⟩ : Control) = controlOf (registers c.bus) :=
    rfl
  have fields : ∀ i ∈ timeFields, ((List.range' (UInt8.toNat 0) (timeRegisters + 1)).map
      (registers c.bus)).getD i 0 = registers c.bus i := by
    show ∀ i ∈ [0, 2, 4, 7, 8, 9], _
    simp only [List.forall_mem_cons]
    exact ⟨rfl, rfl, rfl, rfl, rfl, rfl, nofun⟩
  refine ⟨d, ?_⟩
  rw [hardwareEpoch, result_bind_of_done hread]
  dsimp only
  rw [control, result_bind_of_done (result_checkRunning shows.running _),
    result_bind_of_done (result_get _)]
  dsimp only
  rw [Format.decode?_congr fun i mem => (fields i mem).trans (shows.holds i mem),
    Format.decode?_encode _ onCalendar (by omega) (by omega)]
  exact congrArg (fun e => (Outcome.done e, { c with bus := d })) hepoch

-- The hardware tells an epoch, and the counter is tied to it where it reads `nanos`.
structure SetTo (c : Clock δ) (epoch nanos : Int) : Prop where
  physical : c.config.isVirtual = false
  booting  : c.runtimeServices = none
  hardware : ∃ d, hardwareEpoch.result c = (.done epoch, { c with bus := d })
  tied     : c.counterOffset = some (offsetAt epoch nanos)

theorem SetTo.getTime {c : Clock δ} {counter : UInt64} {t : CalendarTime}
    (set : c.SetTo t.utcEpoch counter.toNat) (lt : counter.toNat < 0x8000000000000000)
    (valid : t.IsValid) {base : UInt16} (reach : InReach base t.utcEpoch) (ge : 1970 ≤ base)
    (le : base ≤ 2160) :
    ((getTime counter t.zone t.daylight).result c).1 =
      .done { t with nanosecond := .ofNat (counter.toNat % 1000000000) } := by
  have ⟨physical, booting, ⟨d, hardware⟩, tied⟩ := set
  have ⟨nonneg, before_end⟩ := reach.near ge le
  have ⟨_, sum_fits⟩ := reach.fits ge le (Int.natCast_nonneg counter.toNat) (by omega)
  have byCounter := result_counterEpoch? (c := { c with bus := d }) tied sum_fits
  have back : t.utcEpoch + CalendarTime.localOffset t.zone t.daylight = t.toEpoch :=
    Int.sub_add_cancel _ _
  have ⟨offset_ge, offset_le⟩ := valid.localOffset_near
  have local_fits : Fits (t.utcEpoch + CalendarTime.localOffset t.zone t.daylight) := by
    simp only [secondsPerDay, secondsPerHour, secondsPerMinute] at offset_ge offset_le
    rw [Fits]
    omega
  rw [add_offsetAt_tdiv nonneg] at byCounter
  rw [result_getTime physical (.of_booting booting) lt
      (result_refinedEpoch hardware byCounter (.inl rfl)) local_fits, back,
    (CalendarTime.isValid_iff.mp valid).1.atEpoch_toEpoch]

theorem setTo_setTime (file : IsRegisterFile registers) {c : Clock δ}
    (settable : Settable (registers c.bus) c) (ge : 1970 ≤ c.config.baseYear)
    (le : c.config.baseYear ≤ 2160) {counter : UInt64} (lt : counter.toNat < 0x8000000000000000)
    {t : CalendarTime} (valid : t.IsValid) (reach : InReach c.config.baseYear t.utcEpoch) :
    ∃ c', (setTime counter t).result c = (.done (), c') ∧ c'.SetTo t.utcEpoch counter.toNat := by
  have ⟨physical, booting, running, _⟩ := settable
  have ⟨fits, _⟩ := reach.fits ge le (Int.natCast_nonneg counter.toNat) (by omega)
  have ⟨_, _, base_le, le_base⟩ := reach.atEpoch le {}
  have ⟨_, d', hset, after⟩ := result_setHardware file settable t.utcEpoch rfl rfl
  rw [if_pos ⟨base_le, le_base⟩] at hset
  have hrun := (result_setTime valid physical (.of_booting booting) counter).trans
    ((result_bind_of_done hset).trans (result_anchor fits _))
  have shows : Shows (registers d') c.config.baseYear t.utcEpoch :=
    after ▸ shows_written running _ _
  refine ⟨_, hrun, physical, booting, ?_, rfl⟩
  exact result_hardwareEpoch (c := { c with bus := d', counterOffset := _ }) file shows reach le

theorem setTime_of_not_inReach (file : IsRegisterFile registers) {c : Clock δ}
    (settable : Settable (registers c.bus) c) (counter : UInt64) {t : CalendarTime}
    (valid : t.IsValid) (outside : ¬InReach c.config.baseYear t.utcEpoch) :
    ((setTime counter t).result c).1 = .failed .invalidParameter := by
  have ⟨ge, lt⟩ := valid.utcEpoch_near
  have ⟨year, _, year_le, inYear⟩ := exists_inYear ge lt
  have ⟨_, hyear, _⟩ := CalendarTime.onCalendar_atEpoch {} inYear year_le
  have ⟨_, _, hset, _⟩ := result_setHardware file settable t.utcEpoch rfl rfl
  rw [hyear, if_neg fun reach => outside ⟨year, inYear, reach⟩] at hset
  rw [result_setTime valid settable.physical (.of_booting settable.booting), result_bind]
  unfold CalendarTime.utcEpoch at hset
  rw [hset]

-- A clock that can hold a local time tells it once it has been set to it, whatever the format of
-- its registers and whatever it told before. A clock that can't refuses to be set to it.
theorem getTime_setTime (file : IsRegisterFile registers) {c : Clock δ}
    (settable : Settable (registers c.bus) c) (ge : 1970 ≤ c.config.baseYear)
    (le : c.config.baseYear ≤ 2160) (counter : UInt64) (lt : counter.toNat < 0x8000000000000000)
    {t : CalendarTime} (valid : t.IsValid) :
    (InReach c.config.baseYear t.utcEpoch →
      ∃ c', (setTime counter t).result c = (.done (), c') ∧
        ((getTime counter t.zone t.daylight).result c').1 =
          .done { t with nanosecond := .ofNat (counter.toNat % 1000000000) }) ∧
    (¬InReach c.config.baseYear t.utcEpoch →
      ((setTime counter t).result c).1 = .failed .invalidParameter) := by
  constructor
  case left =>
    intro reach
    have ⟨c', hset, setTo⟩ := setTo_setTime file settable ge le lt valid reach
    exact ⟨c', hset, setTo.getTime lt valid reach ge le⟩
  case right => exact setTime_of_not_inReach file settable counter valid

-- Half past midnight on a New Year's Day is in the evening of the year before, as the registers
-- count it in decimal digits and up to 12 hours. The second before 2000 is out of their reach.
theorem getTime_setTime_new_year :
    (InReach 2000 { year := 2024, minute := 30, second := 5, zone := 60 : CalendarTime }.utcEpoch ∧
      ∃ c', (setTime 1500000000 { year := 2024, minute := 30, second := 5, zone := 60 }).result
          (ofBus (⟨fun _ => 0⟩ : RegisterFile) ⟨2000, false, false, 0⟩ none) = (.done (), c') ∧
        ((getTime 1500000000 60 0).result c').1 =
          .done { year := 2024, minute := 30, second := 5, nanosecond := 500000000, zone := 60 }) ∧
    ¬InReach 2000 { year := 1999, month := 12, day := 31, hour := 23, minute := 59,
                    second := 59 : CalendarTime }.utcEpoch ∧
      ((setTime 0 { year := 1999, month := 12, day := 31, hour := 23, minute := 59,
                    second := 59 }).result
          (ofBus (⟨fun _ => 0⟩ : RegisterFile) ⟨2000, false, false, 0⟩ none)).1 =
        .failed .invalidParameter := by
  have settable : Settable (fun _ => 0)
      (ofBus (⟨fun _ => 0⟩ : RegisterFile) ⟨2000, false, false, 0⟩ none) :=
    ⟨rfl, rfl, by decide, .inr (by decide)⟩
  have inside : InReach 2000
      { year := 2024, minute := 30, second := 5, zone := 60 : CalendarTime }.utcEpoch := by
    refine ⟨2023, ⟨?_, ?_⟩, by decide, by decide⟩
    · rw [startOfYear_eq]
      decide
    · rw [startOfYear_eq]
      decide
  have outside : ¬InReach 2000 { year := 1999, month := 12, day := 31, hour := 23, minute := 59,
                                 second := 59 : CalendarTime }.utcEpoch := by
    intro ⟨year, ⟨start_le, _⟩, base_le, _⟩
    have after := Int.le_trans (startOfYear_mono base_le) start_le
    rw [startOfYear_eq] at after
    exact absurd after (by decide)
  have first := getTime_setTime RegisterFile.isRegisterFile
    (c := ofBus (⟨fun _ => 0⟩ : RegisterFile) ⟨2000, false, false, 0⟩ none) settable (by decide)
    (by decide) 1500000000 (by decide)
    (t := { year := 2024, minute := 30, second := 5, zone := 60 }) (by decide)
  have second := getTime_setTime RegisterFile.isRegisterFile
    (c := ofBus (⟨fun _ => 0⟩ : RegisterFile) ⟨2000, false, false, 0⟩ none) settable (by decide)
    (by decide) 0 (by decide)
    (t := { year := 1999, month := 12, day := 31, hour := 23, minute := 59, second := 59 })
    (by decide)
  exact ⟨⟨inside, first.1 inside⟩, outside, second.2 outside⟩

end Clock

end BoardFirmware
