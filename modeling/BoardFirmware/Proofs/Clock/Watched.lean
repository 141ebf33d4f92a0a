import BoardFirmware.Proofs.Clock.Calls
import BoardFirmware.Proofs.Clock.Registers

/-!
The services of the clock with all of their arithmetic watched: a result that leaves its word is a
trap, be it a byte of a register, a field of a time or a step on the way to an epoch. The services
themselves watch only sums with the base year, with the zone and with the counter. That is enough:
whatever the registers hold and whatever time is set, nothing else leaves its word.
-/

namespace BoardFirmware

namespace Word

def add8? (a b : UInt8) : Option UInt8 :=
  if a.toNat + b.toNat < UInt8.size then some (a + b) else none

def mul8? (a b : UInt8) : Option UInt8 :=
  if a.toNat * b.toNat < UInt8.size then some (a * b) else none

theorem add8?_of_lt {a b : UInt8} (h : a.toNat + b.toNat < 256) : add8? a b = some (a + b) :=
  if_pos h

theorem mul8?_of_lt {a b : UInt8} (h : a.toNat * b.toNat < 256) : mul8? a b = some (a * b) :=
  if_pos h

theorem signed64?_of_fits {n : Int} (h : -0x8000000000000000 ≤ n ∧ n < 0x8000000000000000) :
    signed64? n = some n :=
  if_pos h

end Word

namespace Watched

open Word Calendar Clock

def daysOfDate (year month day : Int) : Option Int := do
  let year ← signed64? (if month ≤ 2 then year - 1 else year)
  let era := year / 400
  let yearOfEra ← signed64? (year - (← signed64? (era * 400)))
  let months ← signed64? (month + if month > 2 then -3 else 9)
  let daysOfMonths := (← signed64? ((← signed64? (153 * months)) + 2)) / 5
  let dayOfYear ← signed64? ((← signed64? (daysOfMonths + day)) - 1)
  let daysOfYears ← signed64? ((← signed64? (yearOfEra * 365)) + yearOfEra / 4)
  let dayOfEra ← signed64? ((← signed64? (daysOfYears - yearOfEra / 100)) + dayOfYear)
  signed64? ((← signed64? ((← signed64? (era * 146097)) + dayOfEra)) - 719468)

def dateOfDays (days : Int) : Option (Int × Int × Int) := do
  let days ← signed64? (days + 719468)
  let era := days / 146097
  let dayOfEra ← signed64? (days - (← signed64? (era * 146097)))
  let withoutFours ← signed64? (dayOfEra - dayOfEra / 1460)
  let withHundreds ← signed64? (withoutFours + dayOfEra / 36524)
  let yearOfEra := (← signed64? (withHundreds - dayOfEra / 146096)) / 365
  let daysOfYears ← signed64? ((← signed64? (365 * yearOfEra)) + yearOfEra / 4)
  let dayOfYear ← signed64? (dayOfEra - (← signed64? (daysOfYears - yearOfEra / 100)))
  let shiftedMonth := (← signed64? ((← signed64? (5 * dayOfYear)) + 2)) / 153
  let daysOfMonths := (← signed64? ((← signed64? (153 * shiftedMonth)) + 2)) / 5
  let day ← signed64? ((← signed64? (dayOfYear - daysOfMonths)) + 1)
  let month ← signed64? (if shiftedMonth < 10 then shiftedMonth + 3 else shiftedMonth - 9)
  let year ← signed64? (yearOfEra + (← signed64? (era * 400)))
  return (← signed64? (year + if month ≤ 2 then 1 else 0), month, day)

def toEpoch (t : CalendarTime) : Option Int := do
  let days ← daysOfDate t.year.toNat t.month.toNat t.day.toNat
  let hours ← signed64? (t.hour.toNat * secondsPerHour)
  let minutes ← signed64? (t.minute.toNat * secondsPerMinute)
  let toHour ← signed64? ((← signed64? (days * secondsPerDay)) + hours)
  signed64? ((← signed64? (toHour + minutes)) + t.second.toNat)

-- Besides the date, there are only parts of a day.
def atEpoch (t : CalendarTime) (epoch : Int) : Option CalendarTime := do
  let _ ← dateOfDays (epoch / secondsPerDay)
  return t.atEpoch epoch

def weekday (t : CalendarTime) : Option UInt8 := do
  return .ofInt ((← signed64? ((← toEpoch t) / secondsPerDay + 4)) % 7)

def localOffset (zone : Int16) (daylight : UInt8) : Option Int :=
  if zone ≠ CalendarTime.unspecifiedZone then signed64? (zone.toInt * secondsPerMinute)
  else some (CalendarTime.localOffset zone daylight)

def ofDigits (b : UInt8) : Option UInt8 := do
  add8? (← mul8? (b >>> 4) 10) (b &&& 0x0f)

def read (f : Format) (b : UInt8) : Option UInt8 :=
  if f.binary then some b else ofDigits b

def readHour (f : Format) (b : UInt8) : Option UInt8 := do
  if f.twentyFourHour then
    read f (b &&& 0x3f)
  else
    let hour := (← read f (b &&& 0x1f)) % 12
    if b &&& afterNoon ≠ 0 then add8? hour 12 else some hour

def writeHour (f : Format) (hour : UInt8) : Option UInt8 := do
  if f.twentyFourHour then
    return f.write hour
  else
    let b := f.write (← add8? ((← add8? hour 11) % 12) 1)
    return if 12 ≤ hour then b ||| afterNoon else b

def decode (f : Format) (baseYear : UInt16) (registers : Bytes) : Option CalendarTime := do
  let register (index : Nat) := registers.getD index 0
  return {
    year   := ← add16? baseYear (← read f (register 9)).toUInt16
    month  := ← read f (register 8 &&& 0x1f)
    day    := ← read f (register 7 &&& 0x3f)
    hour   := ← readHour f (register 4)
    minute := ← read f (register 2 &&& 0x7f)
    second := ← read f (register 0 &&& 0x7f)
  }

def encode (f : Format) (t : CalendarTime) (year : UInt8) : Option Bytes := do
  return [f.write t.second, 0, f.write t.minute, 0, ← writeHour f t.hour, 0,
    (← add8? (← weekday t) weekdayOffset) % 7, f.write t.day, f.write t.month, f.write year]

section
variable [RegisterBus δ]

def hardwareEpoch : Action (Clock δ) Int := do
  let registers ← readRegisters 0 (timeRegisters + 1) "time registers"
  let control : Control := ⟨registers.getD timeRegisters 0⟩
  checkRunning control
  let time ← Action.checked (decode control.format (← get).config.baseYear registers)
  Action.checked (toEpoch time)

def refinedEpoch (nanos : Int) : Action (Clock δ) Int := do
  let epoch ← hardwareEpoch
  let byCounter ← counterEpoch? nanos
  let next ← checked (epoch + 1)
  if byCounter = some epoch ∨ byCounter = some next then
    return byCounter.getD epoch
  else
    anchor epoch (nanos.tdiv nanosPerSecond)
    return epoch

def getTime (counter : UInt64) (zone : Int16) (daylight : UInt8) :
    Action (Clock δ) CalendarTime := do
  checkRuntime getTimeService
  let nanos := Word.toSigned counter
  let epoch ← if (← get).config.isVirtual then virtualEpoch nanos else refinedEpoch nanos
  let epoch ← checked (epoch + (← Action.checked (localOffset zone daylight)))
  Action.checked
    (atEpoch { zone, daylight, nanosecond := .ofInt (nanos.tmod nanosPerSecond) } epoch)

def setHardware (epoch : Int) : Action (Clock δ) Unit := do
  let control : Control :=
    ⟨(← readRegisters Control.register 1 "control register").headD 0⟩
  checkRunning control
  let config := (← get).config
  if ¬config.hasControl ∧ control.Has Control.primaryOwns then
    Action.error "CPU does not hold the RTC write ownership"
    throw .deviceError
  let utc ← Action.checked (atEpoch {} epoch)
  let year := utc.year - config.baseYear
  if utc.year < config.baseYear ∨ 100 ≤ year then
    throw .invalidParameter
  let registers ← Action.checked (encode control.format utc year.toUInt8)
  try
    onBus (RegisterBus.write 0 registers)
  catch e =>
    Action.error s!"Failed to store time: {e}"
    throw .deviceError

def setTime (counter : UInt64) (time : CalendarTime) : Action (Clock δ) Unit := do
  unless time.IsValid do
    throw .invalidParameter
  checkRuntime setTimeService
  let offset ← Action.checked (localOffset time.zone time.daylight)
  let epoch ← checked ((← Action.checked (toEpoch time)) - offset)
  if (← get).config.isVirtual then
    modify fun c => { c with rtcOffset := epoch }
    Action.info s!"Virtual RTC set to {epoch}"
  else
    setHardware epoch
  anchor epoch (counter.toNat / 1000000000)

def perform : Call → Action (Clock δ) (Option CalendarTime)
  | .get counter zone daylight => some <$> getTime counter zone daylight
  | .set counter time          => (fun _ => none) <$> setTime counter time

end

theorem bind_some (a : α) (f : α → Option β) : (some a >>= f) = f a := rfl

theorem bind_signed64? {n : Int} {f : Int → Option α}
    (fits : -0x8000000000000000 ≤ n ∧ n < 0x8000000000000000) : (signed64? n >>= f) = f n := by
  rw [signed64?_of_fits fits]
  rfl

theorem daysOfDate_eq {year month day : Int} (year_nonneg : 0 ≤ year) (year_lt : year < 65536)
    (month_nonneg : 0 ≤ month) (month_lt : month < 256) (day_nonneg : 0 ≤ day)
    (day_lt : day < 256) :
    daysOfDate year month day = some (Calendar.daysOfDate year month day) := by
  rw [daysOfDate, Calendar.daysOfDate]
  generalize hyear : (if month ≤ 2 then year - 1 else year) = marchYear
  generalize hmonths : (month + if month > 2 then -3 else 9) = months
  have year_bounds : -1 ≤ marchYear ∧ marchYear < 65536 := by split at hyear <;> omega
  have months_bounds : 0 ≤ months ∧ months < 256 := by split at hmonths <;> omega
  dsimp only
  repeat rw [bind_signed64? (by omega)]
  exact signed64?_of_fits (by omega)

theorem dateOfDays_eq {days : Int} (ge : -200000000000000 ≤ days) (le : days ≤ 200000000000000) :
    dateOfDays days = some (Calendar.dateOfDays days) := by
  rw [dateOfDays, bind_signed64? (by omega), Calendar.dateOfDays]
  generalize hshifted : days + 719468 = shifted
  dsimp only
  generalize hera : shifted / 146097 = era
  rw [bind_signed64? (by omega), bind_signed64? (by omega)]
  generalize hday : shifted - era * 146097 = dayOfEra
  have day_bounds : 0 ≤ dayOfEra ∧ dayOfEra < 146097 := by omega
  repeat rw [bind_signed64? (by omega)]
  rfl

theorem toEpoch_bounds (t : CalendarTime) :
    -70000000000 ≤ t.toEpoch ∧ t.toEpoch < 3000000000000 := by
  have := t.year.toNat_lt
  have := t.month.toNat_lt
  have := t.day.toNat_lt
  have := t.hour.toNat_lt
  have := t.minute.toNat_lt
  have := t.second.toNat_lt
  rw [CalendarTime.toEpoch, Calendar.daysOfDate_eq_march]
  simp only [daysBeforeMarch, secondsPerDay, secondsPerHour, secondsPerMinute]
  omega

theorem toEpoch_eq (t : CalendarTime) : toEpoch t = some t.toEpoch := by
  have year := t.year.toNat_lt
  have month := t.month.toNat_lt
  have day := t.day.toNat_lt
  have hour := t.hour.toNat_lt
  have minute := t.minute.toNat_lt
  have second := t.second.toNat_lt
  have bounds := toEpoch_bounds t
  rw [CalendarTime.toEpoch] at bounds ⊢
  rw [toEpoch, daysOfDate_eq (by omega) (by omega) (by omega) (by omega) (by omega) (by omega)]
  generalize Calendar.daysOfDate t.year.toNat t.month.toNat t.day.toNat = days at *
  rw [bind_some]
  simp only [secondsPerDay, secondsPerHour, secondsPerMinute] at *
  repeat rw [bind_signed64? (by omega)]
  exact signed64?_of_fits (by omega)

theorem weekday_eq (t : CalendarTime) : weekday t = some t.weekday := by
  have bounds := toEpoch_bounds t
  rw [weekday, toEpoch_eq, bind_some, CalendarTime.weekday]
  simp only [secondsPerDay, secondsPerHour, secondsPerMinute]
  rw [bind_signed64? (by omega)]
  rfl

theorem atEpoch_eq {epoch : Int} (fits : Fits epoch) (t : CalendarTime) :
    atEpoch t epoch = some (t.atEpoch epoch) := by
  rw [Fits] at fits
  have days : -200000000000000 ≤ epoch / secondsPerDay ∧
      epoch / secondsPerDay ≤ 200000000000000 := by
    simp only [secondsPerDay, secondsPerHour, secondsPerMinute]
    omega
  rw [atEpoch, dateOfDays_eq days.1 days.2]
  rfl

theorem localOffset_eq (zone : Int16) (daylight : UInt8) :
    localOffset zone daylight = some (CalendarTime.localOffset zone daylight) := by
  have := zone.le_toInt
  have := zone.toInt_lt
  rw [localOffset]
  split
  case isTrue specified =>
    rw [CalendarTime.localOffset, if_pos specified, secondsPerMinute]
    exact signed64?_of_fits (by omega)
  case isFalse => rfl

theorem ofDigits_eq (b : UInt8) : ofDigits b = some (Clock.ofDigits b) := by
  have := b.toNat_lt
  have ten : (10 : UInt8).toNat = 10 := rfl
  have tens : ((b >>> 4) * 10).toNat = b.toNat / 16 * 10 := by
    rw [UInt8.toNat_mul, toNat_high, ten]
    omega
  rw [ofDigits, mul8?_of_lt (by rw [toNat_high, ten]; omega), bind_some]
  exact add8?_of_lt (by rw [tens, toNat_low]; omega)

theorem read_eq (f : Format) (b : UInt8) : read f b = some (f.read b) := by
  rw [read, Format.read]
  split
  case isTrue  => rfl
  case isFalse => exact ofDigits_eq b

theorem readHour_eq (f : Format) (b : UInt8) : readHour f b = some (f.readHour b) := by
  have twelve : (12 : UInt8).toNat = 12 := rfl
  rw [readHour, Format.readHour]
  split
  case isTrue => exact read_eq f _
  case isFalse =>
    have hour := toNat_mod_twelve_lt (f.read (b &&& 0x1f))
    rw [read_eq, bind_some]
    dsimp only
    split
    case isTrue  => exact add8?_of_lt (by omega)
    case isFalse => rfl

theorem writeHour_eq (f : Format) {hour : UInt8} (le : hour.toNat ≤ 23) :
    writeHour f hour = some (f.writeHour hour) := by
  have eleven : (11 : UInt8).toNat = 11 := rfl
  have one : (1 : UInt8).toNat = 1 := rfl
  rw [writeHour, Format.writeHour]
  split
  case isTrue => rfl
  case isFalse =>
    have folded := toNat_mod_twelve_lt (hour + 11)
    rw [add8?_of_lt (by omega), bind_some, add8?_of_lt (by omega), bind_some]
    rfl

theorem decode_eq (f : Format) (baseYear : UInt16) (registers : Bytes) :
    decode f baseYear registers = f.decode? baseYear registers := by
  simp only [decode, Format.decode?, read_eq, readHour_eq, bind_some]

theorem encode_eq (f : Format) (t : CalendarTime) (epoch : Int) (year : UInt8) :
    encode f (t.atEpoch epoch) year = some (f.encode (t.atEpoch epoch) year) := by
  have hour := t.hour_atEpoch epoch
  have hour_le : (t.atEpoch epoch).hour.toNat ≤ 23 := by
    simp only [secondsPerDay, secondsPerHour, secondsPerMinute] at hour
    omega
  have weekday_lt : (t.atEpoch epoch).weekday.toNat < 7 := by
    have := toNat_ofInt8 (n := ((t.atEpoch epoch).toEpoch / secondsPerDay + 4) % 7)
      (by omega) (by omega)
    rw [CalendarTime.weekday]
    omega
  have three : weekdayOffset.toNat = 3 := rfl
  rw [encode, writeHour_eq f hour_le, bind_some, weekday_eq, bind_some,
    add8?_of_lt (by omega), bind_some]
  rfl

theorem checked_some (a : α) : (Action.checked (some a) : Action (Clock δ) α) = pure a := rfl

theorem checked_of_fits {n : Int} (fits : Fits n) :
    (checked n : Action (Clock δ) Int) = pure n := by
  rw [checked, signed64?_of_fits fits]
  rfl

theorem checked_bind_congr {n : Int} {f g : Int → Action (Clock δ) α}
    (h : Fits n → f n = g n) : (checked n >>= f) = (checked n >>= g) := by
  by_cases fits : Fits n
  case pos => rw [checked_of_fits fits, pure_bind, pure_bind, h fits]
  case neg =>
    have trapped : (checked n : Action (Clock δ) Int) = Action.trap := by
      rw [checked, signed64?, if_neg (by exact fits)]
      rfl
    rw [trapped]
    rfl

variable [RegisterBus δ]

theorem hardwareEpoch_eq : (hardwareEpoch : Action (Clock δ) Int) = Clock.hardwareEpoch := by
  simp only [hardwareEpoch, Clock.hardwareEpoch, decode_eq, toEpoch_eq, checked_some]

-- Whatever the registers hold, there is a second after it.
theorem refinedEpoch_eq (nanos : Int) :
    (refinedEpoch nanos : Action (Clock δ) Int) = Clock.refinedEpoch nanos := by
  have next (t : CalendarTime) : (checked (t.toEpoch + 1) : Action (Clock δ) Int) =
      pure (t.toEpoch + 1) := by
    have := toEpoch_bounds t
    exact checked_of_fits ⟨by omega, by omega⟩
  simp only [refinedEpoch, Clock.refinedEpoch, hardwareEpoch_eq, Clock.hardwareEpoch, bind_assoc,
    pure_bind, next]

theorem getTime_eq (counter : UInt64) (zone : Int16) (daylight : UInt8) :
    (getTime counter zone daylight : Action (Clock δ) CalendarTime) =
      Clock.getTime counter zone daylight := by
  simp only [getTime, Clock.getTime, refinedEpoch_eq, localOffset_eq, checked_some, pure_bind]
  refine bind_congr fun _ => bind_congr fun c => ?_
  split <;>
  · refine bind_congr fun epoch => checked_bind_congr fun fits => ?_
    rw [atEpoch_eq fits]
    rfl

theorem setHardware_eq {epoch : Int} (fits : Fits epoch) :
    (setHardware epoch : Action (Clock δ) Unit) = Clock.setHardware epoch := by
  simp only [setHardware, Clock.setHardware, atEpoch_eq fits, encode_eq, checked_some, pure_bind]

theorem setTime_eq (counter : UInt64) (t : CalendarTime) :
    (setTime counter t : Action (Clock δ) Unit) = Clock.setTime counter t := by
  have epoch := toEpoch_bounds t
  have offset := CalendarTime.localOffset_near t.zone t.daylight
  have fits : Fits (t.toEpoch - CalendarTime.localOffset t.zone t.daylight) := by
    simp only [secondsPerDay, secondsPerHour, secondsPerMinute] at offset
    exact ⟨by omega, by omega⟩
  simp only [setTime, Clock.setTime, localOffset_eq, toEpoch_eq, checked_some, pure_bind,
    checked_of_fits fits, setHardware_eq fits]

-- Nothing is trapped that the services do not trap themselves.
theorem perform_eq (call : Call) :
    (perform call : Action (Clock δ) (Option CalendarTime)) = call.perform := by
  cases call
  case get => rw [perform, Call.perform, getTime_eq]
  case set => rw [perform, Call.perform, setTime_eq]

end Watched

end BoardFirmware
