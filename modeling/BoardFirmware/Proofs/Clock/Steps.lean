import BoardFirmware.Clock.Basic
import BoardFirmware.Proofs.Action.Result

namespace BoardFirmware.Clock

open BoardFirmware.Action

-- The number fits a signed word.
def Fits (n : Int) : Prop :=
  -0x8000000000000000 ≤ n ∧ n < 0x8000000000000000

-- What is added to the counter from where it reads `nanos` at `epoch`.
def offsetAt (epoch nanos : Int) : Int :=
  (epoch - nanos / nanosPerSecond) * nanosPerSecond

-- The epoch goes on by the seconds that the counter does, and the fraction of a second is the
-- counter's own.
theorem add_offsetAt_elapsed (epoch start nanos : Int) :
    nanos + offsetAt epoch start =
      (epoch + (nanos / nanosPerSecond - start / nanosPerSecond)) * nanosPerSecond +
        nanos % nanosPerSecond := by
  rw [offsetAt, nanosPerSecond]
  omega

-- Where the counter reads `nanos`, only the fraction of its second comes on top of the epoch.
theorem add_offsetAt (epoch nanos : Int) :
    nanos + offsetAt epoch nanos = epoch * nanosPerSecond + nanos % nanosPerSecond := by
  rw [add_offsetAt_elapsed, Int.sub_self, Int.add_zero]

-- A counter that is ahead by whole seconds is divided into seconds as it would be by itself.
theorem add_seconds_tdiv {nanos seconds : Int} (nonneg : 0 ≤ nanos / nanosPerSecond + seconds) :
    (nanos + seconds * nanosPerSecond).tdiv nanosPerSecond = nanos / nanosPerSecond + seconds := by
  rw [nanosPerSecond] at nonneg ⊢
  rw [Int.tdiv_eq_ediv_of_nonneg (by omega)]
  omega

theorem fits_add_seconds {nanos seconds : Int} (nonneg : 0 ≤ nanos / nanosPerSecond + seconds)
    (le : nanos / nanosPerSecond + seconds ≤ 9223372035) :
    Fits (nanos + seconds * nanosPerSecond) := by
  rw [nanosPerSecond] at nonneg le
  rw [Fits, nanosPerSecond]
  omega

theorem tdiv_nanosPerSecond (nanos : Int) :
    nanos.tdiv nanosPerSecond =
      nanos / nanosPerSecond + if 0 ≤ nanos ∨ nanosPerSecond ∣ nanos then 0 else 1 :=
  Int.tdiv_eq_ediv

-- Division toward zero gives the epoch back. Only a negative one is a second late, unless the
-- counter reads whole seconds.
theorem add_offsetAt_tdiv_eq (epoch nanos : Int) :
    (nanos + offsetAt epoch nanos).tdiv nanosPerSecond =
      epoch + if 0 ≤ epoch ∨ nanosPerSecond ∣ nanos then 0 else 1 := by
  rw [tdiv_nanosPerSecond, add_offsetAt, nanosPerSecond]
  split <;> split <;> omega

theorem add_offsetAt_tdiv {epoch : Int} (nonneg : 0 ≤ epoch) (nanos : Int) :
    (nanos + offsetAt epoch nanos).tdiv nanosPerSecond = epoch := by
  rw [add_offsetAt_tdiv_eq, if_pos (.inl nonneg), Int.add_zero]

theorem Fits.tdiv_near {nanos : Int} (h : Fits nanos) :
    -10000000000 ≤ nanos.tdiv nanosPerSecond ∧ nanos.tdiv nanosPerSecond ≤ 10000000000 := by
  rw [Fits] at h
  rw [tdiv_nanosPerSecond, nanosPerSecond]
  split <;> omega

-- An epoch that the counter can be tied to is no more than some hundred years from 1970.
theorem Fits.epoch_near {epoch nanos : Int} (h : Fits (offsetAt epoch nanos)) (nonneg : 0 ≤ nanos)
    (lt : nanos < 0x8000000000000000) : -10000000000 ≤ epoch ∧ epoch ≤ 20000000000 := by
  rw [Fits, offsetAt, nanosPerSecond] at h
  omega

variable {c c' : Clock δ}

theorem result_checked (fits : Fits n) (c : Clock δ) : (checked n).result c = (.done n, c) := by
  rw [checked, Word.signed64?_eq_some_iff.mpr ⟨rfl, fits⟩]
  rfl

theorem result_checked_of_not_fits (h : ¬Fits n) (c : Clock δ) :
    (checked n).result c = (.trapped, c) := by
  have none : Word.signed64? n = none := if_neg h
  rw [checked, none]
  rfl

-- The service may be used: the operating system does not run yet, or has kept it.
def Serves (c : Clock δ) (service : UInt32) : Prop :=
  match c.runtimeServices with
  | none          => True
  | some services => services &&& service ≠ 0

theorem Serves.of_booting {service : UInt32} (booting : c.runtimeServices = none) :
    c.Serves service := by
  rw [Serves, booting]
  trivial

theorem result_checkRuntime {service : UInt32} (serves : c.Serves service) :
    (checkRuntime service).result c = (.done (), c) := by
  rw [checkRuntime, result_bind_of_done (result_get c)]
  rw [Serves] at serves
  rcases kept : c.runtimeServices with _ | services <;> rw [kept] at serves
  case none => rfl
  case some =>
    dsimp only
    rw [if_neg serves]
    rfl

theorem result_checkRuntime_of_not_serves {service : UInt32} (h : ¬c.Serves service) :
    (checkRuntime service).result c = (.failed .unsupported, c) := by
  rw [checkRuntime, result_bind_of_done (result_get c)]
  rw [Serves] at h
  rcases kept : c.runtimeServices with _ | services <;> rw [kept] at h
  case none => exact absurd trivial h
  case some =>
    dsimp only at h ⊢
    rw [if_pos (Decidable.not_not.mp h)]
    rfl

theorem result_checkRunning {control : Control} (running : ¬control.Has Control.stopped)
    (c : Clock δ) : (checkRunning control).result c = (.done (), c) := by
  rw [checkRunning, if_neg running]
  rfl

theorem result_checkRunning_of_stopped {control : Control} (stopped : control.Has Control.stopped)
    (c : Clock δ) : (checkRunning control).result c = (.failed .deviceError, c) := by
  rw [checkRunning, if_pos stopped]
  rfl

theorem result_anchor {epoch nanos : Int} (fits : Fits (offsetAt epoch nanos)) (c : Clock δ) :
    (anchor epoch (nanos / nanosPerSecond)).result c =
      (.done (), { c with counterOffset := some (offsetAt epoch nanos) }) := by
  unfold offsetAt at fits ⊢
  have start : Fits (epoch - nanos / nanosPerSecond) := by
    rw [Fits, nanosPerSecond] at fits
    rw [Fits, nanosPerSecond]
    omega
  rw [anchor, result_bind_of_done (result_checked start c),
    result_bind_of_done (result_checked fits c)]
  rfl

theorem trapped_anchor {epoch nanos : Int} (h : ¬Fits (offsetAt epoch nanos)) (c : Clock δ) :
    ((anchor epoch (nanos / nanosPerSecond)).result c).1 = .trapped := by
  rw [offsetAt] at h
  rw [anchor]
  by_cases start : Fits (epoch - nanos / nanosPerSecond)
  case pos =>
    rw [result_bind_of_done (result_checked start c)]
    exact trapped_bind (by rw [result_checked_of_not_fits h c]) _
  case neg => exact trapped_bind (by rw [result_checked_of_not_fits start c]) _

theorem result_counterEpoch? {nanos offset : Int} (tied : c.counterOffset = some offset)
    (fits : Fits (nanos + offset)) :
    (counterEpoch? nanos).result c = (.done (some ((nanos + offset).tdiv nanosPerSecond)), c) := by
  rw [counterEpoch?, result_bind_of_done (result_get c), tied]
  dsimp only
  rw [result_bind_of_done (result_checked fits c)]
  rfl

theorem result_counterEpoch?_of_none (untied : c.counterOffset = none) (nanos : Int) :
    (counterEpoch? nanos).result c = (.done none, c) := by
  rw [counterEpoch?, result_bind_of_done (result_get c), untied]
  rfl

theorem result_virtualEpoch {nanos offset : Int} (tied : c.counterOffset = some offset)
    (fits : Fits (nanos + offset)) :
    (virtualEpoch nanos).result c = (.done ((nanos + offset).tdiv nanosPerSecond), c) := by
  rw [virtualEpoch, result_bind_of_done (result_counterEpoch? tied fits)]
  rfl

-- The first reading of a virtual clock ties the counter to the epoch that the clock starts at.
theorem result_virtualEpoch_of_none {epoch nanos : Int} (untied : c.counterOffset = none)
    (start : c.rtcOffset = epoch) (nonneg : 0 ≤ nanos) (fits : Fits (offsetAt epoch nanos)) :
    (virtualEpoch nanos).result c =
      (.done epoch, { c with counterOffset := some (offsetAt epoch nanos) }) := by
  subst start
  rw [virtualEpoch, result_bind_of_done (result_counterEpoch?_of_none untied nanos)]
  dsimp only
  rw [result_bind_of_done (result_get c), Int.tdiv_eq_ediv_of_nonneg nonneg,
    result_bind_of_done (result_anchor fits c)]
  rfl

variable [RegisterBus δ]

-- The counter stays tied to the epoch that it is tied to, as it is with the hardware or just ahead.
theorem result_refinedEpoch {epoch counted nanos : Int}
    (hardware : hardwareEpoch.result c = (.done epoch, c'))
    (byCounter : (counterEpoch? nanos).result c' = (.done (some counted), c'))
    (near : counted = epoch ∨ counted = epoch + 1) :
    (refinedEpoch nanos).result c = (.done counted, c') := by
  rw [refinedEpoch, result_bind_of_done hardware, result_bind_of_done byCounter,
    if_pos (by rwa [Option.some_inj, Option.some_inj])]
  rfl

-- The counter is tied to the hardware anew.
theorem result_refinedEpoch_of_far {epoch nanos : Int} {counted : Option Int}
    (hardware : hardwareEpoch.result c = (.done epoch, c'))
    (byCounter : (counterEpoch? nanos).result c' = (.done counted, c'))
    (far : ¬(counted = some epoch ∨ counted = some (epoch + 1))) (nonneg : 0 ≤ nanos)
    (fits : Fits (offsetAt epoch nanos)) :
    (refinedEpoch nanos).result c =
      (.done epoch, { c' with counterOffset := some (offsetAt epoch nanos) }) := by
  rw [refinedEpoch, result_bind_of_done hardware, result_bind_of_done byCounter, if_neg far,
    Int.tdiv_eq_ediv_of_nonneg nonneg, result_bind_of_done (result_anchor fits c')]
  rfl

-- A clock that may be read tells the time of the epoch that it goes by, whichever clock it is.
theorem result_getTime_of_serves {counter : UInt64} {zone : Int16} {daylight : UInt8}
    (serves : c.Serves getTimeService) (lt : counter.toNat < 0x8000000000000000) :
    (getTime counter zone daylight).result c =
      ((if c.config.isVirtual then virtualEpoch counter.toNat else refinedEpoch counter.toNat) >>=
        fun epoch => CalendarTime.atEpoch
          { zone, daylight, nanosecond := .ofNat (counter.toNat % 1000000000) } <$>
            checked (epoch + CalendarTime.localOffset zone daylight)).result c := by
  have fraction : UInt32.ofInt ((counter.toNat : Int).tmod nanosPerSecond) =
      .ofNat (counter.toNat % 1000000000) := by
    have small : ((counter.toNat : Int) % 1000000000 % 2 ^ 32).toNat =
        counter.toNat % 1000000000 := by
      omega
    rw [nanosPerSecond, Int.tmod_eq_emod_of_nonneg (by omega), UInt32.ofInt, small]
  rw [getTime, result_bind_of_done (result_checkRuntime serves), Word.toSigned_of_lt lt]
  dsimp only
  rw [result_bind_of_done (result_get c), fraction]
  split <;> rfl

theorem result_getTime_of_epoch {counter : UInt64} {zone : Int16} {daylight : UInt8} {epoch : Int}
    (serves : c.Serves getTimeService) (lt : counter.toNat < 0x8000000000000000)
    (known : (if c.config.isVirtual then virtualEpoch counter.toNat else
      refinedEpoch counter.toNat : Action (Clock δ) Int).result c = (.done epoch, c'))
    (fits : Fits (epoch + CalendarTime.localOffset zone daylight)) :
    (getTime counter zone daylight).result c =
      (.done (CalendarTime.atEpoch
          { zone, daylight, nanosecond := .ofNat (counter.toNat % 1000000000) }
          (epoch + CalendarTime.localOffset zone daylight)), c') := by
  rw [result_getTime_of_serves serves lt, result_bind_of_done known, result_map,
    result_checked fits c']

theorem result_getTime {counter : UInt64} {zone : Int16} {daylight : UInt8} {epoch : Int}
    (physical : c.config.isVirtual = false) (serves : c.Serves getTimeService)
    (lt : counter.toNat < 0x8000000000000000)
    (refined : (refinedEpoch counter.toNat).result c = (.done epoch, c'))
    (fits : Fits (epoch + CalendarTime.localOffset zone daylight)) :
    (getTime counter zone daylight).result c =
      (.done (CalendarTime.atEpoch
          { zone, daylight, nanosecond := .ofNat (counter.toNat % 1000000000) }
          (epoch + CalendarTime.localOffset zone daylight)), c') :=
  result_getTime_of_epoch serves lt (by rwa [physical, if_neg Bool.false_ne_true]) fits

theorem result_setTime_of_not_valid {t : CalendarTime} (h : ¬t.IsValid) (counter : UInt64)
    (c : Clock δ) : (setTime counter t).result c = (.failed .invalidParameter, c) := by
  rw [setTime, if_neg h]
  rfl

theorem result_setTime_of_not_serves {t : CalendarTime} (valid : t.IsValid)
    (h : ¬c.Serves setTimeService) (counter : UInt64) :
    (setTime counter t).result c = (.failed .unsupported, c) := by
  rw [setTime, if_pos valid, result_bind, result_checkRuntime_of_not_serves h]

theorem result_setTime {t : CalendarTime} (valid : t.IsValid)
    (physical : c.config.isVirtual = false) (serves : c.Serves setTimeService)
    (counter : UInt64) :
    (setTime counter t).result c =
      (setHardware (t.toEpoch - CalendarTime.localOffset t.zone t.daylight) >>= fun _ =>
        anchor (t.toEpoch - CalendarTime.localOffset t.zone t.daylight)
          ((counter.toNat : Int) / nanosPerSecond)).result c := by
  rw [setTime, if_pos valid, result_bind_of_done (result_checkRuntime serves)]
  dsimp only
  rw [result_bind_of_done (result_get c), physical]
  rfl

-- A virtual clock has its new epoch before it is known whether the counter can be tied to it.
theorem result_setTime_of_anchor {t : CalendarTime} (valid : t.IsValid)
    (isVirtual : c.config.isVirtual = true) (serves : c.Serves setTimeService)
    (counter : UInt64) :
    (setTime counter t).result c =
      (anchor (t.toEpoch - CalendarTime.localOffset t.zone t.daylight)
        ((counter.toNat : Int) / nanosPerSecond)).result
          { c with rtcOffset := t.toEpoch - CalendarTime.localOffset t.zone t.daylight } := by
  rw [setTime, if_pos valid, result_bind_of_done (result_checkRuntime serves)]
  dsimp only
  rw [result_bind_of_done (result_get c), isVirtual, if_pos rfl,
    result_bind_of_done (result_modify _ c), result_bind_of_done (result_info _ _)]
  rfl

-- Setting a virtual clock is a matter of its state alone.
theorem result_setTime_of_virtual {t : CalendarTime} {counter : UInt64} (valid : t.IsValid)
    (isVirtual : c.config.isVirtual = true) (serves : c.Serves setTimeService)
    (fits : Fits (offsetAt (t.toEpoch - CalendarTime.localOffset t.zone t.daylight)
      counter.toNat)) :
    (setTime counter t).result c =
      (.done (), { c with
        rtcOffset := t.toEpoch - CalendarTime.localOffset t.zone t.daylight,
        counterOffset := some (offsetAt
          (t.toEpoch - CalendarTime.localOffset t.zone t.daylight) counter.toNat) }) :=
  (result_setTime_of_anchor valid isVirtual serves counter).trans (result_anchor fits _)

end BoardFirmware.Clock
