import BoardFirmware.Platform.Th500
import BoardFirmware.Proofs.Action.Safe
import BoardFirmware.Proofs.Clock.ReadBack
import BoardFirmware.Proofs.Clock.Watched

/-!
The clock of the TH500 boards is never trapped, although its registers may hold what stands for no
time at all, and its counter may read anything below 2⁵⁶ nanoseconds at any call. The latest epoch
that registers can hold is that of a 63rd day in a 31st month of 2255. Its nanoseconds leave just
enough room in their word for those of the counter.
-/

namespace BoardFirmware.Clock

open BoardFirmware.Action

-- No clock of a TH500 board is tied to a later epoch than this one in 2258.
def latestEpoch : Int := 9100000000

-- What the counter comes to more than two years after it started.
def counterEnd : Nat := 2 ^ 56

theorem counterEnd_seconds : (counterEnd : Int) / nanosPerSecond = 72057594 := rfl

-- The clock is that of a TH500 board, and whatever its counter reads before its end, the offset
-- does not take it out of its word.
structure Bounded (c : Clock δ) : Prop where
  config    : c.config = Th500.clock
  offset_ge : ∀ o ∈ c.counterOffset, -(counterEnd / nanosPerSecond) * nanosPerSecond ≤ o
  offset_le : ∀ o ∈ c.counterOffset, o ≤ latestEpoch * nanosPerSecond

-- The epoch is one that the clock may be tied to.
def InBounds (epoch : Int) : Prop :=
  0 ≤ epoch ∧ epoch ≤ latestEpoch

theorem bounded_ofBus (bus : δ) (stored : Option Int) : Bounded (ofBus bus Th500.clock stored) :=
  ⟨rfl, nofun, nofun⟩

theorem Bounded.onBus {c : Clock δ} (h : Bounded c) (bus : δ) : Bounded { c with bus } :=
  ⟨h.config, h.offset_ge, h.offset_le⟩

-- The fields of the registers have room for times that are not in the calendar.
theorem inBounds_toEpoch {t : CalendarTime} (le_year : 2000 ≤ t.year.toNat)
    (year_le : t.year.toNat ≤ 2255) (month_le : t.month.toNat ≤ 31) (day_le : t.day.toNat ≤ 63)
    (hour_le : t.hour.toNat ≤ 63) (minute_le : t.minute.toNat ≤ 127)
    (second_le : t.second.toNat ≤ 127) : InBounds t.toEpoch := by
  rw [InBounds, CalendarTime.toEpoch, Calendar.daysOfDate_eq_march, latestEpoch]
  simp only [Calendar.daysBeforeMarch, secondsPerDay, secondsPerHour, secondsPerMinute]
  omega

theorem add_yearByte (year : UInt8) :
    Word.add16? Th500.clock.baseYear year.toUInt16 =
        some (Th500.clock.baseYear + year.toUInt16) ∧
      (Th500.clock.baseYear + year.toUInt16).toNat = 2000 + year.toNat := by
  have base : Th500.clock.baseYear.toNat = 2000 := rfl
  have year_eq : year.toUInt16.toNat = year.toNat := UInt8.toNat_toUInt16 year
  have sum : (Th500.clock.baseYear + year.toUInt16).toNat = 2000 + year.toNat := by
    rw [UInt16.toNat_add, base, year_eq]
    have := year.toNat_lt
    omega
  exact ⟨Word.add16?_eq_some_iff.mpr (by rw [base, year_eq, sum]), sum⟩

-- Any bytes are read as some time.
theorem exists_decode? (f : Format) (registers : Bytes) :
    ∃ t, f.decode? Th500.clock.baseYear registers = some t ∧ InBounds t.toEpoch := by
  have ⟨decoded, year⟩ := add_yearByte (f.read (registers.getD 9 0))
  have year_lt := (f.read (registers.getD 9 0)).toNat_lt
  refine ⟨_, by rw [Format.decode?, decoded]; rfl, ?_⟩
  refine inBounds_toEpoch ?_ ?_ (f.read_masked_le _ _) (f.read_masked_le _ _) (f.readHour_le _)
    (f.read_masked_le _ _) (f.read_masked_le _ _) <;>
  · rw [year]
    omega

variable {counter : UInt64} {epoch nanos seconds : Int}

theorem safe_checked {I : Clock δ → Prop} {n : Int} (fits : Fits n) :
    (checked n : Action (Clock δ) Int).Safe I (· = n) :=
  Safe.checked (Word.signed64?_of_fits fits) rfl

theorem safe_checkRuntime (service : UInt32) :
    (checkRuntime service : Action (Clock δ) Unit).Safe Bounded fun _ => True := by
  refine Safe.bind Safe.get fun c _ => ?_
  split
  case h_1 => exact Safe.pure trivial
  case h_2 => exact Safe.ite (fun _ => Safe.throw) fun _ => Safe.pure trivial

theorem safe_checkRunning (control : Control) :
    (checkRunning control : Action (Clock δ) Unit).Safe Bounded fun _ => True :=
  Safe.ite (fun _ => Safe.bind Safe.log fun _ _ => Safe.throw) fun _ => Safe.pure trivial

theorem safe_onBus (ask : δ → Except Status α × δ) :
    (onBus ask : Action (Clock δ) α).Safe Bounded fun _ => True := by
  intro c h
  rw [result_onBus]
  rcases ask c.bus with ⟨_ | a, d⟩
  case error => exact h.onBus d
  case ok    => exact ⟨h.onBus d, trivial⟩

-- The counter is tied to an epoch in bounds.
theorem safe_anchor (inBounds : InBounds epoch) (nonneg : 0 ≤ seconds)
    (le : seconds ≤ counterEnd / nanosPerSecond) :
    (anchor epoch seconds : Action (Clock δ) Unit).Safe Bounded fun _ => True := by
  have ⟨epoch_nonneg, epoch_le⟩ := inBounds
  rw [counterEnd_seconds] at le
  rw [latestEpoch] at epoch_le
  have near : -72057594 * nanosPerSecond ≤ (epoch - seconds) * nanosPerSecond ∧
      (epoch - seconds) * nanosPerSecond ≤ 9100000000 * nanosPerSecond := by
    rw [nanosPerSecond]
    omega
  refine Safe.bind (safe_checked ⟨by omega, by omega⟩) fun start hstart => ?_
  subst hstart
  refine Safe.bind (safe_checked ?fits) fun offset hoffset => ?_
  case fits =>
    rw [nanosPerSecond] at near ⊢
    exact ⟨by omega, by omega⟩
  subst hoffset
  refine Safe.modify fun c h => ⟨h.config, ?_, ?_⟩
  · intro o ho
    cases ho
    exact near.1
  · intro o ho
    cases ho
    exact near.2

theorem safe_counterEpoch? (nonneg : 0 ≤ nanos) (lt : nanos < counterEnd) :
    (counterEpoch? nanos : Action (Clock δ) (Option Int)).Safe Bounded fun _ => True := by
  refine Safe.bind Safe.get fun c h => ?_
  split
  case h_1 => exact Safe.pure trivial
  case h_2 offset tied =>
    have offset_ge := h.offset_ge offset tied
    have offset_le := h.offset_le offset tied
    rw [counterEnd_seconds, nanosPerSecond] at offset_ge
    rw [nanosPerSecond] at offset_le
    rw [latestEpoch] at offset_le
    rw [counterEnd] at lt
    exact Safe.bind (safe_checked ⟨by omega, by omega⟩) fun _ _ => Safe.pure trivial

variable [RegisterBus δ]

theorem safe_readRegisters (register : UInt8) (length : Nat) (what : String) :
    (readRegisters register length what : Action (Clock δ) Bytes).Safe Bounded fun _ => True := by
  unfold readRegisters
  refine Safe.bind (p := fun _ => True) (Safe.tryCatch ?read ?refused) fun e _ => ?ret
  case read    => exact Safe.bind (safe_onBus _) fun _ _ => Safe.pure trivial
  case refused =>
    intro _
    exact Safe.bind Safe.log fun _ _ =>
      Safe.bind (p := fun _ => True) Safe.throw fun _ _ => Safe.pure trivial
  case ret     => cases e <;> exact Safe.pure trivial

theorem safe_hardwareEpoch : (hardwareEpoch : Action (Clock δ) Int).Safe Bounded InBounds := by
  refine Safe.bind (safe_readRegisters _ _ _) fun registers _ => ?_
  refine Safe.bind (safe_checkRunning _) fun _ _ => Safe.bind Safe.get fun c h => ?_
  have ⟨t, decoded, inBounds⟩ :=
    exists_decode? (Control.format ⟨registers.getD timeRegisters 0⟩) registers
  rw [h.config]
  refine Safe.bind (Safe.checked decoded rfl) fun time htime => ?_
  subst htime
  exact Safe.pure inBounds

theorem safe_refinedEpoch (nonneg : 0 ≤ nanos) (lt : nanos < counterEnd) :
    (refinedEpoch nanos : Action (Clock δ) Int).Safe Bounded fun epoch =>
      0 ≤ epoch ∧ epoch ≤ latestEpoch + 1 := by
  refine Safe.bind safe_hardwareEpoch fun epoch inBounds => ?_
  have ⟨epoch_nonneg, epoch_le⟩ := inBounds
  refine Safe.bind (safe_counterEpoch? nonneg lt) fun byCounter _ => Safe.ite ?near ?far
  case near =>
    intro near
    refine Safe.pure ?_
    obtain rfl | rfl := near <;>
    · rw [Option.getD_some]
      omega
  case far =>
    intro _
    have seconds : 0 ≤ nanos.tdiv nanosPerSecond ∧
        nanos.tdiv nanosPerSecond ≤ counterEnd / nanosPerSecond := by
      rw [Int.tdiv_eq_ediv_of_nonneg nonneg, nanosPerSecond]
      omega
    exact Safe.bind (safe_anchor inBounds seconds.1 seconds.2) fun _ _ =>
      Safe.pure ⟨epoch_nonneg, by omega⟩

theorem safe_getTime (lt : counter.toNat < counterEnd) (zone : Int16) (daylight : UInt8) :
    (getTime counter zone daylight : Action (Clock δ) CalendarTime).Safe Bounded fun _ => True := by
  have counter_lt : counter.toNat < 0x8000000000000000 := Nat.lt_trans lt (by decide)
  have offset := CalendarTime.localOffset_near zone daylight
  simp only [secondsPerDay, secondsPerHour, secondsPerMinute] at offset
  unfold getTime
  rw [Word.toSigned_of_lt counter_lt]
  refine Safe.bind (safe_checkRuntime _) fun _ _ => Safe.bind Safe.get fun c h => ?_
  rw [h.config]
  refine Safe.bind (safe_refinedEpoch (Int.natCast_nonneg _) (Int.ofNat_lt.mpr lt)) ?_
  intro epoch near
  rw [latestEpoch] at near
  exact Safe.bind (safe_checked ⟨by omega, by omega⟩) fun _ _ => Safe.pure trivial

-- The registers reach from 2000 to 2099.
theorem inBounds_of_inReach (reach : InReach Th500.clock.baseYear epoch) : InBounds epoch := by
  have ⟨year, ⟨start_le, lt_end⟩, base_le, le_base⟩ := reach
  have base : Th500.clock.baseYear.toNat = 2000 := rfl
  have first := startOfYear_mono (show 2000 ≤ year by omega)
  have last := startOfYear_mono (show year + 1 ≤ 2100 by omega)
  have first_eq : startOfYear 2000 = 946684800 := by
    rw [startOfYear_eq]
    rfl
  have last_eq : startOfYear 2100 = 4102444800 := by
    rw [startOfYear_eq]
    rfl
  rw [InBounds, latestEpoch]
  omega

theorem safe_setHardware (ge : startOfYear 0 ≤ epoch) (lt : epoch < startOfYear (65535 + 1)) :
    (setHardware epoch : Action (Clock δ) Unit).Safe Bounded fun _ => InBounds epoch := by
  have ⟨year, _, year_le, inYear⟩ := exists_inYear ge lt
  have ⟨_, hyear, _⟩ := CalendarTime.onCalendar_atEpoch {} inYear year_le
  unfold setHardware
  refine Safe.bind (safe_readRegisters _ _ _) fun registers _ => ?_
  refine Safe.bind (safe_checkRunning _) fun _ _ => Safe.bind Safe.get fun c h => ?_
  refine Safe.ite (fun _ => Safe.bind Safe.log fun _ _ => Safe.throw) fun _ => ?_
  refine Safe.ite (fun _ => Safe.throw) fun inside => ?_
  rw [h.config, reach_iff, not_not, hyear] at inside
  have inBounds := inBounds_of_inReach ⟨year, inYear, inside⟩
  refine Safe.tryCatch ?write fun _ => Safe.bind Safe.log fun _ _ => Safe.throw
  exact (safe_onBus _).weaken fun _ _ => inBounds

theorem safe_setTime (lt : counter.toNat < counterEnd) (t : CalendarTime) :
    (setTime counter t : Action (Clock δ) Unit).Safe Bounded fun _ => True := by
  have counter_lt : (counter.toNat : Int) < counterEnd := Int.ofNat_lt.mpr lt
  refine Safe.ite (fun valid => ?_) fun _ => Safe.throw
  have ⟨ge, lt⟩ := valid.utcEpoch_near
  refine Safe.bind (safe_checkRuntime _) fun _ _ => Safe.bind Safe.get fun c h => ?_
  rw [h.config]
  refine Safe.bind (safe_setHardware ge lt) fun _ inBounds => ?_
  exact safe_anchor inBounds (by omega) (by rw [nanosPerSecond]; omega)

theorem safe_perform {call : Call} (lt : call.counter.toNat < counterEnd) :
    (call.perform : Action (Clock δ) (Option CalendarTime)).Safe Bounded fun _ => True := by
  cases call
  case get counter zone daylight => exact Safe.map (safe_getTime lt zone daylight)
  case set counter t             => exact Safe.map (safe_setTime lt t)

theorem bounded_of_after {start c : Clock δ} (bounded : Bounded start)
    (after : After start calls c) (early : ∀ call ∈ calls, call.counter.toNat < counterEnd) :
    Bounded c := by
  induction after
  case refl => exact bounded
  case moved bus ih => exact (ih early).onBus bus
  case call call _ ran _ ih =>
    rw [List.forall_mem_append, List.forall_mem_singleton] at early
    exact (safe_perform early.2).keeps (ih early.1) ran

-- Whatever calls the clock of a TH500 board has had, whatever the device gave at each of them and
-- whatever the counter read before its end, a further call is answered or refused, even if all of
-- its arithmetic is watched.
theorem th500_never_trapped {bus : δ} {stored : Option Int} {c : Clock δ}
    (after : After (ofBus bus Th500.clock stored) calls c)
    (early : ∀ call ∈ calls, call.counter.toNat < counterEnd) (call : Call)
    (lt : call.counter.toNat < counterEnd) :
    (Watched.perform call : Action (Clock δ) _) = call.perform ∧
      ∃ outcome c', (Watched.perform call).result c = (outcome, c') ∧ outcome ≠ .trapped ∧
        After (ofBus bus Th500.clock stored) (calls ++ [call]) c' := by
  have bounded := bounded_of_after (bounded_ofBus bus stored) after early
  have ret := (safe_perform lt).not_trapped bounded
  refine ⟨Watched.perform_eq call, _, _, rfl, ?_, ?_⟩
  · rwa [Watched.perform_eq]
  · rw [Watched.perform_eq]
    exact .call after rfl ret

-- A device that gives one answer after the other to whatever it is asked, as long as it has any.
structure Answers where
  left : List (Except Status Bytes)

instance : RegisterBus Answers where
  read _ _ d  := (d.left.headD (.error .deviceError), ⟨d.left.tail⟩)
  write _ _ d := ((d.left.headD (.error .deviceError)).map fun _ => (), ⟨d.left.tail⟩)

-- The largest bytes are read when the counter starts. Setting the clock fails in the middle. At the
-- end of the counter, the registers hold nothing but zeros.
theorem th500_never_trapped_garbage :
    ∃ c, After (ofBus (⟨[.ok [0x7f, 0, 0x7f, 0, 0x3f, 0, 0, 0x3f, 0x1f, 0xff, 0x60], .ok [0x20],
          .error .aborted, .ok []]⟩ : Answers) Th500.clock none)
        [.get 0 0 0, .set 5000000000 { year := 2024 }] c ∧
      c.counterOffset = some 9078455347000000000 ∧
      ((Watched.perform (.get 72057594037927935 0 0)).result c).1 =
        .done (some { year := 1999, month := 11, day := 30, nanosecond := 37927935, zone := 0 }) ∧
      ((Watched.perform (.get 72057594037927935 0 0)).result c).1 ≠ .trapped := by
  have first : After (ofBus (⟨[.ok [0x7f, 0, 0x7f, 0, 0x3f, 0, 0, 0x3f, 0x1f, 0xff, 0x60],
        .ok [0x20], .error .aborted, .ok []]⟩ : Answers) Th500.clock none)
      [.get 0 0 0]
      ⟨⟨[.ok [0x20], .error .aborted, .ok []]⟩, Th500.clock, some 9078455347000000000,
        1704067200, none⟩ :=
    .call .refl rfl nofun
  have second : After (ofBus (⟨[.ok [0x7f, 0, 0x7f, 0, 0x3f, 0, 0, 0x3f, 0x1f, 0xff, 0x60],
        .ok [0x20], .error .aborted, .ok []]⟩ : Answers) Th500.clock none)
      [.get 0 0 0, .set 5000000000 { year := 2024 }]
      ⟨⟨[.ok []]⟩, Th500.clock, some 9078455347000000000, 1704067200, none⟩ :=
    .call first rfl nofun
  have ⟨_, outcome, c', run, ret, _⟩ :=
    th500_never_trapped second (by decide) (.get 72057594037927935 0 0) (by decide)
  refine ⟨_, second, rfl, ?_, ?_⟩
  · decide +kernel
  · rw [run]
    exact ret

end BoardFirmware.Clock
