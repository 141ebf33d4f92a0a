import BoardFirmware.Proofs.Clock.ReadBack

/-!
A hardware clock that is refined by the counter never runs backwards. The hardware and the counter
go on at the same rate, but their seconds start at different times. So the counter can be tied to
the hardware by either of two numbers of seconds, and the clock changes from the smaller one to the
larger one, never back.
-/

namespace BoardFirmware.Clock

open BoardFirmware.Action

-- A reading of the clock, with what the counter reads and the state that the hardware has come to.
structure Reading (δ : Type) where
  bus      : δ
  counter  : UInt64
  zone     : Int16
  daylight : UInt8

namespace Reading

-- The epoch by hardware that is `phase` nanoseconds ahead of the counter.
def epoch (phase : Int) (r : Reading δ) : Int :=
  (r.counter.toNat + phase) / nanosPerSecond

def perform [RegisterBus δ] (r : Reading δ) : Action (Clock δ) CalendarTime := do
  modify fun c => { c with bus := r.bus }
  getTime r.counter r.zone r.daylight

-- The registers hold the epoch by the hardware, and the clock is read in UTC.
structure Steady (registers : δ → Nat → UInt8) (base : UInt16) (phase : Int) (r : Reading δ) :
    Prop where
  shows      : Shows (registers r.bus) base (r.epoch phase)
  reach      : InReach base (r.epoch phase)
  utc        : CalendarTime.localOffset r.zone r.daylight = 0
  counter_lt : r.counter.toNat < 2 ^ 56

end Reading

variable {registers : δ → Nat → UInt8} {base : UInt16} {phase nanos told epoch : Int}
  {r : Reading δ} {c c' : Clock δ}

-- Whole seconds of the counter and of its lead over the hardware miss at most one of the hardware.
theorem Reading.epoch_near (r : Reading δ) (phase : Int) :
    r.counter.toNat / nanosPerSecond + phase / nanosPerSecond ≤ r.epoch phase ∧
      r.epoch phase ≤ r.counter.toNat / nanosPerSecond + phase / nanosPerSecond + 1 := by
  rw [Reading.epoch, nanosPerSecond]
  omega

-- A clock with hardware, before the operating system takes over, that has told the epoch `told`
-- where the counter read `nanos`, or nothing so far.
structure InPhase (base : UInt16) (phase nanos told : Int) (c : Clock δ) : Prop where
  physical : c.config.isVirtual = false
  baseYear : c.config.baseYear = base
  booting  : c.runtimeServices = none
  nonneg   : 0 ≤ told
  tied     : c.counterOffset = none ∧ told = 0 ∨
    ∃ seconds, c.counterOffset = some (seconds * nanosPerSecond) ∧
      (phase / nanosPerSecond ≤ seconds ∧ seconds ≤ phase / nanosPerSecond + 1) ∧
      told = nanos / nanosPerSecond + seconds

theorem inPhase_ofBus (bus : δ) {config : Config} (physical : config.isVirtual = false)
    (stored : Option Int) (phase nanos : Int) :
    InPhase config.baseYear phase nanos 0 (ofBus bus config stored) :=
  ⟨physical, rfl, rfl, Int.le_refl 0, .inl ⟨rfl, rfl⟩⟩

theorem InPhase.moved (h : c.InPhase base phase nanos told) (bus : δ) :
    InPhase base phase nanos told { c with bus } :=
  ⟨h.physical, h.baseYear, h.booting, h.nonneg, h.tied⟩

-- Tied to the hardware anew, the counter is in phase with it.
theorem InPhase.anchored (h : c.InPhase base phase nanos told) (r : Reading δ)
    (nonneg : 0 ≤ r.epoch phase) :
    InPhase base phase r.counter.toNat (r.epoch phase)
      { c with counterOffset := some (offsetAt (r.epoch phase) r.counter.toNat) } := by
  have ⟨ge, le⟩ := r.epoch_near phase
  exact ⟨h.physical, h.baseYear, h.booting, nonneg, .inr ⟨_, rfl, by omega, by omega⟩⟩

-- Tied to the hardware by either number of seconds, the counter is at most one second off.
theorem Reading.counted_near {seconds : Int} (r : Reading δ)
    (near : phase / nanosPerSecond ≤ seconds ∧ seconds ≤ phase / nanosPerSecond + 1) :
    r.counter.toNat / nanosPerSecond + seconds = r.epoch phase - 1 ∨
      r.counter.toNat / nanosPerSecond + seconds = r.epoch phase ∨
      r.counter.toNat / nanosPerSecond + seconds = r.epoch phase + 1 := by
  have := r.epoch_near phase
  omega

variable [RegisterBus δ]

theorem Reading.result_perform (physical : c.config.isVirtual = false)
    (booting : c.runtimeServices = none) (steady : r.Steady registers base phase)
    (refined : (refinedEpoch r.counter.toNat).result { c with bus := r.bus } = (.done epoch, c'))
    (nonneg : 0 ≤ epoch) (le : epoch ≤ 9151488000) :
    ∃ t, r.perform.result c = (.done t, c') ∧ t.toEpoch = epoch := by
  have lt := steady.counter_lt
  have fits : Fits (epoch + CalendarTime.localOffset r.zone r.daylight) := by
    rw [steady.utc, Fits]
    omega
  have run : (getTime r.counter r.zone r.daylight).result { c with bus := r.bus } = _ :=
    result_getTime physical (.of_booting booting) (by omega) refined fits
  rw [steady.utc, Int.add_zero] at run
  refine ⟨_, run, CalendarTime.toEpoch_atEpoch _ ?_ ?_⟩
  · rw [startOfYear_eq]
    exact Int.le_trans (by decide) nonneg
  · rw [startOfYear_eq]
    exact Int.lt_of_le_of_lt le (by decide)

namespace InPhase

-- The epoch is the one by the hardware, or the next one if the counter has got there already. It is
-- no earlier than the one told last.
theorem refined (file : IsRegisterFile registers) (ge : 1970 ≤ base) (le : base ≤ 2160)
    (h : c.InPhase base phase nanos told) (steady : r.Steady registers base phase)
    (nanos_le : nanos ≤ r.counter.toNat) :
    ∃ epoch c', (refinedEpoch r.counter.toNat).result { c with bus := r.bus } = (.done epoch, c') ∧
      c'.InPhase base phase r.counter.toNat epoch ∧ told ≤ epoch ∧
      r.epoch phase ≤ epoch ∧ epoch ≤ r.epoch phase + 1 := by
  have ⟨shows, reach, _, lt⟩ := steady
  have ⟨epoch_nonneg, before_end⟩ := reach.near ge le
  have ⟨fits, _⟩ := reach.fits ge le (Int.natCast_nonneg r.counter.toNat) (by omega)
  have ⟨d, hardware⟩ := result_hardwareEpoch file (c := { c with bus := r.bus })
    (h.baseYear ▸ shows) (h.baseYear ▸ reach) (h.baseYear ▸ le)
  have anchored := (h.moved d).anchored r epoch_nonneg
  obtain ⟨untied, zero⟩ | ⟨seconds, tied, near, htold⟩ := h.tied
  case inl =>
    have counted := result_counterEpoch?_of_none (c := { c with bus := d }) untied r.counter.toNat
    have run := result_refinedEpoch_of_far hardware counted nofun (Int.natCast_nonneg _) fits
    exact ⟨_, _, run, anchored, by omega, by omega, by omega⟩
  case inr =>
    have told_le : told ≤ r.counter.toNat / nanosPerSecond + seconds := by
      rw [htold, nanosPerSecond]
      omega
    have nonneg : 0 ≤ r.counter.toNat / nanosPerSecond + seconds := Int.le_trans h.nonneg told_le
    have counted_near := r.counted_near near
    have counted := result_counterEpoch? (c := { c with bus := d }) tied
      (fits_add_seconds nonneg (by omega))
    rw [add_seconds_tdiv nonneg] at counted
    obtain behind | ahead := counted_near
    case inl =>
      have run := result_refinedEpoch_of_far hardware counted (by simp; omega)
        (Int.natCast_nonneg _) fits
      exact ⟨_, _, run, anchored, by omega, by omega, by omega⟩
    case inr =>
      have run := result_refinedEpoch hardware counted ahead
      refine ⟨_, _, run, ?_, told_le, by omega, by omega⟩
      exact ⟨h.physical, h.baseYear, h.booting, nonneg, .inr ⟨seconds, tied, near, rfl⟩⟩

theorem perform (file : IsRegisterFile registers) (ge : 1970 ≤ base) (le : base ≤ 2160)
    (h : c.InPhase base phase nanos told) (steady : r.Steady registers base phase)
    (nanos_le : nanos ≤ r.counter.toNat) :
    ∃ t c', r.perform.result c = (.done t, c') ∧ c'.InPhase base phase r.counter.toNat t.toEpoch ∧
      told ≤ t.toEpoch ∧ r.epoch phase ≤ t.toEpoch ∧ t.toEpoch ≤ r.epoch phase + 1 := by
  have ⟨_, before_end⟩ := steady.reach.near ge le
  have ⟨epoch, c', run, after, told_le, epoch_ge, epoch_le⟩ :=
    h.refined file ge le steady nanos_le
  obtain ⟨t, ht, rfl⟩ :=
    r.result_perform h.physical h.booting steady run after.nonneg (by omega)
  exact ⟨t, c', ht, after, told_le, epoch_ge, epoch_le⟩

-- Readings one after the other tell epochs that only go up, from the one told before them.
theorem run (file : IsRegisterFile registers) (ge : 1970 ≤ base) (le : base ≤ 2160)
    {readings : List (Reading δ)} (steady : ∀ r ∈ readings, r.Steady registers base phase)
    (ordered : readings.Pairwise fun a b => a.counter ≤ b.counter)
    (h : c.InPhase base phase nanos told) (nanos_le : ∀ r ∈ readings, nanos ≤ r.counter.toNat) :
    ∃ times c', (readings.mapM Reading.perform).result c = (.done times, c') ∧
      (told :: times.map CalendarTime.toEpoch).Pairwise (· ≤ ·) ∧
      List.Forall₂ (fun r t => r.epoch phase ≤ t.toEpoch ∧ t.toEpoch ≤ r.epoch phase + 1)
        readings times := by
  induction readings generalizing c nanos told
  case nil => exact ⟨[], c, rfl, List.pairwise_singleton .., .nil⟩
  case cons r rest ih =>
    rw [List.pairwise_cons] at ordered
    rw [List.forall_mem_cons] at steady nanos_le
    have ⟨t, c₁, ht, inPhase, told_le, near⟩ := h.perform file ge le steady.1 nanos_le.1
    have ⟨times, c₂, htimes, sorted, all_near⟩ := ih steady.2 ordered.2 inPhase
      fun r' mem => Int.ofNat_le.mpr (ordered.1 r' mem)
    refine ⟨t :: times, c₂, ?_, ?_, .cons near all_near⟩
    · rw [List.mapM_cons, result_bind_of_done ht, result_bind_of_done htimes]
      rfl
    · rw [List.map_cons, List.pairwise_cons]
      refine ⟨?_, sorted⟩
      rw [List.forall_mem_cons]
      exact ⟨told_le, fun e mem => Int.le_trans told_le ((List.pairwise_cons.mp sorted).1 e mem)⟩

end InPhase

-- Readings of a new clock, whose hardware goes on with the counter, tell epochs that never go back.
-- Each of them is the epoch by the hardware, or the second after it.
theorem refined_monotone (file : IsRegisterFile registers) (bus : δ) (config : Config)
    (stored : Option Int) (physical : config.isVirtual = false) (ge : 1970 ≤ config.baseYear)
    (le : config.baseYear ≤ 2160) {readings : List (Reading δ)}
    (steady : ∀ r ∈ readings, r.Steady registers config.baseYear phase)
    (ordered : readings.Pairwise fun a b => a.counter ≤ b.counter) :
    ∃ times c, (readings.mapM Reading.perform).result (ofBus bus config stored) =
        (.done times, c) ∧
      (times.map CalendarTime.toEpoch).Pairwise (· ≤ ·) ∧
      List.Forall₂ (fun r t => r.epoch phase ≤ t.toEpoch ∧ t.toEpoch ≤ r.epoch phase + 1)
        readings times := by
  have start := inPhase_ofBus bus physical stored phase 0
  have ⟨times, c, run, sorted, near⟩ :=
    start.run file ge le steady ordered fun _ _ => Int.natCast_nonneg _
  exact ⟨times, c, run, (List.pairwise_cons.mp sorted).2, near⟩

-- A reading in UTC of a clock that holds the given registers.
def Reading.ofRegisters (registers : Bytes) (counter : UInt64) : Reading RegisterFile :=
  ⟨⟨fun i => registers.getD i 0⟩, counter, 0, 0⟩

-- The first reading is from binary registers. At the second one the hardware has gone on by a
-- second and the counter has not, so that it is tied anew. At the third one, from decimal
-- registers, it is the hardware that has not gone on yet.
theorem refined_monotone_tied_anew :
    ∃ times c,
      (List.mapM Reading.perform
        [Reading.ofRegisters [0, 0, 0, 0, 0, 0, 0, 1, 1, 24, 0x60] 500000000,
          Reading.ofRegisters [1, 0, 0, 0, 0, 0, 0, 1, 1, 24, 0x60] 700000000,
          Reading.ofRegisters [1, 0, 0, 0, 0x12, 0, 0, 1, 1, 0x24, 0] 1200000000]).result
        (ofBus ⟨fun _ => 0⟩ ⟨2000, false, false, 0⟩ none) = (.done times, c) ∧
      times.map CalendarTime.toEpoch = [1704067200, 1704067201, 1704067202] ∧
      (times.map CalendarTime.toEpoch).Pairwise (· ≤ ·) := by
  have reach (epoch : Int) (ge : 1704067200 ≤ epoch) (le : epoch ≤ 1704067201) :
      InReach 2000 epoch := by
    refine ⟨2024, ⟨?_, ?_⟩, by decide, by decide⟩
    · rw [startOfYear_eq]
      exact Int.le_trans (by decide) ge
    · rw [startOfYear_eq]
      exact Int.lt_of_le_of_lt le (by decide)
  have steady : ∀ r ∈
      [Reading.ofRegisters [0, 0, 0, 0, 0, 0, 0, 1, 1, 24, 0x60] 500000000,
        Reading.ofRegisters [1, 0, 0, 0, 0, 0, 0, 1, 1, 24, 0x60] 700000000,
        Reading.ofRegisters [1, 0, 0, 0, 0x12, 0, 0, 1, 1, 0x24, 0] 1200000000],
      r.Steady RegisterFile.registers 2000 1704067200400000000 := by
    simp only [List.forall_mem_cons]
    refine ⟨?_, ?_, ?_, nofun⟩ <;>
    exact ⟨⟨by decide, by decide⟩, reach _ (by decide) (by decide), by decide, by decide⟩
  have ⟨times, c, run, sorted, _⟩ := refined_monotone RegisterFile.isRegisterFile ⟨fun _ => 0⟩
    ⟨2000, false, false, 0⟩ none rfl (by decide) (by decide) steady (by decide)
  refine ⟨times, c, run, ?_, sorted⟩
  cases run
  decide

end BoardFirmware.Clock
