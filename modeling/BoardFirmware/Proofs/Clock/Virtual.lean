import BoardFirmware.Proofs.Clock.RegisterFile
import BoardFirmware.Proofs.Clock.Watched

namespace BoardFirmware.Clock

open BoardFirmware.Action

namespace Call

-- The epoch that a call sets the clock to, and what the counter reads then.
def set? : Call → Option (Int × Int)
  | get ..       => none
  | set counter time => some (time.utcEpoch, counter.toNat)

-- What the counter reads when a call reads the clock.
def get? : Call → Option Int
  | get counter .. => some counter.toNat
  | set ..         => none

end Call

-- The epoch that the clock was set to last, and what the counter read then.
def lastSet? (calls : List Call) : Option (Int × Int) :=
  (calls.filterMap Call.set?).getLast?

-- What the counter read when the clock was read first.
def firstGet? (calls : List Call) : Option Int :=
  (calls.filterMap Call.get?).head?

-- The epoch that the clock was set to last, or that it started at.
def setEpoch (initial : Int) (calls : List Call) : Int :=
  ((lastSet? calls).map Prod.fst).getD initial

-- An epoch, and what the counter read at it, from which time is counted.
def reference? (initial : Int) (calls : List Call) : Option (Int × Int) :=
  (lastSet? calls).or ((firstGet? calls).map (initial, ·))

-- Calls by which the clock is set to valid times, in years that it can keep, and between which the
-- counter does not go back.
structure Orderly (calls : List Call) : Prop where
  valid      : ∀ counter time, .set counter time ∈ calls → time.IsValid
  near       : ∀ counter time, .set counter time ∈ calls →
    0 ≤ time.utcEpoch ∧ time.utcEpoch ≤ 9000000000
  counter_lt : ∀ call ∈ calls, call.counter.toNat < 2 ^ 56
  ordered    : calls.Pairwise fun a b => a.counter ≤ b.counter

variable {calls : List Call} {call : Call} {counter : UInt64} {zone : Int16} {daylight : UInt8}
  {t : CalendarTime} {initial epoch nanos : Int}

theorem Orderly.of_concat (h : Orderly (calls ++ [call])) : Orderly calls where
  valid      := fun _ _ mem => h.valid _ _ (List.mem_append_left _ mem)
  near       := fun _ _ mem => h.near _ _ (List.mem_append_left _ mem)
  counter_lt := fun _ mem => h.counter_lt _ (List.mem_append_left _ mem)
  ordered    := (List.pairwise_append.mp h.ordered).1

theorem Orderly.counter_le (h : Orderly (calls ++ [call])) {earlier : Call}
    (mem : earlier ∈ calls ++ [call]) : earlier.counter.toNat ≤ call.counter.toNat := by
  obtain before | now := List.mem_append.mp mem
  case inl =>
    exact (List.pairwise_append.mp h.ordered).2.2 earlier before call (List.mem_singleton.mpr rfl)
  case inr => rw [List.mem_singleton.mp now]

theorem lastSet?_concat_get (calls : List Call) (counter : UInt64) (zone : Int16)
    (daylight : UInt8) : lastSet? (calls ++ [.get counter zone daylight]) = lastSet? calls := by
  simp [lastSet?, Call.set?]

theorem lastSet?_concat_set (calls : List Call) (counter : UInt64) (t : CalendarTime) :
    lastSet? (calls ++ [.set counter t]) = some (t.utcEpoch, (counter.toNat : Int)) := by
  simp [lastSet?, Call.set?]

theorem firstGet?_concat_get (calls : List Call) (counter : UInt64) (zone : Int16)
    (daylight : UInt8) :
    firstGet? (calls ++ [.get counter zone daylight]) =
      (firstGet? calls).or (some (counter.toNat : Int)) := by
  simp [firstGet?, Call.get?, List.head?_append]

theorem setEpoch_concat_get (initial : Int) (calls : List Call) (counter : UInt64) (zone : Int16)
    (daylight : UInt8) :
    setEpoch initial (calls ++ [.get counter zone daylight]) = setEpoch initial calls := by
  rw [setEpoch, lastSet?_concat_get, setEpoch]

theorem setEpoch_concat_set (initial : Int) (calls : List Call) (counter : UInt64)
    (t : CalendarTime) : setEpoch initial (calls ++ [.set counter t]) = t.utcEpoch := by
  rw [setEpoch, lastSet?_concat_set]
  rfl

-- The first reading is the reference as long as the clock has not been set.
theorem reference?_concat_get (initial : Int) (calls : List Call) (counter : UInt64)
    (zone : Int16) (daylight : UInt8) :
    reference? initial (calls ++ [.get counter zone daylight]) =
      (reference? initial calls).or (some (initial, (counter.toNat : Int))) := by
  rw [reference?, lastSet?_concat_get, firstGet?_concat_get, reference?]
  rcases lastSet? calls with _ | _ <;> rcases firstGet? calls with _ | _ <;> rfl

theorem reference?_concat_set (initial : Int) (calls : List Call) (counter : UInt64)
    (t : CalendarTime) :
    reference? initial (calls ++ [.set counter t]) =
      some (t.utcEpoch, (counter.toNat : Int)) := by
  rw [reference?, lastSet?_concat_set]
  rfl

-- Without a reference, the clock has not been set.
theorem setEpoch_of_reference?_eq_none (h : reference? initial calls = none) :
    setEpoch initial calls = initial := by
  rw [reference?, Option.or_eq_none_iff] at h
  rw [setEpoch, h.1]
  rfl

-- The epoch from which time is counted is the initial one or that of a call, and the counter's
-- reading is that of a call.
theorem reference?_cases (h : reference? initial calls = some (epoch, nanos)) :
    (epoch = initial ∨ ∃ counter t, .set counter t ∈ calls ∧ t.utcEpoch = epoch) ∧
      ∃ call ∈ calls, (call.counter.toNat : Int) = nanos := by
  rw [reference?, Option.or_eq_some_iff] at h
  obtain last | ⟨_, first⟩ := h
  case inl =>
    have ⟨call, mem, set⟩ := List.mem_filterMap.mp (List.mem_of_getLast? last)
    match call with
    | .set counter t =>
      cases set
      exact ⟨.inr ⟨counter, t, mem, rfl⟩, _, mem, rfl⟩
  case inr =>
    have ⟨_, told, heq⟩ := Option.map_eq_some_iff.mp first
    cases heq
    have ⟨call, mem, get⟩ := List.mem_filterMap.mp (List.mem_of_head? told)
    match call with
    | .get counter zone daylight =>
      cases get
      exact ⟨.inl rfl, _, mem, rfl⟩

theorem Orderly.reference_near (h : Orderly (calls ++ [call])) (nonneg : 0 ≤ initial)
    (le : initial ≤ 9000000000)
    (href : reference? initial (calls ++ [call]) = some (epoch, nanos)) :
    (0 ≤ epoch ∧ epoch ≤ 9000000000) ∧ 0 ≤ nanos ∧ nanos ≤ call.counter.toNat := by
  have ⟨hepoch, earlier, mem, hnanos⟩ := reference?_cases href
  refine ⟨?epoch, by omega, ?nanos⟩
  case epoch =>
    obtain rfl | ⟨counter, t, mem, rfl⟩ := hepoch
    case inl => exact ⟨nonneg, le⟩
    case inr => exact h.near counter t mem
  case nanos =>
    have := h.counter_le mem
    omega

-- What holds of a virtual clock after the calls.
structure KeepsTime (initial : Int) (calls : List Call) (c : Clock δ) : Prop where
  isVirtual : c.config.isVirtual = true
  booting   : c.runtimeServices = none
  rtcOffset : c.rtcOffset = setEpoch initial calls
  tied      : c.counterOffset = (reference? initial calls).map fun r => offsetAt r.1 r.2

theorem keepsTime_ofBus {bus : δ} {config : Config} {stored : Option Int}
    (isVirtual : config.isVirtual = true) :
    KeepsTime (stored.getD config.buildEpoch) [] (ofBus bus config stored) :=
  ⟨isVirtual, rfl, rfl, rfl⟩

theorem KeepsTime.moved {c : Clock δ} (h : c.KeepsTime initial calls) (bus : δ) :
    KeepsTime initial calls { c with bus } :=
  ⟨h.isVirtual, h.booting, h.rtcOffset, h.tied⟩

-- An epoch that the clock keeps, counted on to a later reading of the counter, fits its words.
theorem fits_elapsed {now : Int} (epoch_nonneg : 0 ≤ epoch) (epoch_le : epoch ≤ 9000000000)
    (nonneg : 0 ≤ nanos) (le : nanos ≤ now) (lt : now < 2 ^ 56) :
    Fits (offsetAt epoch nanos) ∧ Fits (now + offsetAt epoch nanos) := by
  rw [add_offsetAt_elapsed, offsetAt, Fits, Fits, nanosPerSecond]
  omega

theorem elapsed_tdiv {now : Int} (nonneg : 0 ≤ epoch) (le : nanos ≤ now) :
    (now + offsetAt epoch nanos).tdiv nanosPerSecond =
      epoch + (now / nanosPerSecond - nanos / nanosPerSecond) := by
  have : nanos / nanosPerSecond ≤ now / nanosPerSecond := by
    rw [nanosPerSecond]
    omega
  rw [offsetAt, add_seconds_tdiv (by omega)]
  omega

namespace KeepsTime

variable {c : Clock δ}

-- The clock counts on from the reference, which the first reading provides if there is none yet.
theorem counts_on (h : c.KeepsTime initial calls)
    (href : reference? initial (calls ++ [.get counter zone daylight]) = some (epoch, nanos))
    (epoch_nonneg : 0 ≤ epoch) (epoch_le : epoch ≤ 9000000000) (nanos_nonneg : 0 ≤ nanos)
    (nanos_le : nanos ≤ counter.toNat) (lt : counter.toNat < 2 ^ 56) :
    ∃ c', (virtualEpoch counter.toNat).result c =
        (.done (epoch + (counter.toNat / nanosPerSecond - nanos / nanosPerSecond)), c') ∧
      c'.KeepsTime initial (calls ++ [.get counter zone daylight]) ∧ c'.bus = c.bus := by
  have ⟨fits, sum_fits⟩ := fits_elapsed epoch_nonneg epoch_le nanos_nonneg nanos_le (by omega)
  have hset := h.rtcOffset.trans (setEpoch_concat_get initial calls counter zone daylight).symm
  have before := reference?_concat_get initial calls counter zone daylight
  rw [href] at before
  rcases known : reference? initial calls with _ | ⟨epoch', nanos'⟩
  case none =>
    rw [known] at before
    cases before
    have untied : c.counterOffset = none := by rw [h.tied, known]; rfl
    have start : c.rtcOffset = initial := h.rtcOffset.trans (setEpoch_of_reference?_eq_none known)
    refine ⟨{ c with counterOffset := some (offsetAt initial counter.toNat) }, ?_, ?_, rfl⟩
    · rw [result_virtualEpoch_of_none untied start nanos_nonneg fits, Int.sub_self, Int.add_zero]
    · exact ⟨h.isVirtual, h.booting, hset, by rw [href]; rfl⟩
  case some =>
    rw [known] at before
    cases before
    have tied : c.counterOffset = some (offsetAt epoch nanos) := by rw [h.tied, known]; rfl
    refine ⟨c, ?_, ⟨h.isVirtual, h.booting, hset, by rw [href]; exact tied⟩, rfl⟩
    rw [result_virtualEpoch tied sum_fits, elapsed_tdiv epoch_nonneg nanos_le]

variable [RegisterBus δ]

theorem getTime (h : c.KeepsTime initial calls)
    (orderly : Orderly (calls ++ [.get counter zone daylight])) (nonneg : 0 ≤ initial)
    (le : initial ≤ 9000000000) :
    ∃ epoch nanos c',
      reference? initial (calls ++ [.get counter zone daylight]) = some (epoch, nanos) ∧
      (Clock.getTime counter zone daylight).result c =
        (.done (CalendarTime.atEpoch
          { zone, daylight, nanosecond := .ofNat (counter.toNat % 1000000000) }
          (epoch + (counter.toNat / nanosPerSecond - nanos / nanosPerSecond) +
            CalendarTime.localOffset zone daylight)), c') ∧
      c'.KeepsTime initial (calls ++ [.get counter zone daylight]) ∧ c'.bus = c.bus := by
  have lt : counter.toNat < 2 ^ 56 := orderly.counter_lt (.get counter zone daylight) (by simp)
  have ⟨epoch, nanos, href⟩ :
      ∃ epoch nanos,
        reference? initial (calls ++ [.get counter zone daylight]) = some (epoch, nanos) := by
    rw [reference?_concat_get]
    rcases reference? initial calls with _ | ⟨epoch, nanos⟩
    · exact ⟨_, _, rfl⟩
    · exact ⟨_, _, rfl⟩
  have ⟨⟨epoch_nonneg, epoch_le⟩, nanos_nonneg, nanos_le⟩ := orderly.reference_near nonneg le href
  have ⟨c', run, keeps, same⟩ :=
    h.counts_on href epoch_nonneg epoch_le nanos_nonneg nanos_le lt
  have ⟨offset_ge, offset_le⟩ := CalendarTime.localOffset_near zone daylight
  refine ⟨epoch, nanos, c', href, ?_, keeps, same⟩
  refine result_getTime_of_epoch (.of_booting h.booting) (by omega)
    (by rwa [h.isVirtual, if_pos rfl]) ?_
  simp only [secondsPerDay, secondsPerHour, secondsPerMinute] at offset_ge offset_le
  rw [Fits, nanosPerSecond]
  simp only [Call.counter] at nanos_le
  omega

theorem setTime (h : c.KeepsTime initial calls)
    (orderly : Orderly (calls ++ [.set counter t])) :
    ∃ c', (Clock.setTime counter t).result c = (.done (), c') ∧
      c'.KeepsTime initial (calls ++ [.set counter t]) ∧ c'.bus = c.bus := by
  have mem : Call.set counter t ∈ calls ++ [.set counter t] := by simp
  have lt : counter.toNat < 2 ^ 56 := orderly.counter_lt _ mem
  have ⟨nonneg, le⟩ := orderly.near _ _ mem
  have ⟨fits, _⟩ := fits_elapsed nonneg le (Int.natCast_nonneg counter.toNat) (Int.le_refl _)
    (by omega)
  refine ⟨_, result_setTime_of_virtual (orderly.valid _ _ mem) h.isVirtual (.of_booting h.booting)
    fits, ?_, rfl⟩
  refine ⟨h.isVirtual, h.booting, ?_, ?_⟩
  · rw [setEpoch_concat_set]
    rfl
  · rw [reference?_concat_set]
    rfl

end KeepsTime

theorem keepsTime_of_after [RegisterBus δ] {start c : Clock δ} (h : start.KeepsTime initial [])
    (after : After start calls c) (orderly : Orderly calls) (nonneg : 0 ≤ initial)
    (le : initial ≤ 9000000000) : c.KeepsTime initial calls := by
  induction after
  case refl => exact h
  case moved bus ih => exact (ih orderly).moved bus
  case call _ _ _ c' call _ ran _ ih =>
    have keeps := ih orderly.of_concat
    match call with
    | .get counter zone daylight =>
      have ⟨_, _, c'', _, run, keeps', _⟩ := keeps.getTime orderly nonneg le
      rw [Call.result_perform_get run] at ran
      cases ran
      exact keeps'
    | .set counter t =>
      have ⟨c'', run, keeps', _⟩ := keeps.setTime orderly
      rw [Call.result_perform_set run] at ran
      cases ran
      exact keeps'

-- Whatever calls a virtual clock has had, it holds the epoch that it was set to last, it can be set
-- again, and the time it tells is counted on from its reference. The hardware is left alone. No
-- number leaves its word: nothing would be trapped even if all of the arithmetic was watched.
theorem virtual_exact [RegisterBus δ] {bus : δ} {config : Config} {stored : Option Int}
    (isVirtual : config.isVirtual = true) (nonneg : 0 ≤ stored.getD config.buildEpoch)
    (le : stored.getD config.buildEpoch ≤ 9000000000) {c : Clock δ}
    (after : After (ofBus bus config stored) calls c) (orderly : Orderly calls) :
    (Watched.perform : Call → Action (Clock δ) _) = Call.perform ∧
    c.rtcOffset = setEpoch (stored.getD config.buildEpoch) calls ∧
    (∀ counter t, Orderly (calls ++ [.set counter t]) →
      ∃ c', (setTime counter t).result c = (.done (), c') ∧ c'.bus = c.bus) ∧
    ∀ counter zone daylight, Orderly (calls ++ [.get counter zone daylight]) →
      ∃ epoch nanos c',
        reference? (stored.getD config.buildEpoch) (calls ++ [.get counter zone daylight]) =
          some (epoch, nanos) ∧
        (getTime counter zone daylight).result c =
          (.done (CalendarTime.atEpoch
            { zone, daylight, nanosecond := .ofNat (counter.toNat % 1000000000) }
            (epoch + (counter.toNat / nanosPerSecond - nanos / nanosPerSecond) +
              CalendarTime.localOffset zone daylight)), c') ∧
        c'.bus = c.bus := by
  have keeps := keepsTime_of_after (keepsTime_ofBus isVirtual) after orderly nonneg le
  refine ⟨funext Watched.perform_eq, keeps.rtcOffset, ?set, ?get⟩
  case set =>
    intro counter t orderly'
    have ⟨c', run, _, same⟩ := keeps.setTime orderly'
    exact ⟨c', run, same⟩
  case get =>
    intro counter zone daylight orderly'
    have ⟨epoch, nanos, c', href, run, _, same⟩ := keeps.getTime orderly' nonneg le
    exact ⟨epoch, nanos, c', href, run, same⟩

-- A clock is read for the first time, set back by two years, and read again almost two seconds
-- later, when the counter has gone on by one second boundary.
theorem virtual_exact_set_back :
    ∃ c : Clock RegisterFile,
      After (ofBus ⟨fun _ => 0⟩ ⟨2000, true, false, 1700000000⟩ none)
        [.get 5500000000 60 0, .set 7200000000 { year := 2022 }] c ∧
      c.rtcOffset = 1640995200 ∧
      ∃ c', (getTime 8900000000 60 0).result c =
        (.done { year := 2022, hour := 1, second := 1, nanosecond := 900000000, zone := 60 }, c') ∧
        c'.bus = c.bus := by
  have first : After (ofBus (⟨fun _ => 0⟩ : RegisterFile) ⟨2000, true, false, 1700000000⟩ none)
      [.get 5500000000 60 0]
      ⟨⟨fun _ => 0⟩, ⟨2000, true, false, 1700000000⟩, some 1699999995000000000, 1700000000, none⟩ :=
    .call .refl rfl nofun
  have second : After (ofBus (⟨fun _ => 0⟩ : RegisterFile) ⟨2000, true, false, 1700000000⟩ none)
      [.get 5500000000 60 0, .set 7200000000 { year := 2022 }]
      ⟨⟨fun _ => 0⟩, ⟨2000, true, false, 1700000000⟩, some 1640995193000000000, 1640995200, none⟩ :=
    .call first rfl nofun
  have orderly : Orderly ([.get 5500000000 60 0, .set 7200000000 { year := 2022 }] ++
      [.get 8900000000 60 0]) := by
    constructor
    case valid =>
      intro counter t mem
      obtain ⟨rfl, rfl⟩ : counter = 7200000000 ∧ t = { year := 2022 } := by simpa using mem
      decide
    case near =>
      intro counter t mem
      obtain ⟨rfl, rfl⟩ : counter = 7200000000 ∧ t = { year := 2022 } := by simpa using mem
      decide
    case counter_lt => decide
    case ordered    => decide
  have ⟨_, offset, _, get⟩ := virtual_exact rfl (by decide) (by decide) second orderly.of_concat
  have ⟨epoch, nanos, c', href, run, same⟩ := get 8900000000 60 0 orderly
  cases href
  exact ⟨_, second, offset, c', run, same⟩

end BoardFirmware.Clock
