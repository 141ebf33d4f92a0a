import BoardFirmware.Platform.Counter
import Mathlib.Logic.Function.Iterate
import Mathlib.Order.Nat

/-!
Waiting by the counter. The wait ends with the first reading that is not before the deadline, and as
the nanoseconds go up with the ticks until they are cut to their word, there is one if the deadline
is ahead.
-/

namespace BoardFirmware.SystemCounter

-- The counter after so many readings.
def after (c : SystemCounter) (readings : Nat) : SystemCounter :=
  next^[readings] c

-- The whole nanoseconds of so many ticks, before they are cut to 64 bits.
def wholeNanoseconds (c : SystemCounter) (ticks : Nat) : Nat :=
  ticks * 1000000000 / max c.frequency.toNat 1

-- Of all readings from now on, that after `n` others is the first one not before the deadline.
structure ReachesAt (c : SystemCounter) (deadline : UInt64) (n : Nat) : Prop where
  reached : deadline ≤ (c.after n).nanoseconds
  before  : ∀ m < n, (c.after m).nanoseconds < deadline

variable {c c' : SystemCounter} {deadline microseconds : UInt64} {k n : Nat}

theorem after_succ (c : SystemCounter) (n : Nat) : c.after (n + 1) = c.next.after n :=
  Function.iterate_succ_apply next n c

theorem after_eq (c : SystemCounter) (n : Nat) :
    c.after n = { c with ticks := c.ticks + UInt64.ofNat n * c.step } := by
  induction n generalizing c
  case zero => simp [after]
  case succ n ih =>
    rw [after_succ, ih, next, UInt64.ofNat_add, UInt64.add_mul, UInt64.add_assoc,
      UInt64.add_comm c.step]
    simp

-- Once there have been as many readings as there are words, they come again.
theorem after_add_size (c : SystemCounter) (n : Nat) : c.after (n + UInt64.size) = c.after n := by
  rw [after_eq, after_eq, UInt64.ofNat_add, show UInt64.ofNat UInt64.size = 0 by decide,
    UInt64.add_zero]

theorem toNat_nanosecondsOf {ticks : UInt64} (h : c.wholeNanoseconds ticks.toNat < UInt64.size) :
    (nanosecondsOf c.frequency ticks).toNat = c.wholeNanoseconds ticks.toNat := by
  rw [nanosecondsOf, UInt64.toNat_ofNat']
  exact Nat.mod_eq_of_lt h

theorem wholeNanoseconds_le (c : SystemCounter) {ticks ticks' : Nat} (le : ticks ≤ ticks') :
    c.wholeNanoseconds ticks ≤ c.wholeNanoseconds ticks' :=
  Nat.div_le_div_right (Nat.mul_le_mul_right _ le)

theorem toNat_ticks_after (fits : c.ticks.toNat + n * c.step.toNat < UInt64.size) :
    (c.after n).ticks.toNat = c.ticks.toNat + n * c.step.toNat := by
  rw [after_eq]
  simp only [UInt64.toNat_add, UInt64.toNat_mul, UInt64.toNat_ofNat']
  rw [Nat.mod_mul_mod, Nat.add_mod_mod, Nat.mod_eq_of_lt fits]

theorem toNat_nanoseconds_after (fits : c.ticks.toNat + n * c.step.toNat < UInt64.size)
    (small : c.wholeNanoseconds (c.ticks.toNat + n * c.step.toNat) < UInt64.size) :
    (c.after n).nanoseconds.toNat = c.wholeNanoseconds (c.ticks.toNat + n * c.step.toNat) := by
  have ticks := toNat_ticks_after fits
  have frequency : (c.after n).frequency = c.frequency := by rw [after_eq]
  rw [← ticks] at small ⊢
  rw [nanoseconds, frequency, toNat_nanosecondsOf small]

theorem toNat_deadline (h : c.nanoseconds.toNat + 1000 * microseconds.toNat < UInt64.size) :
    (c.deadline microseconds).toNat = c.nanoseconds.toNat + 1000 * microseconds.toNat := by
  have size : UInt64.size = 0x10000000000000000 := rfl
  rw [SystemCounter.deadline, UInt64.toNat_ofNat', size]
  omega

-- A deadline that is reached is reached for the first time.
theorem exists_reachesAt (h : deadline ≤ (c.after k).nanoseconds) :
    ∃ n ≤ k, c.ReachesAt deadline n := by
  have found : ∃ n, deadline ≤ (c.after n).nanoseconds := ⟨k, h⟩
  exact ⟨Nat.find found, Nat.find_min' found h, Nat.find_spec found,
    fun m lt => UInt64.not_le.mp (Nat.find_min found lt)⟩

namespace ReachesAt

theorem zero_iff : c.ReachesAt deadline 0 ↔ deadline ≤ c.nanoseconds :=
  ⟨fun h => h.reached, fun h => ⟨h, nofun⟩⟩

theorem succ_iff (early : c.nanoseconds < deadline) :
    c.ReachesAt deadline (n + 1) ↔ c.next.ReachesAt deadline n := by
  refine ⟨fun ⟨reached, before⟩ => ⟨?_, fun m lt => ?_⟩, fun ⟨reached, before⟩ => ⟨?_, ?_⟩⟩
  · rwa [← after_succ]
  · rw [← after_succ]
    exact before (m + 1) (Nat.succ_lt_succ lt)
  · rwa [after_succ]
  · intro m lt
    cases m
    case zero   => exact early
    case succ m =>
      rw [after_succ]
      exact before m (Nat.lt_of_succ_lt_succ lt)

-- Not all words have been read before.
theorem lt_size (h : c.ReachesAt deadline n) : n < UInt64.size := by
  by_contra le
  have size : UInt64.size = 0x10000000000000000 := rfl
  have again := h.before (n - UInt64.size) (by omega)
  rw [← after_add_size, Nat.sub_add_cancel (Nat.le_of_not_lt le)] at again
  exact UInt64.not_le.mpr again h.reached

end ReachesAt

theorem readUntil_eq_some_iff {readings : Nat} :
    readUntil deadline readings c = some c' ↔
      ∃ n < readings, c.ReachesAt deadline n ∧ c' = c.after (n + 1) := by
  induction readings generalizing c
  case zero => simp [readUntil]
  case succ readings ih =>
    rw [readUntil, Nat.exists_lt_succ_left, ReachesAt.zero_iff]
    split
    case isTrue early =>
      simp only [ih, ReachesAt.succ_iff early, after_succ, UInt64.not_le.mpr early, false_and,
        false_or]
    case isFalse late =>
      have not_later (m : Nat) : ¬c.ReachesAt deadline (m + 1) := fun h =>
        late (h.before 0 (Nat.succ_pos m))
      have once : c.after (0 + 1) = c.next := rfl
      simp only [UInt64.not_lt.mp late, not_later, once, true_and, false_and, and_false,
        exists_false, or_false, Option.some.injEq, eq_comm]

-- The bound on the readings is never met: the counter comes back as soon as one of them is not
-- before the deadline, and does not come back only if none is.
theorem delay_eq_some_iff :
    c.delay microseconds = some c' ↔
      ∃ n, c.next.ReachesAt (c.deadline microseconds) n ∧ c' = c.next.after (n + 1) := by
  rw [delay, readUntil_eq_some_iff]
  exact exists_congr fun n => ⟨fun ⟨_, h⟩ => h, fun h => ⟨h.1.lt_size, h⟩⟩

-- If a reading that fits its word is not before the deadline, then none before it is cut either.
theorem toNat_nanoseconds_after_of_le (counts : c.ticks.toNat + k * c.step.toNat < UInt64.size)
    (fits : c.wholeNanoseconds (c.ticks.toNat + k * c.step.toNat) < UInt64.size) (le : n ≤ k) :
    (c.after n).nanoseconds.toNat = c.wholeNanoseconds (c.ticks.toNat + n * c.step.toNat) := by
  have ticks_le : c.ticks.toNat + n * c.step.toNat ≤ c.ticks.toNat + k * c.step.toNat :=
    Nat.add_le_add_left (Nat.mul_le_mul_right _ le) _
  exact toNat_nanoseconds_after (Nat.lt_of_le_of_lt ticks_le counts)
    (Nat.lt_of_le_of_lt (c.wholeNanoseconds_le ticks_le) fits)

-- A deadline that the counter reaches before its ticks or its nanoseconds leave their word is
-- waited for, and no longer: the last reading is not before it, and all others of the wait are. The
-- time that has passed in between is what the counter tells, since no reading is cut.
theorem delay_exact (c : SystemCounter) (microseconds : UInt64)
    (ends : c.nanoseconds.toNat + 1000 * microseconds.toNat < UInt64.size) (later : 1 ≤ k)
    (counts : c.ticks.toNat + k * c.step.toNat < UInt64.size)
    (fits : c.wholeNanoseconds (c.ticks.toNat + k * c.step.toNat) < UInt64.size)
    (reached : c.nanoseconds.toNat + 1000 * microseconds.toNat ≤
      c.wholeNanoseconds (c.ticks.toNat + k * c.step.toNat)) :
    ∃ n, 1 ≤ n ∧ n ≤ k ∧ c.delay microseconds = some (c.after (n + 1)) ∧
      c.nanoseconds.toNat + 1000 * microseconds.toNat ≤ (c.after n).nanoseconds.toNat ∧
      (∀ m, 1 ≤ m → m < n →
        (c.after m).nanoseconds.toNat < c.nanoseconds.toNat + 1000 * microseconds.toNat) ∧
      ∀ m ≤ n, (c.after m).nanoseconds.toNat =
        c.wholeNanoseconds (c.ticks.toNat + m * c.step.toNat) := by
  have deadline_eq := toNat_deadline ends
  obtain ⟨k, rfl⟩ := Nat.exists_eq_add_of_le' later
  have late : c.deadline microseconds ≤ (c.next.after k).nanoseconds := by
    rw [← after_succ, UInt64.le_iff_toNat_le, deadline_eq, toNat_nanoseconds_after counts fits]
    exact reached
  have ⟨n, le, first⟩ := exists_reachesAt late
  have le := Nat.succ_le_succ le
  refine ⟨n + 1, Nat.succ_pos n, le, ?ends, ?last, fun m pos lt => ?earlier,
    fun m le' => toNat_nanoseconds_after_of_le counts fits (le'.trans le)⟩
  case ends =>
    rw [after_succ]
    exact delay_eq_some_iff.mpr ⟨n, first, rfl⟩
  case last =>
    rw [after_succ, ← deadline_eq]
    exact UInt64.le_iff_toNat_le.mp first.reached
  case earlier =>
    obtain ⟨m, rfl⟩ := Nat.exists_eq_add_of_le' pos
    rw [after_succ, ← deadline_eq]
    exact UInt64.lt_iff_toNat_lt.mp (first.before m (Nat.lt_of_succ_lt_succ lt))

-- A counter that counts every 32 ns and is read every ten ticks.
def coarse : SystemCounter where
  ticks     := 1000
  step      := 10
  frequency := 31250000

-- A microsecond after 32000 ns the fourth reading of the wait is the first one that is late enough.
theorem delay_exact_coarse :
    coarse.delay 1 = some { coarse with ticks := 1050 } ∧
      (coarse.after 3).nanoseconds = 32960 ∧ (coarse.after 4).nanoseconds = 33280 := by
  have ⟨n, pos, le, delayed, last, _⟩ := delay_exact coarse 1 (k := 4) (by decide) (by decide)
    (by decide) (by decide) (by decide)
  have early : ∀ m < 4, (coarse.after m).nanoseconds.toNat < 33000 := by decide
  obtain rfl : n = 4 := by
    refine Nat.le_antisymm le (Nat.le_of_not_lt fun lt => ?_)
    exact Nat.not_lt.mpr last (early n lt)
  exact ⟨delayed, by decide, by decide⟩

end BoardFirmware.SystemCounter
