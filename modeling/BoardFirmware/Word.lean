namespace BoardFirmware.Word

-- Sums and products, unless they leave their word.
def add16? (a b : UInt16) : Option UInt16 :=
  if a.toNat + b.toNat < UInt16.size then some (a + b) else none

def add32? (a b : UInt32) : Option UInt32 :=
  if a.toNat + b.toNat < UInt32.size then some (a + b) else none

def mul32? (a b : UInt32) : Option UInt32 :=
  if a.toNat * b.toNat < UInt32.size then some (a * b) else none

def add64? (a b : UInt64) : Option UInt64 :=
  if a.toNat + b.toNat < UInt64.size then some (a + b) else none

-- The integer itself, if it fits a signed 64-bit word.
def signed64? (n : Int) : Option Int :=
  if -0x8000000000000000 ≤ n ∧ n < 0x8000000000000000 then some n else none

-- The word read as a signed number.
def toSigned (w : UInt64) : Int :=
  Int.bmod w.toNat UInt64.size

theorem toNat32_pos {w : UInt32} (h : w ≠ 0) : 0 < w.toNat := by
  simpa [Nat.pos_iff_ne_zero, ← UInt32.toNat_inj] using h

theorem toNat64_pos {w : UInt64} (h : w ≠ 0) : 0 < w.toNat := by
  simpa [Nat.pos_iff_ne_zero, ← UInt64.toNat_inj] using h

theorem add16?_eq_some_iff : add16? a b = some c ↔ a.toNat + b.toNat = c.toNat := by
  have := c.toNat_lt
  have hs : UInt16.size = 2 ^ 16 := rfl
  rw [add16?]
  split
  · simp only [Option.some.injEq, ← UInt16.toNat_inj, UInt16.toNat_add]
    omega
  · simp only [reduceCtorEq, false_iff]
    omega

theorem add32?_eq_some_iff : add32? a b = some c ↔ a.toNat + b.toNat = c.toNat := by
  have := c.toNat_lt
  have hs : UInt32.size = 2 ^ 32 := rfl
  rw [add32?]
  split
  · simp only [Option.some.injEq, ← UInt32.toNat_inj, UInt32.toNat_add]
    omega
  · simp only [reduceCtorEq, false_iff]
    omega

theorem mul32?_eq_some_iff : mul32? a b = some c ↔ a.toNat * b.toNat = c.toNat := by
  have := c.toNat_lt
  have hs : UInt32.size = 2 ^ 32 := rfl
  rw [mul32?]
  split
  · simp only [Option.some.injEq, ← UInt32.toNat_inj, UInt32.toNat_mul]
    omega
  · simp only [reduceCtorEq, false_iff]
    omega

theorem add64?_eq_some_iff : add64? a b = some c ↔ a.toNat + b.toNat = c.toNat := by
  have := c.toNat_lt
  have hs : UInt64.size = 2 ^ 64 := rfl
  rw [add64?]
  split
  · simp only [Option.some.injEq, ← UInt64.toNat_inj, UInt64.toNat_add]
    omega
  · simp only [reduceCtorEq, false_iff]
    omega

theorem signed64?_eq_some_iff :
    signed64? n = some m ↔ m = n ∧ -0x8000000000000000 ≤ n ∧ n < 0x8000000000000000 := by
  rw [signed64?]
  split
  · simp_all [eq_comm]
  · simp_all

-- A word without its top bit reads as itself.
theorem toSigned_of_lt {w : UInt64} (lt : w.toNat < 0x8000000000000000) : toSigned w = w.toNat :=
  have size : (UInt64.size : Int) = 0x10000000000000000 := rfl
  Int.bmod_eq_of_le (by omega) (by omega)

end BoardFirmware.Word
