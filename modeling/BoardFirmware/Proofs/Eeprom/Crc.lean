import BoardFirmware.Eeprom.Crc
import BoardFirmware.Proofs.Bytes.Bits
import Mathlib.Algebra.Ring.Parity

/-!
The CRC as a register into which a message goes bit by bit. What is left there is linear in the
message: that of the differences between two messages is the difference between what they leave. So
changes to a message go unnoticed only if they would leave nothing by themselves. An odd number of
changes leaves something because the polynomial has an even number of terms, and changes that are
close together because they are not shifted out of the register.
-/

namespace BoardFirmware.Crc8

-- What the bit that leaves the register adds to it.
def feedback (bit : Bool) : UInt8 :=
  if bit then polynomial else 0

-- One bit goes into the register.
def absorbBit (crc : UInt8) (bit : Bool) : UInt8 :=
  shift (crc ^^^ bit.toUInt8)

-- What is left in the register after the bits.
def remainder (bits : List Bool) : UInt8 :=
  bits.foldl absorbBit 0

-- How many bits of the register are set.
def weight (crc : UInt8) : Nat :=
  (Bytes.bitsOf crc).count true

variable {crc : UInt8} {u v w : List Bool}

theorem shift_eq (crc : UInt8) : shift crc = (crc >>> 1) ^^^ feedback (crc.toNat.testBit 0) := by
  obtain ⟨b⟩ := crc
  revert b
  decide +kernel

theorem shift_eq_zero_iff : shift crc = 0 ↔ crc = 0 := by
  obtain ⟨b⟩ := crc
  revert b
  decide +kernel

theorem absorb_zero (byte : UInt8) : absorb 0 byte = remainder (Bytes.bitsOf byte) := by
  obtain ⟨b⟩ := byte
  revert b
  decide +kernel

-- The polynomial and the bit that it is added for are even together.
theorem weight_absorbBit (crc : UInt8) (bit : Bool) :
    weight (absorbBit crc bit) % 2 = (weight crc + bit.toNat) % 2 := by
  obtain ⟨b⟩ := crc
  revert b bit
  decide +kernel

theorem xor_xor_xor_comm (a b c d : UInt8) : a ^^^ b ^^^ (c ^^^ d) = a ^^^ c ^^^ (b ^^^ d) := by
  ac_rfl

theorem shift_xor (a b : UInt8) : shift (a ^^^ b) = shift a ^^^ shift b := by
  have linear : ∀ x y, feedback (x ^^ y) = feedback x ^^^ feedback y := by decide
  rw [shift_eq, shift_eq, shift_eq, UInt8.shiftRight_xor, UInt8.toNat_xor, Nat.testBit_xor, linear,
    xor_xor_xor_comm]

theorem absorbBit_xor (r s : UInt8) (a b : Bool) :
    absorbBit (r ^^^ s) (a ^^ b) = absorbBit r a ^^^ absorbBit s b := by
  have linear : ∀ x y : Bool, (x ^^ y).toUInt8 = x.toUInt8 ^^^ y.toUInt8 := by decide
  rw [absorbBit, absorbBit, absorbBit, linear, xor_xor_xor_comm, shift_xor]

theorem foldl_absorbBit_xor (same : u.length = v.length) (r s : UInt8) :
    (List.zipWith xor u v).foldl absorbBit (r ^^^ s) =
      u.foldl absorbBit r ^^^ v.foldl absorbBit s := by
  induction u generalizing v r s
  case nil =>
    rw [List.eq_nil_of_length_eq_zero same.symm]
    rfl
  case cons x u ih =>
    obtain _ | ⟨y, v⟩ := v
    case nil  => cases same
    case cons =>
      rw [List.zipWith_cons_cons, List.foldl_cons, absorbBit_xor, ih (Nat.succ.inj same)]
      rfl

-- Bits that are not set only move the register on.
theorem foldl_absorbBit_unset (crc : UInt8) (n : Nat) :
    (List.replicate n false).foldl absorbBit crc = Nat.repeat shift n crc := by
  induction n
  case zero      => rfl
  case succ n ih =>
    have step (r : UInt8) : absorbBit r false = shift r := congrArg shift UInt8.xor_zero
    rw [List.replicate_succ', List.foldl_append, ih]
    exact step _

theorem repeat_shift_xor (n : Nat) (a b : UInt8) :
    Nat.repeat shift n (a ^^^ b) = Nat.repeat shift n a ^^^ Nat.repeat shift n b := by
  induction n
  case zero      => rfl
  case succ n ih => exact (congrArg shift ih).trans (shift_xor _ _)

-- Only an empty register becomes empty by being moved on.
theorem repeat_shift_eq_zero {n : Nat} : Nat.repeat shift n crc = 0 ↔ crc = 0 := by
  induction n
  case zero      => exact Iff.rfl
  case succ n ih => exact shift_eq_zero_iff.trans ih

-- What was in the register before is moved on, whatever comes after it.
theorem foldl_absorbBit_eq (w : List Bool) (crc : UInt8) :
    w.foldl absorbBit crc = Nat.repeat shift w.length crc ^^^ remainder w := by
  have unset : List.zipWith xor (List.replicate w.length false) w = w := by
    induction w
    case nil         => rfl
    case cons x w ih =>
      rw [List.length_cons, List.replicate_succ, List.zipWith_cons_cons, ih, Bool.false_xor]
  have sum := foldl_absorbBit_xor (List.length_replicate (n := w.length) (a := false)) crc 0
  rwa [unset, foldl_absorbBit_unset, UInt8.xor_zero] at sum

theorem remainder_bitsOf (byte : UInt8) :
    remainder (Bytes.bitsOf byte) = Nat.repeat shift 8 byte := by
  rw [← absorb_zero, absorb, UInt8.zero_xor]

-- A byte that goes into the register at once goes in bit by bit.
theorem absorb_eq (crc byte : UInt8) :
    absorb crc byte = (Bytes.bitsOf byte).foldl absorbBit crc := by
  rw [foldl_absorbBit_eq, Bytes.length_bitsOf, remainder_bitsOf, absorb, repeat_shift_xor]

theorem crc8_eq (b : Bytes) : crc8 b = remainder b.bits := by
  have run (r : UInt8) : b.foldl absorb r = b.bits.foldl absorbBit r := by
    induction b generalizing r
    case nil         => rfl
    case cons x b ih => rw [List.foldl_cons, ih, absorb_eq, Bytes.bits_cons, List.foldl_append]
  exact run 0

theorem remainder_changes {a b : Bytes} (same : a.length = b.length) :
    remainder (Bytes.changes a b) = crc8 a ^^^ crc8 b := by
  rw [crc8_eq, crc8_eq]
  exact foldl_absorbBit_xor (by simp [same]) 0 0

theorem weight_foldl (w : List Bool) (crc : UInt8) :
    weight (w.foldl absorbBit crc) % 2 = (weight crc + w.count true) % 2 := by
  induction w generalizing crc
  case nil => rfl
  case cons x w ih =>
    have count : (x :: w).count true = w.count true + x.toNat := by
      cases x <;> simp
    have step := weight_absorbBit crc x
    rw [List.foldl_cons, ih, count]
    omega

-- If nothing is left, the number of bits that are set is even.
theorem not_odd_of_remainder (h : remainder w = 0) : ¬Odd (w.count true) := by
  have even := weight_foldl w 0
  rw [show w.foldl absorbBit 0 = 0 from h] at even
  rw [Nat.not_odd_iff]
  simpa [weight, Bytes.bitsOf] using even.symm

-- The bits that are not set before the others and after them do not matter.
theorem remainder_of_unset {before after : List Bool} (hb : ∀ bit ∈ before, bit = false)
    (ha : ∀ bit ∈ after, bit = false) (h : remainder (before ++ (w ++ after)) = 0) :
    remainder w = 0 := by
  rw [List.eq_replicate_of_mem hb, List.eq_replicate_of_mem ha, remainder, List.foldl_append,
    List.foldl_append, foldl_absorbBit_unset, foldl_absorbBit_unset, repeat_shift_eq_zero] at h
  rwa [repeat_shift_eq_zero.mpr rfl] at h

-- No more bits than the register has leave something in it, unless none of them is set.
theorem eq_false_of_short (short : w.length ≤ 8) (h : remainder w = 0) :
    ∀ bit ∈ w, bit = false := by
  obtain ⟨byte, full⟩ := Bytes.exists_bitsOf (w := w ++ List.replicate (8 - w.length) false)
    (by simp; omega)
  have moved : remainder (Bytes.bitsOf byte) = 0 := by
    rw [full, remainder, List.foldl_append, foldl_absorbBit_unset, repeat_shift_eq_zero]
    exact h
  rw [remainder_bitsOf, repeat_shift_eq_zero] at moved
  have unset : ∀ bit ∈ Bytes.bitsOf 0, bit = false := by decide
  rw [← moved, full] at unset
  exact fun bit mem => unset bit (List.mem_append_left _ mem)

-- A burst that is no longer than the register leaves something in it.
theorem eq_false_of_burst (burst : Bytes.Burst 8 w) (h : remainder w = 0) :
    ∀ bit ∈ w, bit = false := by
  have ⟨start, before, after⟩ := Bytes.burst_iff.mp burst
  have parts : w = w.take start ++ ((w.drop start).take 8 ++ w.drop (start + 8)) := by
    rw [← List.drop_drop, List.take_append_drop, List.take_append_drop]
  rw [parts] at h ⊢
  have inside := eq_false_of_short (List.length_take_le ..) (remainder_of_unset before after h)
  simp only [List.forall_mem_append]
  exact ⟨before, inside, after⟩

end BoardFirmware.Crc8
