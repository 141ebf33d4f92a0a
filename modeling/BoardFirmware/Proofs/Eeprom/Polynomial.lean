import BoardFirmware.Proofs.Eeprom.Crc
import Mathlib

/-!
The CRC as a remainder. Bits are the coefficients of a polynomial over the field of two elements,
and the register, read against the order of its bits, holds the remainder of what has gone into it.
-/

namespace BoardFirmware.Crc8

open Polynomial

-- What messages are divided by.
noncomputable def generator : (ZMod 2)[X] :=
  X ^ 8 + X ^ 5 + X ^ 4 + 1

-- The polynomial of a message. The first bit belongs to the highest power.
noncomputable def ofBits : List Bool → (ZMod 2)[X]
  | []       => 0
  | bit :: r => C (bit.toNat : ZMod 2) * X ^ r.length + ofBits r

-- The polynomial of a byte. The lowest bit belongs to the lowest power.
noncomputable def ofByte (b : UInt8) : (ZMod 2)[X] :=
  ∑ k ∈ Finset.range 8, C ((b.toNat.testBit k).toNat : ZMod 2) * X ^ k

-- The byte with its bits in the opposite order.
def reversed (b : UInt8) : UInt8 :=
  .ofNat (Nat.ofBits fun k : Fin 8 => b.toNat.testBit (7 - k))

variable {u v : List Bool}

theorem degree_ofBits_lt (bits : List Bool) : (ofBits bits).degree < bits.length := by
  induction bits
  case nil            => exact bot_lt_iff_ne_bot.mpr nofun
  case cons bit r ih =>
    have longer : (r.length : WithBot Nat) < (bit :: r).length :=
      Nat.cast_lt.mpr (Nat.lt_succ_self _)
    have head :
        (C (bit.toNat : ZMod 2) * X ^ r.length).degree < ((bit :: r).length : WithBot Nat) :=
      (degree_C_mul_X_pow_le ..).trans_lt longer
    exact (degree_add_le ..).trans_lt (max_lt head (ih.trans longer))

-- A further bit moves all others up by one power.
theorem ofBits_concat (bits : List Bool) (bit : Bool) :
    ofBits (bits ++ [bit]) = ofBits bits * X + C (bit.toNat : ZMod 2) := by
  induction bits
  case nil          => simp [ofBits]
  case cons b r ih =>
    rw [List.cons_append, ofBits, ih, ofBits, List.length_append, List.length_singleton]
    ring

theorem ofBits_zipWith_xor (same : u.length = v.length) :
    ofBits (List.zipWith xor u v) = ofBits u + ofBits v := by
  have sum : ∀ a b : Bool, ((a ^^ b).toNat : ZMod 2) = a.toNat + b.toNat := by decide
  induction u generalizing v
  case nil =>
    rw [List.eq_nil_of_length_eq_zero same.symm]
    exact (add_zero _).symm
  case cons x u ih =>
    obtain _ | ⟨y, v⟩ := v
    case nil  => cases same
    case cons =>
      have same := Nat.succ.inj same
      rw [List.zipWith_cons_cons, ofBits, ih same, ofBits, ofBits, List.length_zipWith, same,
        Nat.min_self, sum, C_add]
      ring

theorem bitsOf_xor (a b : UInt8) :
    Bytes.bitsOf (a ^^^ b) = List.zipWith xor (Bytes.bitsOf a) (Bytes.bitsOf b) := by
  refine List.ext_getElem (by simp) fun k _ _ => ?_
  simp [Bytes.bitsOf]

-- The polynomial in the register.
noncomputable def held (crc : UInt8) : (ZMod 2)[X] :=
  ofBits (Bytes.bitsOf crc)

theorem degree_held_lt (crc : UInt8) : (held crc).degree < (8 : Nat) :=
  Bytes.length_bitsOf crc ▸ degree_ofBits_lt (Bytes.bitsOf crc)

theorem held_xor (a b : UInt8) : held (a ^^^ b) = held a + held b := by
  rw [held, bitsOf_xor, ofBits_zipWith_xor (by simp), held, held]

theorem held_eq (crc : UInt8) :
    held crc = ∑ k ∈ Finset.range 8, C ((crc.toNat.testBit k).toNat : ZMod 2) * X ^ (7 - k) := by
  simp only [held, Bytes.bitsOf, List.ofFn_succ, List.ofFn_zero, ofBits, List.length_cons,
    List.length_nil, Finset.sum_range_succ, Finset.sum_range_zero, Fin.val_succ, Fin.val_zero]
  ring

theorem testBit_reversed (b : UInt8) {k : Nat} (lt : k < 8) :
    (reversed b).toNat.testBit k = b.toNat.testBit (7 - k) := by
  rw [reversed, UInt8.toNat_ofNat', Nat.mod_eq_of_lt (Nat.ofBits_lt_two_pow _),
    Nat.testBit_ofBits_lt _ k lt]

theorem ofByte_reversed (crc : UInt8) : ofByte (reversed crc) = held crc := by
  rw [ofByte, held_eq, ← Finset.sum_range_reflect]
  refine Finset.sum_congr rfl fun k mem => ?_
  have lt := Finset.mem_range.mp mem
  rw [testBit_reversed crc (by omega), show 7 - (8 - 1 - k) = k by omega,
    show 8 - 1 - k = 7 - k by rfl]

theorem held_shiftRight (crc : UInt8) :
    X * held crc = held (crc >>> 1) + C ((crc.toNat.testBit 0).toNat : ZMod 2) * X ^ 8 := by
  have bit (k : Nat) : (crc >>> 1).toNat.testBit k = crc.toNat.testBit (1 + k) := by
    rw [UInt8.toNat_shiftRight, Nat.testBit_shiftRight]
    rfl
  have out : crc.toNat.testBit 8 = false := Nat.testBit_lt_two_pow crc.toNat_lt
  rw [held_eq, held_eq]
  simp only [bit, Finset.sum_range_succ, Finset.sum_range_zero, out, Bool.toNat_false]
  simp
  ring

theorem held_polynomial : held polynomial = X ^ 5 + X ^ 4 + 1 := by
  have bits : Bytes.bitsOf polynomial =
      [false, false, true, true, false, false, false, true] := by decide
  rw [held, bits]
  simp [ofBits, add_assoc]

-- To move the register on is to multiply by `X` and to take the generator away from what overflows.
theorem held_shift (crc : UInt8) :
    X * held crc = held (shift crc) + C ((crc.toNat.testBit 0).toNat : ZMod 2) * generator := by
  have two : (2 : (ZMod 2)[X]) = 0 := CharTwo.two_eq_zero
  rw [held_shiftRight, shift_eq, held_xor]
  cases crc.toNat.testBit 0
  case false => simp [feedback, held_eq]
  case true =>
    rw [show feedback true = polynomial from rfl, held_polynomial, generator, Bool.toNat_true,
      Nat.cast_one, C_1]
    linear_combination -(X ^ 5 + X ^ 4 + 1) * two

-- A bit that goes in is added at the end of what is held already, eight powers up.
theorem held_absorbBit (crc : UInt8) (bit : Bool) :
    generator ∣ held crc * X + C (bit.toNat : ZMod 2) * X ^ 8 - held (absorbBit crc bit) := by
  have bits : Bytes.bitsOf bit.toUInt8 = bit :: List.replicate 7 false := by
    cases bit <;> decide
  have first : held bit.toUInt8 = C (bit.toNat : ZMod 2) * X ^ 7 := by
    rw [held, bits]
    simp [ofBits]
  refine ⟨C (((crc ^^^ bit.toUInt8).toNat.testBit 0).toNat : ZMod 2), ?_⟩
  have moved := held_shift (crc ^^^ bit.toUInt8)
  rw [held_xor, first] at moved
  rw [absorbBit]
  linear_combination moved

-- What is held is the message but for multiples of the generator.
theorem generator_dvd (bits : List Bool) :
    generator ∣ ofBits bits * X ^ 8 - held (remainder bits) := by
  induction bits using List.reverseRecOn
  case nil => simp [ofBits, remainder, held_eq]
  case append_singleton bits bit ih =>
    obtain ⟨p, hp⟩ := ih
    obtain ⟨q, hq⟩ := held_absorbBit (remainder bits) bit
    have last : remainder (bits ++ [bit]) = absorbBit (remainder bits) bit := by
      rw [remainder, List.foldl_append]
      rfl
    refine ⟨p * X + q, ?_⟩
    rw [ofBits_concat, last]
    linear_combination X * hp + hq

theorem generator_monic : generator.Monic := by
  unfold generator
  monicity!

theorem held_remainder (bits : List Bool) :
    held (remainder bits) = ofBits bits * X ^ 8 %ₘ generator := by
  have degree : generator.degree = 8 := by
    unfold generator
    compute_degree!
  have reduced := (modByMonic_eq_self_iff generator_monic).mpr <|
    (degree_held_lt (remainder bits)).trans_eq degree.symm
  rw [← reduced]
  exact (modByMonic_eq_of_dvd_sub generator_monic (generator_dvd bits)).symm

-- A byte that follows a message leaves nothing in the register exactly if it is what the message
-- has left there.
theorem crc8_concat_eq_zero_iff (b : Bytes) (c : UInt8) : crc8 (b ++ [c]) = 0 ↔ c = crc8 b := by
  rw [crc8_append, List.foldl_cons, List.foldl_nil, absorb, repeat_shift_eq_zero,
    UInt8.xor_eq_zero_iff, eq_comm]

-- The CRC of a message is the remainder of its polynomial, with the bits in the opposite order. So
-- a message that is followed by its CRC is divisible, and one that is followed by another byte is
-- not.
theorem crc8_eq_remainder (b : Bytes) :
    ofByte (reversed (crc8 b)) = ofBits b.bits * X ^ 8 %ₘ generator ∧
      ∀ c, crc8 (b ++ [c]) = 0 ↔ c = crc8 b := by
  refine ⟨?_, crc8_concat_eq_zero_iff b⟩
  rw [ofByte_reversed, crc8_eq, held_remainder]

-- The CRC of the digits from 1 to 9, by which variants of CRCs are told apart.
example : crc8 [0x31, 0x32, 0x33, 0x34, 0x35, 0x36, 0x37, 0x38, 0x39] = 0xa1 := by decide +kernel

end BoardFirmware.Crc8
