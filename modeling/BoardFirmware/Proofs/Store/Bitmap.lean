import BoardFirmware.Store.Bitmap
import Mathlib.Data.Nat.Bitwise

namespace BoardFirmware.Bitmap

variable {i j : UInt64}

theorem toNat_offset (i : UInt64) : offset i = i.toNat / 64 :=
  UInt64.toNat_div ..

theorem toNat_mask (i : UInt64) : (mask i).toNat = 2 ^ (i.toNat % 64) := by
  have lt : i.toNat % 64 < 64 := Nat.mod_lt _ (by decide)
  rw [mask, UInt64.toNat_shiftLeft, UInt64.toNat_mod, UInt64.toNat_one, Nat.one_shiftLeft]
  change 2 ^ (i.toNat % 64 % 64) % 2 ^ 64 = _
  rw [Nat.mod_eq_of_lt lt, Nat.mod_eq_of_lt (Nat.pow_lt_pow_right (by decide) lt)]

theorem and_mask_ne_zero (word i : UInt64) :
    (word &&& mask i != 0) = word.toNat.testBit (i.toNat % 64) := by
  have same : word &&& mask i = 0 ↔ word.toNat &&& 2 ^ (i.toNat % 64) = 0 := by
    rw [← UInt64.toNat_inj, UInt64.toNat_and, toNat_mask, UInt64.toNat_zero]
  rw [Bool.eq_iff_iff, bne_iff_ne, ne_eq, same, Nat.and_two_pow]
  cases word.toNat.testBit (i.toNat % 64) <;> simp

-- A bit is known by its word and its place in there.
theorem eq_iff_of_offset_eq (h : offset i = offset j) : i = j ↔ i.toNat % 64 = j.toNat % 64 := by
  rw [toNat_offset, toNat_offset] at h
  rw [← UInt64.toNat_inj]
  omega

-- The last word may have bits left over, but there is one for each that was asked for.
theorem test?_clear {bits : UInt64} (h : i < bits) : (clear bits).test? i = some false := by
  have lt : offset i < (bits.toNat + 63) / 64 := by
    have := UInt64.lt_iff_toNat_lt.mp h
    rw [toNat_offset]
    omega
  rw [test?, clear, List.getElem?_replicate_of_lt lt, Option.map_some, UInt64.zero_and]
  rfl

theorem test?_mark (b : Bitmap) (i j : UInt64) :
    (b.mark i).test? j = (b.test? j).map (· || decide (i = j)) := by
  rw [test?, mark, List.getElem?_modify, test?, Option.map_eq_map, Option.map_map, Option.map_map]
  congr 1
  funext word
  simp only [Function.comp_apply]
  by_cases same : offset i = offset j
  case pos =>
    rw [if_pos same, and_mask_ne_zero, and_mask_ne_zero, UInt64.toNat_or, Nat.testBit_or,
      toNat_mask, Nat.testBit_two_pow]
    simp only [eq_iff_of_offset_eq same]
  case neg =>
    have ne : i ≠ j := fun eq => same (congrArg offset eq)
    rw [if_neg same, decide_eq_false ne, Bool.or_false]

-- After several bits are marked, those are set that were before and those that are marked.
theorem test?_foldl_mark (marked : List UInt64) (b : Bitmap) (j : UInt64) :
    (marked.foldl mark b).test? j = (b.test? j).map (· || decide (j ∈ marked)) := by
  induction marked generalizing b
  case nil => simp
  case cons i rest ih =>
    rw [List.foldl_cons, ih, test?_mark, Option.map_map]
    congr 1
    funext set
    simp only [Function.comp_apply, List.mem_cons, Bool.decide_or, Bool.or_assoc, eq_comm (a := j)]

end BoardFirmware.Bitmap
