import BoardFirmware.Bytes.Checksum

namespace BoardFirmware.Bytes

-- A piece of the start of a longer string is a piece of the string.
theorem slice_of_prefix {a b : Bytes} (h : a <+: b) (le : offset + length ≤ a.length) :
    b.slice offset length = a.slice offset length := by
  have ⟨rest, h⟩ := h
  rw [slice, slice, ← h, List.drop_append_of_le_length (by omega),
    List.take_append_of_le_length (by simp; omega)]

theorem slice_append_right (a b : Bytes) (offset length : Nat) :
    (a ++ b).slice (a.length + offset) length = b.slice offset length := by
  simp [slice]

theorem slice_add (b : Bytes) (offset length length' : Nat) :
    b.slice offset (length + length') =
      b.slice offset length ++ b.slice (offset + length) length' := by
  rw [slice, slice, slice, List.take_add, List.drop_drop]

theorem drop_slice (b : Bytes) (offset length k : Nat) :
    (b.slice offset length).drop k = b.slice (offset + k) (length - k) := by
  rw [slice, slice, List.drop_take, List.drop_drop]

theorem slice_slice {b : Bytes} (le : offset' + length' ≤ length) :
    (b.slice offset length).slice offset' length' = b.slice (offset + offset') length' := by
  rw [slice, drop_slice, slice, slice, List.take_take, Nat.min_eq_left (by omega)]

theorem slice_succ {b : Bytes} (lt : offset < b.length) (length : Nat) :
    b.slice offset (length + 1) = b.getD offset 0 :: b.slice (offset + 1) length := by
  have first : b[offset] = b.getD offset 0 := by
    rw [List.getD_eq_getElem?_getD, List.getElem?_eq_getElem lt, Option.getD_some]
  rw [slice, List.drop_eq_getElem_cons lt, List.take_succ_cons, first, slice]

theorem chunks_eq_map_range (pos : 0 < size) {b : Bytes} (h : b.length = size * count) :
    b.chunks size = (List.range count).map fun k => b.slice (size * k) size := by
  induction count generalizing b
  case zero =>
    rw [List.eq_nil_of_length_eq_zero h, chunks_nil]
    rfl
  case succ count ih =>
    have long : size ≤ b.length := h ▸ Nat.le_mul_of_pos_right size count.succ_pos
    have rest : (b.drop size).length = size * count := by
      rw [List.length_drop, h, Nat.mul_succ, Nat.add_sub_cancel]
    have split : b.chunks size = b.take size :: chunks size (b.drop size) := by
      have first := chunks_append pos (List.length_take_of_le long) (b.drop size)
      rwa [List.take_append_drop] at first
    rw [split, ih rest, List.range_succ_eq_map, List.map_cons, List.map_map]
    refine congrArg (List.cons _) (List.map_congr_left fun k _ => ?_)
    rw [slice, List.drop_drop, Function.comp_apply, slice, Nat.mul_succ, Nat.add_comm]

theorem slice_patch {b source : Bytes} (hl : source.length = length)
    (h : offset + length ≤ b.length) : (b.patch offset source).slice offset length = source := by
  subst hl
  have ht : (b.take offset).length = offset := List.length_take_of_le (by omega)
  have hs : source.take (b.drop offset).length = source := List.take_of_length_le (by simp; omega)
  rw [slice, patch, List.drop_left' ht, overlay, hs, List.take_left]

-- What is copied over the start of a string takes its place, byte by byte.
theorem getElem?_overlay {b source : Bytes} (le : source.length ≤ b.length) (i : Nat) :
    (b.overlay source)[i]? = if i < source.length then source[i]? else b[i]? := by
  rw [overlay, List.take_of_length_le le, List.getElem?_append]
  split
  case isTrue => rfl
  case isFalse h =>
    rw [List.getElem?_drop, Nat.add_sub_cancel' (Nat.le_of_not_lt h)]

theorem getElem?_patch_of_outside {b source : Bytes} (le : offset + source.length ≤ b.length)
    (outside : i < offset ∨ offset + source.length ≤ i) :
    (b.patch offset source)[i]? = b[i]? := by
  have length : (b.take offset).length = offset := List.length_take_of_le (by omega)
  rw [patch, List.getElem?_append, length]
  split
  case isTrue h => rw [List.getElem?_take_of_lt h]
  case isFalse h =>
    rw [getElem?_overlay (by simp; omega), if_neg (by omega), List.getElem?_drop,
      Nat.add_sub_cancel' (Nat.le_of_not_lt h)]

-- Of two strings that are copied to one place, the second one stays.
theorem overlay_overlay {b source source' : Bytes} (same : source'.length = source.length)
    (le : source.length ≤ b.length) : (b.overlay source).overlay source' = b.overlay source' := by
  have first : source.take b.length = source := List.take_of_length_le le
  have rest : (source ++ b.drop source.length).drop source'.length = b.drop source'.length := by
    rw [List.drop_left' same.symm, same]
  rw [overlay, length_overlay, overlay, overlay, first, rest]

theorem patch_patch {b source source' : Bytes} (same : source'.length = source.length)
    (le : offset + source.length ≤ b.length) :
    (b.patch offset source).patch offset source' = b.patch offset source' := by
  have length : (b.take offset).length = offset := List.length_take_of_le (by omega)
  have fits : source.length ≤ (b.drop offset).length := by simp; omega
  rw [patch, patch, patch, List.take_left' length, List.drop_left' length,
    overlay_overlay same fits]

-- A byte before the place is left alone, so it does not matter when it is set.
theorem patch_set {b : Bytes} (before : k < offset) (lt : k < b.length) (c : UInt8)
    (source : Bytes) : patch (b.set k c) offset source = (b.patch offset source).set k c := by
  have inside : k < (b.take offset).length := by simp; omega
  rw [patch, patch, List.take_set, List.drop_set_of_lt before, List.set_append_left _ _ inside]

-- What the balancing byte was before does not matter.
theorem balanced_set (b : Bytes) (c : UInt8) : balanced k (b.set k c) = b.balanced k := by
  rw [balanced, balance, List.eraseIdx_set_eq, List.set_set, balanced, balance]

theorem slice_balanced (b : Bytes) (h : k < offset) :
    (b.balanced k).slice offset length = b.slice offset length := by
  rw [slice, slice, balanced, List.drop_set_of_lt h]

theorem balanced_append_left {a : Bytes} (h : offset < a.length) (b : Bytes) :
    (a ++ b).balanced offset = a.set offset ((a ++ b).balance offset) ++ b :=
  List.set_append_left _ _ h

end BoardFirmware.Bytes
