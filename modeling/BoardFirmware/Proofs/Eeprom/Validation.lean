import BoardFirmware.Proofs.Action.Result
import BoardFirmware.Proofs.Eeprom.Contents
import BoardFirmware.Proofs.Eeprom.Crc

namespace BoardFirmware.Eeprom

open BoardFirmware.Action

namespace Image

-- The image is one of the generation, and its CRC is that of its other bytes.
structure Valid (i : Image) (g : Generation) : Prop where
  version : i.version = g.version
  size    : g.minSize < i.size
  crc     : crc8 i.guarded = i.crc

-- Which bits of two images differ, those of the CRC included.
def changes (i j : Image) : List Bool :=
  Bytes.changes i.toList j.toList

variable {i j : Image} {g : Generation}

theorem valid_iff :
    i.Valid g ↔ i.version = g.version ∧ g.minSize < i.size ∧ crc8 i.guarded = i.crc :=
  ⟨fun ⟨version, size, crc⟩ => ⟨version, size, crc⟩,
    fun ⟨version, size, crc⟩ => ⟨version, size, crc⟩⟩

instance : Decidable (i.Valid g) :=
  decidable_of_iff _ valid_iff.symm

theorem toList_eq (i : Image) : i.toList = i.guarded ++ [i.crc] := by
  have length : i.toList.length = 256 := i.length_toList
  have last : i.toList.drop 255 = [i.crc] := by
    rw [List.drop_eq_getElem_cons (by omega), List.drop_of_length_le (by omega), crc_eq]
    rfl
  calc i.toList
    _ = i.toList.take 255 ++ i.toList.drop 255 := (List.take_append_drop ..).symm
    _ = i.guarded ++ [i.crc]                   := by rw [last]; rfl

-- The CRC cancels itself out of that over the whole image.
theorem Valid.crc8_toList (valid : i.Valid g) : crc8 i.toList = 0 := by
  rw [toList_eq, crc8_append, valid.crc, List.foldl_cons, List.foldl_nil, Crc8.absorb,
    UInt8.xor_self, Crc8.repeat_shift_eq_zero]

theorem Valid.remainder_changes {g' : Generation} (hi : i.Valid g) (hj : j.Valid g') :
    Crc8.remainder (i.changes j) = 0 := by
  rw [changes, Crc8.remainder_changes (by simp), hi.crc8_toList, hj.crc8_toList, UInt8.xor_self]

end Image

variable {i j : Image} {chip : Chip} {g : Generation}

theorem result_validate_of_valid (h : generation chip = .ok g) (valid : i.Valid g) (s : σ) :
    (validate i chip).result s = (.done (), s) := by
  have ⟨version, size, crc⟩ := valid
  have known : ¬(i.version ≠ g.version ∨ i.size ≤ g.minSize) := by
    rw [not_or, UInt16.not_le]
    exact ⟨not_not_intro version, size⟩
  rw [validate, h, result_bind_of_done (result_ofExcept_ok g s), if_neg known,
    if_neg (not_not_intro crc)]
  rfl

-- Whatever is wrong with an image, the device is blamed.
theorem result_validate_of_not_valid (h : generation chip = .ok g) (invalid : ¬i.Valid g) (s : σ) :
    (validate i chip).result s = (.failed .deviceError, s) := by
  rw [validate, h, result_bind_of_done (result_ofExcept_ok g s)]
  split
  case isTrue => rfl
  case isFalse known =>
    rw [not_or, not_not, UInt16.not_le] at known
    rw [if_pos fun crc => invalid ⟨known.1, known.2, crc⟩]
    rfl

theorem valid_of_validate {s t : σ} (h : (validate i chip).result s = (.done (), t)) :
    ∃ g, generation chip = .ok g ∧ i.Valid g := by
  cases hg : generation chip
  case error e =>
    rw [validate, hg] at h
    cases h
  case ok g =>
    refine ⟨g, rfl, ?_⟩
    by_contra invalid
    rw [result_validate_of_not_valid hg invalid] at h
    cases h

-- An image that differs from a valid one in an odd number of bits is refused, and so is any other
-- one if all the bits that differ lie within eight consecutive ones.
theorem validate_detects {s s' : σ} (accepted : (validate i chip).result s = (.done (), s'))
    (changed : Odd ((i.changes j).count true) ∨ j ≠ i ∧ Bytes.Burst 8 (i.changes j)) (t : τ) :
    (validate j chip).result t = (.failed .deviceError, t) := by
  have ⟨g, hg, valid⟩ := valid_of_validate accepted
  refine result_validate_of_not_valid hg (fun valid' => ?_) t
  have unnoticed := valid.remainder_changes valid'
  obtain odd | ⟨ne, burst⟩ := changed
  case inl => exact Crc8.not_odd_of_remainder unnoticed odd
  case inr =>
    have same := Bytes.eq_of_changes (by simp) (Crc8.eq_false_of_burst burst unnoticed)
    exact ne (Vector.toList_inj.mp same).symm

-- An image without a name or addresses, which is valid for a T234 board.
def Image.anonymous : Image :=
  (((Vector.replicate imageSize 0).setIfInBounds 0 2).setIfInBounds 2 252).setIfInBounds 255 0xa8

set_option maxRecDepth 4000 in
-- One bit of the version, one of the reserved bytes and one of the CRC are flipped, or all of eight
-- bits that two bytes share.
theorem validate_detects_flipped :
    (validate .anonymous .t234 : Action Unit Unit).result () = (.done (), ()) ∧
    (validate (((Image.anonymous.set 0 3).set 100 0x10).set 255 0x28) .t234).result () =
      (.failed .deviceError, ()) ∧
    (validate ((Image.anonymous.set 99 0xf0).set 100 0x0f) .t234).result () =
      (.failed .deviceError, ()) := by
  have valid : (validate .anonymous .t234 : Action Unit Unit).result () = (.done (), ()) :=
    result_validate_of_valid rfl (by decide +kernel) ()
  have three : (Image.anonymous.changes
      (((Image.anonymous.set 0 3).set 100 0x10).set 255 0x28)).count true = 3 := by
    decide +kernel
  have other : (Image.anonymous.set 99 0xf0).set 100 0x0f ≠ Image.anonymous := by
    intro same
    have byte := congrArg (·[99]) same
    simp [Image.anonymous] at byte
  have burst : Bytes.Burst 8
      (Image.anonymous.changes ((Image.anonymous.set 99 0xf0).set 100 0x0f)) :=
    Bytes.burst_iff.mpr ⟨796, by decide +kernel, by decide +kernel⟩
  exact ⟨valid, validate_detects valid (.inl (three ▸ by decide)) (),
    validate_detects valid (.inr ⟨other, burst⟩) ()⟩

end BoardFirmware.Eeprom
