import BoardFirmware.Acpi.Header
import BoardFirmware.Proofs.Bytes.Slice

namespace BoardFirmware

namespace Acpi

-- The operating system accepts the table, and finds its maker in it.
structure Complete (oemId : Vector UInt8 6) (table : Bytes) : Prop where
  size  : Header.size ≤ table.length
  sum   : table.sum = 0
  oemId : table.slice Header.oemIdOffset 6 = oemId.toList

theorem complete_of_withOemId {oemId : Vector UInt8 6} {b table : Bytes}
    (h : withOemId oemId b = .ok table) : Complete oemId table := by
  rw [withOemId] at h
  split at h
  case isTrue => contradiction
  case isFalse size =>
    cases h
    have size := Nat.not_lt.mp size
    constructor
    case size  => simpa using size
    case sum   => exact Bytes.sum_balanced (by simpa using Nat.lt_of_lt_of_le (by decide) size)
    case oemId =>
      rw [Bytes.slice_balanced _ (by decide)]
      exact Bytes.slice_patch oemId.length_toList (Nat.le_trans (by decide) size)

-- The table `b` with another OEM ID, and with the checksum that this takes.
def relabelled (oemId : Vector UInt8 6) (b : Bytes) : Bytes :=
  (b.patch Header.oemIdOffset oemId.toList).balanced Header.checksumOffset

-- The table is complete, and differs from `b` in nothing but its OEM ID and its checksum.
structure Relabels (oemId : Vector UInt8 6) (b table : Bytes) : Prop
    extends Complete oemId table where
  length : table.length = b.length
  kept   : ∀ i, i ≠ Header.checksumOffset →
    i < Header.oemIdOffset ∨ Header.oemIdOffset + 6 ≤ i → table[i]? = b[i]?

theorem withOemId_of_le {oemId : Vector UInt8 6} {b : Bytes} (h : Header.size ≤ b.length) :
    withOemId oemId b = .ok (relabelled oemId b) :=
  if_neg (Nat.not_lt.mpr h)

theorem withOemId_of_lt {oemId : Vector UInt8 6} {b : Bytes} (h : b.length < Header.size) :
    withOemId oemId b = .error .invalidParameter :=
  if_pos h

theorem relabels_relabelled {oemId : Vector UInt8 6} {b : Bytes} (h : Header.size ≤ b.length) :
    Relabels oemId b (relabelled oemId b) where
  toComplete := complete_of_withOemId (withOemId_of_le h)
  length     := by rw [relabelled, Bytes.length_balanced, Bytes.length_patch]
  kept i other outside := by
    have fits : Header.oemIdOffset + oemId.toList.length ≤ b.length :=
      Nat.le_trans (by rw [oemId.length_toList]; decide) h
    have beside : i < Header.oemIdOffset ∨ Header.oemIdOffset + oemId.toList.length ≤ i :=
      oemId.length_toList.symm ▸ outside
    rw [relabelled, Bytes.balanced, List.getElem?_set_ne other.symm,
      Bytes.getElem?_patch_of_outside fits beside]

namespace Header

variable (h : Header)

-- What comes before the checksum.
def front : Bytes :=
  Layout.encode h.signature.bytes ++ Layout.encode h.length ++ Layout.encode h.revision

-- What comes after the OEM ID.
def back : Bytes :=
  Layout.encode (h.oemTableId, h.oemRevision, h.creatorId, h.creatorRevision)

theorem length_front : h.front.length = checksumOffset := by
  simp only [front, List.length_append, LawfulLayout.length_encode]
  rfl

theorem encode_eq : Layout.encode h = h.front ++ h.checksum :: (h.oemId.toList ++ h.back) := by
  simp [Layout.encode, fields, front, back]

theorem encode_set_checksum (c : UInt8) :
    (Layout.encode h).set checksumOffset c = Layout.encode { h with checksum := c } := by
  rw [encode_eq, encode_eq, ← length_front h, List.set_append_right _ _ (Nat.le_refl _),
    Nat.sub_self]
  rfl

theorem slice_encode_oemId : (Layout.encode h).slice oemIdOffset 6 = h.oemId.toList := by
  have hf : (h.front ++ [h.checksum]).length = oemIdOffset := by simp [length_front]; rfl
  rw [encode_eq, List.append_cons, Bytes.slice, List.drop_left' hf, List.take_left' (by simp)]

end Header

end Acpi

end BoardFirmware
