import BoardFirmware.Eeprom.Image
import BoardFirmware.Proofs.Bytes.Slice

namespace BoardFirmware

namespace Layout

-- A pair at an offset is its first part there and its second part right after it.
theorem decode_drop [Layout α] [Layout β] (b : Bytes) (offset : Nat) :
    (decode (b.drop offset) : α × β) =
      (decode (b.slice offset (size α)), decode (b.drop (offset + size α))) := by
  rw [← List.drop_drop]
  rfl

theorem toList_decode {b : Bytes} (h : b.length = n) : (decode b : Vector UInt8 n).toList = b :=
  LawfulLayout.encode_decode (α := Vector UInt8 n) b h

end Layout

namespace Eeprom

open Layout

-- Where the fields of the smaller structures are, for those that are read.
section Parts

variable (b : Bytes)

theorem PartNumber.boardId_decode : (decode b : PartNumber).boardId = decode (b.slice 5 4) := by
  have tuple : (decode b : PartNumber) = ofFields (decode (b.drop 0)) := rfl
  rw [tuple]
  simp only [decode_drop]
  rfl

theorem CustomerBlock.blockSignature_decode :
    (decode b : CustomerBlock).blockSignature = decode (b.slice 0 4) :=
  rfl

theorem CustomerBlock.typeSignature_decode :
    (decode b : CustomerBlock).typeSignature = decode (b.slice 6 2) := by
  have tuple : (decode b : CustomerBlock) = ofFields (decode (b.drop 0)) := rfl
  rw [tuple]
  simp only [decode_drop]
  rfl

theorem CustomerBlock.macAddress_decode :
    (decode b : CustomerBlock).macAddress = decode (b.drop 22) := by
  have tuple : (decode b : CustomerBlock) = ofFields (decode (b.drop 0)) := rfl
  rw [tuple]
  simp only [decode_drop]
  rfl

end Parts

namespace Image

variable (i : Image)

theorem length_field {offset length : Nat} (le : offset + length ≤ imageSize) :
    (i.field offset length).length = length :=
  Bytes.length_slice_of_le (by rwa [i.length_toList])

theorem contents_eq : i.contents =
    { version              := decode (i.field 0 2)
      size                 := decode (i.field 2 2)
      boardNumber          := decode (i.field 4 2)
      sku                  := decode (i.field 6 2)
      fab                  := decode (i.field 8 1)
      revision             := decode (i.field 9 1)
      minorRevision        := decode (i.field 10 1)
      memoryType           := decode (i.field 11 1)
      powerConfig          := decode (i.field 12 1)
      miscConfig           := decode (i.field 13 1)
      modemConfig          := decode (i.field 14 1)
      touchConfig          := decode (i.field 15 1)
      displayConfig        := decode (i.field 16 1)
      reworkLevel          := decode (i.field 17 1)
      reserved0            := decode (i.field 18 1)
      addressCount         := decode (i.field 19 1)
      partNumber           := decode (i.field 20 30)
      wifiAddress          := decode (i.field 50 6)
      bluetoothAddress     := decode (i.field 56 6)
      secondWifiAddress    := decode (i.field 62 6)
      macAddress           := decode (i.field 68 6)
      serialNumber         := decode (i.field 74 15)
      reserved1            := decode (i.field 89 61)
      customer             := decode (i.field 150 28)
      customerAddressCount := decode (i.field 178 1)
      reserved2            := decode (i.field 179 76)
      crc                  := decode (i.field 255 1) } := by
  have tuple : i.contents = Contents.ofFields (decode (i.toList.drop 0)) := rfl
  have last : i.field 255 1 = i.toList.drop 255 := by
    refine List.take_of_length_le ?_
    rw [List.length_drop, i.length_toList]
    decide
  rw [tuple, last]
  simp only [decode_drop]
  rfl

-- A field of one byte.
theorem decode_field {offset : Nat} (lt : offset < imageSize) :
    (decode (i.field offset 1) : UInt8) = i[offset] := by
  have at_offset : i.toList.drop offset = i[offset] :: i.toList.drop (offset + 1) :=
    List.drop_eq_getElem_cons (by rwa [i.length_toList])
  rw [field, Bytes.slice, at_offset]
  rfl

theorem crc_eq : i.crc = i[255] := by
  rw [crc, contents_eq]
  exact i.decode_field (by decide)

theorem addressCount_eq : i.contents.addressCount = i[19] := by
  rw [contents_eq]
  exact i.decode_field (by decide)

theorem customerAddressCount_eq : i.contents.customerAddressCount = i[178] := by
  rw [contents_eq]
  exact i.decode_field (by decide)

theorem toList_of_eq {offset : Nat} {v : Vector UInt8 n} (h : v = decode (i.field offset n))
    (le : offset + n ≤ imageSize) : v.toList = i.field offset n :=
  h ▸ toList_decode (i.length_field le)

theorem toList_macAddress : i.contents.macAddress.toList = i.field 68 6 :=
  i.toList_of_eq (by rw [contents_eq]; rfl) (by decide)

theorem toList_serialNumber : i.contents.serialNumber.toList = i.field 74 15 :=
  i.toList_of_eq (by rw [contents_eq]; rfl) (by decide)

theorem encode_partNumber : encode i.contents.partNumber = i.field 20 30 := by
  rw [contents_eq]
  exact LawfulLayout.encode_decode _ (i.length_field (by decide))

theorem toList_boardId : i.contents.partNumber.boardId.toList = i.field 25 4 := by
  refine i.toList_of_eq ?_ (by decide)
  rw [contents_eq, PartNumber.boardId_decode, field, Bytes.slice_slice (by decide)]
  rfl

theorem toList_blockSignature : i.contents.customer.blockSignature.toList = i.field 150 4 := by
  refine i.toList_of_eq ?_ (by decide)
  rw [contents_eq, CustomerBlock.blockSignature_decode, field, Bytes.slice_slice (by decide)]
  rfl

theorem toList_typeSignature : i.contents.customer.typeSignature.toList = i.field 156 2 := by
  refine i.toList_of_eq ?_ (by decide)
  rw [contents_eq, CustomerBlock.typeSignature_decode, field, Bytes.slice_slice (by decide)]
  rfl

theorem toList_customer_macAddress : i.contents.customer.macAddress.toList = i.field 172 6 := by
  refine i.toList_of_eq ?_ (by decide)
  rw [contents_eq, CustomerBlock.macAddress_decode, field, Bytes.drop_slice]
  rfl

end Image

end Eeprom

end BoardFirmware
