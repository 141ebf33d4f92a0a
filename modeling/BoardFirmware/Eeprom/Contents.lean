import BoardFirmware.Bytes.Layout

namespace BoardFirmware.Eeprom

def macAddressLength : Nat := 6
def boardIdLength : Nat := 4
def productIdLength : Nat := 30
def serialNumberLength : Nat := 15

abbrev MacAddress := Vector UInt8 macAddressLength

-- A part number such as `699-13668-0000-300 A.0`. The ID of the board is a part of it.
structure PartNumber where
  leading    : Vector UInt8 3
  separator0 : UInt8
  kind       : UInt8
  boardId    : Vector UInt8 boardIdLength
  separator1 : UInt8
  sku        : Vector UInt8 4
  separator2 : UInt8
  fab        : Vector UInt8 3
  separator3 : UInt8
  revision   : UInt8
  separator4 : UInt8
  ending     : UInt8
  pad        : Vector UInt8 8

namespace PartNumber

abbrev Fields :=
  Vector UInt8 3 × UInt8 × UInt8 × Vector UInt8 boardIdLength × UInt8 × Vector UInt8 4 × UInt8 ×
    Vector UInt8 3 × UInt8 × UInt8 × UInt8 × UInt8 × Vector UInt8 8

def fields (p : PartNumber) : Fields :=
  (p.leading, p.separator0, p.kind, p.boardId, p.separator1, p.sku, p.separator2, p.fab,
    p.separator3, p.revision, p.separator4, p.ending, p.pad)

def ofFields : Fields → PartNumber
  | (leading, separator0, kind, boardId, separator1, sku, separator2, fab, separator3, revision,
      separator4, ending, pad) =>
    ⟨leading, separator0, kind, boardId, separator1, sku, separator2, fab, separator3, revision,
      separator4, ending, pad⟩

instance : Layout PartNumber := .via fields ofFields

instance : LawfulLayout PartNumber := .via (fun _ => rfl) (fun _ => rfl)

theorem layout_size : Layout.size PartNumber = productIdLength := rfl

end PartNumber

-- Addresses that the customer has programmed.
structure CustomerBlock where
  blockSignature   : Vector UInt8 4
  blockLength      : UInt16
  typeSignature    : Vector UInt8 2
  version          : UInt16
  wifiAddress      : MacAddress
  bluetoothAddress : MacAddress
  macAddress       : MacAddress

namespace CustomerBlock

abbrev Fields :=
  Vector UInt8 4 × UInt16 × Vector UInt8 2 × UInt16 × MacAddress × MacAddress × MacAddress

def fields (c : CustomerBlock) : Fields :=
  (c.blockSignature, c.blockLength, c.typeSignature, c.version, c.wifiAddress, c.bluetoothAddress,
    c.macAddress)

def ofFields : Fields → CustomerBlock
  | (blockSignature, blockLength, typeSignature, version, wifi, bluetooth, macAddress) =>
    ⟨blockSignature, blockLength, typeSignature, version, wifi, bluetooth, macAddress⟩

instance : Layout CustomerBlock := .via fields ofFields

-- Whether there is such a block: it starts with `NVCB`, and its type is `M1`.
def IsPresent (c : CustomerBlock) : Prop :=
  c.blockSignature = #v[0x4e, 0x56, 0x43, 0x42] ∧ c.typeSignature = #v[0x4d, 0x31]

instance (c : CustomerBlock) : Decidable c.IsPresent := by
  unfold IsPresent
  infer_instance

end CustomerBlock

-- The contents of an EEPROM. The numbers of addresses are reserved bytes on chips that do not count
-- them.
structure Contents where
  version              : UInt16
  size                 : UInt16
  boardNumber          : UInt16
  sku                  : UInt16
  fab                  : UInt8
  revision             : UInt8
  minorRevision        : UInt8
  memoryType           : UInt8
  powerConfig          : UInt8
  miscConfig           : UInt8
  modemConfig          : UInt8
  touchConfig          : UInt8
  displayConfig        : UInt8
  reworkLevel          : UInt8
  reserved0            : UInt8
  addressCount         : UInt8
  partNumber           : PartNumber
  wifiAddress          : MacAddress
  bluetoothAddress     : MacAddress
  secondWifiAddress    : MacAddress
  macAddress           : MacAddress
  serialNumber         : Vector UInt8 serialNumberLength
  reserved1            : Vector UInt8 61
  customer             : CustomerBlock
  customerAddressCount : UInt8
  reserved2            : Vector UInt8 76
  crc                  : UInt8

namespace Contents

abbrev Fields :=
  UInt16 × UInt16 × UInt16 × UInt16 × UInt8 × UInt8 × UInt8 × UInt8 × UInt8 × UInt8 × UInt8 ×
    UInt8 × UInt8 × UInt8 × UInt8 × UInt8 × PartNumber × MacAddress × MacAddress × MacAddress ×
    MacAddress × Vector UInt8 serialNumberLength × Vector UInt8 61 × CustomerBlock × UInt8 ×
    Vector UInt8 76 × UInt8

def fields (c : Contents) : Fields :=
  (c.version, c.size, c.boardNumber, c.sku, c.fab, c.revision, c.minorRevision, c.memoryType,
    c.powerConfig, c.miscConfig, c.modemConfig, c.touchConfig, c.displayConfig, c.reworkLevel,
    c.reserved0, c.addressCount, c.partNumber, c.wifiAddress, c.bluetoothAddress,
    c.secondWifiAddress, c.macAddress, c.serialNumber, c.reserved1, c.customer,
    c.customerAddressCount, c.reserved2, c.crc)

def ofFields : Fields → Contents
  | (version, size, boardNumber, sku, fab, revision, minorRevision, memoryType, powerConfig,
      miscConfig, modemConfig, touchConfig, displayConfig, reworkLevel, reserved0, addressCount,
      partNumber, wifi, bluetooth, secondWifi, macAddress, serialNumber, reserved1, customer,
      customerAddressCount, reserved2, crc) =>
    ⟨version, size, boardNumber, sku, fab, revision, minorRevision, memoryType, powerConfig,
      miscConfig, modemConfig, touchConfig, displayConfig, reworkLevel, reserved0, addressCount,
      partNumber, wifi, bluetooth, secondWifi, macAddress, serialNumber, reserved1, customer,
      customerAddressCount, reserved2, crc⟩

instance : Layout Contents := .via fields ofFields

end Contents

-- The number of bytes of an EEPROM.
def imageSize : Nat := 256

theorem Contents.layout_size : Layout.size Contents = imageSize := rfl

end BoardFirmware.Eeprom
