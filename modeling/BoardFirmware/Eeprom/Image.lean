import BoardFirmware.Action
import BoardFirmware.Board
import BoardFirmware.Eeprom.Contents
import BoardFirmware.Eeprom.Crc
import BoardFirmware.Text.Hex

namespace BoardFirmware

namespace Eeprom

-- The bytes of an EEPROM.
abbrev Image := Vector UInt8 imageSize

-- What differs from one generation to the next.
structure Generation where
  version        : UInt16
  -- The size field of an image must be more than this.
  minSize        : UInt16
  -- Whether the image counts its MAC addresses. If not, there is one.
  countsAddresses : Bool
  deriving DecidableEq

def t194 : Generation := ⟨1, 178, false⟩
def t234 : Generation := ⟨2, 179, true⟩

-- The layout of the EEPROM beside a chip, if boards with the chip have one.
def generation : Chip → Except Status Generation
  | .t194  => .ok t194
  | .t234  => .ok t234
  | .t186  => .error .unsupported
  | .th500 => .error .unsupported

namespace Image

-- The bytes at an offset.
def field (i : Image) (offset length : Nat) : Bytes :=
  Bytes.slice i.toList offset length

def contents (i : Image) : Contents :=
  Layout.decode i.toList

def version (i : Image) : UInt16 := i.contents.version
def size (i : Image) : UInt16 := i.contents.size
def crc (i : Image) : UInt8 := i.contents.crc
-- What the CRC is computed over.
def guarded (i : Image) : Bytes := i.field 0 255

end Image

-- What an EEPROM says about its board.
structure BoardInfo where
  boardId      : Bytes
  productId    : Bytes
  serialNumber : Bytes
  -- The first of the addresses, which are consecutive.
  macAddress   : Bytes
  addressCount : UInt8
  deriving DecidableEq

-- The ASCII characters of a field that ends at its first NUL, as far as there is room for them.
def ascii : (room : Nat) → (field : Bytes) → Bytes
  | _, []           => []
  | room, byte :: r =>
    if byte = 0 then []
    else if 0x80 ≤ byte then ascii room r
    else if room = 0 then []
    else byte :: ascii (room - 1) r

-- Refuses an image of another version, one that is too short for its version, and one whose CRC is
-- wrong.
def validate (i : Image) (chip : Chip) : Action σ Unit := do
  let g ← Action.ofExcept (generation chip)
  if i.version ≠ g.version ∨ i.size ≤ g.minSize then
    let version := Text.hex i.version.toNat
    let size := Text.hex i.size.toNat
    Action.error s!"Invalid size/version in eeprom {version} {size}"
    throw .deviceError
  -- The CRC is looked at last, so it only speaks for images of a known layout.
  let expected := crc8 i.guarded
  if expected ≠ i.crc then
    let wanted := Text.paddedHex 2 expected.toNat
    let got := Text.paddedHex 2 i.crc.toNat
    Action.error s!"CRC mismatch, expected {wanted} got {got}"
    throw .deviceError

-- Identifies the board. Addresses that the customer has programmed come before the others.
def boardInfo (i : Image) (chip : Chip) : Except Status BoardInfo := do
  let g ← generation chip
  let c := i.contents
  let (macAddress, count) :=
    if c.customer.IsPresent then (c.customer.macAddress, c.customerAddressCount)
    else (c.macAddress, c.addressCount)
  return {
    boardId      := ascii boardIdLength c.partNumber.boardId.toList
    productId    := ascii productIdLength (Layout.encode c.partNumber)
    serialNumber := ascii serialNumberLength c.serialNumber.toList
    macAddress   := macAddress.toList
    addressCount := if g.countsAddresses then count else 1
  }

-- A device on an I²C bus.
class I2cDevice (δ : Type) where
  -- Writes bytes and then reads back as many as asked for.
  writeRead : (written : Bytes) → (length : Nat) → δ → Except Status Bytes × δ

-- Reads the image and, on silicon, validates it. Elsewhere there is no EEPROM, and what the device
-- provides in its place is taken as it is.
def read [I2cDevice δ] (chip : Chip) (kind : PlatformKind) : Action δ Image := do
  let bytes ← (Action.request <| I2cDevice.writeRead [0] imageSize).explaining fun e =>
    s!"Failed to read eeprom ({e})"
  let image : Image := ⟨(Bytes.fit imageSize bytes).toArray, by simp⟩
  if kind = .silicon then
    (validate image chip).explaining fun e => s!"Eeprom data validation failed ({e})"
  else
    Action.debug s!"Using generated eeprom data on {kind.name}"
  return image

end Eeprom

end BoardFirmware
