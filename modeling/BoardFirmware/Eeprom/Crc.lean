import BoardFirmware.Bytes.Basic

/-!
The CRC-8 that guards EEPROM images. Bits go through the register lowest first, so the polynomial
x⁸ + x⁵ + x⁴ + 1 is written with its bits reversed.
-/

namespace BoardFirmware.Crc8

def polynomial : UInt8 := 0x8c

-- Moves one bit out of the register, and the polynomial in if the bit was set.
def shift (crc : UInt8) : UInt8 :=
  if crc &&& 1 ≠ 0 then (crc >>> 1) ^^^ polynomial else crc >>> 1

def absorb (crc byte : UInt8) : UInt8 :=
  Nat.repeat shift 8 (crc ^^^ byte)

end Crc8

def crc8 (b : Bytes) : UInt8 :=
  b.foldl Crc8.absorb 0

theorem crc8_append (a b : Bytes) : crc8 (a ++ b) = b.foldl Crc8.absorb (crc8 a) := by
  simp [crc8]

end BoardFirmware
