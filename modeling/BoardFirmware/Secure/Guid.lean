import BoardFirmware.Bytes.LittleEndian
import BoardFirmware.Text.Hex

namespace BoardFirmware

structure Guid where
  first  : UInt32
  second : UInt16
  third  : UInt16
  rest   : Vector UInt8 8
  deriving DecidableEq

namespace Guid

def text (g : Guid) : String :=
  let rest := g.rest.toList.map fun b => Text.hexDigits 2 b.toNat
  "-".intercalate [
    Text.hexDigits 8 g.first.toNat,
    Text.hexDigits 4 g.second.toNat,
    Text.hexDigits 4 g.third.toNat,
    String.join (rest.take 2),
    String.join (rest.drop 2)]

-- The bytes in the order of UEFI, which stores the first three fields as little-endian words.
def bytes (g : Guid) : Bytes :=
  Bytes.ofWord32 g.first ++ Bytes.ofWord16 g.second ++ Bytes.ofWord16 g.third ++ g.rest.toList

@[simp] theorem length_bytes (g : Guid) : g.bytes.length = 16 := by
  simp [bytes]

end Guid

end BoardFirmware
