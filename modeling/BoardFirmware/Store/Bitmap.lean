namespace BoardFirmware

-- One bit for each number, in 64-bit words, the lowest number first.
structure Bitmap where
  words : List UInt64
  deriving DecidableEq

namespace Bitmap

-- A bitmap with at least so many bits, none of them set.
def clear (bits : UInt64) : Bitmap :=
  ⟨List.replicate ((bits.toNat + 63) / 64) 0⟩

-- The word in which a bit lies.
def offset (bit : UInt64) : Nat :=
  (bit / 64).toNat

-- The bit by itself, at its place in the word.
def mask (bit : UInt64) : UInt64 :=
  1 <<< (bit % 64)

-- Whether a bit is set, if there is a word for it.
def test? (b : Bitmap) (bit : UInt64) : Option Bool :=
  b.words[offset bit]?.map fun word => word &&& mask bit != 0

def mark (b : Bitmap) (bit : UInt64) : Bitmap :=
  ⟨b.words.modify (offset bit) (· ||| mask bit)⟩

end Bitmap

end BoardFirmware
