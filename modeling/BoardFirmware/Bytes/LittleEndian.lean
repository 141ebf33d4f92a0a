import BoardFirmware.Bytes.Basic

namespace BoardFirmware.Bytes

-- The `width` lowest bytes of `n`, the least significant first.
def ofNat : (width : Nat) → (n : Nat) → Bytes
  | 0, _         => []
  | width + 1, n => UInt8.ofNat n :: ofNat width (n / 256)

def toNat : Bytes → Nat
  | []     => 0
  | b :: r => b.toNat + 256 * toNat r

@[simp] theorem length_ofNat (width n : Nat) : (ofNat width n).length = width := by
  induction width generalizing n <;> simp_all [ofNat]

theorem toNat_lt (b : Bytes) : toNat b < Nat.pow 256 b.length := by
  induction b with
  | nil => simp [toNat]
  | cons b r ih =>
    have := b.toNat_lt
    have pow : Nat.pow 256 (b :: r).length = Nat.pow 256 r.length * 256 := rfl
    rw [toNat, pow]
    omega

theorem toNat_ofNat (width n : Nat) : toNat (ofNat width n) = n % Nat.pow 256 width := by
  induction width generalizing n with
  | zero => simp [ofNat, toNat, Nat.mod_one]
  | succ width ih =>
    have pow : Nat.pow 256 (width + 1) = 256 * Nat.pow 256 width := Nat.pow_succ'
    rw [ofNat, toNat, ih, UInt8.toNat_ofNat', pow, Nat.mod_mul]

theorem ofNat_toNat (b : Bytes) : ofNat b.length (toNat b) = b := by
  induction b with
  | nil => rfl
  | cons b r ih =>
    have := b.toNat_lt
    have head : UInt8.ofNat (b.toNat + 256 * toNat r) = b := by
      apply UInt8.toNat_inj.1
      rw [UInt8.toNat_ofNat']
      omega
    have tail : (b.toNat + 256 * toNat r) / 256 = toNat r := by omega
    simp [ofNat, toNat, head, tail, ih]

def ofWord16 (w : UInt16) : Bytes := ofNat 2 w.toNat
def ofWord32 (w : UInt32) : Bytes := ofNat 4 w.toNat
def ofWord64 (w : UInt64) : Bytes := ofNat 8 w.toNat

-- The word that the first two bytes hold. Missing bytes count as zero.
def word16 (b : Bytes) : UInt16 := UInt16.ofNat (toNat (b.take 2))
def word32 (b : Bytes) : UInt32 := UInt32.ofNat (toNat (b.take 4))
def word64 (b : Bytes) : UInt64 := UInt64.ofNat (toNat (b.take 8))

@[simp] theorem length_ofWord16 (w : UInt16) : (ofWord16 w).length = 2 := length_ofNat ..
@[simp] theorem length_ofWord32 (w : UInt32) : (ofWord32 w).length = 4 := length_ofNat ..
@[simp] theorem length_ofWord64 (w : UInt64) : (ofWord64 w).length = 8 := length_ofNat ..

theorem word16_ofWord16_append (w : UInt16) (r : Bytes) : word16 (ofWord16 w ++ r) = w := by
  have := w.toNat_lt
  apply UInt16.toNat_inj.1
  simp [word16, ofWord16, toNat_ofNat]

theorem word32_ofWord32_append (w : UInt32) (r : Bytes) : word32 (ofWord32 w ++ r) = w := by
  have := w.toNat_lt
  apply UInt32.toNat_inj.1
  simp [word32, ofWord32, toNat_ofNat]

theorem word64_ofWord64_append (w : UInt64) (r : Bytes) : word64 (ofWord64 w ++ r) = w := by
  have := w.toNat_lt
  apply UInt64.toNat_inj.1
  simp [word64, ofWord64, toNat_ofNat]

theorem ofWord16_word16 {b : Bytes} (h : b.length = 2) : ofWord16 (word16 b) = b := by
  have lt := toNat_lt b
  have := ofNat_toNat b
  simp_all [ofWord16, word16, List.take_of_length_le, Nat.mod_eq_of_lt]

theorem ofWord32_word32 {b : Bytes} (h : b.length = 4) : ofWord32 (word32 b) = b := by
  have lt := toNat_lt b
  have := ofNat_toNat b
  simp_all [ofWord32, word32, List.take_of_length_le, Nat.mod_eq_of_lt]

theorem ofWord64_word64 {b : Bytes} (h : b.length = 8) : ofWord64 (word64 b) = b := by
  have lt := toNat_lt b
  have := ofNat_toNat b
  simp_all [ofWord64, word64, List.take_of_length_le, Nat.mod_eq_of_lt]

end BoardFirmware.Bytes
