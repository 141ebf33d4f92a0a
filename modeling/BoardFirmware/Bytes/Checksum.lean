import BoardFirmware.Bytes.Basic

namespace BoardFirmware.Bytes

-- The sum modulo 256.
def sum : Bytes → UInt8
  | []     => 0
  | b :: r => b + sum r

-- What the byte at `offset` must be for all bytes to sum to zero.
def balance (offset : Nat) (b : Bytes) : UInt8 :=
  -sum (b.eraseIdx offset)

-- Makes the byte at `offset` such that all bytes sum to zero.
def balanced (offset : Nat) (b : Bytes) : Bytes :=
  b.set offset (b.balance offset)

theorem sum_append (a b : Bytes) : sum (a ++ b) = sum a + sum b := by
  induction a with
  | nil => simp [sum]
  | cons x r ih => simp [sum, ih, UInt8.add_assoc]

theorem sum_set {b : Bytes} (h : offset < b.length) (x : UInt8) :
    sum (b.set offset x) = x + sum (b.eraseIdx offset) := by
  induction b generalizing offset with
  | nil => simp at h
  | cons y r ih =>
    cases offset with
    | zero => simp [sum]
    | succ offset =>
      simp only [List.set_cons_succ, List.eraseIdx_cons_succ, sum, ih (by simpa using h)]
      rw [← UInt8.add_assoc, ← UInt8.add_assoc, UInt8.add_comm x y]

@[simp] theorem length_balanced (offset : Nat) (b : Bytes) :
    (b.balanced offset).length = b.length := by
  simp [balanced]

theorem sum_balanced {b : Bytes} (h : offset < b.length) : sum (b.balanced offset) = 0 := by
  rw [balanced, sum_set h, balance, UInt8.add_comm, UInt8.add_neg_eq_sub, UInt8.sub_self]

end BoardFirmware.Bytes
