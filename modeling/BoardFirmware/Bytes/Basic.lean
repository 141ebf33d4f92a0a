namespace BoardFirmware

abbrev Bytes := List UInt8

namespace Bytes

-- The `length` bytes at `offset`, or as many of them as there are.
def slice (b : Bytes) (offset length : Nat) : Bytes :=
  (b.drop offset).take length

-- Cuts to `size` bytes, or fills up to them with zeros.
def fit (size : Nat) (b : Bytes) : Bytes :=
  b.take size ++ List.replicate (size - b.length) 0

-- Copies `source` over the start of `b`, as far as it fits.
def overlay (b source : Bytes) : Bytes :=
  source.take b.length ++ b.drop source.length

-- Puts `source` at `offset`, as far as it fits.
def patch (b : Bytes) (offset : Nat) (source : Bytes) : Bytes :=
  b.take offset ++ overlay (b.drop offset) source

-- The consecutive pieces of `size` bytes. A last piece may be shorter.
def chunks (size : Nat) (b : Bytes) : List Bytes :=
  if _h : 0 < size ∧ b ≠ [] then
    b.take size :: chunks size (b.drop size)
  else
    []
termination_by b.length
decreasing_by
  have := List.length_pos_iff.2 _h.2
  simp
  omega

@[simp] theorem length_fit (size : Nat) (b : Bytes) : (fit size b).length = size := by
  simp [fit]; omega

@[simp] theorem length_overlay (b source : Bytes) : (b.overlay source).length = b.length := by
  simp [overlay]; omega

@[simp] theorem length_patch (b : Bytes) (offset : Nat) (source : Bytes) :
    (b.patch offset source).length = b.length := by
  simp [patch]; omega

theorem length_slice_of_le {b : Bytes} (h : offset + length ≤ b.length) :
    (b.slice offset length).length = length := by
  simp [slice]; omega

theorem fit_of_length_eq {b : Bytes} (h : b.length = size) : fit size b = b := by
  simp [fit, ← h]

@[simp] theorem chunks_nil (size : Nat) : chunks size [] = [] := by
  simp [chunks]

theorem chunks_append {piece : Bytes} (pos : 0 < size) (h : piece.length = size) (rest : Bytes) :
    chunks size (piece ++ rest) = piece :: chunks size rest := by
  subst h
  have : piece ≠ [] := List.length_pos_iff.1 pos
  rw [chunks, dif_pos ⟨pos, by simp [this]⟩]
  simp

theorem flatten_chunks (pos : 0 < size) (b : Bytes) : (chunks size b).flatten = b := by
  fun_induction chunks size b with
  | case1 b _ ih => simp [ih]
  | case2 b h => simpa [pos] using h

theorem length_of_mem_chunks {b piece : Bytes} (h : size ∣ b.length) (mem : piece ∈ chunks size b) :
    piece.length = size := by
  fun_induction chunks size b with
  | case1 b pos ih =>
    have := Nat.le_of_dvd (List.length_pos_iff.2 pos.2) h
    rcases List.mem_cons.1 mem with rfl | mem
    · simp; omega
    · exact ih (by simpa using Nat.dvd_sub h (Nat.dvd_refl size)) mem
  | case2 => simp at mem

end Bytes

end BoardFirmware
