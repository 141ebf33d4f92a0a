import BoardFirmware.Bytes.Layout

namespace BoardFirmware.Layout

-- The value at the start of `b`, and the bytes after it.
def read? (α : Type) [Layout α] (b : Bytes) : Option (α × Bytes) :=
  if size α ≤ b.length then
    some (decode (b.take (size α)), b.drop (size α))
  else
    none

-- The first `count` values, and the bytes after them.
def readMany? (α : Type) [Layout α] : Nat → Bytes → Option (List α × Bytes)
  | 0,         b => some ([], b)
  | count + 1, b => do
    let (a, b) ← read? α b
    let (rest, b) ← readMany? α count b
    return (a :: rest, b)

variable [Layout α] [LawfulLayout α]

theorem read?_encode (a : α) (rest : Bytes) : read? α (encode a ++ rest) = some (a, rest) := by
  have hl : (encode a).length = size α := LawfulLayout.length_encode a
  rw [read?, if_pos (by simp), List.take_left' hl, List.drop_left' hl, LawfulLayout.decode_encode]

theorem readMany?_writeAll (values : List α) (rest : Bytes) :
    readMany? α values.length (writeAll values ++ rest) = some (values, rest) := by
  induction values
  case nil              => rfl
  case cons a values ih =>
    have h : writeAll (a :: values) ++ rest = encode a ++ (writeAll values ++ rest) := by
      simp [writeAll]
    simp [readMany?, h, read?_encode, ih]

end BoardFirmware.Layout
