import BoardFirmware.Bytes.LittleEndian
import BoardFirmware.Status

namespace BoardFirmware

-- Values of a fixed number of bytes. Words are little-endian, a pair is its first part followed by
-- its second, and a structure has the layout of the tuple of its fields.
class Layout (α : Type) where
  -- How many bytes a value takes.
  size : Nat
  encode : α → Bytes
  -- The value in `size` bytes.
  decode : Bytes → α

-- Writing and reading undo each other.
class LawfulLayout (α : Type) [Layout α] : Prop where
  length_encode (a : α) : (Layout.encode a).length = Layout.size α
  decode_encode (a : α) : Layout.decode (Layout.encode a) = a
  encode_decode (b : Bytes) (h : b.length = Layout.size α) :
    Layout.encode (Layout.decode b : α) = b

attribute [simp] LawfulLayout.length_encode LawfulLayout.decode_encode

namespace Layout

instance : Layout Unit where
  size     := 0
  encode _ := []
  decode _ := ()

instance : Layout UInt8 where
  size     := 1
  encode b := [b]
  decode b := b.headD 0

instance : Layout UInt16 where
  size   := 2
  encode := Bytes.ofWord16
  decode := Bytes.word16

instance : Layout UInt32 where
  size   := 4
  encode := Bytes.ofWord32
  decode := Bytes.word32

instance : Layout UInt64 where
  size   := 8
  encode := Bytes.ofWord64
  decode := Bytes.word64

instance : Layout (Vector UInt8 n) where
  size     := n
  encode v := v.toList
  decode b := Vector.ofFn fun i => b.getD i 0

instance [Layout α] [Layout β] : Layout (α × β) where
  size     := size α + size β
  encode p := encode p.1 ++ encode p.2
  decode b := (decode (b.take (size α)), decode (b.drop (size α)))

-- The layout of `α` for values that are read from, and written as, values of `β`.
abbrev via [Layout β] (write : α → β) (read : β → α) : Layout α where
  size     := size β
  encode a := encode (write a)
  decode b := read (decode b)

-- The values back to back.
def writeAll [Layout α] (values : List α) : Bytes :=
  values.flatMap encode

-- The values that `b` holds back to back. Its length must be a multiple of their size.
def readAll [Layout α] (b : Bytes) : Except Status (List α) :=
  if size α = 0 ∨ b.length % size α ≠ 0 then
    .error .invalidParameter
  else
    .ok <| (b.chunks (size α)).map decode

end Layout

namespace LawfulLayout

open Layout

instance : LawfulLayout UInt8 where
  length_encode _ := rfl
  decode_encode _ := rfl
  encode_decode
    | [_], _ => rfl

instance : LawfulLayout UInt16 where
  length_encode     := Bytes.length_ofWord16
  decode_encode a   := by simpa [encode, decode] using Bytes.word16_ofWord16_append a []
  encode_decode _ h := Bytes.ofWord16_word16 h

instance : LawfulLayout UInt32 where
  length_encode     := Bytes.length_ofWord32
  decode_encode a   := by simpa [encode, decode] using Bytes.word32_ofWord32_append a []
  encode_decode _ h := Bytes.ofWord32_word32 h

instance : LawfulLayout UInt64 where
  length_encode     := Bytes.length_ofWord64
  decode_encode a   := by simpa [encode, decode] using Bytes.word64_ofWord64_append a []
  encode_decode _ h := Bytes.ofWord64_word64 h

instance : LawfulLayout (Vector UInt8 n) where
  length_encode v   := by simp [encode, size]
  decode_encode v   := by
    ext i h
    simp [encode, decode]
  encode_decode b h := by
    simp only [size] at h
    apply List.ext_getElem
    · simp [encode, decode, h]
    · intro i _ hi
      simp [encode, decode, hi]

instance [Layout α] [Layout β] [LawfulLayout α] [LawfulLayout β] : LawfulLayout (α × β) where
  length_encode _ := by simp [encode, size]
  decode_encode _ := by
    simp [encode, decode, List.take_left' (length_encode _), List.drop_left' (length_encode _)]
  encode_decode b h := by
    simp only [size] at h
    simp only [encode, decode]
    rw [encode_decode (α := α) _ (by simp; omega), encode_decode (α := β) _ (by simp; omega)]
    simp

-- A layout is lawful if it is the lawful layout of a type in bijection.
theorem via [Layout β] [LawfulLayout β] {write : α → β} {read : β → α}
    (read_write : ∀ a, read (write a) = a) (write_read : ∀ b, write (read b) = b) :
    @LawfulLayout α (Layout.via write read) :=
  letI := Layout.via write read
  { length_encode := fun _ => length_encode (α := β) _
    decode_encode := fun a => by
      show read (decode (encode (write a))) = a
      rw [decode_encode, read_write]
    encode_decode := fun b h => by
      show encode (write (read (decode b))) = b
      rw [write_read, encode_decode (α := β) b h] }

variable [Layout α] [LawfulLayout α]

@[simp] theorem length_writeAll (values : List α) :
    (writeAll values).length = values.length * size α := by
  induction values with
  | nil => simp [writeAll]
  | cons a r ih => simp_all [writeAll, Nat.add_mul]; omega

theorem chunks_writeAll (pos : 0 < size α) (values : List α) :
    (writeAll values).chunks (size α) = values.map encode := by
  induction values with
  | nil => simp [writeAll]
  | cons a r ih =>
    rw [writeAll, List.flatMap_cons, Bytes.chunks_append pos (length_encode a)]
    simpa [writeAll] using ih

theorem readAll_writeAll (pos : 0 < size α) (values : List α) :
    readAll (writeAll values) = .ok values := by
  have : size α ≠ 0 := by omega
  simp [readAll, chunks_writeAll pos, this, Function.comp_def]

theorem writeAll_of_readAll {b : Bytes} {values : List α} (h : readAll b = .ok values) :
    writeAll values = b := by
  unfold readAll at h
  split at h
  · contradiction
  · next ok =>
    simp only [not_or, Decidable.not_not] at ok
    cases h
    have dvd := Nat.dvd_of_mod_eq_zero ok.2
    have pieces : ∀ piece ∈ b.chunks (size α), encode (decode piece : α) = piece :=
      fun piece mem => encode_decode _ (Bytes.length_of_mem_chunks dvd mem)
    rw [writeAll, List.flatMap_map, List.flatMap_def, List.map_congr_left pieces, List.map_id']
    exact Bytes.flatten_chunks (by omega) b

theorem readAll_of_dvd (pos : 0 < size α) {b : Bytes} (h : size α ∣ b.length) :
    ∃ values : List α, readAll b = .ok values ∧ writeAll values = b := by
  have ok : ¬(size α = 0 ∨ b.length % size α ≠ 0) := by
    have := Nat.mod_eq_zero_of_dvd h
    omega
  have read : readAll b = .ok ((b.chunks (size α)).map (decode : Bytes → α)) := if_neg ok
  exact ⟨_, read, writeAll_of_readAll read⟩

end LawfulLayout

namespace Layout

theorem readAll_of_not_dvd [Layout α] {b : Bytes} (h : ¬size α ∣ b.length) :
    (readAll b : Except Status (List α)) = .error .invalidParameter :=
  if_pos (.inr fun even => h (Nat.dvd_of_mod_eq_zero even))

end Layout

end BoardFirmware
