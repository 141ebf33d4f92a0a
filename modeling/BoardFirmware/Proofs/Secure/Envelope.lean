import BoardFirmware.Secure.Envelope

namespace BoardFirmware.Secure.Envelope

-- The number of bytes of the message with its header, as the header tells.
def messageSize (e : Envelope) : Nat :=
  headerSize + (messageLength e.data).toNat

-- The message with its header, as it is sent.
def request (e : Envelope) : Bytes :=
  e.data.take e.messageSize

-- The message can be sent as it is: it is all there, the shared buffer has room for it, and the
-- caller's size is between the two.
structure Accepted (e : Envelope) (room : Nat) : Prop where
  message : messageLength e.data ≠ 0
  le_room : e.messageSize ≤ room
  le_data : e.messageSize ≤ e.data.length
  size    : ∀ n ∈ e.size, e.messageSize ≤ n ∧ n ≤ room

-- The caller's buffer is one in memory: no array takes up more than half of the addresses.
def Addressable (e : Envelope) : Prop :=
  e.data.length < 0x8000000000000000

instance (e : Envelope) : Decidable e.Addressable := by
  unfold Addressable
  infer_instance

variable {e : Envelope} {room : Nat}

theorem accepted_iff : e.Accepted room ↔
    messageLength e.data ≠ 0 ∧ e.messageSize ≤ room ∧ e.messageSize ≤ e.data.length ∧
      ∀ n ∈ e.size, e.messageSize ≤ n ∧ n ≤ room :=
  ⟨fun ⟨message, le_room, le_data, size⟩ => ⟨message, le_room, le_data, size⟩,
    fun ⟨message, le_room, le_data, size⟩ => ⟨message, le_room, le_data, size⟩⟩

instance : Decidable (e.Accepted room) :=
  decidable_of_iff _ accepted_iff.symm

theorem Accepted.length_request (h : e.Accepted room) : e.request.length = e.messageSize :=
  List.length_take_of_le h.le_data

theorem headerSize_le (e : Envelope) : headerSize ≤ e.messageSize :=
  Nat.le_add_right ..

-- Of a message that is all there, the size fits its word.
theorem totalSize_eq (addressable : e.Addressable) (h : totalSize e.data ≤ e.data.length) :
    totalSize e.data = e.messageSize := by
  have size : UInt64.size = 0x10000000000000000 := rfl
  rw [Addressable] at addressable
  rw [totalSize] at h ⊢
  rw [messageSize]
  omega

theorem totalSize_eq_of_fits (fits : e.messageSize < UInt64.size) :
    totalSize e.data = e.messageSize :=
  Nat.min_eq_left (Nat.le_sub_one_of_lt fits)

theorem Accepted.fits (addressable : e.Addressable) (h : e.Accepted room) :
    e.messageSize < UInt64.size :=
  Nat.lt_of_le_of_lt h.le_data (Nat.lt_trans addressable (by decide))

theorem data_sized (e : Envelope) (room : Nat) : (e.sized room).data = e.data := by
  rw [sized]
  split <;> rfl

theorem sized_of_not_misfits (h : ¬Misfits e.size room) : e.sized room = e :=
  if_neg h

theorem checkSize_of_not_misfits (h : ¬Misfits e.size room) (total : Nat) :
    e.checkSize room total =
      (e, if ∃ n ∈ e.size, n < total then .error .invalidParameter else .ok ()) := by
  rw [checkSize, sized_of_not_misfits h, if_neg h]

-- A size that was put in the place of another is that of the shared buffer, which is enough for
-- every message that there is room for.
theorem checkSize_of_misfits (h : Misfits e.size room) {total : Nat} (le : total ≤ room) :
    e.checkSize room total = (e.sized room, .error .badBufferSize) := by
  have replaced : (e.sized room).size = some room := by rw [sized, if_pos h]
  have enough : ¬∃ n ∈ (e.sized room).size, n < total := by
    rintro ⟨n, mem, lt⟩
    obtain rfl : room = n := by simpa [replaced] using mem
    exact Nat.not_le_of_lt lt le
  dsimp only [checkSize]
  rw [if_neg enough, if_pos h]

-- What the checks come to together.
theorem negotiate_eq (e : Envelope) (room : Nat) :
    e.negotiate room =
      if e.data.length < headerSize then
        (e, .error .invalidParameter)
      else if messageLength e.data = 0 ∨ room < totalSize e.data then
        ((e.sized room).shortened room, .error .badBufferSize)
      else if Misfits e.size room then
        (e.sized room, .error .badBufferSize)
      else if (∃ n ∈ e.size, n < totalSize e.data) ∨ e.data.length < totalSize e.data then
        (e, .error .invalidParameter)
      else
        (e, .ok (totalSize e.data)) := by
  rw [negotiate]
  split
  case isTrue => rfl
  case isFalse =>
  split
  case isTrue unfit =>
    dsimp only [checkSize, checkLength]
    rw [data_sized, if_pos unfit]
    rfl
  case isFalse fit =>
  have ⟨_, le⟩ := not_or.mp fit
  split
  case isTrue misfits =>
    dsimp only
    rw [checkSize_of_misfits misfits (Nat.le_of_not_lt le), checkLength, data_sized, if_neg fit]
    rfl
  case isFalse fits =>
    dsimp only
    rw [checkSize_of_not_misfits fits, checkLength, if_neg fit]
    split
    case isTrue small  =>
      rw [if_pos (Or.inl small)]
      rfl
    case isFalse enough =>
      simp only [or_iff_right enough]
      by_cases cut : e.data.length < totalSize e.data
      case pos => simp only [if_pos cut]; rfl
      case neg => simp only [if_neg cut]; rfl

theorem negotiate_of_accepted (fits : e.messageSize < UInt64.size) (h : e.Accepted room) :
    e.negotiate room = (e, .ok e.messageSize) := by
  have ⟨message, le_room, le_data, size⟩ := h
  have header := e.headerSize_le
  have long : ¬e.data.length < headerSize := Nat.not_lt_of_le (Nat.le_trans header le_data)
  have full : ¬(messageLength e.data = 0 ∨ room < e.messageSize) := by
    rw [not_or]
    exact ⟨message, Nat.not_lt_of_le le_room⟩
  have sized : ¬Misfits e.size room := by
    intro ⟨n, mem, misfit⟩
    have := size n mem
    have : 0 < headerSize := by decide
    omega
  have enough : ¬((∃ n ∈ e.size, n < e.messageSize) ∨ e.data.length < e.messageSize) := by
    intro short
    obtain ⟨n, mem, lt⟩ | lt := short
    case inl => exact Nat.not_le_of_lt lt (size n mem).1
    case inr => exact Nat.not_le_of_lt lt le_data
  rw [negotiate_eq, totalSize_eq_of_fits fits, if_neg long, if_neg full, if_neg sized,
    if_neg enough]

-- All other messages are refused, and the caller's buffer stays as long as it was.
theorem negotiate_of_not_accepted (addressable : e.Addressable) (h : ¬e.Accepted room) :
    ∃ e' status, e.negotiate room = (e', .error status) ∧ e'.data.length = e.data.length := by
  rw [negotiate_eq]
  split
  case isTrue => exact ⟨_, _, rfl, rfl⟩
  case isFalse long =>
  split
  case isTrue =>
    refine ⟨_, _, rfl, ?_⟩
    rw [shortened, Bytes.length_patch, data_sized]
  case isFalse full =>
  split
  case isTrue => exact ⟨_, _, rfl, by rw [data_sized]⟩
  case isFalse fits =>
  split
  case isTrue => exact ⟨_, _, rfl, rfl⟩
  case isFalse enough =>
    rw [not_or, Nat.not_lt] at full enough
    have total := totalSize_eq addressable enough.2
    rw [total] at full enough
    refine absurd ⟨full.1, full.2, enough.2, fun n mem => ⟨?_, ?_⟩⟩ h
    · exact Nat.le_of_not_lt fun lt => enough.1 ⟨n, mem, lt⟩
    · exact Nat.le_of_not_lt fun lt => fits ⟨n, mem, .inr lt⟩

-- The envelope with zeros in the place of a message of `sent` bytes.
def blanked (e : Envelope) (sent : Nat) : Envelope :=
  { e with data := List.replicate sent 0 ++ e.data.drop sent }

theorem cleared?_of_le {sent : Nat} (le : sent ≤ e.data.length) :
    e.cleared? sent = some (e.blanked sent) :=
  if_pos le

-- Neither clearing a request nor putting a response in its place changes the length of the buffer.
theorem length_blanked {sent : Nat} (le : sent ≤ e.data.length) :
    (e.blanked sent).data.length = e.data.length := by
  rw [blanked, List.length_append, List.length_replicate, List.length_drop, Nat.add_sub_cancel' le]

theorem length_answered (e : Envelope) (response : Bytes) :
    (e.answered response).data.length = e.data.length :=
  Bytes.length_overlay ..

-- The shared buffer has no shorter response than its header tells.
theorem responseSize_le {header : Bytes} {total : Nat}
    (h : e.responseSize header room = .ok total) : total ≤ room := by
  rw [responseSize] at h
  split at h
  case isTrue => cases h
  case isFalse fits =>
  split at h
  case isTrue => cases h
  case isFalse =>
    cases h
    exact Nat.le_of_not_lt fits

end BoardFirmware.Secure.Envelope
