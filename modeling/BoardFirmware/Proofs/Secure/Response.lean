import BoardFirmware.Proofs.Bytes.Slice
import BoardFirmware.Proofs.Secure.Communicate

namespace BoardFirmware.Secure

open BoardFirmware.Action

-- However much is read from the shared buffer, it is read from the start.
structure ReadsStart (μ : Type) [SharedBuffer μ] : Prop where
  all   : ∀ m : μ, (SharedBuffer.read (SharedBuffer.size m) m).length = SharedBuffer.size m
  start : ∀ n (m : μ), n ≤ SharedBuffer.size m →
    SharedBuffer.read n m = (SharedBuffer.read (SharedBuffer.size m) m).take n

namespace Channel

variable [SharedBuffer μ]

-- All that is in the shared buffer.
def memory (c : Channel μ) : Bytes :=
  SharedBuffer.read c.room c.client.monitor

-- The number of bytes of the response in the shared buffer, as its header tells. If it leaves its
-- word, no buffer has room for so many.
def responseSize (c : Channel μ) : Nat :=
  Envelope.headerSize + (Envelope.messageLength c.memory).toNat

theorem length_memory (reads : ReadsStart μ) (c : Channel μ) : c.memory.length = c.room :=
  reads.all c.client.monitor

-- The header is at the start, so it is enough to read that.
theorem responseSize_memory (reads : ReadsStart μ) (c : Channel μ)
    (header : Envelope.headerSize ≤ c.room) (e : Envelope) :
    e.responseSize (c.memory.take Envelope.headerSize) c.room =
      if c.room < c.responseSize then
        .error .deviceError
      else if e.data.length < c.responseSize then
        .error .bufferTooSmall
      else
        .ok c.responseSize := by
  have le : 16 + 8 ≤ (c.memory.take Envelope.headerSize).length := by
    rw [List.length_take_of_le (length_memory reads c ▸ header)]
    exact Nat.le_refl _
  have same : Envelope.messageLength (c.memory.take Envelope.headerSize) =
      Envelope.messageLength c.memory := by
    rw [Envelope.messageLength, Envelope.messageLength,
      Bytes.slice_of_prefix (List.take_prefix _ c.memory) le]
  rw [Envelope.responseSize, same]
  rfl

end Channel

namespace Envelope

variable {e : Envelope} {sent : Nat}

theorem getElem?_blanked (e : Envelope) (sent i : Nat) :
    (e.blanked sent).data[i]? = if i < sent then some 0 else e.data[i]? := by
  rw [blanked, List.getElem?_append, List.length_replicate]
  split
  case isTrue lt  => rw [List.getElem?_replicate_of_lt lt]
  case isFalse le => rw [List.getElem?_drop, Nat.add_sub_cancel' (Nat.le_of_not_lt le)]

theorem getElem?_answered_blanked {response : Bytes} (sent_le : sent ≤ e.data.length)
    (le : response.length ≤ e.data.length) (i : Nat) :
    ((e.blanked sent).answered response).data[i]? =
      if i < response.length then response[i]? else if i < sent then some 0 else e.data[i]? := by
  rw [answered, Bytes.getElem?_overlay ((length_blanked sent_le).symm ▸ le), getElem?_blanked]

end Envelope

namespace Conversation

variable {c : Conversation μ}

-- How a message is refused that was not handled.
def refusal (code : Int) : Status :=
  if code = -2 then .invalidParameter
  else if code = -5 then .outOfResources
  else .accessDenied

theorem result_checkReply (c : Conversation μ) (results : Results) :
    (checkReply results).result c =
      if replyCode c.channel.viaFfa results = 0 then
        (.done (), c)
      else
        (.failed (refusal (replyCode c.channel.viaFfa results)), c) := by
  rw [checkReply, result_bind_of_done (result_get c)]
  split
  case h_1 handled => rw [if_pos handled]; rfl
  case h_2 code    => rw [if_neg (by simp [code]), code]; rfl
  case h_3 code    => rw [if_neg (by simp [code]), code]; rfl
  case h_4 code    => rw [if_neg (by simp [code]), code]; rfl
  case h_5 handled invalid _ memory =>
    rw [if_neg handled, refusal, if_neg invalid, if_neg memory]
    rfl

variable [SharedBuffer μ]

theorem result_load (reads : ReadsStart μ) {n : Nat} (le : n ≤ c.channel.room) :
    (load n).result c = (.done (c.channel.memory.take n), c) := by
  rw [load, result_bind_of_done (result_room c), if_neg (Nat.not_lt_of_le le),
    result_bind_of_done (result_get c), result_pure, reads.start n _ le]
  rfl

-- The size of the response is checked against the shared buffer first, then against the caller's.
theorem result_receive (reads : ReadsStart μ) {sent : Nat}
    (header : Envelope.headerSize ≤ c.channel.room) (sent_le : sent ≤ c.envelope.data.length) :
    (receive sent).result c =
      if c.channel.room < c.channel.responseSize then
        (.failed .deviceError, { c with envelope := c.envelope.blanked sent })
      else if c.envelope.data.length < c.channel.responseSize then
        (.failed .bufferTooSmall, { c with envelope := c.envelope.blanked sent })
      else
        (.done (), { c with
          envelope := (c.envelope.blanked sent).answered
            (c.channel.memory.take c.channel.responseSize) }) := by
  have loaded {n : Nat} (le : n ≤ c.channel.room) :
      (load n).result { c with envelope := c.envelope.blanked sent } =
        (.done (c.channel.memory.take n), { c with envelope := c.envelope.blanked sent }) :=
    result_load reads le
  rw [receive, result_bind_of_done (result_get c), Envelope.cleared?_of_le sent_le,
    result_bind_of_done (result_checked_some ..), result_bind_of_done (result_modify ..),
    result_bind_of_done (loaded header), result_bind_of_done (result_room _),
    c.channel.responseSize_memory reads header, Envelope.length_blanked sent_le]
  split
  case isTrue => rfl
  case isFalse fits =>
  split
  case isTrue => rfl
  case isFalse =>
    rw [result_bind_of_done (result_ofExcept_ok ..),
      result_bind_of_done (loaded (Nat.le_of_not_lt fits))]
    rfl

variable [Monitor μ] {channel : Channel μ} {e : Envelope}

theorem result_communicate_of_not_handled (addressable : e.Addressable)
    (accepted : e.Accepted channel.room)
    (refused : replyCode channel.viaFfa (channel.asked e).1 ≠ 0) :
    communicate.result ⟨channel, e⟩ =
      (.failed (refusal (replyCode channel.viaFfa (channel.asked e).1)),
        ⟨(channel.asked e).2, e⟩) := by
  have checked := (result_checkReply ⟨(channel.asked e).2, e⟩ (channel.asked e).1).trans
    (if_neg refused)
  rw [result_communicate (c := ⟨channel, e⟩) (accepted.fits addressable) accepted, result_bind,
    checked]
  rfl

theorem result_communicate_of_replyCode (addressable : e.Addressable)
    (accepted : e.Accepted channel.room)
    (handled : replyCode channel.viaFfa (channel.asked e).1 = 0) :
    communicate.result ⟨channel, e⟩ =
      (receive e.messageSize).result ⟨(channel.asked e).2, e⟩ := by
  have checked := (result_checkReply ⟨(channel.asked e).2, e⟩ (channel.asked e).1).trans
    (if_pos handled)
  rw [result_communicate (c := ⟨channel, e⟩) (accepted.fits addressable) accepted,
    result_bind_of_done checked]

theorem result_communicate_of_handled (fixed : FixedSize μ) (reads : ReadsStart μ)
    (addressable : e.Addressable) (accepted : e.Accepted channel.room)
    (handled : replyCode channel.viaFfa (channel.asked e).1 = 0) :
    communicate.result ⟨channel, e⟩ =
      if channel.room < (channel.asked e).2.responseSize then
        (.failed .deviceError, ⟨(channel.asked e).2, e.blanked e.messageSize⟩)
      else if e.data.length < (channel.asked e).2.responseSize then
        (.failed .bufferTooSmall, ⟨(channel.asked e).2, e.blanked e.messageSize⟩)
      else
        (.done (), ⟨(channel.asked e).2, (e.blanked e.messageSize).answered
          ((channel.asked e).2.memory.take (channel.asked e).2.responseSize)⟩) := by
  have room := channel.room_asked fixed e
  have header : Envelope.headerSize ≤ (channel.asked e).2.room :=
    room ▸ Nat.le_trans e.headerSize_le accepted.le_room
  have received := result_receive (c := ⟨(channel.asked e).2, e⟩) reads header accepted.le_data
  rw [room] at received
  rw [result_communicate_of_replyCode addressable accepted handled, received]

end Conversation

-- A message that is handled gives way to the response, in the whole of its place, or else to zeros.
-- Whether there is a response depends on the sizes only. A message that is not handled stays.
theorem Channel.response_replaces_message [Monitor μ] [SharedBuffer μ] (fixed : FixedSize μ)
    (reads : ReadsStart μ) (c : Channel μ) {e : Envelope} (addressable : e.Addressable)
    (accepted : e.Accepted c.room) :
    let answer := (c.asked e).2
    let ran := c.communicate e
    (Conversation.replyCode c.viaFfa (c.asked e).1 ≠ 0 →
      (∃ status, ran.outcome = .failed status) ∧ ran.state.envelope = e) ∧
    (Conversation.replyCode c.viaFfa (c.asked e).1 = 0 →
      (ran.outcome = .done () ↔
        answer.responseSize ≤ c.room ∧ answer.responseSize ≤ e.data.length) ∧
      (ran.outcome = .failed .deviceError ↔ c.room < answer.responseSize) ∧
      (ran.outcome = .failed .bufferTooSmall ↔
        answer.responseSize ≤ c.room ∧ e.data.length < answer.responseSize) ∧
      (ran.outcome = .done () → ∀ i, ran.state.envelope.data[i]? =
        if i < answer.responseSize then answer.memory[i]?
        else if i < e.messageSize then some 0
        else e.data[i]?) ∧
      (ran.outcome ≠ .done () → ∀ i, ran.state.envelope.data[i]? =
        if i < e.messageSize then some 0 else e.data[i]?)) := by
  intro answer ran
  constructor
  case left =>
    intro refused
    have run := Conversation.result_communicate_of_not_handled addressable accepted refused
    exact ⟨⟨_, congrArg Prod.fst run⟩, congrArg (·.2.envelope) run⟩
  case right =>
  intro handled
  have run := Conversation.result_communicate_of_handled fixed reads addressable accepted handled
  rcases Nat.lt_or_ge c.room answer.responseSize with large | fits
  case inl =>
    rw [if_pos large] at run
    have outcome : ran.outcome = .failed .deviceError := congrArg Prod.fst run
    have envelope : ran.state.envelope = e.blanked e.messageSize := congrArg (·.2.envelope) run
    simp [outcome, envelope, large, Nat.not_le_of_lt large, Envelope.getElem?_blanked]
  case inr =>
  rcases Nat.lt_or_ge e.data.length answer.responseSize with long | enough
  case inl =>
    rw [if_neg (Nat.not_lt_of_le fits), if_pos long] at run
    have outcome : ran.outcome = .failed .bufferTooSmall := congrArg Prod.fst run
    have envelope : ran.state.envelope = e.blanked e.messageSize := congrArg (·.2.envelope) run
    simp [outcome, envelope, fits, Nat.not_lt_of_le fits, long, Nat.not_le_of_lt long,
      Envelope.getElem?_blanked]
  case inr =>
    rw [if_neg (Nat.not_lt_of_le fits), if_neg (Nat.not_lt_of_le enough)] at run
    have outcome : ran.outcome = .done () := congrArg Prod.fst run
    have envelope : ran.state.envelope =
        (e.blanked e.messageSize).answered (answer.memory.take answer.responseSize) :=
      congrArg (·.2.envelope) run
    have length : (answer.memory.take answer.responseSize).length = answer.responseSize := by
      rw [List.length_take_of_le]
      rw [answer.length_memory reads, c.room_asked fixed]
      exact fits
    have bytes (i : Nat) : ran.state.envelope.data[i]? =
        if i < answer.responseSize then answer.memory[i]?
        else if i < e.messageSize then some 0
        else e.data[i]? := by
      rw [envelope, Envelope.getElem?_answered_blanked accepted.le_data (length.symm ▸ enough),
        length]
      split
      case isTrue lt => rw [List.getElem?_take_of_lt lt]
      case isFalse   => rfl
    simp [outcome, fits, Nat.not_lt_of_le fits, enough, Nat.not_lt_of_le enough, bytes]

theorem Parrot.readsStart : ReadsStart Parrot where
  all _ := Bytes.length_fit ..
  start n p le := by
    have le : n ≤ p.memory.length := le
    change Bytes.fit n p.memory = (Bytes.fit p.memory.length p.memory).take n
    rw [Bytes.fit_of_length_eq rfl, Bytes.fit, Nat.sub_eq_zero_of_le le, List.replicate_zero,
      List.append_nil]

-- The response is two bytes.
def Parrot.terse : Channel Parrot where
  client := ⟨⟨List.replicate 40 0, .replicate 18 0,
    List.replicate 16 0 ++ [2, 0, 0, 0, 0, 0, 0, 0] ++ [8, 9]⟩, ⟨0, 0⟩, 0⟩
  viaFfa := false

-- A message of six bytes gives way to the two bytes, and to four zeros after them.
theorem Channel.response_replaces_message_terse :
    let e : Envelope :=
      ⟨List.replicate 16 1 ++ [6, 0, 0, 0, 0, 0, 0, 0] ++ [1, 2, 3, 4, 5, 6, 7], none⟩
    (Parrot.terse.asked e).2.memory.take 26 =
        List.replicate 16 0 ++ [2, 0, 0, 0, 0, 0, 0, 0] ++ [8, 9] ∧
      (Parrot.terse.communicate e).outcome = .done () ∧
      ∀ i, (Parrot.terse.communicate e).state.envelope.data[i]? =
        if i < 26 then (Parrot.terse.asked e).2.memory[i]?
        else if i < 30 then some 0
        else e.data[i]? := by
  intro e
  have ⟨_, handled⟩ := Parrot.terse.response_replaces_message Parrot.fixedSize Parrot.readsStart
    (e := e) (by decide) (by decide)
  have ⟨done, _, _, bytes, _⟩ := handled (by decide)
  have size : (Parrot.terse.asked e).2.responseSize = 26 := by decide
  have message : e.messageSize = 30 := by decide
  have ended := done.mpr (by rw [size]; decide)
  refine ⟨by decide, ended, fun i => ?_⟩
  rw [bytes ended i, size, message]

end BoardFirmware.Secure
