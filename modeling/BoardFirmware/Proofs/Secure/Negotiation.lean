import BoardFirmware.Proofs.Action.Refusals
import BoardFirmware.Proofs.Bytes.Slice
import BoardFirmware.Proofs.Secure.Communicate

namespace BoardFirmware.Secure

open BoardFirmware.Action

namespace Envelope

-- There is no message, or no room for it.
def Unfit (e : Envelope) (room : Nat) : Prop :=
  messageLength e.data = 0 ∨ room < e.messageSize

instance (e : Envelope) (room : Nat) : Decidable (e.Unfit room) := by
  unfold Unfit
  infer_instance

-- Why a message that is not accepted is refused.
def refusal (e : Envelope) (room : Nat) : Status :=
  if e.Unfit room ∨ Misfits e.size room then .badBufferSize else .invalidParameter

-- What the caller of a message that is not accepted is left with.
def returned (e : Envelope) (room : Nat) : Envelope :=
  if e.Unfit room then (e.sized room).shortened room else e.sized room

variable {e : Envelope} {room : Nat}

-- A size that leaves its word is too much for the shared buffer, whatever it is taken for.
theorem unfit_iff (lt : room < UInt64.size - 1) :
    e.Unfit room ↔ messageLength e.data = 0 ∨ room < totalSize e.data := by
  rw [Unfit, totalSize, Nat.lt_min, and_iff_left lt]
  rfl

theorem Accepted.fits_of_room (lt : room < UInt64.size - 1) (h : e.Accepted room) :
    e.messageSize < UInt64.size :=
  Nat.lt_of_le_of_lt h.le_room (Nat.lt_of_lt_pred lt)

theorem Accepted.fit (h : e.Accepted room) : ¬(e.Unfit room ∨ Misfits e.size room) := by
  have ⟨message, le_room, _, size⟩ := h
  have header := e.headerSize_le
  have pos : 0 < headerSize := by decide
  rintro ((empty | large) | ⟨n, mem, misfit⟩)
  case inl.inl => exact message empty
  case inl.inr => exact Nat.not_lt_of_le le_room large
  case inr =>
    have ⟨message_le, le_room⟩ := size n mem
    omega

theorem negotiate_of_refused (header : headerSize ≤ e.data.length) (lt : room < UInt64.size - 1)
    (refused : ¬e.Accepted room) :
    e.negotiate room = (e.returned room, .error (e.refusal room)) := by
  rw [negotiate_eq, if_neg (Nat.not_lt_of_le header), returned, refusal]
  by_cases unfit : e.Unfit room
  case pos =>
    rw [if_pos ((unfit_iff lt).mp unfit), if_pos unfit, if_pos (.inl unfit)]
  case neg =>
  rw [if_neg (mt (unfit_iff lt).mpr unfit), if_neg unfit]
  by_cases misfits : Misfits e.size room
  case pos =>
    rw [if_pos misfits, if_pos (.inr misfits)]
  case neg =>
  have sized : e.sized room = e := if_neg misfits
  obtain ⟨message, le_room⟩ := not_or.mp unfit
  have le_room : e.messageSize ≤ room := Nat.le_of_not_lt le_room
  rw [if_neg misfits, if_neg (not_or.mpr ⟨unfit, misfits⟩), sized,
    totalSize_eq_of_fits (by omega)]
  split
  case isTrue => rfl
  case isFalse enough =>
    obtain ⟨size, le_data⟩ := not_or.mp enough
    refine absurd ⟨message, le_room, Nat.le_of_not_lt le_data, fun n mem => ⟨?_, ?_⟩⟩ refused
    · exact Nat.le_of_not_lt fun small => size ⟨n, mem, small⟩
    · exact Nat.le_of_not_lt fun large => misfits ⟨n, mem, .inr large⟩

theorem responseSize_eq_error {header : Bytes} {status : Status}
    (h : e.responseSize header room = .error status) :
    status = .deviceError ∨ status = .bufferTooSmall := by
  rw [responseSize] at h
  split at h
  case isTrue =>
    cases h
    exact .inl rfl
  case isFalse =>
  split at h
  case isTrue =>
    cases h
    exact .inr rfl
  case isFalse => cases h

theorem size_returned (e : Envelope) (room : Nat) :
    (e.returned room).size = if Misfits e.size room then some room else e.size := by
  have sized : (e.sized room).size = if Misfits e.size room then some room else e.size := by
    rw [Envelope.sized]
    split <;> rfl
  rw [returned, ← sized]
  split <;> rfl

theorem data_returned_of_unfit (unfit : e.Unfit room) :
    (e.returned room).data =
      e.data.patch 16 (Bytes.ofWord64 (UInt64.ofNat (room - headerSize))) := by
  rw [returned, if_pos unfit, shortened, data_sized]

theorem data_returned_of_not_unfit (fit : ¬e.Unfit room) : (e.returned room).data = e.data := by
  rw [returned, if_neg fit, data_sized]

theorem length_returned (e : Envelope) (room : Nat) :
    (e.returned room).data.length = e.data.length := by
  by_cases unfit : e.Unfit room
  case pos => rw [data_returned_of_unfit unfit, Bytes.length_patch]
  case neg => rw [data_returned_of_not_unfit unfit]

variable (header : headerSize ≤ e.data.length)
include header

theorem getElem?_returned {i : Nat} (outside : i < 16 ∨ headerSize ≤ i) :
    (e.returned room).data[i]? = e.data[i]? := by
  have length := Bytes.length_ofWord64 (UInt64.ofNat (room - headerSize))
  by_cases unfit : e.Unfit room
  case pos =>
    rw [data_returned_of_unfit unfit]
    refine Bytes.getElem?_patch_of_outside ?_ ?_ <;> rw [length]
    · exact header
    · exact outside
  case neg => rw [data_returned_of_not_unfit unfit]

theorem messageLength_returned (lt : room < UInt64.size - 1) (unfit : e.Unfit room) :
    (messageLength (e.returned room).data).toNat = room - headerSize := by
  have length := Bytes.length_ofWord64 (UInt64.ofNat (room - headerSize))
  rw [data_returned_of_unfit unfit, messageLength, Bytes.slice_patch length header,
    ← List.append_nil (Bytes.ofWord64 _), Bytes.word64_ofWord64_append]
  exact UInt64.toNat_ofNat_of_lt' (by omega)

-- With room for more than a header, the caller is left with sizes that are in order.
theorem returned_fit (lt : room < UInt64.size - 1) (more : headerSize < room) :
    ¬((e.returned room).Unfit room ∨ Misfits (e.returned room).size room) := by
  rintro (unfit | ⟨n, mem, misfit⟩)
  case inl =>
    by_cases was : e.Unfit room
    case pos =>
      have length := messageLength_returned header lt was
      rw [Unfit, messageSize, ← UInt64.toNat_inj] at unfit
      rw [length] at unfit
      have zero : UInt64.toNat 0 = 0 := rfl
      omega
    case neg =>
      rw [Unfit, messageSize, data_returned_of_not_unfit was] at unfit
      exact was unfit
  case inr =>
    rw [size_returned] at mem
    split at mem
    case isTrue =>
      obtain rfl : room = n := by simpa using mem
      omega
    case isFalse fits => exact fits ⟨n, mem, misfit⟩

end Envelope

namespace Conversation

-- Nothing is done to the secure side, not even before a trap.
def KeepsChannel (x : Action (Conversation μ) α) : Prop :=
  ∀ c, (x.result c).2.channel = c.channel

namespace KeepsChannel

theorem bind {x : Action (Conversation μ) α} {f : α → Action (Conversation μ) β}
    (hx : KeepsChannel x) (hf : ∀ a, KeepsChannel (f a)) : KeepsChannel (x >>= f) := by
  intro c
  have hc := hx c
  rw [result_bind]
  rcases hr : x.result c with ⟨a | _ | _, t⟩ <;> rw [hr] at hc
  case done    => exact (hf a t).trans hc
  case failed  => exact hc
  case trapped => exact hc

theorem checked {a : Option α} : KeepsChannel (checked a : Action (Conversation μ) α) :=
  fun _ => by cases a <;> rfl

theorem ofExcept {r : Except Status α} :
    KeepsChannel (Action.ofExcept r : Action (Conversation μ) α) :=
  fun _ => by cases r <;> rfl

end KeepsChannel

theorem keepsChannel_checkReply (results : Results) :
    KeepsChannel (checkReply results : Action (Conversation μ) Unit) := by
  refine KeepsChannel.bind (fun _ => rfl) fun c => ?_
  split <;> exact fun _ => rfl

theorem refusedWith_checkReply (results : Results) :
    (checkReply results : Action (Conversation μ) Unit).RefusedWith (· ≠ .badBufferSize) := by
  refine RefusedWith.bind RefusedWith.get fun c => ?_
  split
  case h_1 => exact RefusedWith.pure
  case h_2 => exact RefusedWith.throw nofun
  case h_3 => exact RefusedWith.throw nofun
  case h_4 => exact RefusedWith.bind RefusedWith.log fun _ => RefusedWith.throw nofun
  case h_5 => exact RefusedWith.bind RefusedWith.log fun _ => RefusedWith.throw nofun

variable [SharedBuffer μ]

theorem keepsChannel_load (n : Nat) : KeepsChannel (load n : Action (Conversation μ) Bytes) := by
  refine KeepsChannel.bind (fun _ => rfl) fun size => ?_
  split <;> exact fun _ => rfl

theorem refusedWith_load {p : Status → Prop} (n : Nat) :
    (load n : Action (Conversation μ) Bytes).RefusedWith p :=
  RefusedWith.bind (RefusedWith.bind RefusedWith.get fun _ => RefusedWith.pure) fun _ =>
    RefusedWith.ite RefusedWith.trap (RefusedWith.bind RefusedWith.get fun _ => RefusedWith.pure)

theorem keepsChannel_receive (sent : Nat) :
    KeepsChannel (receive sent : Action (Conversation μ) Unit) := by
  refine KeepsChannel.bind (fun _ => rfl) fun c => KeepsChannel.bind .checked fun cleared => ?_
  refine KeepsChannel.bind (fun _ => rfl) fun _ => ?_
  refine KeepsChannel.bind (keepsChannel_load _) fun header => ?_
  refine KeepsChannel.bind (fun _ => rfl) fun size => KeepsChannel.bind .ofExcept fun total => ?_
  refine KeepsChannel.bind (keepsChannel_load total) fun response => ?_
  exact KeepsChannel.bind (fun _ => rfl) fun _ _ => rfl

theorem refusedWith_receive (sent : Nat) :
    (receive sent : Action (Conversation μ) Unit).RefusedWith (· ≠ .badBufferSize) := by
  refine RefusedWith.bind .get fun c => RefusedWith.bind .checked fun cleared => ?_
  refine RefusedWith.bind .modify fun _ => RefusedWith.bind (refusedWith_load _) fun header => ?_
  refine RefusedWith.bind (RefusedWith.bind .get fun _ => .pure) fun size => ?_
  refine RefusedWith.bind (.ofExcept fun status error => ?_) fun total => ?_
  case refine_1 =>
    obtain rfl | rfl := Envelope.responseSize_eq_error error <;> exact nofun
  case refine_2 =>
    refine RefusedWith.bind (refusedWith_load total) fun response => ?_
    exact RefusedWith.bind .modify fun _ => RefusedWith.log

variable [Monitor μ] {c : Channel μ} {e : Envelope}
  (header : Envelope.headerSize ≤ e.data.length) (lt : c.room < UInt64.size - 1)
include header lt

theorem channel_communicate :
    (communicate.result ⟨c, e⟩).2.channel =
      if e.Accepted c.room then (c.asked e).2 else c := by
  split
  case isTrue accepted =>
    rw [result_communicate (c := ⟨c, e⟩) (accepted.fits_of_room lt) accepted]
    exact (keepsChannel_checkReply _).bind (fun _ => keepsChannel_receive _) _
  case isFalse refused =>
    rw [result_communicate_of_refused (c := ⟨c, e⟩)
      (Envelope.negotiate_of_refused header lt refused)]

-- What is wrong with the sizes is the only reason to call them bad.
theorem badBufferSize_iff :
    (communicate.result ⟨c, e⟩).1 = .failed .badBufferSize ↔
      e.Unfit c.room ∨ Envelope.Misfits e.size c.room := by
  by_cases accepted : e.Accepted c.room
  case pos =>
    have refused : (checkReply (c.asked e).1 >>= fun _ => receive e.messageSize :
        Action (Conversation μ) Unit).RefusedWith (· ≠ .badBufferSize) :=
      (refusedWith_checkReply _).bind fun _ => refusedWith_receive _
    rw [result_communicate (c := ⟨c, e⟩) (accepted.fits_of_room lt) accepted]
    refine iff_of_false (fun bad => ?_) accepted.fit
    exact refused _ _ _ (Prod.ext bad rfl) rfl
  case neg =>
    rw [result_communicate_of_refused (c := ⟨c, e⟩)
      (Envelope.negotiate_of_refused header lt accepted), Envelope.refusal]
    split
    case isTrue sizes  => exact iff_of_true rfl sizes
    case isFalse sizes => exact iff_of_false nofun sizes

end Conversation

-- Whether a message is sent is a matter of four sizes. The caller of one that is not is told a
-- length if there is something wrong with the length, and a size if there is something wrong with
-- the size, and nothing else is changed. With what the caller has then, the sizes are not refused
-- again.
theorem Channel.negotiation_converges [Monitor μ] [SharedBuffer μ] (c : Channel μ) {e : Envelope}
    (header : Envelope.headerSize ≤ e.data.length) (lt : c.room < UInt64.size - 1) :
    let ran := c.communicate e
    let left := ran.state.envelope
    (c.accesses e =
      if e.Accepted c.room then
        [.written e.request,
          .called (c.stored e.request).delivery.1 (c.stored e.request).delivery.2]
      else
        []) ∧
    (ran.outcome = .failed .badBufferSize ↔
      e.Unfit c.room ∨ Envelope.Misfits e.size c.room) ∧
    (¬e.Accepted c.room →
      ran.state.channel = c ∧
      (¬(e.Unfit c.room ∨ Envelope.Misfits e.size c.room) →
        ran.outcome = .failed .invalidParameter) ∧
      left.data.length = e.data.length ∧
      (∀ i, i < 16 ∨ Envelope.headerSize ≤ i → left.data[i]? = e.data[i]?) ∧
      (e.Unfit c.room →
        (Envelope.messageLength left.data).toNat = c.room - Envelope.headerSize) ∧
      (¬e.Unfit c.room → left.data = e.data) ∧
      left.size = if Envelope.Misfits e.size c.room then some c.room else e.size) ∧
    (ran.outcome = .failed .badBufferSize → Envelope.headerSize < c.room →
      (ran.state.channel.communicate left).outcome ≠ .failed .badBufferSize) := by
  intro ran left
  have refused (h : ¬e.Accepted c.room) : Conversation.communicate.result ⟨c, e⟩ =
      (.failed (e.refusal c.room), ⟨c, e.returned c.room⟩) :=
    Conversation.result_communicate_of_refused (c := ⟨c, e⟩)
      (Envelope.negotiate_of_refused header lt h)
  have bad := Conversation.badBufferSize_iff (c := c) header lt
  refine ⟨?accesses, bad, fun h => ?refused, fun again more => ?converges⟩
  case accesses => exact accesses_of_channel (Conversation.channel_communicate header lt)
  case refused =>
    have left_eq : left = e.returned c.room := congrArg (·.2.envelope) (refused h)
    rw [left_eq]
    refine ⟨congrArg (·.2.channel) (refused h), fun fit => ?_, e.length_returned c.room,
      fun i outside => Envelope.getElem?_returned header outside,
      Envelope.messageLength_returned header lt, Envelope.data_returned_of_not_unfit,
      e.size_returned c.room⟩
    exact (congrArg Prod.fst (refused h)).trans (congrArg Outcome.failed (if_neg fit))
  case converges =>
    have h : ¬e.Accepted c.room := fun accepted => accepted.fit (bad.mp again)
    have left_eq : left = e.returned c.room := congrArg (·.2.envelope) (refused h)
    have channel_eq : ran.state.channel = c := congrArg (·.2.channel) (refused h)
    have returned : Envelope.headerSize ≤ (e.returned c.room).data.length :=
      (e.length_returned c.room).symm ▸ header
    rw [left_eq, channel_eq]
    exact mt (Conversation.badBufferSize_iff returned lt).mp (Envelope.returned_fit header lt more)

-- A message that is too long for the shared buffer, in a buffer whose size is given as zero. Its
-- caller is told what there is room for, and asks again.
theorem Channel.negotiation_converges_lying :
    let e : Envelope := ⟨List.replicate 16 0 ++ List.replicate 8 0xff, some 0⟩
    let ran := Parrot.lying.communicate e
    ran.outcome = .failed .badBufferSize ∧
      Envelope.messageLength ran.state.envelope.data = 16 ∧
      ran.state.envelope.size = some 40 ∧
      (ran.state.channel.communicate ran.state.envelope).outcome ≠ .failed .badBufferSize := by
  intro e ran
  have ⟨_, bad, refused, converges⟩ := Parrot.lying.negotiation_converges (e := e) (by decide)
    (by decide)
  have again := bad.mpr (by decide)
  have ⟨_, _, _, _, length, _, size⟩ := refused (by decide)
  exact ⟨again, UInt64.toNat_inj.mp (length (by decide)), size, converges again (by decide)⟩

end BoardFirmware.Secure
