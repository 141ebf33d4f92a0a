import BoardFirmware.Proofs.Action.Safe
import BoardFirmware.Proofs.Secure.Envelope
import BoardFirmware.Secure.Messages

namespace BoardFirmware.Secure

open BoardFirmware.Action

-- The shared buffer has the same size all the time.
structure FixedSize (μ : Type) [Monitor μ] [SharedBuffer μ] : Prop where
  write : ∀ bytes (m : μ), SharedBuffer.size (SharedBuffer.write bytes m) = SharedBuffer.size m
  call  : ∀ function arguments (m : μ),
    SharedBuffer.size (Monitor.call function arguments m).2 = SharedBuffer.size m

namespace Channel

variable [SharedBuffer μ]

-- The number of bytes of the shared buffer.
def room (c : Channel μ) : Nat :=
  SharedBuffer.size c.client.monitor

-- The channel after bytes have been copied to the shared buffer.
def stored (c : Channel μ) (bytes : Bytes) : Channel μ :=
  { c with client.monitor := SharedBuffer.write bytes c.client.monitor }

variable [Monitor μ]

-- The answer of the handler, and the channel after the call.
def called (c : Channel μ) : Results × Channel μ :=
  let (results, monitor) := Monitor.call c.delivery.1 c.delivery.2 c.client.monitor
  (results, { c with client.monitor := monitor })

-- The answer to a message, and the channel after it was copied and the handler called.
def asked (c : Channel μ) (e : Envelope) : Results × Channel μ :=
  (c.stored e.request).called

theorem room_asked (fixed : FixedSize μ) (c : Channel μ) (e : Envelope) :
    (c.asked e).2.room = c.room :=
  (fixed.call ..).trans (fixed.write ..)

end Channel

namespace Conversation

-- Nothing is done to the secure side any more, and the caller's buffer is as long as it was.
structure Settled (channel : Channel μ) (length : Nat) (c : Conversation μ) : Prop where
  channel : c.channel = channel
  length  : c.envelope.data.length = length

variable {c : Conversation μ} {channel : Channel μ} {length : Nat}

theorem result_exchange {step : Envelope → Envelope × Except Status α} {e : Envelope}
    {r : Except Status α} (h : step c.envelope = (e, r)) :
    (exchange step).result c = (ofExcept r).result { c with envelope := e } := by
  rw [exchange, result_bind_of_done (result_get c), h]
  rfl

theorem safe_checkReply (results : Results) :
    (checkReply results : Action (Conversation μ) Unit).Safe (Settled channel length)
      fun _ => True := by
  refine Safe.bind Safe.get fun c _ => ?_
  split
  case h_1 => exact Safe.pure trivial
  case h_2 => exact Safe.throw
  case h_3 => exact Safe.throw
  case h_4 => exact Safe.bind Safe.log fun _ _ => Safe.throw
  case h_5 => exact Safe.bind Safe.log fun _ _ => Safe.throw

variable [SharedBuffer μ]

theorem result_room (c : Conversation μ) : room.result c = (.done c.channel.room, c) := rfl

theorem result_store {bytes : Bytes} (le : bytes.length ≤ c.channel.room) :
    (store bytes).result c = (.done (), { c with channel := c.channel.stored bytes }) := by
  rw [store, result_bind_of_done (result_room c), if_neg (Nat.not_lt_of_le le)]
  rfl

theorem safe_room : (room : Action (Conversation μ) Nat).Safe (Settled channel length)
    (· = channel.room) := by
  refine Safe.bind Safe.get fun c settled => Safe.pure ?_
  rw [settled.channel]
  rfl

theorem safe_load {n : Nat} (le : n ≤ channel.room) :
    (load n : Action (Conversation μ) Bytes).Safe (Settled channel length) fun _ => True := by
  refine Safe.bind safe_room fun size hsize => ?_
  rw [hsize, if_neg (Nat.not_lt_of_le le)]
  exact Safe.bind Safe.get fun _ _ => Safe.pure trivial

-- Whatever length the response claims to have, it is read and copied within the buffers.
theorem safe_receive {sent : Nat} (header_le : Envelope.headerSize ≤ channel.room)
    (sent_le : sent ≤ length) :
    (receive sent : Action (Conversation μ) Unit).Safe (Settled channel length) fun _ => True := by
  refine Safe.bind Safe.get fun c settled => ?_
  have sent_le : sent ≤ c.envelope.data.length := settled.length.symm ▸ sent_le
  have same : (c.envelope.blanked sent).data.length = length :=
    (Envelope.length_blanked sent_le).trans settled.length
  rw [Envelope.cleared?_of_le sent_le]
  refine Safe.bind (p := (· = c.envelope.blanked sent)) (Safe.checked rfl rfl) fun zeroed eq => ?_
  subst eq
  refine Safe.bind (Safe.modify fun c settled => ⟨settled.channel, same⟩) fun _ _ => ?_
  refine Safe.bind (safe_load header_le) fun header _ => Safe.bind safe_room fun size hsize => ?_
  refine Safe.bind (p := (· ≤ channel.room)) (Safe.ofExcept fun total ok => ?_) fun total le => ?_
  case refine_1 => exact hsize ▸ Envelope.responseSize_le ok
  case refine_2 =>
    refine Safe.bind (safe_load le) fun response _ => ?_
    refine Safe.bind (Safe.modify fun c settled => ⟨settled.channel, ?_⟩) fun _ _ => Safe.log
    exact (Envelope.length_answered _ response).trans same

variable [Monitor μ]

theorem result_deliver (c : Conversation μ) :
    deliver.result c = (.done c.channel.called.1, { c with channel := c.channel.called.2 }) := rfl

theorem result_communicate_of_refused {e : Envelope} {status : Status}
    (negotiated : c.envelope.negotiate c.channel.room = (e, .error status)) :
    communicate.result c = (.failed status, { c with envelope := e }) := by
  rw [communicate, result_bind_of_done (result_room c), result_bind, result_exchange negotiated]
  rfl

-- A message that is not accepted does not get to the secure side.
theorem settled_of_not_accepted (addressable : c.envelope.Addressable)
    (refused : ¬c.envelope.Accepted c.channel.room) :
    (communicate.result c).1 ≠ .trapped ∧
      Settled c.channel c.envelope.data.length (communicate.result c).2 := by
  have ⟨e, status, negotiated, same⟩ := Envelope.negotiate_of_not_accepted addressable refused
  rw [result_communicate_of_refused negotiated]
  exact ⟨nofun, rfl, same⟩

-- A message that is accepted is copied to the shared buffer, and its handler is called. The rest of
-- the exchange goes by the answer.
theorem result_communicate (fits : c.envelope.messageSize < UInt64.size)
    (accepted : c.envelope.Accepted c.channel.room) :
    communicate.result c =
      (checkReply (c.channel.asked c.envelope).1 >>= fun _ =>
        receive c.envelope.messageSize).result
          { c with channel := (c.channel.asked c.envelope).2 } := by
  have negotiated := Envelope.negotiate_of_accepted fits accepted
  have exchanged : (exchange (·.negotiate c.channel.room)).result c =
      (.done c.envelope.messageSize, c) :=
    (result_exchange negotiated).trans rfl
  have stored : (store (c.envelope.data.take c.envelope.messageSize)).result c =
      (.done (), { c with channel := c.channel.stored c.envelope.request }) :=
    result_store (Nat.le_trans (Nat.le_of_eq accepted.length_request) accepted.le_room)
  rw [communicate, result_bind_of_done (result_room c),
    result_bind_of_done exchanged, result_bind_of_done (result_get c),
    result_bind_of_done stored, result_bind_of_done (result_deliver _)]
  rfl

theorem settled_of_accepted (fixed : FixedSize μ) (addressable : c.envelope.Addressable)
    (accepted : c.envelope.Accepted c.channel.room) :
    (communicate.result c).1 ≠ .trapped ∧
      Settled (c.channel.asked c.envelope).2 c.envelope.data.length (communicate.result c).2 := by
  have header_le : Envelope.headerSize ≤ (c.channel.asked c.envelope).2.room :=
    c.channel.room_asked fixed c.envelope ▸
      Nat.le_trans c.envelope.headerSize_le accepted.le_room
  have rest := Safe.bind (safe_checkReply (c.channel.asked c.envelope).1) fun _ _ =>
    safe_receive header_le accepted.le_data
  have start : Settled (c.channel.asked c.envelope).2 c.envelope.data.length
      { c with channel := (c.channel.asked c.envelope).2 } :=
    ⟨rfl, rfl⟩
  rw [result_communicate (accepted.fits addressable) accepted]
  exact ⟨rest.not_trapped start, rest.keeps start rfl⟩

theorem settled_communicate (fixed : FixedSize μ) (addressable : c.envelope.Addressable) :
    (communicate.result c).1 ≠ .trapped ∧
      Settled (if c.envelope.Accepted c.channel.room then (c.channel.asked c.envelope).2
        else c.channel) c.envelope.data.length (communicate.result c).2 := by
  split
  case isTrue accepted => exact settled_of_accepted fixed addressable accepted
  case isFalse refused => exact settled_of_not_accepted addressable refused

end Conversation

-- What is done to the secure side.
inductive Access where
  | written (bytes : Bytes)
  | called (function : UInt32) (arguments : Arguments)
  deriving DecidableEq

-- A secure side on which everything that is done to it is put down.
structure Recorded (μ : Type) where
  peer     : μ
  accesses : List Access

instance [Monitor μ] : Monitor (Recorded μ) where
  call function arguments r :=
    let (results, peer) := Monitor.call function arguments r.peer
    (results, ⟨peer, r.accesses ++ [.called function arguments]⟩)
  wait microseconds r := { r with peer := Monitor.wait microseconds r.peer }

instance [SharedBuffer μ] : SharedBuffer (Recorded μ) where
  address r     := SharedBuffer.address r.peer
  size r        := SharedBuffer.size r.peer
  write bytes r := ⟨SharedBuffer.write bytes r.peer, r.accesses ++ [.written bytes]⟩
  read length r := SharedBuffer.read length r.peer

theorem FixedSize.recorded [Monitor μ] [SharedBuffer μ] (fixed : FixedSize μ) :
    FixedSize (Recorded μ) where
  write bytes r             := fixed.write bytes r.peer
  call function arguments r := fixed.call function arguments r.peer

namespace Channel

variable [Monitor μ] [SharedBuffer μ]

def recorded (c : Channel μ) : Channel (Recorded μ) where
  client := ⟨⟨c.client.monitor, []⟩, c.client.retry, c.client.partition⟩
  viaFfa := c.viaFfa

-- What is done to the secure side when a message is sent, in this order.
def accesses (c : Channel μ) (e : Envelope) : List Access :=
  (c.recorded.communicate e).state.channel.client.monitor.accesses

-- What is done can be read off the side that it was done to.
theorem accesses_of_channel {c : Channel μ} {e : Envelope}
    (channel : (c.recorded.communicate e).state.channel =
      if e.Accepted c.room then (c.recorded.asked e).2 else c.recorded) :
    c.accesses e =
      if e.Accepted c.room then
        [.written e.request,
          .called (c.stored e.request).delivery.1 (c.stored e.request).delivery.2]
      else
        [] := by
  refine (congrArg (·.client.monitor.accesses) channel).trans ?_
  split
  case isTrue accepted => rfl
  case isFalse refused => rfl

theorem accesses_eq (fixed : FixedSize μ) (c : Channel μ) {e : Envelope}
    (addressable : e.Addressable) :
    c.accesses e =
      if e.Accepted c.room then
        [.written e.request,
          .called (c.stored e.request).delivery.1 (c.stored e.request).delivery.2]
      else
        [] := by
  have ⟨_, channel, _⟩ := Conversation.settled_communicate (c := ⟨c.recorded, e⟩)
    fixed.recorded addressable
  exact accesses_of_channel channel

-- No message and no answer to it lead to a trap, as any access beyond the end of a buffer would. A
-- message that is accepted is copied to the shared buffer as a whole, and then its handler is
-- called. Otherwise the secure side is left alone.
theorem communicate_confined (fixed : FixedSize μ) (c : Channel μ) {e : Envelope}
    (addressable : e.Addressable) :
    (c.communicate e).outcome ≠ .trapped ∧
    (c.communicate e).state.envelope.data.length = e.data.length ∧
    (c.communicate e).state.channel = (if e.Accepted c.room then (c.asked e).2 else c) ∧
    c.accesses e =
      (if e.Accepted c.room then
        [.written e.request,
          .called (c.stored e.request).delivery.1 (c.stored e.request).delivery.2]
      else
        []) ∧
    ∀ bytes, .written bytes ∈ c.accesses e →
      bytes.length = e.messageSize ∧ bytes.length ≤ c.room := by
  have ⟨ret, channel, length⟩ :=
    Conversation.settled_communicate (c := ⟨c, e⟩) fixed addressable
  refine ⟨ret, length, channel, accesses_eq fixed c addressable, ?_⟩
  intro bytes mem
  rw [accesses_eq fixed c addressable] at mem
  split at mem
  case isTrue accepted =>
    obtain rfl : bytes = e.request := by simpa using mem
    rw [accepted.length_request]
    exact ⟨rfl, accepted.le_room⟩
  case isFalse => cases mem

end Channel

-- A secure side that gives the same answer to every call, and leaves the same bytes at the start of
-- the shared buffer.
structure Parrot where
  memory  : Bytes
  results : Results
  left    : Bytes

instance : Monitor Parrot where
  call _ _ p := (p.results, { p with memory := p.memory.overlay p.left })
  wait _ p   := p

instance : SharedBuffer Parrot where
  address _     := 0x80000000
  size p        := p.memory.length
  write bytes p := { p with memory := p.memory.overlay bytes }
  read length p := p.memory.fit length

theorem Parrot.fixedSize : FixedSize Parrot where
  write _ _  := Bytes.length_overlay ..
  call _ _ _ := Bytes.length_overlay ..

-- All is well, it says, but the response that it leaves claims to be longer than any memory.
def Parrot.lying : Channel Parrot where
  client := ⟨⟨List.replicate 40 0, .replicate 18 0, List.replicate 40 0xff⟩, ⟨0, 0⟩, 0⟩
  viaFfa := false

-- A message of two bytes, in a buffer of 27, is sent by a caller who wants 26 bytes checked. The
-- same message is refused if 25 bytes are to be checked.
theorem Channel.communicate_confined_lying :
    (Parrot.lying.communicate
        ⟨List.replicate 16 0 ++ [2, 0, 0, 0, 0, 0, 0, 0] ++ [7, 8, 9], some 26⟩).outcome =
      .failed .deviceError ∧
    Parrot.lying.accesses
        ⟨List.replicate 16 0 ++ [2, 0, 0, 0, 0, 0, 0, 0] ++ [7, 8, 9], some 26⟩ =
      [.written (List.replicate 16 0 ++ [2, 0, 0, 0, 0, 0, 0, 0] ++ [7, 8]),
        .called 0xc4000041 (.of [0, 0x80000000])] ∧
    Parrot.lying.accesses
        ⟨List.replicate 16 0 ++ [2, 0, 0, 0, 0, 0, 0, 0] ++ [7, 8, 9], some 25⟩ = [] := by
  have sent := (Parrot.lying.communicate_confined Parrot.fixedSize
    (e := ⟨List.replicate 16 0 ++ [2, 0, 0, 0, 0, 0, 0, 0] ++ [7, 8, 9], some 26⟩)
    (by decide)).2.2.2.1
  have refused := (Parrot.lying.communicate_confined Parrot.fixedSize
    (e := ⟨List.replicate 16 0 ++ [2, 0, 0, 0, 0, 0, 0, 0] ++ [7, 8, 9], some 25⟩)
    (by decide)).2.2.2.1
  rw [if_pos (by decide)] at sent
  rw [if_neg (by decide)] at refused
  exact ⟨by decide +kernel, sent, refused⟩

end BoardFirmware.Secure
