import BoardFirmware.Proofs.Secure.Response
import BoardFirmware.Proofs.Secure.Script

/-!
Which replies are taken for successes. A partition answers by a direct response that comes with a
status, and a client that sends it a request waits for such an answer. For a message the status is
read whatever function the reply names: an interruption or an error that happens to come with a zero
there is taken for a success too, and what the shared buffer holds then for a response. All other
replies are refused and leave the message to the caller.
-/

namespace BoardFirmware.Secure

namespace Results

-- The status that the handler gives.
def status (r : Results) : Int32 :=
  r.value.toUInt32.toInt32

-- The call itself was a success.
def Returned (r : Results) : Prop :=
  r.code = 0 ∨ r.code = Ffa.success64.toUInt64

-- The message was handled: the call was a success, or the partition answers that it was.
def Succeeds (r : Results) : Prop :=
  r.Returned ∨ r.Answers ∧ r.status = 0

instance (r : Results) : Decidable r.Succeeds := by
  unfold Succeeds Returned
  infer_instance

-- The reply is no answer, but has the status of one that is a success.
structure Mistaken (r : Results) : Prop where
  pending : ¬r.Returned
  other   : ¬r.Answers
  status  : r.status = 0

end Results

namespace Envelope

variable {e : Envelope}

theorem messageLength_blanked {sent : Nat} (header : headerSize ≤ sent) :
    messageLength (e.blanked sent).data = 0 := by
  have zeros : List.replicate headerSize 0 <+: (e.blanked sent).data := by
    rw [blanked, ← Nat.add_sub_cancel' header, ← List.replicate_append_replicate, List.append_assoc]
    exact List.prefix_append ..
  rw [messageLength, Bytes.slice_of_prefix zeros (by decide)]
  decide

-- No message has the length zero, so it shows if one was cleared.
theorem Accepted.blanked_ne {room : Nat} (accepted : e.Accepted room) :
    e.blanked e.messageSize ≠ e := by
  intro same
  have cleared := messageLength_blanked (e := e) e.headerSize_le
  rw [same] at cleared
  exact accepted.message cleared

end Envelope

namespace Conversation

theorem replyCode_of_not_returned {r : Results} (pending : ¬r.Returned) :
    replyCode true r = r.status.toInt := by
  have ⟨zero, success⟩ := not_or.mp pending
  simp [replyCode, zero, success, Results.status]

-- The status counts whatever function the reply names.
theorem replyCode_eq_zero_iff {r : Results} :
    replyCode true r = 0 ↔ r.Succeeds ∨ r.Mistaken := by
  by_cases returned : r.Returned
  case pos =>
    have handled : replyCode true r = 0 := by
      obtain zero | success := returned <;> simp [replyCode, *]
    simp [handled, Results.Succeeds, returned]
  case neg =>
    rw [replyCode_of_not_returned returned, ← Int32.toInt_zero, Int32.toInt_inj]
    constructor
    case mp =>
      intro status
      by_cases answers : r.Answers
      case pos => exact .inl (.inr ⟨answers, status⟩)
      case neg => exact .inr ⟨returned, answers, status⟩
    case mpr =>
      rintro ((returned' | ⟨_, status⟩) | mistaken)
      case inl.inl => exact absurd returned' returned
      case inl.inr => exact status
      case inr     => exact mistaken.status

-- Whoever is told of a failure then finds the message cleared.
theorem envelope_of_handled [Monitor μ] [SharedBuffer μ] {channel : Channel μ} {e : Envelope}
    (fixed : FixedSize μ) (reads : ReadsStart μ) (addressable : e.Addressable)
    (accepted : e.Accepted channel.room)
    (handled : replyCode channel.viaFfa (channel.asked e).1 = 0)
    (failed : (communicate.result ⟨channel, e⟩).1 = .failed status) :
    (communicate.result ⟨channel, e⟩).2.envelope = e.blanked e.messageSize := by
  rw [result_communicate_of_handled fixed reads addressable accepted handled] at failed ⊢
  split
  case isTrue => rfl
  case isFalse fits =>
  split
  case isTrue => rfl
  case isFalse enough =>
    rw [if_neg fits, if_neg enough] at failed
    cases failed

end Conversation

namespace Channel

open Conversation

-- Over FF-A, a reply is refused and the message left to the caller, unless the reply is a success
-- or mistaken for one. In that case the response is fetched from the shared buffer.
theorem reply_refused_iff [Monitor μ] [SharedBuffer μ] (fixed : FixedSize μ) (reads : ReadsStart μ)
    (c : Channel μ) (viaFfa : c.viaFfa = true) {e : Envelope} (addressable : e.Addressable)
    (accepted : e.Accepted c.room) :
    let reply := (c.asked e).1
    let ran := c.communicate e
    let refused := (∃ status, ran.outcome = .failed status) ∧ ran.state.envelope = e
    (refused ↔ ¬reply.Succeeds ∧ ¬reply.Mistaken) ∧
    (refused → ran.outcome = .failed (refusal reply.status.toInt)) ∧
    (¬refused → Conversation.communicate.result ⟨c, e⟩ =
      (receive e.messageSize).result ⟨(c.asked e).2, e⟩) := by
  intro reply ran refused
  by_cases handled : replyCode c.viaFfa reply = 0
  case pos =>
    have taken : reply.Succeeds ∨ reply.Mistaken := replyCode_eq_zero_iff.mp (viaFfa ▸ handled)
    have fetches := result_communicate_of_replyCode addressable accepted handled
    have passed : ¬refused := by
      intro ⟨⟨status, failed⟩, same⟩
      have cleared := envelope_of_handled fixed reads addressable accepted handled failed
      exact accepted.blanked_ne (cleared.symm.trans same)
    simp [passed, fetches, ← not_or, taken]
  case neg =>
    have run := result_communicate_of_not_handled addressable accepted handled
    rw [viaFfa] at handled run
    have other : ¬(reply.Succeeds ∨ reply.Mistaken) := mt replyCode_eq_zero_iff.mpr handled
    have pending : ¬reply.Returned := fun returned => other (.inl (.inl returned))
    rw [replyCode_of_not_returned pending] at run
    have outcome : ran.outcome = .failed (refusal reply.status.toInt) := congrArg Prod.fst run
    have refused' : refused := ⟨⟨_, outcome⟩, congrArg (·.2.envelope) run⟩
    simp [refused', outcome, ← not_or, other]

end Channel

-- A partition that gives the same reply to every message, with a response of two bytes.
def Parrot.replying (values : List UInt64) : Channel Parrot where
  client := ⟨⟨List.replicate 40 0, .ofFn fun i => values.getD i 0,
    List.replicate 16 0 ++ [2, 0, 0, 0, 0, 0, 0, 0] ++ [8, 9]⟩, ⟨0, 0⟩, 0x8002⟩
  viaFfa := true

-- The partition responds that the message is denied.
theorem Channel.reply_refused_iff_denied :
    let c := Parrot.replying [0xc4000070, 0, 0xfffffffffffffffd]
    let e : Envelope := ⟨List.replicate 16 1 ++ [3, 0, 0, 0, 0, 0, 0, 0] ++ [1, 2, 3], none⟩
    (c.communicate e).outcome = .failed .accessDenied ∧ (c.communicate e).state.envelope = e := by
  intro c e
  have ⟨refused, reason, _⟩ := c.reply_refused_iff Parrot.fixedSize Parrot.readsStart rfl (e := e)
    (by decide) (by decide)
  have ended := refused.mpr ⟨by decide, fun mistaken => absurd mistaken.status (by decide)⟩
  have denied : Conversation.refusal (c.asked e).1.status.toInt = .accessDenied := by decide
  exact ⟨denied ▸ reason ended, ended.right⟩

-- The partition is interrupted before it is done with the message, but all else is zero.
theorem Channel.interruption_taken_for_success :
    let c := Parrot.replying [0x84000062]
    let e : Envelope := ⟨List.replicate 16 1 ++ [3, 0, 0, 0, 0, 0, 0, 0] ++ [1, 2, 3], none⟩
    e.Accepted c.room ∧ (c.asked e).1.code = 0x84000062 ∧ ¬(c.asked e).1.Succeeds ∧
      (c.communicate e).outcome = .done () ∧
      (c.communicate e).state.envelope.data =
        List.replicate 16 0 ++ [2, 0, 0, 0, 0, 0, 0, 0] ++ [8, 9, 0] := by
  decide +kernel

end BoardFirmware.Secure
