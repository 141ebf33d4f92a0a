import BoardFirmware.Proofs.Action.Result
import BoardFirmware.Secure.Ffa

namespace BoardFirmware.Secure

open BoardFirmware.Action

-- What a client asks of the monitor.
inductive Demand where
  | called (function : UInt32) (arguments : Arguments)
  | waited (microseconds : UInt64)
  deriving DecidableEq

def Demand.isCall : Demand → Bool
  | called ..  => true
  | waited _   => false

-- A monitor that gives its replies one after the other, whatever it is asked. All that it has been
-- asked is put down.
structure Script where
  replies : Nat → Results
  demands : List Demand

namespace Script

-- The replies to the calls from now on.
def upcoming (s : Script) (i : Nat) : Results :=
  s.replies (s.demands.countP Demand.isCall + i)

-- The script after more has been asked.
def past (s : Script) (demands : List Demand) : Script :=
  { s with demands := s.demands ++ demands }

instance : Monitor Script where
  call function arguments s := (s.upcoming 0, s.past [.called function arguments])
  wait microseconds s       := s.past [.waited microseconds]

theorem upcoming_past (s : Script) (demands : List Demand) (i : Nat) :
    (s.past demands).upcoming i = s.upcoming (demands.countP Demand.isCall + i) := by
  rw [upcoming, past, List.countP_append, Nat.add_assoc, upcoming]

end Script

-- The reply is the answer to a request.
def Results.Answers (r : Results) : Prop :=
  r.code.toUInt32 = Ffa.directResponse

instance (r : Results) : Decidable r.Answers := by
  unfold Results.Answers
  infer_instance

-- Which reply is the first to answer a request, if it is sent again at most `left` times.
def answerAt? (replies : Nat → Results) (left : Nat) : Option Nat :=
  (List.range (left + 1)).find? fun i => (replies i).Answers

theorem answerAt?_of_answers {replies : Nat → Results} (h : (replies 0).Answers) (left : Nat) :
    answerAt? replies left = some 0 := by
  rw [answerAt?, List.range_succ_eq_map,
    List.find?_cons_of_pos (p := fun i => decide (replies i).Answers) (decide_eq_true h)]

theorem answerAt?_zero {replies : Nat → Results} (h : ¬(replies 0).Answers) :
    answerAt? replies 0 = none :=
  List.find?_eq_none.mpr fun i mem => by
    obtain rfl : i = 0 := by simpa using mem
    simpa using h

theorem answerAt?_succ {replies : Nat → Results} (h : ¬(replies 0).Answers) (left : Nat) :
    answerAt? replies (left + 1) = (answerAt? (fun i => replies (i + 1)) left).map (· + 1) := by
  rw [answerAt?, List.range_succ_eq_map, List.find?_cons_of_neg (by simpa using h), List.find?_map]
  rfl

-- A request that is sent, and sent again so many times.
def resent (request : Demand) (backoff : UInt64) : Nat → List Demand
  | 0     => [request]
  | n + 1 => request :: .waited backoff :: resent request backoff n

theorem countP_resent (function : UInt32) (arguments : Arguments) (backoff : UInt64) (n : Nat) :
    (resent (.called function arguments) backoff n).countP Demand.isCall = n + 1 := by
  induction n with
  | zero      => rfl
  | succ n ih => rw [resent, List.countP_cons, List.countP_cons, ih]; rfl

namespace FfaClient

-- A client that asks a script.
def ofScript (replies : Nat → Results) (retry : RetryPolicy) : FfaClient Script where
  monitor := ⟨replies, []⟩
  retry   := retry

-- The client after it has asked for more.
def past (c : FfaClient Script) (demands : List Demand) : FfaClient Script :=
  { c with monitor := c.monitor.past demands }

variable {c : FfaClient Script}

theorem past_nil (c : FfaClient Script) : c.past [] = c := by
  rw [past, Script.past, List.append_nil]

theorem past_past (c : FfaClient Script) (demands more : List Demand) :
    (c.past demands).past more = c.past (demands ++ more) := by
  rw [past, past, past, Script.past, Script.past, Script.past, List.append_assoc]

theorem result_call (function : UInt32) (arguments : List UInt64) (c : FfaClient Script) :
    (call function arguments).result c =
      (.done (c.monitor.upcoming 0), c.past [.called function (.of arguments)]) := rfl

theorem result_wait (microseconds : UInt64) (c : FfaClient Script) :
    (wait microseconds).result c = (.done (), c.past [.waited microseconds]) := rfl

theorem result_sendRequest_of_answers {destination : UInt16} {arguments : List UInt64}
    {sent : UInt32} {left : Nat} (h : (c.monitor.upcoming 0).Answers) :
    (sendRequest destination arguments sent left).result c =
      (.done (c.monitor.upcoming 0), c.past [.called Ffa.directRequest (.of arguments)]) := by
  have answers : (c.monitor.upcoming 0).code.toUInt32 = Ffa.directResponse := h
  cases left
  all_goals
    rw [sendRequest, result_bind_of_done (result_call ..)]
    dsimp only
    rw [if_pos answers]
    rfl

theorem result_sendRequest_zero {destination : UInt16} {arguments : List UInt64} {sent : UInt32}
    (fits : sent.toNat + 1 < UInt32.size) (h : ¬(c.monitor.upcoming 0).Answers) :
    (sendRequest destination arguments sent 0).result c =
      (.failed .deviceError, c.past [.called Ffa.directRequest (.of arguments)]) := by
  have answers : ¬(c.monitor.upcoming 0).code.toUInt32 = Ffa.directResponse := h
  have next : Word.add32? sent 1 = some (sent + 1) := if_pos fits
  rw [sendRequest, result_bind_of_done (result_call ..)]
  dsimp only
  rw [if_neg answers, next]
  rfl

theorem result_sendRequest_succ {destination : UInt16} {arguments : List UInt64} {sent : UInt32}
    {left : Nat} (fits : sent.toNat + 1 < UInt32.size) (h : ¬(c.monitor.upcoming 0).Answers) :
    (sendRequest destination arguments sent (left + 1)).result c =
      (sendRequest destination arguments (sent + 1) left).result
        (c.past [.called Ffa.directRequest (.of arguments), .waited c.retry.backoff]) := by
  have answers : ¬(c.monitor.upcoming 0).code.toUInt32 = Ffa.directResponse := h
  have next : Word.add32? sent 1 = some (sent + 1) := if_pos fits
  rw [sendRequest, result_bind_of_done (result_call ..)]
  dsimp only
  rw [if_neg answers, next, result_bind_of_done (result_checked_some ..),
    result_bind_of_done (result_debug ..), result_bind_of_done (result_get _),
    result_bind_of_done (result_wait ..), past_past]
  rfl

-- A request is sent until it is answered, or until it has been sent again as often as it may be.
theorem result_sendRequest (destination : UInt16) (arguments : List UInt64) {sent : UInt32}
    {left : Nat} (fits : sent.toNat + left + 1 < UInt32.size) (c : FfaClient Script) :
    (sendRequest destination arguments sent left).result c =
      match answerAt? c.monitor.upcoming left with
      | some i =>
        (.done (c.monitor.upcoming i),
          c.past (resent (.called Ffa.directRequest (.of arguments)) c.retry.backoff i))
      | none   =>
        (.failed .deviceError,
          c.past (resent (.called Ffa.directRequest (.of arguments)) c.retry.backoff left)) := by
  induction left generalizing sent c with
  | zero =>
    by_cases answers : (c.monitor.upcoming 0).Answers
    case pos => rw [answerAt?_of_answers answers, result_sendRequest_of_answers answers]; rfl
    case neg => rw [answerAt?_zero answers, result_sendRequest_zero fits answers]; rfl
  | succ left ih =>
    by_cases answers : (c.monitor.upcoming 0).Answers
    case pos => rw [answerAt?_of_answers answers, result_sendRequest_of_answers answers]; rfl
    case neg =>
      have size : UInt32.size = 2 ^ 32 := rfl
      have next : (sent + 1).toNat = sent.toNat + 1 := by
        rw [UInt32.toNat_add, show (1 : UInt32).toNat = 1 from rfl]
        exact Nat.mod_eq_of_lt (by omega)
      have later : (c.past [.called Ffa.directRequest (.of arguments),
          .waited c.retry.backoff]).monitor.upcoming = fun i => c.monitor.upcoming (i + 1) := by
        funext i
        rw [past, Script.upcoming_past, Nat.add_comm i]
        rfl
      rw [result_sendRequest_succ (by omega) answers, ih (by omega), later,
        answerAt?_succ answers left]
      cases answerAt? (fun i => c.monitor.upcoming (i + 1)) left
      case none   => exact congrArg (Prod.mk _) (past_past ..)
      case some i => exact congrArg (Prod.mk _) (past_past ..)

-- A direct request, as the monitor gets it.
def request (destination : UInt16) (arguments : List UInt64) : Demand :=
  .called Ffa.directRequest (.of (Ffa.endpoints Ffa.ownEndpoint destination :: 0 :: arguments))

theorem result_directRequest (destination : UInt16) (arguments : List UInt64)
    (fits : c.retry.maxRetries.toNat + 1 < UInt32.size) :
    (directRequest destination arguments).result c =
      match answerAt? c.monitor.upcoming c.retry.maxRetries.toNat with
      | some i =>
        (.done (c.monitor.upcoming i),
          c.past (resent (request destination arguments) c.retry.backoff i))
      | none   =>
        (.failed .deviceError,
          c.past (resent (request destination arguments) c.retry.backoff
            c.retry.maxRetries.toNat)) := by
  rw [directRequest, result_bind_of_done (result_get c)]
  exact result_sendRequest _ _ (by rw [show (0 : UInt32).toNat = 0 from rfl]; omega) c

end FfaClient

end BoardFirmware.Secure
