import BoardFirmware.Proofs.Secure.Script
import BoardFirmware.Secure.Messages

namespace BoardFirmware.Secure

open BoardFirmware.Action

namespace Mailbox

-- The endpoint that is received, if any is.
def endpoint (m : Mailbox) : UInt16 :=
  .ofNat ((m.received.getD 0 0).toNat + 256 * (m.received.getD 1 0).toNat)

theorem word16_received (m : Mailbox) : Bytes.word16 (m.received.fit 2) = m.endpoint := by
  rw [endpoint, Bytes.word16, Bytes.fit]
  cases m.received with
  | nil         => rfl
  | cons _ more =>
    cases more with
    | nil      => rfl
    | cons _ _ => simp [Bytes.toNat]

def mapping (m : Mailbox) : Demand :=
  .called Ffa.rxTxMap (.of [m.txAddress, m.rxAddress, m.pages.toUInt64])

-- The mailbox is mapped, used, and given back.
def discovery (m : Mailbox) : List Demand :=
  [m.mapping, .called Ffa.partitionInfoGet (.of Ffa.partitionUuid),
    .called Ffa.rxRelease (.of []), .called Ffa.rxTxUnmap (.of [])]

-- The partition that is found if these are the replies.
def found? (m : Mailbox) (replies : Nat → Results) : Option UInt16 :=
  if (replies 0).value = 0 ∧ (replies 1).value = 1 then some m.endpoint else none

-- The partition that is found, unless it has the number that stands for none.
def usable? (m : Mailbox) (replies : Nat → Results) : Option UInt16 :=
  (m.found? replies).filter (· ≠ Ffa.noEndpoint)

theorem found?_of_usable? {m : Mailbox} {replies : Nat → Results} {partition : UInt16}
    (h : m.usable? replies = some partition) :
    (replies 0).value = 0 ∧ m.found? replies = some partition ∧ partition ≠ Ffa.noEndpoint := by
  have ⟨found, usable⟩ := Option.filter_eq_some_iff.mp h
  refine ⟨?_, found, of_decide_eq_true usable⟩
  rw [found?] at found
  split at found
  case isTrue both => exact both.1
  case isFalse     => cases found

theorem found?_of_not_usable? {m : Mailbox} {replies : Nat → Results}
    (h : m.usable? replies = none) : (m.found? replies).getD Ffa.noEndpoint = Ffa.noEndpoint := by
  cases found : m.found? replies
  case none           => rfl
  case some partition =>
    have unusable := Option.filter_eq_none_iff.mp h partition found
    simpa using unusable

end Mailbox

-- The request for the place of a buffer.
def PartitionBuffer.request (b : PartitionBuffer) (partition : UInt16) : Demand :=
  FfaClient.request partition [b.number, 0, 0, 0, 0]

theorem PartitionBuffer.countP_resent (b : PartitionBuffer) (partition : UInt16) (backoff : UInt64)
    (n : Nat) : (resent (b.request partition) backoff n).countP Demand.isCall = n + 1 :=
  Secure.countP_resent ..

-- The reply is a version that the client speaks.
def Results.Compatible (r : Results) : Prop :=
  ((r.code.toUInt32 >>> 16) &&& 0x7fff).toUInt16 = Management.major ∧
    Management.minor ≤ r.code.toUInt32.toUInt16

instance (r : Results) : Decidable r.Compatible := by
  unfold Results.Compatible
  infer_instance

namespace FfaClient

-- The client names the version that it speaks.
def versionCall : Demand :=
  .called Ffa.version (.of [0x10000])

variable {c : FfaClient Script} {m : Mailbox}

theorem result_release (function : UInt32) (name : String) (c : FfaClient Script) :
    (release function name).result c = (.done (), c.past [.called function (.of [])]) := by
  rw [release, result_bind_of_done (result_call ..)]
  dsimp only
  split <;> rfl

-- The client after it has looked for the partition.
def discovered (c : FfaClient Script) (m : Mailbox) : FfaClient Script :=
  { c.past (if (c.monitor.upcoming 0).value = 0 then m.discovery else [m.mapping]) with
    partition := (m.found? c.monitor.upcoming).getD c.partition }

theorem result_queryPartition (c : FfaClient Script) (m : Mailbox) :
    (queryPartition m).result c =
      if (c.monitor.upcoming 0).value = 1 then
        (.done m.endpoint, { c.past [.called Ffa.partitionInfoGet (.of Ffa.partitionUuid)] with
          partition := m.endpoint })
      else
        (.failed .notFound, c.past [.called Ffa.partitionInfoGet (.of Ffa.partitionUuid)]) := by
  rw [queryPartition, result_bind_of_done (result_call ..)]
  dsimp only
  rw [m.word16_received]
  split <;> rfl

-- Four calls are made if the mailbox can be mapped, and one if not.
theorem result_discover (c : FfaClient Script) (m : Mailbox) :
    (discover m).result c =
      (if (c.monitor.upcoming 0).value = 0 then
        if (c.monitor.upcoming 1).value = 1 then .done m.endpoint else .failed .notFound
      else
        .failed .outOfResources,
      c.discovered m) := by
  have mapping : (call Ffa.rxTxMap [m.txAddress, m.rxAddress, m.pages.toUInt64]).result c =
      (.done (c.monitor.upcoming 0), c.past [m.mapping]) := rfl
  have next : (c.past [m.mapping]).monitor.upcoming 0 = c.monitor.upcoming 1 :=
    Script.upcoming_past ..
  have query := result_attempt (queryPartition m) (c.past [m.mapping])
  rw [result_queryPartition, next] at query
  rw [discover, result_bind_of_done mapping]
  dsimp only
  by_cases mapped : (c.monitor.upcoming 0).value = 0
  case neg =>
    rw [if_pos mapped, if_neg mapped, discovered, if_neg mapped, Mailbox.found?,
      if_neg (mt And.left mapped)]
    rfl
  case pos =>
    rw [if_neg (fun failed => failed mapped), if_pos mapped, discovered, if_pos mapped,
      Mailbox.found?]
    by_cases found : (c.monitor.upcoming 1).value = 1
    case pos =>
      rw [if_pos found] at query
      rw [if_pos found, if_pos ⟨mapped, found⟩, result_bind_of_done query,
        result_bind_of_done (result_release ..), result_bind_of_done (result_release ..)]
      simp only [past, Script.past, List.append_assoc]
      rfl
    case neg =>
      rw [if_neg found] at query
      rw [if_neg found, if_neg (mt And.right found), result_bind_of_done query,
        result_bind_of_done (result_release ..), result_bind_of_done (result_release ..)]
      simp only [past, Script.past, List.append_assoc]
      rfl

-- What the partition tells about a buffer, if there is a partition and it answers.
def told (c : FfaClient Script) : Option MemoryRegion :=
  if c.partition = Ffa.noEndpoint then
    none
  else
    (answerAt? c.monitor.upcoming c.retry.maxRetries.toNat).map fun i =>
      (c.monitor.upcoming i).region

-- What is asked to find out about a buffer.
def asking (c : FfaClient Script) (buffer : PartitionBuffer) : List Demand :=
  if c.partition = Ffa.noEndpoint then
    []
  else
    resent (buffer.request c.partition) c.retry.backoff
      ((answerAt? c.monitor.upcoming c.retry.maxRetries.toNat).getD c.retry.maxRetries.toNat)

theorem told_of_lacking (h : c.partition = Ffa.noEndpoint) : c.told = none :=
  if_pos h

theorem asking_of_lacking (h : c.partition = Ffa.noEndpoint) (buffer : PartitionBuffer) :
    c.asking buffer = [] :=
  if_pos h

theorem told_of_found (h : c.partition ≠ Ffa.noEndpoint) :
    c.told = (answerAt? c.monitor.upcoming c.retry.maxRetries.toNat).map fun i =>
      (c.monitor.upcoming i).region :=
  if_neg h

theorem asking_of_found (h : c.partition ≠ Ffa.noEndpoint) (buffer : PartitionBuffer) :
    c.asking buffer = resent (buffer.request c.partition) c.retry.backoff
      ((answerAt? c.monitor.upcoming c.retry.maxRetries.toNat).getD c.retry.maxRetries.toNat) :=
  if_neg h

theorem result_bufferRegion (buffer : PartitionBuffer)
    (fits : c.retry.maxRetries.toNat + 1 < UInt32.size) :
    (bufferRegion buffer).result c =
      (match c.told with
      | some region => .done region
      | none        =>
        .failed (if c.partition = Ffa.noEndpoint then .invalidParameter else .deviceError),
      c.past (c.asking buffer)) := by
  rw [bufferRegion, result_bind_of_done (result_get c), told, asking]
  dsimp only
  by_cases lacking : c.partition = Ffa.noEndpoint
  case pos =>
    rw [if_pos lacking, if_pos lacking, if_pos lacking, if_pos lacking, past_nil]
    rfl
  case neg =>
    rw [if_neg lacking, if_neg lacking, if_neg lacking, if_neg lacking, result_bind,
      result_directRequest _ _ fits]
    cases answerAt? c.monitor.upcoming c.retry.maxRetries.toNat
    case none   => rfl
    case some i => rfl

theorem result_bufferRegion? (buffer : PartitionBuffer) (what : String)
    (fits : c.retry.maxRetries.toNat + 1 < UInt32.size) :
    (bufferRegion? buffer what).result c = (.done c.told, c.past (c.asking buffer)) := by
  rw [bufferRegion?, result_bind, result_tryCatch, result_bind, result_bufferRegion buffer fits]
  cases c.told
  case none        => rfl
  case some region => rfl

theorem result_checkCompatibility (c : FfaClient Script) :
    (checkCompatibility true).result c =
      (if (c.monitor.upcoming 0).Compatible then
        .done (((((c.monitor.upcoming 0).code.toUInt32 >>> 16) &&& 0x7fff).toUInt16),
          (c.monitor.upcoming 0).code.toUInt32.toUInt16)
      else
        .failed .unsupported,
      c.past [versionCall]) := by
  have asked : (version Management.major Management.minor).result c =
      (.done (c.monitor.upcoming 0).code.toUInt32, c.past [versionCall]) := rfl
  rw [checkCompatibility, if_pos rfl, result_bind_of_done asked]
  dsimp only
  by_cases compatible : (c.monitor.upcoming 0).Compatible
  case pos =>
    rw [if_pos compatible]
    have ⟨major, minor⟩ := compatible
    rw [if_pos ⟨major, minor⟩]
    rfl
  case neg =>
    rw [if_neg compatible, if_neg (fun h => compatible ⟨h.1, h.2⟩)]
    rfl

-- That there is no partition is not a failure.
theorem result_tryCatch_discover (c : FfaClient Script) (m : Mailbox)
    (handler : Status → Action (FfaClient Script) Unit)
    (logs : ∀ e d, (handler e).result d = (.done (), d)) :
    (tryCatch (discover m >>= fun _ => pure ()) handler).result c = (.done (), c.discovered m) := by
  rw [result_tryCatch, result_bind, result_discover]
  by_cases mapped : (c.monitor.upcoming 0).value = 0
  case neg =>
    rw [if_neg mapped]
    exact logs ..
  case pos =>
    rw [if_pos mapped]
    by_cases found : (c.monitor.upcoming 1).value = 1
    case pos =>
      rw [if_pos found]
      rfl
    case neg =>
      rw [if_neg found]
      exact logs ..

theorem result_connect (fits : c.retry.maxRetries.toNat + 1 < UInt32.size) (m : Mailbox)
    {found asked : FfaClient Script} (hfound : (c.past [versionCall]).discovered m = found)
    (hasked : found.past (found.asking .messages) = asked) :
    (connect true m).result c =
      if (c.monitor.upcoming 0).Compatible then
        (.done ⟨found.told, asked.told⟩, asked.past (asked.asking .errorRecords))
      else
        (.failed .unsupported, c.past [versionCall]) := by
  have tried := result_tryCatch_discover (c.past [versionCall]) m
    (fun e => error s!"Failed to get Stmm Partition Info {e}") fun _ _ => rfl
  have first := result_bufferRegion? .messages "NS" (c := found) (by rw [← hfound]; exact fits)
  have second := result_bufferRegion? .errorRecords "ERST" (c := asked)
    (by rw [← hasked, ← hfound]; exact fits)
  rw [hfound] at tried
  rw [hasked] at first
  rw [connect, result_bind, result_checkCompatibility]
  by_cases compatible : (c.monitor.upcoming 0).Compatible
  case neg =>
    rw [if_neg compatible, if_neg compatible]
  case pos =>
    rw [if_pos compatible, if_pos compatible]
    dsimp only
    rw [if_pos rfl, result_bind_of_done tried, result_bind_of_done first,
      result_bind_of_done second]
    rfl

section Script

variable {replies : Nat → Results} {retry : RetryPolicy} {partition : UInt16}
  (bounded : retry.maxRetries.toNat + 1 < UInt32.size) (compatible : (replies 0).Compatible)

include bounded compatible

theorem connect_of_not_usable (unusable : m.usable? (fun i => replies (1 + i)) = none) :
    (connect true m).result (ofScript replies retry) =
      (.done ⟨none, none⟩, ((ofScript replies retry).past [versionCall]).discovered m) := by
  have lacking : (((ofScript replies retry).past [versionCall]).discovered m).partition =
      Ffa.noEndpoint :=
    Mailbox.found?_of_not_usable? unusable
  have version : (ofScript replies retry).monitor.upcoming 0 = replies 0 := rfl
  rw [result_connect bounded m rfl rfl, version, if_pos compatible, told_of_lacking lacking,
    asking_of_lacking lacking, past_nil, told_of_lacking lacking, asking_of_lacking lacking,
    past_nil]

theorem connect_of_usable (usable : m.usable? (fun i => replies (1 + i)) = some partition)
    {first second : Option Nat} {more : Nat}
    (hfirst : answerAt? (fun i => replies (5 + i)) retry.maxRetries.toNat = first)
    (hmore : first.getD retry.maxRetries.toNat = more)
    (hsecond : answerAt? (fun i => replies (6 + more + i)) retry.maxRetries.toNat = second) :
    (connect true m).result (ofScript replies retry) =
      (.done ⟨first.map fun i => (replies (5 + i)).region,
        second.map fun i => (replies (6 + more + i)).region⟩,
      ⟨⟨replies, versionCall :: m.discovery ++
          resent (PartitionBuffer.messages.request partition) retry.backoff more ++
          resent (PartitionBuffer.errorRecords.request partition) retry.backoff
            (second.getD retry.maxRetries.toNat)⟩, retry, partition⟩) := by
  have ⟨mapped, found, ne⟩ := Mailbox.found?_of_usable? usable
  have version : (ofScript replies retry).monitor.upcoming 0 = replies 0 := rfl
  have after_version : ((ofScript replies retry).past [versionCall]).monitor.upcoming =
      fun i => replies (1 + i) := rfl
  have after_discovery : Script.upcoming ⟨replies, versionCall :: m.discovery⟩ =
      fun i => replies (5 + i) := rfl
  -- The first request takes one reply more than the number of times that it is sent again.
  have calls : (versionCall :: m.discovery ++
      resent (PartitionBuffer.messages.request partition) retry.backoff more).countP
        Demand.isCall = 6 + more := by
    rw [List.countP_append, PartitionBuffer.countP_resent, Nat.add_comm more, ← Nat.add_assoc]
    rfl
  have after_request : Script.upcoming ⟨replies, versionCall :: m.discovery ++
      resent (PartitionBuffer.messages.request partition) retry.backoff more⟩ =
      fun i => replies (6 + more + i) := by
    funext i
    rw [Script.upcoming, calls]
  have found_eq : ((ofScript replies retry).past [versionCall]).discovered m =
      ⟨⟨replies, versionCall :: m.discovery⟩, retry, partition⟩ := by
    rw [discovered, after_version, if_pos mapped, found, past_past]
    rfl
  have asked_eq : FfaClient.past ⟨⟨replies, versionCall :: m.discovery⟩, retry, partition⟩
      (asking ⟨⟨replies, versionCall :: m.discovery⟩, retry, partition⟩ .messages) =
      ⟨⟨replies, versionCall :: m.discovery ++
        resent (PartitionBuffer.messages.request partition) retry.backoff more⟩, retry,
        partition⟩ := by
    rw [asking_of_found ne, ← hmore, ← hfirst]
    rfl
  rw [result_connect bounded m found_eq asked_eq, version, if_pos compatible, told_of_found ne,
    told_of_found ne, asking_of_found ne]
  dsimp only
  rw [after_discovery, after_request, hfirst, hsecond]
  rfl

end Script

-- The partition answers the second time that it is asked for the one buffer, and not at all when it
-- is asked for the other.
def lateReplies (i : Nat) : Results :=
  .replicate 18 (match i with | 0 => 0x10000 | 1 => 0 | 6 => 0xc4000070 | _ => 1)

end FfaClient

end BoardFirmware.Secure
