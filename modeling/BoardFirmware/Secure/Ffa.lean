import BoardFirmware.Action
import BoardFirmware.Board
import BoardFirmware.Secure.Monitor
import BoardFirmware.Text.Hex
import BoardFirmware.Word

namespace BoardFirmware.Secure

namespace Ffa

-- The functions that are called, and those that replies name. Their numbers, and where in the
-- registers their arguments are, are those of version 1.2 of the firmware framework (FF-A), and not
-- worked out here. So every call has a number, and none is refused for want of one.
def error : UInt32 := 0x84000060
def success32 : UInt32 := 0x84000061
def success64 : UInt32 := 0xc4000061
def version : UInt32 := 0x84000063
def rxRelease : UInt32 := 0x84000065
def rxTxMap : UInt32 := 0xc4000066
def rxTxUnmap : UInt32 := 0x84000067
def partitionInfoGet : UInt32 := 0x84000068
def directRequest : UInt32 := 0xc400006f
def directResponse32 : UInt32 := 0x84000070
def directResponse : UInt32 := 0xc4000070

-- The identity of the partition that handles management messages.
def partitionUuid : List UInt64 :=
  [0x8afb129b, 0x64ca4760, 0x8618c888, 0x4caa6c4a]

-- The endpoint of a partition that has not been found.
def noEndpoint : UInt16 := 0xffff

-- The endpoint of the normal world.
def ownEndpoint : UInt16 := 0

-- A version, in the form in which it is passed. The top bit stays clear: to set it is a trap, by an
-- assertion of the encoder.
def versionWord? (major minor : UInt16) : Option UInt64 :=
  if major < 0x8000 then
    some ((major.toUInt64 <<< 16) ||| minor.toUInt64)
  else
    none

-- The endpoints of a request, as they are passed.
def endpoints (source destination : UInt16) : UInt64 :=
  (source.toUInt64 <<< 16) ||| destination.toUInt64

end Ffa

-- A buffer that the partition can tell the place of.
inductive PartitionBuffer where
  -- For management messages.
  | messages
  -- For error records.
  | errorRecords
  deriving DecidableEq

namespace PartitionBuffer

def number : PartitionBuffer → UInt64
  | messages     => 0xc0270001
  | errorRecords => 0xc0270002

def name : PartitionBuffer → String
  | messages     => "NsBuffer"
  | errorRecords => "ErstUncachedBuffer"

def all : List PartitionBuffer :=
  [messages, errorRecords]

end PartitionBuffer

-- The place of a buffer, as the partition tells it.
def Results.region (r : Results) : MemoryRegion :=
  ⟨r[5], r[6]⟩

structure RetryPolicy where
  -- How often a request is sent again.
  maxRetries : UInt32
  -- Microseconds to wait before a request is sent again.
  backoff    : UInt64
  deriving DecidableEq

-- The buffers for data that the partition manager sends and receives.
structure Mailbox where
  rxAddress : UInt64
  txAddress : UInt64
  -- The size of each buffer in pages.
  pages     : UInt32
  -- What is received.
  received  : Bytes
  deriving DecidableEq

structure FfaClient (μ : Type) where
  monitor   : μ
  retry     : RetryPolicy
  -- The endpoint of the partition that handles management messages, once found.
  partition : UInt16 := Ffa.noEndpoint

namespace FfaClient

variable [Monitor μ]

def call (function : UInt32) (arguments : List UInt64) : Action (FfaClient μ) Results :=
  modifyGet fun c =>
    let (results, monitor) := Monitor.call function (.of arguments) c.monitor
    (results, { c with monitor })

def wait (microseconds : UInt64) : Action (FfaClient μ) Unit :=
  modify fun c => { c with monitor := Monitor.wait microseconds c.monitor }

-- Asks for the partition manager's version and names the caller's.
def version (major minor : UInt16) : Action (FfaClient μ) UInt32 := do
  let word ← Action.checked (Ffa.versionWord? major minor)
  return (← call Ffa.version [word]).code.toUInt32

-- Asks for the endpoint of the partition while the mailbox is mapped.
def queryPartition (mailbox : Mailbox) : Action (FfaClient μ) UInt16 := do
  let results ← call Ffa.partitionInfoGet Ffa.partitionUuid
  let found := results.value
  -- Any other number means that the UUID does not identify a partition.
  if found = 1 then
    let endpoint := Bytes.word16 (mailbox.received.fit 2)
    modify fun c => { c with partition := endpoint }
    let id := Text.hex endpoint.toNat
    Action.info s!"STMM VmId={id}"
    return endpoint
  else
    let status := Text.hex found.toNat
    Action.error s!"FFA_PARTITION_INFO_GET failed: {status}"
    throw .notFound

-- Gives the mailbox back. A failure is only logged.
def release (function : UInt32) (name : String) : Action (FfaClient μ) Unit := do
  let status := (← call function []).value
  if status ≠ 0 then
    let code := Text.hex status.toNat
    Action.warn s!"{name} failed: {code}"

-- Finds the endpoint of the partition. The mailbox is mapped for as long as that takes.
def discover (mailbox : Mailbox) : Action (FfaClient μ) UInt16 := do
  let mapping := [mailbox.txAddress, mailbox.rxAddress, mailbox.pages.toUInt64]
  let status := (← call Ffa.rxTxMap mapping).value
  if status ≠ 0 then
    let code := Text.hex status.toNat
    Action.error s!"FFA_RXTX_MAP failed: {code}"
    throw .outOfResources
  let result ← (queryPartition mailbox).attempt
  -- The mailbox is given back whether or not there is a partition.
  release Ffa.rxRelease "FFA_RX_RELEASE"
  release Ffa.rxTxUnmap "FFA_RXTX_UNMAP"
  Action.ofExcept result

-- Sends a request until it is answered, at most `left` times more. `sent` is the number of times
-- that it has been sent without an answer, so together they are the retries that the policy allows.
def sendRequest (destination : UInt16) (arguments : List UInt64) (sent : UInt32) (left : Nat) :
    Action (FfaClient μ) Results := do
  let results ← call Ffa.directRequest arguments
  let function := results.code.toUInt32
  if function = Ffa.directResponse then
    return results
  let got := Text.hex function.toNat
  let sent ← Action.checked (Word.add32? sent 1)
  match left with
  | 0 =>
    let endpoint := Text.hex destination.toNat
    Action.error s!"No direct response from {endpoint} after {sent} attempts, last {got}"
    throw .deviceError
  | left + 1 =>
    Action.debug s!"Direct request got {got}, retry {sent}"
    wait (← get).retry.backoff
    sendRequest destination arguments sent left

-- With the retries counted up to the most that there may be, this is a loop.
theorem sendRequest_eq_loop (destination : UInt16) (arguments : List UInt64)
    (attempt maxRetries : UInt32) :
    (sendRequest destination arguments attempt (maxRetries.toNat - attempt.toNat) :
      Action (FfaClient μ) Results) = (do
      let results ← call Ffa.directRequest arguments
      let function := results.code.toUInt32
      if function = Ffa.directResponse then
        return results
      let got := Text.hex function.toNat
      let next ← Action.checked (Word.add32? attempt 1)
      if maxRetries ≤ attempt then
        let endpoint := Text.hex destination.toNat
        Action.error s!"No direct response from {endpoint} after {next} attempts, last {got}"
        throw .deviceError
      else
        Action.debug s!"Direct request got {got}, retry {next}"
        wait (← get).retry.backoff
        sendRequest destination arguments next (maxRetries.toNat - next.toNat)) := by
  by_cases last : maxRetries ≤ attempt
  case pos =>
    have none : maxRetries.toNat - attempt.toNat = 0 := Nat.sub_eq_zero_of_le last
    rw [none, sendRequest]
    simp only [if_pos last]
  case neg =>
    have lt : attempt.toNat < maxRetries.toNat := Nat.lt_of_not_le last
    have fits : attempt.toNat + 1 < UInt32.size := Nat.lt_of_le_of_lt lt maxRetries.toNat_lt_size
    have next : Word.add32? attempt 1 = some (attempt + 1) := if_pos fits
    have left : maxRetries.toNat - attempt.toNat =
        maxRetries.toNat - (attempt + 1).toNat + 1 := by
      have : attempt.toNat + 1 = (attempt + 1).toNat := Word.add32?_eq_some_iff.mp next
      omega
    rw [left, sendRequest, next]
    simp only [if_neg last]
    rfl

-- Sends a request to a partition and returns its answer.
def directRequest (destination : UInt16) (arguments : List UInt64) :
    Action (FfaClient μ) Results := do
  let policy := (← get).retry
  let passed := Ffa.endpoints Ffa.ownEndpoint destination :: 0 :: arguments
  sendRequest destination passed 0 policy.maxRetries.toNat

-- Asks the partition where one of its buffers is.
def bufferRegion (buffer : PartitionBuffer) : Action (FfaClient μ) MemoryRegion := do
  let partition := (← get).partition
  if partition = Ffa.noEndpoint then
    throw .invalidParameter
  let results ← directRequest partition [buffer.number, 0, 0, 0, 0]
  let region := results.region
  let base := Text.hex region.base.toNat
  let size := Text.hex region.length.toNat
  Action.info s!"{buffer.name} at {base} size {size}"
  return region

end FfaClient

end BoardFirmware.Secure
