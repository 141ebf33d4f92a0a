import BoardFirmware.Secure.Envelope
import BoardFirmware.Secure.Ffa
import BoardFirmware.Secure.Guid

namespace BoardFirmware.Secure

namespace Management

-- Asks for the version without a partition.
def version : UInt32 := 0x84000040

-- Delivers a message.
def communicate : UInt32 := 0xc4000041

-- The version that the caller speaks.
def major : UInt16 := 1
def minor : UInt16 := 0

end Management

-- The buffers that the partition has told the place of.
structure Buffers where
  messages     : Option MemoryRegion := none
  errorRecords : Option MemoryRegion := none
  deriving DecidableEq

namespace FfaClient

variable [Monitor μ]

-- Asks for the version without a partition.
def plainVersion : Action (FfaClient μ) UInt32 := do
  return (← call Management.version []).code.toUInt32

-- Finds out the other side's version, and refuses one that the caller does not speak.
def checkCompatibility (viaFfa : Bool) : Action (FfaClient μ) (UInt16 × UInt16) := do
  let word ← if viaFfa then version Management.major Management.minor else plainVersion
  let major := ((word >>> 16) &&& 0x7fff).toUInt16
  let minor := word.toUInt16
  let majorText := Text.hex major.toNat
  let minorText := Text.hex minor.toNat
  if major = Management.major ∧ Management.minor ≤ minor then
    Action.info s!"MM Version: Major={majorText}, Minor={minorText}"
    return (major, minor)
  else
    let wantedMajor := Text.hex Management.major.toNat
    let wantedMinor := Text.hex Management.minor.toNat
    Action.error <|
      s!"Incompatible MM Versions. Current Version: Major={majorText}, Minor={minorText}. " ++
      s!"Expected: Major={wantedMajor}, Minor>={wantedMinor}."
    throw .unsupported

-- Where a buffer is, or nothing if that can't be found out, which is only logged.
def bufferRegion? (buffer : PartitionBuffer) (what : String) :
    Action (FfaClient μ) (Option MemoryRegion) := do
  try
    return some (← bufferRegion buffer)
  catch e =>
    Action.error s!"Failed to get {what} Buffer Details. {e}"
    return none

-- Checks the version and finds the partition and its buffers, if there are partitions.
def connect (viaFfa : Bool) (mailbox : Mailbox) : Action (FfaClient μ) Buffers := do
  let _ ← checkCompatibility viaFfa
  if viaFfa then
    try
      let _ ← discover mailbox
    catch e =>
      Action.error s!"Failed to get Stmm Partition Info {e}"
    let messages ← bufferRegion? .messages "NS"
    let errorRecords ← bufferRegion? .errorRecords "ERST"
    return { messages, errorRecords }
  else
    return {}

end FfaClient

-- An event of the boot that the secure world is told of.
inductive BootEvent where
  -- Drivers have been dispatched.
  | endOfDxe
  -- The operating system takes over.
  | exitBootServices
  -- A boot option is about to be started.
  | readyToBoot
  deriving DecidableEq

namespace BootEvent

def all : List BootEvent :=
  [endOfDxe, exitBootServices, readyToBoot]

def name : BootEvent → String
  | endOfDxe         => "EndOfDxe"
  | exitBootServices => "ExitBootServices"
  | readyToBoot      => "ReadyToBoot"

def guid : BootEvent → Guid
  | endOfDxe =>
    ⟨0x02ce967a, 0xdd7e, 0x4ffc, #v[0x9e, 0xe7, 0x81, 0x0c, 0xf0, 0x47, 0x08, 0x80]⟩
  | exitBootServices =>
    ⟨0x27abf055, 0xb1b8, 0x4c26, #v[0x80, 0x48, 0x74, 0x8f, 0x37, 0xba, 0xa2, 0xdf]⟩
  | readyToBoot =>
    ⟨0x7ce88fb3, 0x4bd7, 0x4679, #v[0x87, 0xa8, 0xa8, 0xd8, 0xde, 0xe5, 0x0d, 0x2b]⟩

-- The message by which the secure world is told: a single byte for the handler of the event, in a
-- buffer of eight.
def envelope (e : BootEvent) : Envelope :=
  let data := e.guid.bytes ++ Bytes.ofWord64 1 ++ List.replicate 8 0
  ⟨data, some data.length⟩

end BootEvent

-- A way for messages to the secure world.
structure Channel (μ : Type) where
  client : FfaClient μ
  -- Whether messages go through a partition.
  viaFfa : Bool

-- The call by which the handler is told of the message in the shared buffer.
def Channel.delivery [SharedBuffer μ] (c : Channel μ) : UInt32 × Arguments :=
  let address := SharedBuffer.address c.client.monitor
  if c.viaFfa then
    let partition := c.client.partition.toUInt64
    (Ffa.directRequest, .of [partition, 0, Management.communicate.toUInt64, 0, address])
  else
    (Management.communicate, .of [0, address])

-- A channel, and the message that is being exchanged over it.
structure Conversation (μ : Type) where
  channel  : Channel μ
  envelope : Envelope

namespace Conversation

variable [Monitor μ] [SharedBuffer μ]

def onMonitor (f : μ → α × μ) : Action (Conversation μ) α :=
  modifyGet fun c =>
    let (a, monitor) := f c.channel.client.monitor
    (a, { c with channel.client.monitor := monitor })

-- The number of bytes of the shared buffer.
def room : Action (Conversation μ) Nat := do
  return SharedBuffer.size (← get).channel.client.monitor

-- Replaces the envelope, and goes on if that was possible.
def exchange (step : Envelope → Envelope × Except Status α) : Action (Conversation μ) α := do
  let (envelope, result) := step (← get).envelope
  modify fun c => { c with envelope }
  Action.ofExcept result

-- Copies bytes to the shared buffer.
def store (bytes : Bytes) : Action (Conversation μ) Unit := do
  if (← room) < bytes.length then
    Action.trap
  else
    onMonitor fun m => ((), SharedBuffer.write bytes m)

-- So many bytes from the start of the shared buffer.
def load (length : Nat) : Action (Conversation μ) Bytes := do
  if (← room) < length then
    Action.trap
  else
    return SharedBuffer.read length (← get).channel.client.monitor

-- Calls the handler of the message in the shared buffer.
def deliver : Action (Conversation μ) Results := do
  let (function, arguments) := (← get).channel.delivery
  onMonitor (Monitor.call function arguments)

-- What became of a message, as a number: zero if it was handled.
def replyCode (viaFfa : Bool) (results : Results) : Int :=
  if (viaFfa ∧ results.code = Ffa.success64.toUInt64) ∨ results.code = 0 then 0
  else if viaFfa then results.value.toUInt32.toInt32.toInt
  else results.code.toUInt32.toInt32.toInt

-- Refuses unless the message was handled.
def checkReply (results : Results) : Action (Conversation μ) Unit := do
  match replyCode (← get).channel.viaFfa results with
  | 0  => pure ()
  | -2 => throw .invalidParameter
  | -3 => throw .accessDenied
  | -5 =>
    Action.error "MM communicate out of memory"
    throw .outOfResources
  | _  =>
    let status := Text.hex results.code.toNat
    Action.error s!"Unexpected MM communicate status {status}"
    throw .accessDenied

-- Replaces the `sent` bytes of the request by the response in the shared buffer. Nothing of the
-- request is left, even if there is no response that fits.
def receive (sent : Nat) : Action (Conversation μ) Unit := do
  let cleared ← Action.checked ((← get).envelope.cleared? sent)
  modify fun c => { c with envelope := cleared }
  let header ← load Envelope.headerSize
  let total ← Action.ofExcept (cleared.responseSize header (← room))
  let response ← load total
  modify fun c => { c with envelope := cleared.answered response }
  Action.debug s!"MM response of {total} bytes"

-- Sends the message and replaces it by the response.
def communicate : Action (Conversation μ) Unit := do
  let room ← room
  let sent ← exchange (·.negotiate room)
  store ((← get).envelope.data.take sent)
  let results ← deliver
  -- A reply that is not a success leaves the caller's message as it is.
  checkReply results
  receive sent

end Conversation

namespace Channel

variable [Monitor μ] [SharedBuffer μ]

-- Sends a message and replaces it by the response, in an envelope that is kept either way.
def communicate (c : Channel μ) (e : Envelope) : Ran (Conversation μ) Unit :=
  Conversation.communicate.run ⟨c, e⟩

-- Tells the secure world of an event. The response is dropped.
def notify (event : BootEvent) : Action (Channel μ) Unit :=
  .within (⟨·, event.envelope⟩) (fun conversation _ => conversation.channel)
    Conversation.communicate

end Channel

end BoardFirmware.Secure
