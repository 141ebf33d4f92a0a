import BoardFirmware.Action
import BoardFirmware.Clock.Registers

/-!
The clock of the board. A hardware clock counts whole seconds; between them a counter of
nanoseconds tells the time more precisely, for as long as it stays within a second of the hardware.
A virtual clock has no hardware and is only an offset from the counter, which the caller keeps
from one boot to the next.
-/

namespace BoardFirmware

-- A device with byte registers.
class RegisterBus (δ : Type) where
  -- Reads consecutive registers, the first of which is given.
  read  : (register : UInt8) → (length : Nat) → δ → Except Status Bytes × δ
  -- Writes consecutive registers.
  write : (register : UInt8) → Bytes → δ → Except Status Unit × δ

namespace Clock

structure Config where
  -- The year that a year register of zero stands for.
  baseYear   : UInt16
  isVirtual  : Bool
  -- Whether the CPU may take the ownership of the time registers.
  hasControl : Bool
  -- When the firmware was built, where a virtual clock starts.
  buildEpoch : Int
  deriving DecidableEq

structure Capabilities where
  -- Counts per second.
  resolution : UInt32
  -- In parts per million.
  accuracy   : UInt32
  -- Whether setting the time starts a new second.
  setsToZero : Bool
  deriving DecidableEq

-- The services that may remain available to the operating system.
def getTimeService : UInt32 := 1
def setTimeService : UInt32 := 2

def nanosPerSecond : Int := 1000000000

end Clock

structure Clock (δ : Type) where
  bus               : δ
  config            : Clock.Config
  -- Nanoseconds from the counter to the epoch, once known.
  counterOffset     : Option Int
  -- The epoch that a virtual clock was set to last.
  rtcOffset         : Int
  -- The services available to the operating system, once it runs.
  runtimeServices   : Option UInt32

namespace Clock

-- A clock that has not told the time yet. A virtual one goes on from the epoch that an earlier boot
-- stored, if there is one.
def ofBus (bus : δ) (config : Config) (storedOffset : Option Int) : Clock δ where
  bus
  config
  counterOffset   := none
  rtcOffset       := storedOffset.getD config.buildEpoch
  runtimeServices := none

-- The operating system takes over, and keeps the given services.
def exitBootServices (services : UInt32) : Action (Clock δ) Unit :=
  modify fun c => { c with runtimeServices := some services }

def capabilities : Capabilities :=
  ⟨1, 0, false⟩

-- A service may be used before the operating system takes over, and afterwards if it was kept.
def checkRuntime (service : UInt32) : Action (Clock δ) Unit := do
  match (← get).runtimeServices with
  | none          => pure ()
  | some services => if services &&& service = 0 then throw .unsupported

def checked (n : Int) : Action (Clock δ) Int :=
  Action.checked (Word.signed64? n)

-- Ties the counter to an epoch: `seconds` is the counter's reading at that time.
def anchor (epoch seconds : Int) : Action (Clock δ) Unit := do
  let start ← checked (epoch - seconds)
  let offset ← checked (start * nanosPerSecond)
  modify fun c => { c with counterOffset := some offset }

-- The epoch by the counter alone, if the counter is tied to one.
def counterEpoch? (nanos : Int) : Action (Clock δ) (Option Int) := do
  match (← get).counterOffset with
  | none        => return none
  | some offset => return some ((← checked (nanos + offset)).tdiv nanosPerSecond)

-- The epoch by a virtual clock.
def virtualEpoch (nanos : Int) : Action (Clock δ) Int := do
  match ← counterEpoch? nanos with
  | some epoch => return epoch
  | none       =>
    let epoch := (← get).rtcOffset
    anchor epoch (nanos.tdiv nanosPerSecond)
    return epoch

variable [RegisterBus δ]

def onBus (ask : δ → Except Status α × δ) : Action (Clock δ) α :=
  .within bus (fun d c => { c with bus := d }) (Action.request ask)

-- Reads registers. Whatever goes wrong is reported as an error of the device.
def readRegisters (register : UInt8) (length : Nat) (what : String) : Action (Clock δ) Bytes := do
  try
    return .fit length (← onBus (RegisterBus.read register length))
  catch e =>
    Action.error s!"Failed to read {what}: {e}"
    throw .deviceError

def checkRunning (control : Control) : Action (Clock δ) Unit := do
  if control.Has Control.stopped then
    Action.error "RTC is stopped"
    throw .deviceError

-- The epoch by the time registers.
def hardwareEpoch : Action (Clock δ) Int := do
  let registers ← readRegisters 0 (timeRegisters + 1) "time registers"
  let control : Control := ⟨registers.getD timeRegisters 0⟩
  checkRunning control
  let time ← Action.checked (control.format.decode? (← get).config.baseYear registers)
  return time.toEpoch

-- The epoch by the hardware, or a second more if the counter is ahead by no more than that. The
-- counter is tied to the hardware anew when they have drifted apart.
def refinedEpoch (nanos : Int) : Action (Clock δ) Int := do
  let epoch ← hardwareEpoch
  let byCounter ← counterEpoch? nanos
  -- The hardware may be about to go on to the next second when the counter already has.
  if byCounter = some epoch ∨ byCounter = some (epoch + 1) then
    return byCounter.getD epoch
  else
    anchor epoch (nanos.tdiv nanosPerSecond)
    return epoch

-- The local time in the given zone, when the counter reads `counter` nanoseconds.
def getTime (counter : UInt64) (zone : Int16) (daylight : UInt8) :
    Action (Clock δ) CalendarTime := do
  checkRuntime getTimeService
  let nanos := Word.toSigned counter
  let epoch ← if (← get).config.isVirtual then virtualEpoch nanos else refinedEpoch nanos
  let epoch ← checked (epoch + CalendarTime.localOffset zone daylight)
  -- The fraction of the second is the counter's own, wherever its seconds start.
  let time : CalendarTime := { zone, daylight, nanosecond := .ofInt (nanos.tmod nanosPerSecond) }
  return time.atEpoch epoch

-- Sets the time registers, in the format that the control register asks for.
def setHardware (epoch : Int) : Action (Clock δ) Unit := do
  let control : Control :=
    ⟨(← readRegisters Control.register 1 "control register").headD 0⟩
  checkRunning control
  let config := (← get).config
  if ¬config.hasControl ∧ control.Has Control.primaryOwns then
    Action.error "CPU does not hold the RTC write ownership"
    throw .deviceError
  let utc := ({} : CalendarTime).atEpoch epoch
  -- There are two digits for the year.
  let year := utc.year - config.baseYear
  if utc.year < config.baseYear ∨ 100 ≤ year then
    throw .invalidParameter
  try
    onBus (RegisterBus.write 0 (control.format.encode utc year.toUInt8))
  catch e =>
    Action.error s!"Failed to store time: {e}"
    throw .deviceError

-- Sets the clock to a local time, when the counter reads `counter` nanoseconds.
def setTime (counter : UInt64) (time : CalendarTime) : Action (Clock δ) Unit := do
  unless time.IsValid do
    throw .invalidParameter
  checkRuntime setTimeService
  let epoch := time.toEpoch - CalendarTime.localOffset time.zone time.daylight
  if (← get).config.isVirtual then
    modify fun c => { c with rtcOffset := epoch }
    Action.info s!"Virtual RTC set to {epoch}"
  else
    setHardware epoch
  anchor epoch (counter.toNat / 1000000000)

-- Writes registers. A failure is only logged.
def programRegisters (register : UInt8) (values : Bytes) (what : String) :
    Action (Clock δ) Unit := do
  try
    onBus (RegisterBus.write register values)
  catch e =>
    Action.error s!"Failed to program RTC {what} register: {e}"

-- Sets up a clock that the CPU has control of: hours up to 24 in decimal digits, no pending status,
-- and access to the time registers.
def configure : Action (Clock δ) Unit := do
  if (← get).config.hasControl then
    programRegisters Control.register [Control.twentyFourHour, 0] "control"
    programRegisters 0x20 [0x01] "primary access"

-- The alarm belongs to the board's management controller.
def wakeupTime : Action (Clock δ) CalendarTime :=
  throw .unsupported

-- The alarm can't be set from here.
def setWakeupTime (_time : Option CalendarTime) : Action (Clock δ) Unit :=
  throw .unsupported

end Clock

end BoardFirmware
