import BoardFirmware.Action
import BoardFirmware.Gpio.Ports
import BoardFirmware.Text.Hex
import BoardFirmware.Word

namespace BoardFirmware

-- A device with 32-bit registers at physical addresses.
class RegisterSpace (μ : Type) where
  read  : (address : UInt64) → μ → UInt32 × μ
  write : (address : UInt64) → (value : UInt32) → μ → μ

namespace Gpio

-- What a pin does.
inductive Mode where
  | input
  | drivenLow
  | drivenHigh
  deriving DecidableEq

def Mode.name : Mode → String
  | input      => "Input"
  | drivenLow  => "Output0"
  | drivenHigh => "Output1"

def Mode.all : List Mode :=
  [input, drivenLow, drivenHigh]

inductive Pull where
  | none
  | up
  | down
  deriving DecidableEq

end Gpio

structure Gpio (μ : Type) where
  registers : μ
  -- The address of the controller.
  base      : UInt64
  ports     : List Gpio.Port

namespace Gpio

-- Where the registers of a pin are, relative to the first one.
def configOffset : UInt64 := 0x00
def inputOffset : UInt64 := 0x08
def controlOffset : UInt64 := 0x0c
def outputOffset : UInt64 := 0x10

-- How far the registers of two neighbouring pins are apart.
def pinSpacing : UInt64 := 0x20

-- Bits of the configuration register.
def enableBit : UInt32 := 1
def outputBit : UInt32 := 2

def ofChip (registers : μ) (chip : Chip) (base : UInt64) : Except Status (Gpio μ) := do
  return ⟨registers, base, ← portsOf chip⟩

-- The number of pins, those that ports lack included.
def pinCount (g : Gpio μ) : UInt32 :=
  UInt32.ofNat g.ports.length * pinsPerPort

def portOf? (g : Gpio μ) (pin : UInt32) : Option Port :=
  g.ports.find? (·.Contains pin)

-- The address of the first register of a pin.
def pinAddress (pin : UInt32) : Action (Gpio μ) UInt64 := do
  let g ← get
  match g.portOf? pin with
  | none      => throw .notFound
  | some port =>
    let portAddress ← Action.checked (Word.add64? g.base port.offset)
    Action.checked (Word.add64? portAddress ((pin - port.firstPin).toUInt64 * pinSpacing))

variable [RegisterSpace μ]

def read (address offset : UInt64) : Action (Gpio μ) UInt32 := do
  let address ← Action.checked (Word.add64? address offset)
  modifyGet fun g =>
    let (value, registers) := RegisterSpace.read address g.registers
    (value, { g with registers })

def write (address offset : UInt64) (value : UInt32) : Action (Gpio μ) Unit := do
  let address ← Action.checked (Word.add64? address offset)
  modify fun g => { g with registers := RegisterSpace.write address value g.registers }

-- The level of a pin: what an output is driven to, or else what comes in.
def level (pin : UInt32) : Action (Gpio μ) UInt32 := do
  let address ← pinAddress pin
  let config ← read address configOffset
  read address (if config &&& outputBit = 0 then inputOffset else outputOffset)

-- Makes a pin an input, or an output that is driven to a level.
def setMode (pin : UInt32) (mode : Mode) : Action (Gpio μ) Unit := do
  let address ← pinAddress pin
  let place := Text.hex address.toNat
  Action.debug s!"GPIO {pin} at {place} to {mode.name}"
  let config := (← read address configOffset) &&& ~~~(enableBit ||| outputBit)
  if mode = .input then
    write address configOffset (config ||| enableBit)
  else
    -- The pin is not driven before its level is set.
    write address outputOffset (if mode = .drivenHigh then 1 else 0)
    write address controlOffset 0
    write address configOffset (config ||| enableBit ||| outputBit)

def mode (pin : UInt32) : Action (Gpio μ) Mode := do
  let address ← pinAddress pin
  let config ← read address configOffset
  if config &&& outputBit = 0 then
    return .input
  if (← read address outputOffset) = 0 then
    return .drivenLow
  return .drivenHigh

-- The controller has no part in the pull resistors.
def setPull (_pin : UInt32) (_pull : Pull) : Action (Gpio μ) Unit :=
  throw .unsupported

end Gpio

end BoardFirmware
