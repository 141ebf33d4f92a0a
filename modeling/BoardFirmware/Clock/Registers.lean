import BoardFirmware.Bytes.Basic
import BoardFirmware.Clock.Calendar
import BoardFirmware.Word

namespace BoardFirmware.Clock

-- How the time registers hold a time.
structure Format where
  binary         : Bool
  twentyFourHour : Bool
  deriving DecidableEq

-- The control register.
structure Control where
  bits : UInt8
  deriving DecidableEq

namespace Control

-- The primary interface may write the time registers, and no other.
def primaryOwns : UInt8 := 0x01
def twentyFourHour : UInt8 := 0x20
def binary : UInt8 := 0x40
def stopped : UInt8 := 0x80

def Has (c : Control) (bit : UInt8) : Prop :=
  c.bits &&& bit ≠ 0

instance (c : Control) (bit : UInt8) : Decidable (c.Has bit) := by
  unfold Has
  infer_instance

def format (c : Control) : Format where
  binary         := c.Has binary
  twentyFourHour := c.Has twentyFourHour

-- Where the register is. It follows the time registers.
def register : UInt8 := 0x0a

end Control

-- The number of time registers, from seconds to years.
def timeRegisters : Nat := 10

-- Set in the hour register after noon, if hours are counted up to 12.
def afterNoon : UInt8 := 0x80

-- The clock's weekdays are off by this, so that a time set by somebody else can be told.
def weekdayOffset : UInt8 := 3

-- The number whose decimal digits are the halves of the byte.
def ofDigits (b : UInt8) : UInt8 :=
  (b >>> 4) * 10 + (b &&& 0x0f)

-- The byte whose halves are the decimal digits of the number.
def toDigits (n : UInt8) : UInt8 :=
  ((n / 10) <<< 4) ||| (n % 10)

namespace Format

def read (f : Format) (b : UInt8) : UInt8 :=
  if f.binary then b else ofDigits b

def write (f : Format) (n : UInt8) : UInt8 :=
  if f.binary then n else toDigits n

-- The hour in the hour register.
def readHour (f : Format) (b : UInt8) : UInt8 :=
  if f.twentyFourHour then
    f.read (b &&& 0x3f)
  else
    -- The hours after midnight and after noon are the twelfth ones.
    let hour := f.read (b &&& 0x1f) % 12
    if b &&& afterNoon ≠ 0 then hour + 12 else hour

def writeHour (f : Format) (hour : UInt8) : UInt8 :=
  if f.twentyFourHour then
    f.write hour
  else
    let b := f.write ((hour + 11) % 12 + 1)
    if 12 ≤ hour then b ||| afterNoon else b

-- The time in the registers, as UTC. There is none if its year does not fit.
def decode? (f : Format) (baseYear : UInt16) (registers : Bytes) : Option CalendarTime := do
  let register (index : Nat) := registers.getD index 0
  let year ← Word.add16? baseYear (f.read (register 9)).toUInt16
  return {
    year
    month  := f.read (register 8 &&& 0x1f)
    day    := f.read (register 7 &&& 0x3f)
    hour   := f.readHour (register 4)
    minute := f.read (register 2 &&& 0x7f)
    second := f.read (register 0 &&& 0x7f)
  }

-- The registers for a time in the given year after the base year. Between the fields of the time
-- are those of the alarm, which ignore what is written.
def encode (f : Format) (t : CalendarTime) (year : UInt8) : Bytes :=
  [f.write t.second, 0, f.write t.minute, 0, f.writeHour t.hour, 0,
    (t.weekday + weekdayOffset) % 7, f.write t.day, f.write t.month, f.write year]

end Format

end BoardFirmware.Clock
