import BoardFirmware.Action
import BoardFirmware.Bytes.Layout
import BoardFirmware.Power.Ipc
import BoardFirmware.Word

namespace BoardFirmware.Power

-- The code of all requests about clocks.
def clockRequests : UInt32 := 22

-- What a request about clocks asks for.
inductive ClockCommand where
  | getRate
  | setRate
  | getParent
  | setParent
  | isEnabled
  | enable
  | disable
  | describe
  | getMaxId
  deriving DecidableEq

namespace ClockCommand

def number : ClockCommand → UInt32
  | getRate   => 1
  | setRate   => 2
  | getParent => 4
  | setParent => 5
  | isEnabled => 6
  | enable    => 7
  | disable   => 8
  | describe  => 14
  | getMaxId  => 15

-- The first word of a request: the command in its top byte, and the clock.
def word (c : ClockCommand) (clock : UInt32) : UInt32 :=
  (c.number <<< 24) ||| (clock &&& 0x00ffffff)

end ClockCommand

-- What is known about a clock.
structure ClockDescription where
  flags       : UInt32
  parent      : UInt32
  parents     : List UInt32
  parentCount : UInt8
  name        : Bytes
  deriving DecidableEq

namespace ClockDescription

-- How many parents a description has room for.
def maxParents : Nat := 16

-- How many bytes of a name a description has room for.
def maxName : Nat := 40

-- The number of bytes of a description.
def size : Nat := 8 + 4 * maxParents + 1 + maxName

def decode (b : Bytes) : ClockDescription where
  flags       := Bytes.word32 (b.slice 0 4)
  parent      := Bytes.word32 (b.slice 4 4)
  parents     := ((b.slice 8 (4 * maxParents)).chunks 4).map Bytes.word32
  parentCount := b.getD (8 + 4 * maxParents) 0
  name        := b.slice (9 + 4 * maxParents) maxName

-- How many parents there are said to be, as far as there was room for them.
def knownParents (d : ClockDescription) : Nat :=
  min d.parentCount.toNat maxParents

-- How many bytes of the name come before its first NUL. A name that fills its field has none.
def nameLength (d : ClockDescription) : Nat :=
  (d.name.findIdx? (· == 0)).getD maxName

end ClockDescription

-- How many bytes a name may have, its final NUL included.
def maxNameLength : Nat := 16

-- The first items of a list, if it has so many.
def first? (count : Nat) (items : List α) : Option (List α) :=
  if count ≤ items.length then some (items.take count) else none

-- A text with one more character, if there is room for it.
def push? (room : Nat) (text : Bytes) (char : UInt8) : Option Bytes :=
  if text.length < room then some (text ++ [char]) else none

-- What callers get of a name: as many characters as fit, without their top bits.
def shortName? (name : Bytes) : Option Bytes :=
  let room := maxNameLength - 1
  (name.take room).foldlM (fun text char => push? room text (char &&& 0x7f)) []

structure ClockAttributes where
  enabled   : Bool
  name      : Bytes
  -- Whether the name had to be cut.
  truncated : Bool
  deriving DecidableEq

structure ClockTree (χ : Type) where
  channel : χ

namespace ClockTree

-- The version of the protocol by which clocks are controlled.
def version : UInt32 := 0x10000

-- Clocks have smaller numbers than this, and there are never more of them.
def maxClocks : UInt32 := 0xffff

def checkClock (clock : UInt32) : Action (ClockTree χ) Unit := do
  if maxClocks ≤ clock then
    throw .invalidParameter

theorem checkClock_of_lt (h : clock < maxClocks) :
    (checkClock clock : Action (ClockTree χ) Unit) = pure () :=
  if_neg (UInt32.not_le.mpr h)

variable [IpcChannel χ]

-- Sends a request and returns what is in the response buffer, which is filled with zeros.
def send (request : Bytes) (length : Nat) : Action (ClockTree χ) Bytes := do
  let answer ← modifyGet fun t =>
    let (answer, channel) := IpcChannel.communicate clockRequests request length t.channel
    (answer, { t with channel })
  match answer with
  | .ok response => return response.fit length
  | .error e     =>
    Action.debug s!"MRQ_CLK request failed: {e.describe}"
    throw e.status

def command (c : ClockCommand) (clock : UInt32) (length : Nat) : Action (ClockTree χ) Bytes :=
  send (Layout.encode (c.word clock)) length

def commandWith (c : ClockCommand) (clock parent : UInt32) (rate : UInt64) (length : Nat) :
    Action (ClockTree χ) Bytes :=
  send (Layout.encode (c.word clock, parent, rate)) length

def describe (clock : UInt32) : Action (ClockTree χ) ClockDescription := do
  return .decode (← command .describe clock ClockDescription.size)

def totalClocks : Action (ClockTree χ) UInt32 := do
  let maxId := Bytes.word32 (← command .getMaxId 0 4)
  -- After the largest number there is none.
  let count := (Word.add32? maxId 1).getD 0xffffffff
  return min count maxClocks

def attributes (clock : UInt32) : Action (ClockTree χ) ClockAttributes := do
  checkClock clock
  let enabled := Bytes.word32 (← command .isEnabled clock 4)
  let info ← describe clock
  let full ← Action.checked (first? info.nameLength info.name)
  let name ← Action.checked (shortName? full)
  let truncated : Bool := maxNameLength < info.nameLength + 1
  if truncated then
    let text := String.ofList (name.map fun b => Char.ofNat b.toNat)
    Action.debug s!"Clock {clock} name truncated to {text}"
  return { enabled := enabled ≠ 0, name, truncated }

-- The processor does not say which rates a clock has.
def describeRates (_clock : UInt32) : Action (ClockTree χ) Unit :=
  throw .unsupported

-- The rate of a clock in Hz.
def rate (clock : UInt32) : Action (ClockTree χ) UInt64 := do
  checkClock clock
  return Bytes.word64 (← command .getRate clock 8)

-- Sets a clock to a rate, or to another one if the clock can't have it.
def setRate (clock : UInt32) (rate : UInt64) : Action (ClockTree χ) Unit := do
  checkClock clock
  let actual := Bytes.word64 (← commandWith .setRate clock 0 rate 8)
  if actual ≠ rate then
    Action.info s!"Clock {clock}, attempt set to {rate}, was set to {actual}"

def setEnabled (clock : UInt32) (enabled : Bool) : Action (ClockTree χ) Unit := do
  checkClock clock
  let _ ← command (if enabled then .enable else .disable) clock 0

def setParent (clock parent : UInt32) : Action (ClockTree χ) Unit := do
  checkClock clock
  let _ ← commandWith .setParent clock parent 0 0

def parent (clock : UInt32) : Action (ClockTree χ) UInt32 := do
  checkClock clock
  return Bytes.word32 (← commandWith .getParent clock 0 0 4)

-- All clocks that can be the parent of a clock.
def parents (clock : UInt32) : Action (ClockTree χ) (List UInt32) := do
  checkClock clock
  let info ← describe clock
  Action.checked (first? info.knownParents info.parents)

-- Refuses unless `parent` can be the parent of the clock.
def checkParent (clock parent : UInt32) : Action (ClockTree χ) Unit := do
  unless parent ∈ (← parents clock) do
    throw .notFound

end ClockTree

end BoardFirmware.Power
