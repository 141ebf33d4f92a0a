import BoardFirmware.Secure.Monitor

namespace BoardFirmware

structure SystemCounter where
  -- What the next reading gives.
  ticks     : UInt64
  -- How far the counter goes on from one reading to the next.
  step      : UInt64
  -- Ticks per second. Zero stands for one.
  frequency : UInt64
  deriving DecidableEq

namespace SystemCounter

-- The nanoseconds of so many ticks, cut to 64 bits.
def nanosecondsOf (frequency ticks : UInt64) : UInt64 :=
  UInt64.ofNat (ticks.toNat * 1000000000 / max frequency.toNat 1)

def nanoseconds (c : SystemCounter) : UInt64 :=
  nanosecondsOf c.frequency c.ticks

-- The counter after a reading.
def next (c : SystemCounter) : SystemCounter :=
  { c with ticks := c.ticks + c.step }

-- Reads the counter until it has reached `deadline`, at most so many times.
def readUntil (deadline : UInt64) : (readings : Nat) → SystemCounter → Option SystemCounter
  | 0, _            => none
  | readings + 1, c =>
    -- Even the last reading moves the counter on.
    if c.nanoseconds < deadline then readUntil deadline readings c.next else some c.next

-- When so many microseconds will have passed. No time is later than the largest word.
def deadline (c : SystemCounter) (microseconds : UInt64) : UInt64 :=
  UInt64.ofNat (min (c.nanoseconds.toNat + microseconds.toNat * 1000) (UInt64.size - 1))

-- The counter after so many microseconds have been waited. There is none if the wait never ends: as
-- there are no more than 2⁶⁴ different readings, later ones would be no different.
def delay (c : SystemCounter) (microseconds : UInt64) : Option SystemCounter :=
  readUntil (c.deadline microseconds) UInt64.size c.next

end SystemCounter

namespace Secure

-- A way to the secure monitor on which waiting is done by the system counter.
structure Timed (μ : Type) where
  monitor : μ
  counter : SystemCounter

namespace Timed

instance [Monitor μ] : Monitor (Timed μ) where
  call function arguments t :=
    let (results, monitor) := Monitor.call function arguments t.monitor
    (results, { t with monitor })
  wait microseconds t :=
    { t with counter := (t.counter.delay microseconds).getD t.counter }

instance [SharedBuffer μ] : SharedBuffer (Timed μ) where
  address t     := SharedBuffer.address t.monitor
  size t        := SharedBuffer.size t.monitor
  write bytes t := { t with monitor := SharedBuffer.write bytes t.monitor }
  read length t := SharedBuffer.read length t.monitor

end Timed

end Secure

end BoardFirmware
