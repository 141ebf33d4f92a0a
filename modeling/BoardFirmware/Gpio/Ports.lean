import BoardFirmware.Board
import BoardFirmware.Status

namespace BoardFirmware.Gpio

-- Pins are numbered as if every port had so many, but some ports have fewer.
def pinsPerPort : UInt32 := 8

-- A group of pins with one block of registers.
structure Port where
  -- The number of the port, which gives that of its first pin.
  index    : UInt32
  -- Where the registers of the port are.
  offset   : UInt64
  pinCount : UInt32
  deriving DecidableEq

namespace Port

-- The registers of a port lie in the space of a controller, at the place that the port has there.
def of (index : UInt32) (controller place : UInt64) (pinCount : UInt32) : Port :=
  ⟨index, controller * 0x1000 + place * 0x200, pinCount⟩

def firstPin (p : Port) : UInt32 :=
  p.index * pinsPerPort

def Contains (p : Port) (pin : UInt32) : Prop :=
  p.firstPin ≤ pin ∧ pin < p.firstPin + p.pinCount

instance (p : Port) (pin : UInt32) : Decidable (p.Contains pin) := by
  unfold Contains
  infer_instance

end Port

def t186Ports : List Port := [
  .of 0 2 0 7,
  .of 1 3 0 7,
  .of 2 3 1 7,
  .of 3 3 2 6,
  .of 4 2 1 8,
  .of 5 2 2 6,
  .of 6 4 1 6,
  .of 7 1 0 7,
  .of 8 0 4 8,
  .of 9 5 0 8,
  .of 10 5 1 1,
  .of 11 1 1 8,
  .of 12 5 3 6,
  .of 13 0 0 7,
  .of 14 0 1 4,
  .of 15 4 0 7,
  .of 16 0 2 6,
  .of 17 0 5 6,
  .of 18 0 3 4,
  .of 19 1 2 8,
  .of 20 1 3 7,
  .of 21 2 3 2,
  .of 22 5 2 4
]

def t194Ports : List Port := [
  .of 0 1 2 8,
  .of 1 4 7 2,
  .of 2 4 3 8,
  .of 3 4 4 4,
  .of 4 4 5 8,
  .of 5 4 6 6,
  .of 6 4 0 8,
  .of 7 4 1 8,
  .of 8 4 2 5,
  .of 9 5 1 6,
  .of 10 3 0 8,
  .of 11 3 1 4,
  .of 12 2 3 8,
  .of 13 2 4 3,
  .of 14 5 0 6,
  .of 15 2 5 8,
  .of 16 2 6 8,
  .of 17 2 7 6,
  .of 18 3 3 8,
  .of 19 3 4 8,
  .of 20 3 5 1,
  .of 21 1 0 8,
  .of 22 1 1 2,
  .of 23 2 0 8,
  .of 24 2 1 8,
  .of 25 2 2 8,
  .of 26 3 2 2,
  .of 27 0 0 2
]

def th500Ports : List Port := [
  .of 0 0 0 8,
  .of 1 0 1 8,
  .of 2 0 2 2,
  .of 3 0 3 6,
  .of 4 0 4 8,
  .of 5 1 0 8,
  .of 6 1 1 8,
  .of 7 1 2 8,
  .of 8 1 3 8,
  .of 9 1 4 4,
  .of 10 1 5 6
]

-- The ports of the controller of a chip, if its controller is supported.
def portsOf : Chip → Except Status (List Port)
  | .t186  => .ok t186Ports
  | .t194  => .ok t194Ports
  | .th500 => .ok th500Ports
  | .t234  => .error .unsupported

end BoardFirmware.Gpio
