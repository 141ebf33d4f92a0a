import BoardFirmware.Bytes.LittleEndian

namespace BoardFirmware.Secure

-- The number of argument registers, after that of the function.
def argumentCount : Nat := 17

-- The number of result registers.
def resultCount : Nat := 18

-- What a function returns for a call that it does not know.
def notSupported : Int32 := -1

abbrev Arguments := Vector UInt64 argumentCount

abbrev Results := Vector UInt64 resultCount

namespace Results

-- What a call returned, or which function answers it.
def code (r : Results) : UInt64 :=
  r[0]

-- What comes with the answer: a value, or a reason for a failure.
def value (r : Results) : UInt64 :=
  r[2]

end Results

-- Arguments in the first registers, and zeros in all others.
def Arguments.of (values : List UInt64) : Arguments :=
  .ofFn fun i => values.getD i 0

-- The way to the secure monitor.
class Monitor (μ : Type) where
  call : (function : UInt32) → Arguments → μ → Results × μ
  -- Waits for at least so many microseconds.
  wait : (microseconds : UInt64) → μ → μ

-- A buffer that is shared with the secure world.
class SharedBuffer (μ : Type) where
  -- Where the buffer is, as the secure world is told.
  address : μ → UInt64
  -- How many bytes the buffer has.
  size    : μ → Nat
  -- Copies bytes to the start of the buffer.
  write   : Bytes → μ → μ
  -- So many bytes from the start of the buffer.
  read    : (length : Nat) → μ → Bytes

end BoardFirmware.Secure
