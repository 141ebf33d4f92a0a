import BoardFirmware.Bytes.LittleEndian
import BoardFirmware.Status

namespace BoardFirmware.Secure

-- What a caller hands over and gets back.
structure Envelope where
  data : Bytes
  -- The size of the buffer, if the caller wants it checked.
  size : Option Nat
  deriving DecidableEq

namespace Envelope

-- The number of bytes of the header: the identifier of a handler, and the length of the message.
def headerSize : Nat := 24

-- The length that the header of a message gives.
def messageLength (data : Bytes) : UInt64 :=
  Bytes.word64 (data.slice 16 8)

-- The number of bytes of a message with its header, or the most that an address can hold.
def totalSize (data : Bytes) : Nat :=
  min (headerSize + (messageLength data).toNat) (UInt64.size - 1)

-- Whether a caller's size is not one of a message that the shared buffer can hold.
def Misfits (size : Option Nat) (room : Nat) : Prop :=
  ∃ n ∈ size, n = 0 ∨ room < n

instance (size : Option Nat) (room : Nat) : Decidable (Misfits size room) :=
  match size with
  | none   => isFalse (by simp [Misfits])
  | some n => decidable_of_iff (n = 0 ∨ room < n) (by simp [Misfits])

-- Replaces a size that does not fit by that of the shared buffer.
def sized (e : Envelope) (room : Nat) : Envelope :=
  if Misfits e.size room then { e with size := some room } else e

-- Tells the caller the length of the longest message that the shared buffer has room for.
def shortened (e : Envelope) (room : Nat) : Envelope :=
  { e with data := e.data.patch 16 (Bytes.ofWord64 (UInt64.ofNat (room - headerSize))) }

-- A caller's size has to fit, or is replaced, and then has to do for a message of `total` bytes.
-- What is found wrong last is what the caller is told.
def checkSize (e : Envelope) (room total : Nat) : Envelope × Except Status Unit :=
  let verdict := if Misfits e.size room then .error .badBufferSize else .ok ()
  let e := e.sized room
  (e, if ∃ n ∈ e.size, n < total then .error .invalidParameter else verdict)

-- There has to be a message, and room for it. If not, that outweighs what was found wrong before.
def checkLength (e : Envelope) (room total : Nat) (verdict : Except Status Unit) :
    Envelope × Except Status Unit :=
  if messageLength e.data = 0 ∨ room < total then
    (e.shortened room, .error .badBufferSize)
  else
    (e, verdict)

-- Whether a message can be sent through a shared buffer of `room` bytes, and how many bytes it has.
-- If not, the envelope tells the caller what would be possible.
def negotiate (e : Envelope) (room : Nat) : Envelope × Except Status Nat :=
  if e.data.length < headerSize then
    (e, .error .invalidParameter)
  else
    let total := totalSize e.data
    let (e, verdict) := e.checkSize room total
    let (e, verdict) := e.checkLength room total verdict
    (e, do
      verdict
      if e.data.length < total then throw .invalidParameter
      return total)

-- Zeroes the `sent` bytes of a request, as many as there have to be.
def cleared? (e : Envelope) (sent : Nat) : Option Envelope :=
  if sent ≤ e.data.length then
    some { e with data := List.replicate sent 0 ++ e.data.drop sent }
  else
    none

-- The number of bytes of a response with its header, from a shared buffer of `room` bytes to the
-- caller's buffer.
def responseSize (e : Envelope) (header : Bytes) (room : Nat) : Except Status Nat :=
  let total := headerSize + (messageLength header).toNat
  if room < total then
    .error .deviceError
  else if e.data.length < total then
    .error .bufferTooSmall
  else
    .ok total

-- Puts a response over what the caller handed over.
def answered (e : Envelope) (response : Bytes) : Envelope :=
  { e with data := e.data.overlay response }

end Envelope

end BoardFirmware.Secure
