import BoardFirmware.Bytes.Basic
import BoardFirmware.Status

namespace BoardFirmware.Power

-- A request gets lost and fails with a status, or the processor refuses it with a negative number.
inductive IpcError where
  | transport (status : Status)
  | message (number : Int32)
  deriving DecidableEq

namespace IpcError

-- The processor's number for an invalid argument, such as a clock that does not exist.
def invalidArgument : Int32 := -22

def status : IpcError → Status
  | transport status => status
  | message number   => if number = invalidArgument then .notFound else .protocolError

def describe : IpcError → String
  | transport status => status.message
  | message number   => s!"BPMP error {number}"

end IpcError

-- A channel to the processor.
class IpcChannel (χ : Type) where
  -- Sends a request with the given code. The response goes into a buffer of `length` bytes.
  communicate : (code : UInt32) → (request : Bytes) → (length : Nat) → χ → Except IpcError Bytes × χ

end BoardFirmware.Power
