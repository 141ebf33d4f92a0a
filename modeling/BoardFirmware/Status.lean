namespace BoardFirmware

-- Why a service refused a request.
inductive Status where
  | invalidParameter
  | unsupported
  | badBufferSize
  | bufferTooSmall
  | notReady
  | deviceError
  | outOfResources
  | notFound
  | accessDenied
  | protocolError
  | aborted
  deriving DecidableEq

namespace Status

-- Set in every `EFI_STATUS` value that is an error.
def errorBit : UInt64 := 0x8000000000000000

-- The `EFI_STATUS` value of success.
def success : UInt64 := 0

-- The number of the status among the `EFI_STATUS` errors.
def ordinal : Status → UInt64
  | invalidParameter => 2
  | unsupported      => 3
  | badBufferSize    => 4
  | bufferTooSmall   => 5
  | notReady         => 6
  | deviceError      => 7
  | outOfResources   => 9
  | notFound         => 14
  | accessDenied     => 15
  | protocolError    => 17
  | aborted          => 21

def code (s : Status) : UInt64 :=
  errorBit ||| s.ordinal

def all : List Status :=
  [invalidParameter, unsupported, badBufferSize, bufferTooSmall, notReady, deviceError,
    outOfResources, notFound, accessDenied, protocolError, aborted]

-- The status with the given `EFI_STATUS` value.
def ofCode? (code : UInt64) : Option Status :=
  all.find? (·.code == code)

-- The name that identifies the status in diagnostics.
def name : Status → String
  | invalidParameter => "InvalidParameter"
  | unsupported      => "Unsupported"
  | badBufferSize    => "BadBufferSize"
  | bufferTooSmall   => "BufferTooSmall"
  | notReady         => "NotReady"
  | deviceError      => "DeviceError"
  | outOfResources   => "OutOfResources"
  | notFound         => "NotFound"
  | accessDenied     => "AccessDenied"
  | protocolError    => "ProtocolError"
  | aborted          => "Aborted"

-- The wording shown to people.
def message : Status → String
  | invalidParameter => "Invalid Parameter"
  | unsupported      => "Unsupported"
  | badBufferSize    => "Bad Buffer Size"
  | bufferTooSmall   => "Buffer Too Small"
  | notReady         => "Not Ready"
  | deviceError      => "Device Error"
  | outOfResources   => "Out of Resources"
  | notFound         => "Not Found"
  | accessDenied     => "Access Denied"
  | protocolError    => "Protocol Error"
  | aborted          => "Aborted"

instance : ToString Status := ⟨message⟩

-- The `EFI_STATUS` value for the end of a service.
def ofResult : Except Status α → UInt64
  | .ok _    => success
  | .error s => s.code

theorem mem_all (s : Status) : s ∈ all := by
  cases s <;> decide

theorem ofCode?_code (s : Status) : ofCode? s.code = some s := by
  cases s <;> decide

theorem code_of_ofCode?_eq_some (h : ofCode? c = some s) : s.code = c := by
  simpa using List.find?_some h

theorem code_ne_success (s : Status) : s.code ≠ success := by
  cases s <;> decide

end Status

end BoardFirmware
