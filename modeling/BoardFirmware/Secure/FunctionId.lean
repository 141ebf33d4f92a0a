import BoardFirmware.Text.Hex

namespace BoardFirmware.Secure

-- How a call is made. A fast call has 32-bit or 64-bit arguments.
inductive CallType where
  | fast32
  | fast64
  | yielding
  deriving DecidableEq

namespace CallType

def bits : CallType → UInt32
  | fast32   => 0x80000000
  | fast64   => 0xc0000000
  | yielding => 0

def name : CallType → String
  | fast32   => "Fast32"
  | fast64   => "Fast64"
  | yielding => "Yielding"

def all : List CallType :=
  [fast32, fast64, yielding]

end CallType

-- Who owns a range of functions.
structure Owner where
  number : UInt8
  deriving DecidableEq

namespace Owner

instance : ToString Owner := ⟨fun o => toString o.number⟩

def armArchitecture : Owner := ⟨0⟩
def siliconPartner : Owner := ⟨2⟩
-- Services that Arm has standardised, among them those for secure partitions.
def standardSecure : Owner := ⟨4⟩

end Owner

-- The top two bits tell how the call is made, six bits number the owner, and the low 16 bits number
-- the function.
structure FunctionId where
  raw : UInt32
  deriving DecidableEq

namespace FunctionId

-- The bits of the owner.
def ownerMask : UInt32 := 0x3f000000

def ofParts (type : CallType) (owner : Owner) (number : UInt16) : FunctionId :=
  ⟨type.bits ||| ((owner.number.toUInt32 <<< 24) &&& ownerMask) ||| number.toUInt32⟩

def owner (f : FunctionId) : Owner :=
  ⟨((f.raw &&& ownerMask) >>> 24).toUInt8⟩

def number (f : FunctionId) : UInt16 :=
  f.raw.toUInt16

def callType (f : FunctionId) : CallType :=
  if f.raw &&& 0x80000000 = 0 then .yielding
  else if f.raw &&& 0x40000000 = 0 then .fast32
  else .fast64

instance : ToString FunctionId := ⟨fun f => Text.paddedHex 8 f.raw.toNat⟩

def describe (f : FunctionId) : String :=
  s!"{f} ({f.callType.name} OEN {f.owner})"

end FunctionId

end BoardFirmware.Secure
