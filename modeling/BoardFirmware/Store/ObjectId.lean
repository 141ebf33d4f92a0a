import BoardFirmware.Text.Hex

namespace BoardFirmware

-- The top four bits name a space, the others number the object in it.
structure ObjectId where
  raw : UInt32
  deriving DecidableEq

namespace ObjectId

-- Who defines the objects.
inductive Space where
  | standard
  | arm
  | oem
  deriving DecidableEq

namespace Space

def number : Space → UInt32
  | standard => 0
  | arm      => 1
  | oem      => 8

def name : Space → String
  | standard => "Standard"
  | arm      => "Arm"
  | oem      => "Oem"

def all : List Space :=
  [standard, arm, oem]

def ofNumber? (number : UInt32) : Option Space :=
  all.find? (·.number == number)

end Space

def ofParts (space : Space) (object : UInt32) : ObjectId :=
  ⟨(space.number <<< 28) ||| (object &&& 0x0fffffff)⟩

def space? (id : ObjectId) : Option Space :=
  Space.ofNumber? (id.raw >>> 28)

-- The number of the object in its space.
def object (id : ObjectId) : UInt32 :=
  id.raw &&& 0x0fffffff

instance : ToString ObjectId := ⟨fun id => Text.paddedHex 8 id.raw.toNat⟩

def describe (id : ObjectId) : String :=
  s!"{id} ({Text.optional Space.name id.space?} {id.object})"

-- Who made the configuration, and its revision.
def managerInfo : ObjectId := ofParts .standard 0
-- The ACPI tables to install.
def acpiTableList : ObjectId := ofParts .standard 1
-- The SMBIOS tables to install.
def smbiosTableList : ObjectId := ofParts .standard 2

def bootArchInfo : ObjectId := ofParts .arm 1
def giccInfo : ObjectId := ofParts .arm 4
def serialConsolePort : ObjectId := ofParts .arm 9
def genericTimer : ObjectId := ofParts .arm 11
def processorHierarchy : ObjectId := ofParts .arm 27
def cacheInfo : ObjectId := ofParts .arm 28
-- A list of tokens that refer to other objects.
def references : ObjectId := ofParts .arm 30
def memoryAffinity : ObjectId := ofParts .arm 31
def memoryRange : ObjectId := ofParts .arm 41
def interrupt : ObjectId := ofParts .arm 49

-- The bytes of a complete ACPI table.
def rawTable : ObjectId := ofParts .oem 1

-- The identifiers that have a meaning here.
def all : List ObjectId :=
  [managerInfo, acpiTableList, smbiosTableList, bootArchInfo, giccInfo, serialConsolePort,
    genericTimer, processorHierarchy, cacheInfo, references, memoryAffinity, memoryRange, interrupt,
    rawTable]

end ObjectId

end BoardFirmware
