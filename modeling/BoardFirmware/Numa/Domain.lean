import BoardFirmware.Text.Hex

namespace BoardFirmware.Numa

-- What a domain holds.
inductive DomainKind where
  | cpu
  | gpu
  -- Memory carved out for the hypervisor.
  | hypervisor
  deriving DecidableEq

def DomainKind.name : DomainKind → String
  | cpu        => "Cpu"
  | gpu        => "Gpu"
  | hypervisor => "Hv"

def DomainKind.all : List DomainKind :=
  [cpu, gpu, hypervisor]

-- The PCI device behind the domains of a GPU.
structure PciHandle where
  segment : UInt16
  -- Bus, device and function, as ACPI device handles have them.
  address : UInt16
  deriving DecidableEq

def PciHandle.describe (h : PciHandle) : String :=
  "PciDeviceHandle \x7b " ++ s!"segment: {h.segment}, bdf: {h.address}" ++ " \x7d"

-- Cores or memory which are near each other.
structure Domain where
  number    : UInt32
  socket    : UInt32
  kind      : DomainKind
  handle    : Option PciHandle
  -- Whether accesses start in the domain.
  initiator : Bool
  -- Whether the domain holds memory.
  target    : Bool
  deriving DecidableEq

def Domain.describe (d : Domain) : String :=
  s!"Proximity domain {d.number}: socket {d.socket}, {d.kind.name}, " ++
  s!"{Text.optional PciHandle.describe d.handle}, initiator {d.initiator}, target {d.target}"

-- The number of the first domain for memory carved out, one for each socket.
def carveOutStart : UInt32 := 4

-- Where the domains of GPUs start, if there are no sockets. Each socket moves the start by one.
def gpuStart : UInt32 := 4

-- How many domains the memory of a GPU can be split into.
def gpuPartitions : UInt32 := 8

end BoardFirmware.Numa
