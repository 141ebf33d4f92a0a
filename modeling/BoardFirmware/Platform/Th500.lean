import BoardFirmware.Acpi.Header
import BoardFirmware.Clock.Basic
import BoardFirmware.Log
import BoardFirmware.Numa.Transfer
import BoardFirmware.Platform.Counter
import BoardFirmware.Secure.Ffa

namespace BoardFirmware.Th500

-- How many entries the repository holds.
def capacity : Nat := 256

def oem : Acpi.OemIdentity where
  oemId           := #v[0x4e, 0x56, 0x49, 0x44, 0x49, 0x41]
  tableId         := 0x2020203030354854
  revision        := 1
  creatorId       := 0x4149564e
  creatorRevision := 1

def performance : Numa.PerformanceTable where
  cpuToLocalMemory  := ⟨130, 130, 450, Numa.Performance.localDistance⟩
  cpuToRemoteMemory := ⟨410, 410, 100, 40⟩
  cpuToLocalHbm     := ⟨780, 780, 400, 80⟩
  cpuToRemoteHbm    := ⟨1000, 1000, 100, 255⟩
  gpuToLocalMemory  := ⟨800, 800, 400, 80⟩
  gpuToRemoteMemory := ⟨1100, 1100, 100, 255⟩
  gpuToLocalHbm     := ⟨400, 400, 4000, Numa.Performance.localDistance⟩
  gpuToRemoteHbm    := ⟨1200, 1200, 100, 255⟩

-- Whether messages to the secure world go through a partition.
def viaFfa : Bool := true

def retry : Secure.RetryPolicy where
  maxRetries := 3
  backoff    := 100

def clock : Clock.Config where
  baseYear   := 2000
  isVirtual  := false
  hasControl := false
  buildEpoch := 1704067200

def verbosity : Verbosity := .default

end BoardFirmware.Th500
