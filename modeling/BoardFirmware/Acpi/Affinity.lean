import BoardFirmware.Acpi.TableList
import BoardFirmware.Numa.Topology

namespace BoardFirmware.Acpi

open Numa

-- Which proximity domain a range of memory belongs to. The System Resource Affinity Table (SRAT) is
-- made of such structures.
structure MemoryAffinity where
  domain    : UInt32
  reserved0 : UInt32
  base      : UInt64
  length    : UInt64
  flags     : UInt32
  reserved1 : UInt32
  deriving DecidableEq

namespace MemoryAffinity

abbrev Fields :=
  UInt32 × UInt32 × UInt64 × UInt64 × UInt32 × UInt32

def fields (a : MemoryAffinity) : Fields :=
  (a.domain, a.reserved0, a.base, a.length, a.flags, a.reserved1)

def ofFields : Fields → MemoryAffinity
  | (domain, reserved0, base, length, flags, reserved1) =>
    ⟨domain, reserved0, base, length, flags, reserved1⟩

instance : Layout MemoryAffinity := .via fields ofFields

instance : LawfulLayout MemoryAffinity := .via (fun _ => rfl) (fun _ => rfl)

-- The range can be used.
def enabled : UInt32 := 1
-- The range can be added while the system runs.
def hotPluggable : UInt32 := 2
-- The range keeps its contents without power.
def nonVolatile : UInt32 := 4

def of (domain : UInt32) (base length : UInt64) (flags : UInt32) : MemoryAffinity where
  domain
  reserved0 := 0
  base
  length
  flags
  reserved1 := 0

-- DRAM belongs to the socket that its address names.
def ofDram (r : MemoryRegion) : MemoryAffinity :=
  of (socketOfAddress r.base) r.base r.length enabled

-- The carve-out of a socket. It is empty if the board lists none for the socket.
def ofCarveOut (b : Board) (socket : UInt32) : MemoryAffinity :=
  let region := b.carveOuts.getD socket.toNat ⟨0, 0⟩
  of (carveOutStart + socket) region.base region.length enabled

-- Placeholders for all the parts that the memory of a GPU may be split into.
def ofGpuSocket? (b : Board) (socket : UInt32) : Option (List MemoryAffinity) := do
  let start ← gpuMemoryStart? b.maxSockets socket
  (List.range gpuPartitions.toNat).mapM fun part => do
    let domain ← Word.add32? start (UInt32.ofNat part)
    return of domain 0 0 (enabled ||| hotPluggable)

-- The structures of a board: its DRAM, its carve-outs if there is a hypervisor, and the memory of
-- its GPUs.
def ofBoard? (b : Board) : Option (List MemoryAffinity) := do
  let carveOuts := if b.hypervisor then b.enabledSockets.map (ofCarveOut b) else []
  -- How many GPUs the board lists does not matter, only which sockets are to have one.
  let gpus ← b.gpuSockets.mapM (ofGpuSocket? b)
  return b.dram.map ofDram ++ carveOuts ++ gpus.flatten

end MemoryAffinity

end BoardFirmware.Acpi
