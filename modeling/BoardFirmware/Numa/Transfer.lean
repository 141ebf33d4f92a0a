import BoardFirmware.Numa.Domain

namespace BoardFirmware.Numa

-- Kinds of accesses, by what starts them, what they reach, and whether they leave the socket.
inductive Transfer where
  | cpuToLocalMemory
  | cpuToRemoteMemory
  | cpuToLocalHbm
  | cpuToRemoteHbm
  | gpuToLocalMemory
  | gpuToRemoteMemory
  | gpuToLocalHbm
  | gpuToRemoteHbm
  -- To the memory of another GPU on the same socket.
  | gpuToRemoteHbmSameSocket
  deriving DecidableEq

namespace Transfer

def name : Transfer → String
  | cpuToLocalMemory         => "CpuToLocalMemory"
  | cpuToRemoteMemory        => "CpuToRemoteMemory"
  | cpuToLocalHbm            => "CpuToLocalHbm"
  | cpuToRemoteHbm           => "CpuToRemoteHbm"
  | gpuToLocalMemory         => "GpuToLocalMemory"
  | gpuToRemoteMemory        => "GpuToRemoteMemory"
  | gpuToLocalHbm            => "GpuToLocalHbm"
  | gpuToRemoteHbm           => "GpuToRemoteHbm"
  | gpuToRemoteHbmSameSocket => "GpuToRemoteHbmSameSocket"

-- The kind of accesses that start in `i` and reach `t`. Everything but a GPU counts as a CPU.
def between (i t : Domain) : Transfer :=
  let sameSocket := i.socket = t.socket
  match decide (i.kind = .gpu), decide (t.kind = .gpu) with
  | false, false => if sameSocket then cpuToLocalMemory else cpuToRemoteMemory
  | false, true  => if sameSocket then cpuToLocalHbm else cpuToRemoteHbm
  | true,  false => if sameSocket then gpuToLocalMemory else gpuToRemoteMemory
  | true,  true  =>
    if ¬sameSocket then gpuToRemoteHbm
    else if i.handle = t.handle then gpuToLocalHbm
    else gpuToRemoteHbmSameSocket

end Transfer

-- Latencies are in nanoseconds and bandwidth in GB/s.
structure Performance where
  readLatency  : UInt16
  writeLatency : UInt16
  bandwidth    : UInt16
  -- Normalised, with 10 for a domain to itself.
  distance     : UInt8
  deriving DecidableEq

namespace Performance

def localDistance : UInt8 := 10
def unreachableDistance : UInt8 := 0xff
def unreachableLatency : UInt16 := 0xffff
def unreachableBandwidth : UInt16 := 0xffff

-- The figures for a domain that can't be reached.
def unreachable (distance : UInt8) : Performance :=
  ⟨unreachableLatency, unreachableLatency, unreachableBandwidth, distance⟩

def describe (p : Performance) : String :=
  "TransferPerformance \x7b " ++
  s!"read_latency: {p.readLatency}, write_latency: {p.writeLatency}, " ++
  s!"bandwidth: {p.bandwidth}, distance: {p.distance}" ++ " \x7d"

end Performance

-- The figures of a platform.
structure PerformanceTable where
  cpuToLocalMemory  : Performance
  cpuToRemoteMemory : Performance
  cpuToLocalHbm     : Performance
  cpuToRemoteHbm    : Performance
  gpuToLocalMemory  : Performance
  gpuToRemoteMemory : Performance
  gpuToLocalHbm     : Performance
  gpuToRemoteHbm    : Performance
  deriving DecidableEq

namespace PerformanceTable

def get (t : PerformanceTable) : Transfer → Performance
  | .cpuToLocalMemory         => t.cpuToLocalMemory
  | .cpuToRemoteMemory        => t.cpuToRemoteMemory
  | .cpuToLocalHbm            => t.cpuToLocalHbm
  | .cpuToRemoteHbm           => t.cpuToRemoteHbm
  | .gpuToLocalMemory         => t.gpuToLocalMemory
  | .gpuToRemoteMemory        => t.gpuToRemoteMemory
  | .gpuToLocalHbm            => t.gpuToLocalHbm
  | .gpuToRemoteHbm           => t.gpuToRemoteHbm
  | .gpuToRemoteHbmSameSocket => t.gpuToRemoteHbm

-- All figures, those of CPUs before those of GPUs.
def rows (t : PerformanceTable) : List Performance :=
  [t.cpuToLocalMemory, t.cpuToRemoteMemory, t.cpuToLocalHbm, t.cpuToRemoteHbm, t.gpuToLocalMemory,
    t.gpuToRemoteMemory, t.gpuToLocalHbm, t.gpuToRemoteHbm]

def describe (t : PerformanceTable) : String :=
  "NumaPerformanceTable \x7b " ++
  s!"cpu_to_local_memory: {t.cpuToLocalMemory.describe}, " ++
  s!"cpu_to_remote_memory: {t.cpuToRemoteMemory.describe}, " ++
  s!"cpu_to_local_hbm: {t.cpuToLocalHbm.describe}, " ++
  s!"cpu_to_remote_hbm: {t.cpuToRemoteHbm.describe}, " ++
  s!"gpu_to_local_memory: {t.gpuToLocalMemory.describe}, " ++
  s!"gpu_to_remote_memory: {t.gpuToRemoteMemory.describe}, " ++
  s!"gpu_to_local_hbm: {t.gpuToLocalHbm.describe}, " ++
  s!"gpu_to_remote_hbm: {t.gpuToRemoteHbm.describe}" ++ " \x7d"

end PerformanceTable

end BoardFirmware.Numa
