import BoardFirmware.Action
import BoardFirmware.Board
import BoardFirmware.Numa.Transfer
import BoardFirmware.Word

namespace BoardFirmware.Numa

-- The number of the first domain for the memory of the GPU on a socket.
def gpuMemoryStart? (maxSockets socket : UInt32) : Option UInt32 := do
  let start ← Word.add32? gpuStart maxSockets
  let skipped ← Word.mul32? socket gpuPartitions
  Word.add32? start skipped

structure Topology where
  domains     : List Domain
  performance : PerformanceTable
  deriving DecidableEq

-- How far the domains reach, and how many of them there are.
structure Extent where
  maxNumber  : Nat
  initiators : Nat
  targets    : Nat
  deriving DecidableEq

-- The counts fit their words.
def Extent.Fits (e : Extent) : Prop :=
  e.initiators < UInt32.size ∧ e.targets < UInt32.size

instance : DecidablePred Extent.Fits := fun _ => instDecidableAnd

-- The domain of the cores and the memory of a socket, numbered like it.
def Domain.ofSocket (socket : UInt32) : Domain where
  number    := socket
  socket
  kind      := .cpu
  handle    := none
  initiator := true
  target    := true

-- The domain of the memory carved out on a socket.
def Domain.ofCarveOut (socket : UInt32) : Domain where
  number    := carveOutStart + socket
  socket
  kind      := .hypervisor
  handle    := none
  initiator := false
  target    := true

-- One of the domains that the memory of a GPU is split into.
def Domain.ofPartition (g : Gpu) (index : Nat) : Domain where
  number    := g.domainStart + UInt32.ofNat index
  socket    := g.socket
  kind      := .gpu
  handle    := some ⟨g.segment, g.address⟩
  initiator := false
  target    := true

-- The domains of the memory of a GPU, if all of their numbers fit.
def Domain.ofGpu? (g : Gpu) : Option (List Domain) :=
  if g.domainStart.toNat + g.domainCount.toNat ≤ UInt32.size then
    some <| (List.range g.domainCount.toNat).map (ofPartition g)
  else
    none

namespace Topology

-- The domains of a board: those of its sockets, of the carve-outs if there is a hypervisor, and of
-- its GPUs.
def domainsOf? (b : Board) : Option (List Domain) := do
  let carveOuts := if b.hypervisor then b.enabledSockets.map Domain.ofCarveOut else []
  let gpus ← b.gpus.mapM Domain.ofGpu?
  return b.enabledSockets.map Domain.ofSocket ++ carveOuts ++ gpus.flatten

-- Finds the domains of a board and reports them.
def discover (b : Board) (performance : PerformanceTable) : Action σ Topology := do
  -- Nothing is reported before all numbers are known to fit.
  let domains ← Action.checked (domainsOf? b)
  domains.forM fun d => Action.info d.describe
  Action.debug s!"NUMA performance: {performance.describe}"
  return ⟨domains, performance⟩

def extent (t : Topology) : Except Status Extent :=
  match t.domains with
  | []      => .error .notFound
  | domains => .ok {
      maxNumber  := domains.foldl (fun n d => max n d.number.toNat) 0
      initiators := domains.countP (·.initiator)
      targets    := domains.countP (·.target)
    }

-- The extent, as it is counted domain by domain in 32-bit words.
def limits (t : Topology) : Action σ Extent := do
  let extent ← Action.ofExcept t.extent
  if ¬extent.Fits then
    Action.trap
  return extent

-- The first domain of the given number.
def find? (t : Topology) (number : UInt32) : Option Domain :=
  t.domains.find? (·.number = number)

-- The domain itself is the only one at the local distance, whatever the table says.
def separated (i t : UInt32) (p : Performance) : Performance :=
  if i ≠ t ∧ p.distance = Performance.localDistance then
    { p with distance := p.distance + 1 }
  else
    p

-- How fast the memory of domain `target` is reached from domain `initiator`. It can't be reached if
-- one of the two does not exist, the first starts no accesses, or the second has no memory.
def distance (t : Topology) (initiator target : UInt32) : Performance :=
  match t.find? initiator, t.find? target with
  | some i, some m =>
    if i.initiator ∧ m.target then
      separated initiator target (t.performance.get (.between i m))
    else
      unreachable
  | _, _ => unreachable
where
  unreachable : Performance :=
    .unreachable <|
      if initiator = target then Performance.localDistance else Performance.unreachableDistance

end Topology

end BoardFirmware.Numa
