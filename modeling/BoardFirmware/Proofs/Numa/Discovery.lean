import BoardFirmware.Numa.Topology
import BoardFirmware.Proofs.Action.Result
import BoardFirmware.Proofs.Lists

namespace BoardFirmware

variable {b : Board} {socket start maxSockets : UInt32}

namespace Board

theorem nodup_sockets : sockets.Nodup := by
  decide

theorem nodup_enabledSockets (b : Board) : b.enabledSockets.Nodup :=
  nodup_sockets.filter _

theorem nodup_gpuSockets (b : Board) : b.gpuSockets.Nodup :=
  nodup_sockets.filter _

-- A socket of the board is below both the number of its sockets and the width of the masks.
theorem Selects.bounds {mask : UInt32} (h : b.Selects mask socket) :
    socket.toNat < b.maxSockets.toNat ∧ socket.toNat < 32 :=
  ⟨UInt32.lt_iff_toNat_lt.mp h.left, UInt32.lt_iff_toNat_lt.mp h.right.left⟩

end Board

namespace Numa

@[simp] theorem toNat_carveOutStart : carveOutStart.toNat = 4 := rfl

@[simp] theorem toNat_gpuStart : gpuStart.toNat = 4 := rfl

@[simp] theorem toNat_gpuPartitions : gpuPartitions.toNat = 8 := rfl

theorem gpuMemoryStart?_eq_some_iff :
    gpuMemoryStart? maxSockets socket = some start ↔
      gpuStart.toNat + maxSockets.toNat + socket.toNat * gpuPartitions.toNat = start.toNat := by
  have lt := start.toNat_lt
  simp only [gpuMemoryStart?, bind, Option.bind_eq_some_iff, Word.add32?_eq_some_iff,
    Word.mul32?_eq_some_iff]
  constructor
  case mp =>
    rintro ⟨first, hf, skipped, hs, h⟩
    rw [hf, hs, h]
  case mpr =>
    intro h
    refine ⟨.ofNat (gpuStart.toNat + maxSockets.toNat), ?_,
      .ofNat (socket.toNat * gpuPartitions.toNat), ?_, ?_⟩
    all_goals simp only [UInt32.toNat_ofNat']
    all_goals omega

-- The number of a part of the memory of the GPU on a socket.
def partNumber (b : Board) (socket : UInt32) (part : Nat) : UInt32 :=
  .ofNat (gpuStart.toNat + b.maxSockets.toNat + socket.toNat * gpuPartitions.toNat + part)

section

variable (few : b.maxSockets.toNat < 0x80000000)
include few

theorem toNat_partNumber (h : b.HasGpu socket) (hp : part < gpuPartitions.toNat) :
    (partNumber b socket part).toNat =
      gpuStart.toNat + b.maxSockets.toNat + socket.toNat * gpuPartitions.toNat + part := by
  have ⟨_, lt⟩ := Board.Selects.bounds h
  rw [toNat_gpuPartitions] at hp
  rw [partNumber, toNat_gpuStart, toNat_gpuPartitions, UInt32.toNat_ofNat']
  omega

theorem gpuMemoryStart?_of_hasGpu (h : b.HasGpu socket) :
    gpuMemoryStart? b.maxSockets socket = some (partNumber b socket 0) := by
  rw [gpuMemoryStart?_eq_some_iff, toNat_partNumber few h (by decide), Nat.add_zero]

-- The parts of the memory of all GPUs have different numbers.
theorem partNumber_inj {socket' : UInt32} {part part' : Nat} (h : b.HasGpu socket)
    (h' : b.HasGpu socket') (hp : part < gpuPartitions.toNat) (hp' : part' < gpuPartitions.toNat)
    (heq : partNumber b socket part = partNumber b socket' part') :
    socket = socket' ∧ part = part' := by
  have hn := congrArg UInt32.toNat heq
  rw [toNat_partNumber few h hp, toNat_partNumber few h' hp'] at hn
  rw [toNat_gpuPartitions] at hn hp hp'
  rw [← UInt32.toNat_inj]
  omega

end

end Numa

-- The GPU is on a socket that is to have one, and its domains are among those that are set aside
-- for the socket.
structure Gpu.Placed (b : Board) (g : Gpu) : Prop where
  socket : b.HasGpu g.socket
  start  : Numa.gpuMemoryStart? b.maxSockets g.socket = some g.domainStart
  count  : g.domainCount ≤ Numa.gpuPartitions

instance (b : Board) (g : Gpu) : Decidable (g.Placed b) :=
  decidable_of_iff (b.HasGpu g.socket ∧
      Numa.gpuMemoryStart? b.maxSockets g.socket = some g.domainStart ∧
      g.domainCount ≤ Numa.gpuPartitions)
    ⟨fun ⟨socket, start, count⟩ => ⟨socket, start, count⟩,
      fun ⟨socket, start, count⟩ => ⟨socket, start, count⟩⟩

namespace Numa

def Domain.partitions (g : Gpu) : List Domain :=
  (List.range g.domainCount.toNat).map (ofPartition g)

theorem Domain.number_ofPartition {g : Gpu} (placed : g.Placed b) (i : Nat) :
    (Domain.ofPartition g i).number = partNumber b g.socket i := by
  rw [partNumber, UInt32.ofNat_add, gpuMemoryStart?_eq_some_iff.mp placed.start,
    UInt32.ofNat_toNat]
  rfl

theorem Domain.toNat_number_ofCarveOut (h : b.IsEnabled socket) :
    (Domain.ofCarveOut socket).number.toNat = carveOutStart.toNat + socket.toNat := by
  have ⟨_, lt⟩ := Board.Selects.bounds h
  rw [Domain.ofCarveOut, UInt32.toNat_add, toNat_carveOutStart]
  omega

namespace Topology

-- The domains of a board all of whose GPUs have numbers that fit.
def domainsOf (b : Board) : List Domain :=
  b.enabledSockets.map Domain.ofSocket ++
  (if b.hypervisor then b.enabledSockets.map Domain.ofCarveOut else []) ++
  b.gpus.flatMap Domain.partitions

variable {d : Domain} {g : Gpu}

theorem mem_domainsOf_iff :
    d ∈ domainsOf b ↔
      (∃ socket, b.IsEnabled socket ∧ d = .ofSocket socket) ∨
      (b.hypervisor ∧ ∃ socket, b.IsEnabled socket ∧ d = .ofCarveOut socket) ∨
      ∃ g ∈ b.gpus, ∃ i < g.domainCount.toNat, d = .ofPartition g i := by
  cases hv : b.hypervisor
  all_goals
    simp [domainsOf, hv, Domain.partitions, Board.mem_enabledSockets_iff, eq_comm]

theorem carveOut_of_mem (h : d ∈ domainsOf b) (kind : d.kind = .hypervisor) :
    b.hypervisor ∧ ∃ socket, b.IsEnabled socket ∧ d = .ofCarveOut socket := by
  obtain ⟨_, _, rfl⟩ | h | ⟨_, _, _, _, rfl⟩ := mem_domainsOf_iff.mp h
  · cases kind
  · exact h
  · cases kind

theorem partition_of_mem (h : d ∈ domainsOf b) (kind : d.kind = .gpu) :
    ∃ g ∈ b.gpus, ∃ i < g.domainCount.toNat, d = .ofPartition g i := by
  obtain ⟨_, _, rfl⟩ | ⟨_, _, _, rfl⟩ | h := mem_domainsOf_iff.mp h
  · cases kind
  · cases kind
  · exact h

-- An enabled socket has one domain for its cores.
theorem filter_cpu_domainsOf (enabled : b.IsEnabled socket) :
    (domainsOf b).filter (fun d => d.kind = .cpu ∧ d.socket = socket) = [.ofSocket socket] := by
  have cpus : (b.enabledSockets.map Domain.ofSocket).filter
      (fun d => d.kind = .cpu ∧ d.socket = socket) = [.ofSocket socket] := by
    have only : b.enabledSockets.filter (id · = id socket) = [socket] :=
      filter_key_eq (b.enabledSockets.map_id.symm ▸ b.nodup_enabledSockets)
        (Board.mem_enabledSockets_iff.mpr enabled)
    have same : ∀ s ∈ b.enabledSockets, ((fun d => decide (d.kind = .cpu ∧ d.socket = socket)) ∘
        Domain.ofSocket) s = decide (id s = id socket) :=
      fun s _ => decide_eq_decide.mpr (by simp [Domain.ofSocket])
    rw [List.filter_map, List.filter_congr same, only]
    rfl
  have carveOuts : (if b.hypervisor then b.enabledSockets.map Domain.ofCarveOut else []).filter
      (fun d => d.kind = .cpu ∧ d.socket = socket) = [] := by
    split <;> simp [Domain.ofCarveOut]
  have partitions : (b.gpus.flatMap Domain.partitions).filter
      (fun d => d.kind = .cpu ∧ d.socket = socket) = [] := by
    refine List.filter_eq_nil_iff.mpr fun d mem => ?_
    obtain ⟨g, _, mem⟩ := List.mem_flatMap.mp mem
    obtain ⟨i, _, rfl⟩ := List.mem_map.mp mem
    simp [Domain.ofPartition]
  rw [domainsOf, List.filter_append, List.filter_append, cpus, carveOuts, partitions]
  rfl

theorem ofGpu?_of_placed (few : b.maxSockets.toNat < 0x80000000) (placed : g.Placed b) :
    Domain.ofGpu? g = some (Domain.partitions g) := by
  have ⟨_, lt⟩ := placed.socket.bounds
  have start := gpuMemoryStart?_eq_some_iff.mp placed.start
  have count := UInt32.le_iff_toNat_le.mp placed.count
  rw [toNat_gpuStart, toNat_gpuPartitions] at start
  rw [toNat_gpuPartitions] at count
  have fits : g.domainStart.toNat + g.domainCount.toNat ≤ UInt32.size := by
    have hs : UInt32.size = 2 ^ 32 := rfl
    omega
  rw [Domain.ofGpu?, if_pos fits]
  rfl

theorem domainsOf?_of_placed (few : b.maxSockets.toNat < 0x80000000)
    (placed : ∀ g ∈ b.gpus, g.Placed b) : domainsOf? b = some (domainsOf b) := by
  have gpus : b.gpus.mapM Domain.ofGpu? = some (b.gpus.map Domain.partitions) :=
    mapM_eq_some fun g mem => ofGpu?_of_placed few (placed g mem)
  rw [domainsOf?, gpus]
  rfl

-- Discovery tells the domains in records, and changes nothing.
theorem result_discover_of_fit {domains : List Domain} (fit : domainsOf? b = some domains)
    (performance : PerformanceTable) (s : σ) :
    (discover b performance).result s = (.done ⟨domains, performance⟩, s) := by
  have told : (domains.forM fun d => (Action.info d.describe : Action σ Unit)).result s =
      (.done (), s) :=
    Action.result_forM_of_done (fun _ _ => rfl) _ s
  rw [discover, fit,
    Action.result_bind_of_done (Action.result_checked_some ..), Action.result_bind_of_done told,
    Action.result_bind_of_done (Action.result_debug ..)]
  rfl

theorem result_discover (few : b.maxSockets.toNat < 0x80000000) (placed : ∀ g ∈ b.gpus, g.Placed b)
    (performance : PerformanceTable) (s : σ) :
    (discover b performance).result s = (.done ⟨domainsOf b, performance⟩, s) :=
  result_discover_of_fit (domainsOf?_of_placed few placed) performance s

end Topology

end Numa

end BoardFirmware
