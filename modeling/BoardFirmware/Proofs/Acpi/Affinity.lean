import BoardFirmware.Acpi.Affinity
import BoardFirmware.Proofs.Numa.Discovery

namespace BoardFirmware.Acpi

open Numa

-- What the memory affinity structures of a board have to do with its domains. There is a group of
-- structures for the DRAM, one for the carve-outs, and one for the memory of GPUs.
structure Agree (b : Board) (domains : List Domain) (dram carveOuts gpu : List MemoryAffinity) :
    Prop where
  carveOut_length : carveOuts.length = if b.hypervisor then b.enabledSockets.length else 0
  gpu_length : gpu.length = b.gpuSockets.length * gpuPartitions.toNat
  -- Each group has a range of numbers for itself.
  dram_lt : ∀ a ∈ dram, a.domain < carveOutStart
  carveOut_range : ∀ a ∈ carveOuts, carveOutStart ≤ a.domain ∧
    a.domain.toNat < gpuStart.toNat + b.maxSockets.toNat
  gpu_range : ∀ a ∈ gpu, gpuStart.toNat + b.maxSockets.toNat ≤ a.domain.toNat
  once : ((carveOuts ++ gpu).map MemoryAffinity.domain).Nodup
  -- DRAM is in the domain of the socket that its address names.
  region : List.Forall₂ (fun (r : MemoryRegion) a => a.base = r.base ∧ a.length = r.length ∧
      (b.IsEnabled (socketOfAddress r.base) → ∃ d, a.domain = d.number ∧
        domains.filter (fun d => d.kind = .cpu ∧ d.socket = socketOfAddress r.base) = [d]))
    b.dram dram
  carveOut : ∀ d ∈ domains, d.kind = .hypervisor → ∃ a ∈ carveOuts,
    (dram ++ carveOuts ++ gpu).filter (·.domain = d.number) = [a] ∧
    ⟨a.base, a.length⟩ = b.carveOuts.getD d.socket.toNat ⟨0, 0⟩
  carved : ∀ a ∈ carveOuts, ∃ d ∈ domains, d.kind = .hypervisor ∧ d.number = a.domain
  part : ∀ d ∈ domains, d.kind = .gpu → ∃ a ∈ gpu,
    (dram ++ carveOuts ++ gpu).filter (·.domain = d.number) = [a] ∧
    a.base = 0 ∧ a.length = 0 ∧ a.flags &&& MemoryAffinity.hotPluggable ≠ 0

namespace MemoryAffinity

variable {b : Board} {socket : UInt32} {a : MemoryAffinity} {part : Nat}

-- The groups of structures of a board.
def dramOf (b : Board) : List MemoryAffinity :=
  b.dram.map ofDram

def carveOutsOf (b : Board) : List MemoryAffinity :=
  if b.hypervisor then b.enabledSockets.map (ofCarveOut b) else []

def placeholder (b : Board) (socket : UInt32) (part : Nat) : MemoryAffinity :=
  of (partNumber b socket part) 0 0 (enabled ||| hotPluggable)

def placeholders (b : Board) (socket : UInt32) : List MemoryAffinity :=
  (List.range gpuPartitions.toNat).map (placeholder b socket)

def gpuOf (b : Board) : List MemoryAffinity :=
  b.gpuSockets.flatMap (placeholders b)

theorem mem_carveOutsOf_iff :
    a ∈ carveOutsOf b ↔ b.hypervisor ∧ ∃ socket, b.IsEnabled socket ∧ a = ofCarveOut b socket := by
  cases hv : b.hypervisor <;> simp [carveOutsOf, hv, Board.mem_enabledSockets_iff, eq_comm]

theorem mem_gpuOf_iff :
    a ∈ gpuOf b ↔ ∃ socket, b.HasGpu socket ∧ ∃ part < gpuPartitions.toNat,
      a = placeholder b socket part := by
  simp [gpuOf, placeholders, Board.mem_gpuSockets_iff, eq_comm]

theorem socketOfAddress_lt (address : UInt64) : socketOfAddress address < 4 := by
  have hle : address.toNat &&& 0x300000000000 ≤ 0x300000000000 := Nat.and_le_right
  rw [UInt32.lt_iff_toNat_lt, socketOfAddress, UInt64.toNat_toUInt32, UInt64.toNat_shiftRight,
    UInt64.toNat_and, Nat.shiftRight_eq_div_pow]
  simp
  omega

section

variable (few : b.maxSockets.toNat < 0x80000000)
include few

theorem ofGpuSocket?_of_hasGpu (h : b.HasGpu socket) :
    ofGpuSocket? b socket = some (placeholders b socket) := by
  have none_before : 0 < gpuPartitions.toNat := by decide
  have first := toNat_partNumber few h none_before
  rw [ofGpuSocket?, gpuMemoryStart?_of_hasGpu few h]
  refine mapM_eq_some fun part mem => ?_
  have hp := List.mem_range.mp mem
  have number := toNat_partNumber few h hp
  have add :
      Word.add32? (partNumber b socket 0) (.ofNat part) = some (partNumber b socket part) := by
    rw [Word.add32?_eq_some_iff, first, number, Nat.add_zero,
      UInt32.toNat_ofNat_of_lt' (Nat.lt_trans hp (by decide))]
  rw [add]
  rfl

theorem ofBoard?_eq_some : ofBoard? b = some (dramOf b ++ carveOutsOf b ++ gpuOf b) := by
  have gpus : b.gpuSockets.mapM (ofGpuSocket? b) = some (b.gpuSockets.map (placeholders b)) :=
    mapM_eq_some fun socket mem =>
      ofGpuSocket?_of_hasGpu few (Board.mem_gpuSockets_iff.mp mem)
  rw [ofBoard?, gpus]
  rfl

theorem domain_placeholder (h : b.HasGpu socket) (hp : part < gpuPartitions.toNat) :
    gpuStart.toNat + b.maxSockets.toNat ≤ (placeholder b socket part).domain.toNat := by
  have number := toNat_partNumber few h hp
  rw [placeholder, of, number, Nat.add_assoc]
  exact Nat.le_add_right _ _

theorem nodup_gpuOf : ((gpuOf b).map domain).Nodup := by
  rw [gpuOf, List.map_flatMap, List.nodup_flatMap]
  constructor
  case left =>
    intro socket mem
    have h := Board.mem_gpuSockets_iff.mp mem
    rw [placeholders, List.map_map]
    refine List.nodup_range.map_on fun part hp part' hp' heq => ?_
    exact (partNumber_inj few h h (List.mem_range.mp hp) (List.mem_range.mp hp') heq).right
  case right =>
    refine (Board.nodup_gpuSockets b).pairwise_of_forall_ne fun socket mem socket' mem' hne => ?_
    intro number
    simp only [placeholders, List.map_map, List.mem_map, List.mem_range]
    rintro ⟨part, hp, rfl⟩ ⟨part', hp', heq⟩
    have h := Board.mem_gpuSockets_iff.mp mem
    have h' := Board.mem_gpuSockets_iff.mp mem'
    exact hne (partNumber_inj few h h' hp hp' heq.symm).left

end

theorem range_carveOutsOf (mem : a ∈ carveOutsOf b) :
    carveOutStart ≤ a.domain ∧ a.domain.toNat < gpuStart.toNat + b.maxSockets.toNat := by
  obtain ⟨_, socket, enabled, rfl⟩ := mem_carveOutsOf_iff.mp mem
  have ⟨lt, _⟩ := Board.Selects.bounds enabled
  have number : (ofCarveOut b socket).domain.toNat = carveOutStart.toNat + socket.toNat :=
    Domain.toNat_number_ofCarveOut enabled
  rw [UInt32.le_iff_toNat_le, number, toNat_carveOutStart, toNat_gpuStart]
  omega

theorem nodup_carveOutsOf (b : Board) : ((carveOutsOf b).map domain).Nodup := by
  rw [carveOutsOf]
  split
  case isFalse => exact .nil
  case isTrue  =>
    rw [List.map_map]
    refine (Board.nodup_enabledSockets b).map fun socket socket' heq => ?_
    exact (UInt32.add_right_inj carveOutStart).mp heq

theorem nodup_numbers (few : b.maxSockets.toNat < 0x80000000) :
    ((carveOutsOf b ++ gpuOf b).map domain).Nodup := by
  rw [List.map_append, List.nodup_append']
  refine ⟨nodup_carveOutsOf b, nodup_gpuOf few, ?_⟩
  intro number hc hg
  obtain ⟨a, mem, rfl⟩ := List.mem_map.mp hc
  obtain ⟨a', mem', heq⟩ := List.mem_map.mp hg
  obtain ⟨socket, h, part, hp, rfl⟩ := mem_gpuOf_iff.mp mem'
  have lt := (range_carveOutsOf mem).right
  have le := domain_placeholder few h hp
  rw [heq] at le
  exact absurd lt (Nat.not_lt.mpr le)

theorem dramOf_lt (mem : a ∈ dramOf b) : a.domain < carveOutStart := by
  obtain ⟨r, _, rfl⟩ := List.mem_map.mp mem
  exact socketOfAddress_lt r.base

-- Beyond the numbers of DRAM each number belongs to one structure at most.
theorem filter_numbered (few : b.maxSockets.toNat < 0x80000000) (mem : a ∈ carveOutsOf b ++ gpuOf b)
    (le : carveOutStart ≤ a.domain) :
    (dramOf b ++ carveOutsOf b ++ gpuOf b).filter (·.domain = a.domain) = [a] := by
  have dram : (dramOf b).filter (·.domain = a.domain) = [] := by
    refine List.filter_eq_nil_iff.mpr fun a' mem' => ?_
    have hne : a'.domain ≠ a.domain := UInt32.ne_of_lt (UInt32.lt_of_lt_of_le (dramOf_lt mem') le)
    simpa using hne
  rw [List.append_assoc, List.filter_append, dram, filter_key_eq (nodup_numbers few) mem]
  rfl

end MemoryAffinity

open MemoryAffinity Topology

variable {b : Board}

theorem agree_domainsOf (few : b.maxSockets.toNat < 0x80000000)
    (placed : ∀ g ∈ b.gpus, g.Placed b) :
    Agree b (domainsOf b) (dramOf b) (carveOutsOf b) (gpuOf b) where
  carveOut_length := by
    rw [carveOutsOf]
    split <;> simp [*]
  gpu_length      := by
    simp [gpuOf, placeholders, List.length_flatMap]
  dram_lt         := fun _ => dramOf_lt
  carveOut_range  := fun _ => range_carveOutsOf
  gpu_range       := by
    intro a mem
    obtain ⟨socket, h, part, hp, rfl⟩ := mem_gpuOf_iff.mp mem
    exact domain_placeholder few h hp
  once            := nodup_numbers few
  region          := by
    rw [dramOf, List.forall₂_map_right_iff, List.forall₂_same]
    exact fun r _ => ⟨rfl, rfl, fun enabled => ⟨_, rfl, filter_cpu_domainsOf enabled⟩⟩
  carveOut        := by
    intro d mem kind
    obtain ⟨hypervisor, socket, enabled, rfl⟩ := carveOut_of_mem mem kind
    have mem : ofCarveOut b socket ∈ carveOutsOf b :=
      mem_carveOutsOf_iff.mpr ⟨hypervisor, socket, enabled, rfl⟩
    have le := (range_carveOutsOf mem).left
    exact ⟨_, mem, filter_numbered few (List.mem_append_left _ mem) le, rfl⟩
  carved          := by
    intro a mem
    obtain ⟨hypervisor, socket, enabled, rfl⟩ := mem_carveOutsOf_iff.mp mem
    have mem : Domain.ofCarveOut socket ∈ domainsOf b :=
      mem_domainsOf_iff.mpr (.inr (.inl ⟨hypervisor, socket, enabled, rfl⟩))
    exact ⟨_, mem, rfl, rfl⟩
  part            := by
    intro d mem kind
    obtain ⟨g, hg, i, hi, rfl⟩ := partition_of_mem mem kind
    have hp : i < gpuPartitions.toNat :=
      Nat.lt_of_lt_of_le hi (UInt32.le_iff_toNat_le.mp (placed g hg).count)
    have mem : placeholder b g.socket i ∈ gpuOf b :=
      mem_gpuOf_iff.mpr ⟨g.socket, (placed g hg).socket, i, hp, rfl⟩
    have le := domain_placeholder few (placed g hg).socket hp
    have le : carveOutStart ≤ (placeholder b g.socket i).domain := by
      rw [UInt32.le_iff_toNat_le]
      exact Nat.le_trans (Nat.le_add_right _ _) le
    have flagged : (enabled ||| hotPluggable) &&& hotPluggable ≠ 0 := by decide
    rw [Domain.number_ofPartition (placed g hg) i]
    exact ⟨_, mem, filter_numbered few (List.mem_append_right _ mem) le, rfl, rfl, flagged⟩

end BoardFirmware.Acpi
