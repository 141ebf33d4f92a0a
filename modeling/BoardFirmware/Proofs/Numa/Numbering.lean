import BoardFirmware.Proofs.Acpi.Hmat.Decode
import BoardFirmware.Proofs.Numa.Discovery

namespace BoardFirmware

variable {b : Board} {socket n : UInt32}

-- An enabled socket has the number of the carve-out on another one.
def Board.Crowded (b : Board) : Prop :=
  b.hypervisor ∧ ∃ socket ∈ b.enabledSockets, b.IsEnabled (Numa.carveOutStart + socket)

instance (b : Board) : Decidable b.Crowded := by
  unfold Board.Crowded
  infer_instance

namespace Numa

open Acpi

namespace Topology

variable {d : Domain}

theorem number_ofSocket (socket : UInt32) : (Domain.ofSocket socket).number = socket := rfl

theorem number_ofCarveOut (socket : UInt32) :
    (Domain.ofCarveOut socket).number = carveOutStart + socket := rfl

-- With four sockets at most, the carve-outs are numbered above all of them.
theorem not_crowded_of_few (few : b.maxSockets ≤ 4) : ¬b.Crowded := by
  rintro ⟨_, socket, mem, enabled⟩
  have number := Domain.toNat_number_ofCarveOut (Board.mem_enabledSockets_iff.mp mem)
  have ⟨lt, _⟩ := enabled.bounds
  have le : b.maxSockets.toNat ≤ 4 := UInt32.le_iff_toNat_le.mp few
  rw [number_ofCarveOut, toNat_carveOutStart] at number
  omega

theorem numbers_ofSocket (sockets : List UInt32) :
    (sockets.map Domain.ofSocket).map Domain.number = sockets := by
  simp [Function.comp_def, number_ofSocket]

theorem numbers_ofCarveOut (sockets : List UInt32) :
    (sockets.map Domain.ofCarveOut).map Domain.number = sockets.map (carveOutStart + ·) := by
  simp [Function.comp_def, number_ofCarveOut]

theorem nodup_carveOutNumbers (b : Board) : (b.enabledSockets.map (carveOutStart + ·)).Nodup :=
  b.nodup_enabledSockets.map fun _ _ heq => UInt32.add_right_inj _ |>.mp heq

theorem find?_ofSocket (b : Board) (n : UInt32) :
    (b.enabledSockets.map Domain.ofSocket).find? (·.number = n) =
      if b.IsEnabled n then some (.ofSocket n) else none := by
  split
  case isTrue enabled   =>
    have once : ((b.enabledSockets.map Domain.ofSocket).map Domain.number).Nodup :=
      (numbers_ofSocket _).symm ▸ b.nodup_enabledSockets
    exact find?_key_eq once (List.mem_map_of_mem (Board.mem_enabledSockets_iff.mpr enabled))
  case isFalse disabled =>
    refine List.find?_eq_none.mpr fun d mem found => disabled ?_
    obtain ⟨socket, enabled, rfl⟩ := List.mem_map.mp mem
    exact of_decide_eq_true found ▸ Board.mem_enabledSockets_iff.mp enabled

theorem find?_ofCarveOut (enabled : b.IsEnabled socket) :
    (b.enabledSockets.map Domain.ofCarveOut).find?
      (·.number = (Domain.ofCarveOut socket).number) = some (.ofCarveOut socket) := by
  have once : ((b.enabledSockets.map Domain.ofCarveOut).map Domain.number).Nodup :=
    (numbers_ofCarveOut _).symm ▸ nodup_carveOutNumbers b
  exact find?_key_eq once (List.mem_map_of_mem (Board.mem_enabledSockets_iff.mpr enabled))

section

variable (noGpus : b.gpus = [])
include noGpus

theorem domainsOf_of_noGpus : domainsOf b =
    b.enabledSockets.map Domain.ofSocket ++
      if b.hypervisor then b.enabledSockets.map Domain.ofCarveOut else [] := by
  rw [domainsOf, noGpus, List.flatMap_nil, List.append_nil]

theorem domainsOf?_of_noGpus : domainsOf? b = some (domainsOf b) := by
  rw [domainsOf?, domainsOf, noGpus]
  rfl

-- The numbers of the sockets are apart, and so are those of the carve-outs. So a number occurs
-- twice only if it is one of a socket and one of a carve-out.
theorem nodup_numbers_iff : ((domainsOf b).map Domain.number).Nodup ↔ ¬b.Crowded := by
  rw [domainsOf_of_noGpus noGpus, Board.Crowded]
  cases hv : b.hypervisor
  case false => simp [Function.comp_def, number_ofSocket, b.nodup_enabledSockets]
  case true  =>
    rw [if_pos rfl, List.map_append, numbers_ofSocket, numbers_ofCarveOut, List.nodup_append']
    have apart : List.Disjoint b.enabledSockets (b.enabledSockets.map (carveOutStart + ·)) ↔
        ∀ socket ∈ b.enabledSockets, ¬b.IsEnabled (carveOutStart + socket) := by
      simp only [List.disjoint_right, List.forall_mem_map, Board.mem_enabledSockets_iff]
    rw [apart]
    simp [b.nodup_enabledSockets, nodup_carveOutNumbers b]

-- A number leads to the domain of the socket, if there is one.
theorem find?_number (performance : PerformanceTable) (mem : d ∈ domainsOf b) :
    find? ⟨domainsOf b, performance⟩ d.number =
      some (if d.kind = .hypervisor ∧ b.IsEnabled d.number then .ofSocket d.number else d) := by
  have sockets : find? ⟨domainsOf b, performance⟩ d.number =
      (if b.IsEnabled d.number then some (.ofSocket d.number) else none).or
        ((if b.hypervisor then b.enabledSockets.map Domain.ofCarveOut else []).find?
          (·.number = d.number)) := by
    rw [find?, domainsOf_of_noGpus noGpus, List.find?_append, find?_ofSocket]
  obtain ⟨socket, enabled, rfl⟩ | ⟨hv, socket, enabled, rfl⟩ | ⟨g, hg, _⟩ :=
    mem_domainsOf_iff.mp mem
  · rw [sockets, number_ofSocket, if_pos enabled, Option.some_or, ite_self]
  · rw [sockets, if_pos hv, find?_ofCarveOut enabled]
    by_cases clash : b.IsEnabled (Domain.ofCarveOut socket).number
    · rw [if_pos clash, if_pos ⟨rfl, clash⟩, Option.some_or]
    · rw [if_neg clash, if_neg (clash ·.right), Option.none_or]
  · simp [noGpus] at hg

theorem target_of_noGpus (mem : d ∈ domainsOf b) : d.target := by
  obtain ⟨_, _, rfl⟩ | ⟨_, _, _, rfl⟩ | ⟨g, hg, _⟩ := mem_domainsOf_iff.mp mem
  · rfl
  · rfl
  · simp [noGpus] at hg

theorem length_domainsOf_le : (domainsOf b).length ≤ 64 := by
  have few : b.enabledSockets.length ≤ 32 := List.length_filter_le ..
  rw [domainsOf_of_noGpus noGpus]
  split <;> simp <;> omega

end

theorem numbered_apart (noGpus : b.gpus = []) (performance : PerformanceTable) (s : σ) :
    ∃ t, (discover b performance).result s = (.done t, s) ∧
      t.domains = b.enabledSockets.map Domain.ofSocket ++
        (if b.hypervisor then b.enabledSockets.map Domain.ofCarveOut else []) ∧
      ((t.domains.map Domain.number).Nodup ↔ ¬b.Crowded) ∧
      (b.maxSockets ≤ 4 → ¬b.Crowded) ∧
      (∀ d ∈ t.domains, t.find? d.number =
        some (if d.kind = .hypervisor ∧ b.IsEnabled d.number then .ofSocket d.number else d)) ∧
      (t.domains ≠ [] → ∀ oem, ∃ table header structures,
        (buildHmat t oem).result s = (.done table, s) ∧
        Hmat.read? table = some (header, structures) ∧ structures.length = 3 ∧
        ∀ l ∈ structures, l.targets.Pairwise (· < ·) ∧
          (∀ n, n ∈ l.targets ↔ ∃ d ∈ t.domains, d.number = n) ∧
          (l.targets.length = t.domains.length ↔ ¬b.Crowded)) := by
  refine ⟨⟨domainsOf b, performance⟩, result_discover_of_fit (domainsOf?_of_noGpus noGpus) ..,
    domainsOf_of_noGpus noGpus, nodup_numbers_iff noGpus, not_crowded_of_few,
    fun d mem => find?_number noGpus performance mem, fun some oem => ?_⟩
  have few := length_domainsOf_le noGpus
  have ⟨header, _, read⟩ :=
    Hmat.read?_encode oem (Hmat.tableSize_lt (t := ⟨domainsOf b, performance⟩) few)
  refine ⟨_, header, _, ?_, read, rfl, fun l mem => ?_⟩
  · exact Hmat.result_buildHmat_of_few few some s
  · obtain ⟨m, _, rfl⟩ := List.mem_map.mp mem
    have all : Hmat.targets ⟨domainsOf b, performance⟩ = Hmat.numbers ⟨domainsOf b, performance⟩ :=
      Hmat.numbersWhere_eq_numbers fun d mem => target_of_noGpus noGpus mem
    rw [Hmat.locality, all]
    exact ⟨Hmat.numbers_increasing _, fun n => Hmat.mem_numbers,
      Hmat.length_numbers_eq_iff.trans (nodup_numbers_iff noGpus)⟩

-- Three of eight sockets are enabled, and none is four above another.
theorem numbered_apart_three_of_eight :
    let b : Board := ⟨.th500, .silicon, 8, 0b111000, 0, true, [], [], []⟩
    let p : Performance := ⟨140, 150, 500, 10⟩
    let performance : PerformanceTable := ⟨p, p, p, p, p, p, p, p⟩
    ∃ t, (discover b performance).result () = (.done t, ()) ∧
      t.domains.map Domain.number = [3, 4, 5, 7, 8, 9] ∧
      (∀ d ∈ t.domains, t.find? d.number = some d) ∧
      ∃ table header structures, (buildHmat t ⟨.replicate 6 78, 1, 2, 3, 4⟩).result () =
          (.done table, ()) ∧
        Hmat.read? table = some (header, structures) ∧ structures.length = 3 ∧
        ∀ l ∈ structures, l.targets.length = 6 := by
  intro b p performance
  have apart : ¬b.Crowded := by decide
  have ⟨t, found, domains, _, _, leads, built⟩ := numbered_apart (b := b) rfl performance ()
  have six : t.domains.length = 6 := by rw [domains]; decide
  have some : t.domains ≠ [] := List.ne_nil_of_length_pos (six ▸ Nat.succ_pos 5)
  have ⟨table, header, structures, hb, read, three, each⟩ :=
    built some ⟨.replicate 6 78, 1, 2, 3, 4⟩
  refine ⟨t, found, by rw [domains]; decide, fun d mem => ?_,
    table, header, structures, hb, read, three, fun l mem => ?_⟩
  · have free : ¬(d.kind = .hypervisor ∧ b.IsEnabled d.number) := by
      rw [domains] at mem
      revert d
      decide
    rw [leads d mem, if_neg free]
  · exact ((each l mem).right.right.mpr apart).trans six

-- The carve-out on the first of five sockets has the number of the last one. It is never found, and
-- the table has three targets for four domains.
theorem carveOut_hidden_by_fifth_socket :
    let b : Board := ⟨.th500, .silicon, 5, 0b10001, 0, true, [], [], []⟩
    let p : Performance := ⟨140, 150, 500, 10⟩
    let performance : PerformanceTable := ⟨p, p, p, p, p, p, p, p⟩
    ∃ t, (discover b performance).result () = (.done t, ()) ∧
      ¬(t.domains.map Domain.number).Nodup ∧ Domain.ofCarveOut 0 ∈ t.domains ∧
      t.find? (Domain.ofCarveOut 0).number = some (.ofSocket 4) ∧
      t.domains.length = 4 ∧ Hmat.targets t = [0, 4, 8] := by
  intro b p performance
  exact ⟨⟨domainsOf b, performance⟩, result_discover_of_fit rfl performance (),
    by decide, by decide, by decide, by decide, by decide⟩

end Topology

end Numa

end BoardFirmware
