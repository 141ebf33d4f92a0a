import BoardFirmware.Proofs.Numa.Numbering

namespace BoardFirmware.Numa

variable {i j n : UInt32} {d m : Domain}

namespace Transfer

-- Accesses go far if they leave the socket, and so they do from one GPU to another.
def Far (i m : Domain) : Prop :=
  i.socket ≠ m.socket ∨ i.kind = .gpu ∧ m.kind = .gpu ∧ i.handle ≠ m.handle

instance (i m : Domain) : Decidable (Far i m) := by
  unfold Far
  infer_instance

theorem far_comm : Far d m ↔ Far m d := by
  simp only [Far, ne_comm (a := d.socket), ne_comm (a := d.handle), and_left_comm]

-- The row of a table with the figures for accesses from `i` to `m`. Rows for GPUs come after those
-- for CPUs, and of two rows the second is for accesses that go far.
def row (i m : Domain) : Nat :=
  (if i.kind = .gpu then 4 else 0) + (if m.kind = .gpu then 2 else 0) + if Far i m then 1 else 0

theorem row_comm (alike : d.kind = .gpu ↔ m.kind = .gpu) : row d m = row m d := by
  simp only [row, far_comm (d := d), alike]

theorem rows_row (table : PerformanceTable) (i m : Domain) :
    table.rows[row i m]? = some (table.get (.between i m)) := by
  by_cases starts : i.kind = .gpu <;> by_cases reaches : m.kind = .gpu <;>
    by_cases socket : i.socket = m.socket <;> by_cases handle : i.handle = m.handle <;>
    simp [row, Far, between, starts, reaches, socket, handle, PerformanceTable.rows,
      PerformanceTable.get]

theorem get_between_comm (table : PerformanceTable) (alike : d.kind = .gpu ↔ m.kind = .gpu) :
    table.get (.between d m) = table.get (.between m d) := by
  have rows := rows_row table d m
  rwa [row_comm alike, rows_row table m d, Option.some.injEq, eq_comm] at rows

end Transfer

namespace Topology

variable {t : Topology} {b : Board} {performance : PerformanceTable} {domains : List Domain}

-- The domain is the first one with the number.
def Counts (t : Topology) (n : UInt32) (d : Domain) : Prop :=
  ∃ before after, t.domains = before ++ d :: after ∧ d.number = n ∧
    ∀ other ∈ before, other.number ≠ n

theorem find?_eq_some_iff : t.find? n = some d ↔ t.Counts n d := by
  rw [find?, List.find?_eq_some_iff_append, Counts]
  constructor
  case mp =>
    rintro ⟨number, before, after, split, others⟩
    exact ⟨before, after, split, of_decide_eq_true number, fun o mem => by simpa using others o mem⟩
  case mpr =>
    rintro ⟨before, after, split, number, others⟩
    exact ⟨decide_eq_true number, before, after, split, fun o mem => by simpa using others o mem⟩

section

variable {p : Performance}

theorem separated_comm : separated i j p = separated j i p := by
  simp only [separated, ne_comm (a := i)]

theorem toNat_distance_separated :
    (separated i j p).distance.toNat =
      p.distance.toNat + if i ≠ j ∧ p.distance = Performance.localDistance then 1 else 0 := by
  rw [separated]
  split
  case isTrue h  => rw [h.right]; rfl
  case isFalse _ => rfl

theorem distance_separated_ne (ne : i ≠ j) :
    (separated i j p).distance ≠ Performance.localDistance := by
  by_cases h : p.distance = Performance.localDistance
  case pos =>
    rw [separated, if_pos ⟨ne, h⟩]
    simp [h, Performance.localDistance]
  case neg =>
    rw [separated, if_neg fun both => h both.right]
    exact h

end

section

variable (hi : t.find? i = some d) (hj : t.find? j = some m)
include hi hj

theorem distance_of_reached (starts : d.initiator) (holds : m.target) :
    t.distance i j = separated i j (t.performance.get (.between d m)) := by
  simp [distance, hi, hj, starts, holds]

-- Domains of one sort that start accesses and hold memory are as far from each other both ways.
theorem distance_comm (alike : d.kind = .gpu ↔ m.kind = .gpu) (hd : d.initiator ∧ d.target)
    (hm : m.initiator ∧ m.target) : t.distance i j = t.distance j i := by
  rw [distance_of_reached hi hj hd.left hm.right, distance_of_reached hj hi hm.left hd.right,
    Transfer.get_between_comm _ alike, separated_comm]

end

theorem distance_of_unreached
    (h : (∀ d, t.find? i = some d → ¬d.initiator) ∨ ∀ m, t.find? j = some m → ¬m.target) :
    t.distance i j = distance.unreachable i j := by
  rw [distance]
  split
  case h_1 d m hi hj =>
    refine if_neg fun both => ?_
    obtain none | none := h
    case inl => exact none d hi both.left
    case inr => exact none m hj both.right
  case h_2 => rfl

theorem distance_unreachable_ne (ne : i ≠ j) :
    (distance.unreachable i j).distance ≠ Performance.localDistance := by
  rw [distance.unreachable, if_neg ne]
  decide

theorem distance_ne (ne : i ≠ j) : (t.distance i j).distance ≠ Performance.localDistance := by
  rw [distance]
  split
  case h_1 =>
    split
    case isTrue  => exact distance_separated_ne ne
    case isFalse => exact distance_unreachable_ne ne
  case h_2 => exact distance_unreachable_ne ne

-- The domains of the sockets come first, whatever there is besides.
theorem domainsOf?_eq_some (h : domainsOf? b = some domains) :
    b.enabledSockets.map Domain.ofSocket <+: domains := by
  simp only [domainsOf?, bind, Option.bind_eq_some_iff] at h
  obtain ⟨_, _, h⟩ := h
  exact ⟨_, (List.append_assoc ..).symm.trans (Option.some.inj h)⟩

theorem discover_of_done {s s' : σ} (h : (discover b performance).result s = (.done t, s')) :
    ∃ domains, domainsOf? b = some domains ∧ t = ⟨domains, performance⟩ := by
  cases fit : domainsOf? b
  case none         => simp [discover, fit, Action.result_bind] at h
  case some domains =>
    rw [result_discover_of_fit fit] at h
    cases h
    exact ⟨domains, rfl, rfl⟩

theorem find?_of_enabled {s s' : σ} (h : (discover b performance).result s = (.done t, s'))
    (enabled : b.IsEnabled n) : t.find? n = some (.ofSocket n) := by
  obtain ⟨domains, fit, rfl⟩ := discover_of_done h
  obtain ⟨rest, rfl⟩ := domainsOf?_eq_some fit
  rw [find?, List.find?_append, find?_ofSocket, if_pos enabled, Option.some_or]

theorem distance_consistent (t : Topology) (i j : UInt32) :
    (i ≠ j → (t.distance i j).distance ≠ 10) ∧
    ((∀ d, t.Counts i d → ¬d.initiator) ∨ (∀ m, t.Counts j m → ¬m.target) →
      t.distance i j = ⟨0xffff, 0xffff, 0xffff, if i = j then 10 else 255⟩) ∧
    (∀ d m, t.Counts i d → d.initiator → t.Counts j m → m.target →
      ∃ p, t.performance.rows[Transfer.row d m]? = some p ∧
        p = t.performance.get (.between d m) ∧
        (t.distance i j).readLatency = p.readLatency ∧
        (t.distance i j).writeLatency = p.writeLatency ∧
        (t.distance i j).bandwidth = p.bandwidth ∧
        (t.distance i j).distance.toNat =
          p.distance.toNat + if i ≠ j ∧ p.distance = 10 then 1 else 0) ∧
    ∀ (b : Board) (performance : PerformanceTable) (s s' : σ) (made : Topology),
      (discover b performance).result s = (.done made, s') → b.IsEnabled i → b.IsEnabled j →
      made.Counts i (.ofSocket i) ∧ made.distance i j = made.distance j i := by
  refine ⟨distance_ne, fun h => ?unreached, fun d m hd starts hm holds => ?reached,
    fun b performance s s' made found hi hj => ?sockets⟩
  case unreached =>
    simp only [← find?_eq_some_iff] at h
    rw [distance_of_unreached h]
    rfl
  case reached =>
    rw [distance_of_reached (find?_eq_some_iff.mpr hd) (find?_eq_some_iff.mpr hm) starts holds]
    refine ⟨_, Transfer.rows_row t.performance d m, rfl, ?_, ?_, ?_, toNat_distance_separated⟩
    all_goals
      rw [separated]
      split <;> rfl
  case sockets =>
    have first := find?_of_enabled found hi
    have second := find?_of_enabled found hj
    exact ⟨find?_eq_some_iff.mp first,
      distance_comm first second Iff.rfl ⟨rfl, rfl⟩ ⟨rfl, rfl⟩⟩

-- Two domains have the number 8. The first one starts no accesses, although the second one would.
theorem distance_consistent_shared_number :
    let p : Performance := ⟨140, 150, 500, 10⟩
    let performance : PerformanceTable := ⟨p, p, p, p, p, p, p, p⟩
    let t : Topology := ⟨[.ofSocket 0, ⟨8, 0, .gpu, some ⟨1, 0⟩, false, true⟩, .ofSocket 8],
      performance⟩
    let b : Board := ⟨.th500, .silicon, 9, 0b100000001, 0, true, [], [], [⟨0, 1, 0, 0, 0, 8, 2⟩]⟩
    (t.distance 0 8).bandwidth = 500 ∧ (t.distance 0 8).distance.toNat = 11 ∧
    t.distance 8 0 = ⟨0xffff, 0xffff, 0xffff, 255⟩ ∧
    ∃ made, (discover b performance).result () = (.done made, ()) ∧
      made.distance 0 8 = made.distance 8 0 ∧ (made.distance 0 8).distance ≠ 10 := by
  intro p performance t b
  have first : t.Counts 0 (.ofSocket 0) := find?_eq_some_iff.mp rfl
  have gpu : t.Counts 8 ⟨8, 0, .gpu, some ⟨1, 0⟩, false, true⟩ := find?_eq_some_iff.mp rfl
  have starts : ∀ d, t.Counts 8 d → ¬d.initiator := by
    intro d hd
    cases (find?_eq_some_iff.mpr hd).symm.trans (find?_eq_some_iff.mpr gpu)
    decide
  have ⟨_, _, reached, _⟩ := distance_consistent (σ := Unit) t 0 8
  have ⟨_, unreached, _, _⟩ := distance_consistent (σ := Unit) t 8 0
  obtain ⟨_, _, rfl, _, _, bandwidth, far⟩ := reached _ _ first rfl gpu rfl
  refine ⟨bandwidth, far, unreached (.inl starts), ?_⟩
  have ⟨domains, fit⟩ : ∃ domains, domainsOf? b = some domains := ⟨_, rfl⟩
  have found := result_discover_of_fit fit performance ()
  have ⟨apart, _, _, sockets⟩ := distance_consistent (σ := Unit) ⟨domains, performance⟩ 0 8
  have ⟨_, same⟩ := sockets b performance () () _ found (by decide) (by decide)
  exact ⟨_, found, same, apart (by decide)⟩

end Topology

end BoardFirmware.Numa
