import BoardFirmware.Gpio.Basic
import BoardFirmware.Proofs.Action.Result

namespace BoardFirmware.Gpio

open BoardFirmware.Action

-- How many bytes the registers of a pin take up.
def blockSize : Nat := 0x20

namespace Port

-- The pin is the one with this number in the port.
structure Holds (p : Port) (pin : UInt32) (number : Nat) : Prop where
  lt : number < p.pinCount.toNat
  eq : pin.toNat = 8 * p.index.toNat + number

-- Where the registers of the pin with this number are, from the start of the controller.
def place (p : Port) (number : Nat) : Nat :=
  p.offset.toNat + blockSize * number

-- The port has no more pins than can be numbered, and its numbers fit their words.
structure Numbered (p : Port) : Prop where
  count : p.pinCount.toNat ≤ 8
  index : 8 * p.index.toNat + 8 < 0x100000000

-- The ports have different numbers, and the registers of one come after those of the other.
structure Apart (p q : Port) : Prop where
  index : p.index ≠ q.index
  place : p.place p.pinCount.toNat ≤ q.place 0 ∨ q.place q.pinCount.toNat ≤ p.place 0

theorem numbered_iff {p : Port} :
    p.Numbered ↔ p.pinCount.toNat ≤ 8 ∧ 8 * p.index.toNat + 8 < 0x100000000 :=
  ⟨fun ⟨count, index⟩ => ⟨count, index⟩, fun ⟨count, index⟩ => ⟨count, index⟩⟩

instance (p : Port) : Decidable p.Numbered :=
  decidable_of_iff _ numbered_iff.symm

theorem apart_iff {p q : Port} :
    p.Apart q ↔ p.index ≠ q.index ∧
      (p.place p.pinCount.toNat ≤ q.place 0 ∨ q.place q.pinCount.toNat ≤ p.place 0) :=
  ⟨fun ⟨index, place⟩ => ⟨index, place⟩, fun ⟨index, place⟩ => ⟨index, place⟩⟩

instance (p q : Port) : Decidable (p.Apart q) :=
  decidable_of_iff _ apart_iff.symm

theorem Numbered.toNat_firstPin {p : Port} (numbered : p.Numbered) :
    p.firstPin.toNat = 8 * p.index.toNat := by
  have := numbered.index
  rw [firstPin, UInt32.toNat_mul, show pinsPerPort.toNat = 8 from rfl]
  omega

theorem contains_iff {p : Port} (numbered : p.Numbered) {pin : UInt32} :
    p.Contains pin ↔ ∃ number, p.Holds pin number := by
  have first := numbered.toNat_firstPin
  have ⟨count, index⟩ := numbered
  have last : (p.firstPin + p.pinCount).toNat = 8 * p.index.toNat + p.pinCount.toNat := by
    rw [UInt32.toNat_add, first]
    omega
  rw [Contains, UInt32.le_iff_toNat_le, UInt32.lt_iff_toNat_lt, first, last]
  refine ⟨fun ⟨le, lt⟩ => ⟨pin.toNat - 8 * p.index.toNat, by omega, by omega⟩,
    fun ⟨number, lt, eq⟩ => ?_⟩
  omega

end Port

-- A table of ports that gives each pin a place of its own.
structure Table (ports : List Port) : Prop where
  numbered : ∀ p ∈ ports, p.Numbered
  apart    : ∀ p ∈ ports, ∀ q ∈ ports, p = q ∨ p.Apart q

theorem table_of_portsOf {chip : Chip} {ports : List Port} (h : portsOf chip = .ok ports) :
    Table ports := by
  cases chip <;> cases h
  all_goals exact ⟨by decide +kernel, by decide +kernel⟩

-- The table has the pin.
def Has (ports : List Port) (pin : UInt32) : Prop :=
  ∃ p ∈ ports, ∃ number, p.Holds pin number

-- The registers of the pin start at the address.
def At (g : Gpio μ) (pin : UInt32) (address : UInt64) : Prop :=
  ∃ p ∈ g.ports, ∃ number, p.Holds pin number ∧ address.toNat = g.base.toNat + p.place number

-- The registers of the last pin of each port end within the address space.
def HasRoom (g : Gpio μ) : Prop :=
  ∀ p ∈ g.ports, g.base.toNat + p.place p.pinCount.toNat ≤ UInt64.size

instance (g : Gpio μ) : Decidable g.HasRoom := by
  unfold HasRoom
  infer_instance

variable {ports : List Port} {g : Gpio μ} {p q : Port} {pin other : UInt32} {a b : UInt64}

theorem At.has (h : g.At pin a) : Has g.ports pin :=
  have ⟨p, mem, number, holds, _⟩ := h
  ⟨p, mem, number, holds⟩

-- A pin is in one port only.
theorem Table.eq_of_holds (table : Table ports) (hp : p ∈ ports) (hq : q ∈ ports) {m n : Nat}
    (hm : p.Holds pin m) (hn : q.Holds pin n) : p = q ∧ m = n := by
  have hp_count := (table.numbered p hp).count
  have hq_count := (table.numbered q hq).count
  have ⟨hm_lt, hm_eq⟩ := hm
  have ⟨hn_lt, hn_eq⟩ := hn
  have index : p.index = q.index := by
    rw [← UInt32.toNat_inj]
    omega
  obtain same | apart := table.apart p hp q hq
  case inl => exact ⟨same, by subst same; omega⟩
  case inr => exact absurd index apart.index

-- Two pins have no register in common.
theorem Table.apart_of_ne (table : Table g.ports) (ha : g.At pin a) (hb : g.At other b)
    (ne : pin ≠ other) : a.toNat + blockSize ≤ b.toNat ∨ b.toNat + blockSize ≤ a.toNat := by
  have ⟨p, hp, m, hm, a_eq⟩ := ha
  have ⟨q, hq, n, hn, b_eq⟩ := hb
  have ⟨hm_lt, hm_eq⟩ := hm
  have ⟨hn_lt, hn_eq⟩ := hn
  rw [a_eq, b_eq, Port.place, Port.place, blockSize]
  obtain rfl | apart := table.apart p hp q hq
  case inl =>
    have : m ≠ n := by
      intro same
      apply ne
      rw [← UInt32.toNat_inj, hm_eq, hn_eq, same]
    omega
  case inr =>
    have place := apart.place
    simp only [Port.place, blockSize] at place
    omega

theorem Table.at_inj (table : Table g.ports) (ha : g.At pin a) (hb : g.At pin b) : a = b := by
  have ⟨p, hp, m, hm, a_eq⟩ := ha
  have ⟨q, hq, n, hn, b_eq⟩ := hb
  obtain ⟨rfl, rfl⟩ := table.eq_of_holds hp hq hm hn
  rw [← UInt64.toNat_inj, a_eq, b_eq]

theorem HasRoom.le (room : g.HasRoom) (h : g.At pin a) : a.toNat + blockSize ≤ UInt64.size := by
  have ⟨p, hp, m, hm, a_eq⟩ := h
  have := room p hp
  have := hm.lt
  rw [Port.place, blockSize] at *
  omega

theorem HasRoom.exists_at (room : g.HasRoom) (has : Has g.ports pin) : ∃ a, g.At pin a := by
  have ⟨p, hp, number, holds⟩ := has
  have := room p hp
  have := holds.lt
  refine ⟨.ofNat (g.base.toNat + p.place number), p, hp, number, holds, ?_⟩
  rw [Port.place, blockSize] at *
  exact UInt64.toNat_ofNat_of_lt' (by omega)

theorem Table.portOf? (table : Table g.ports) (hp : p ∈ g.ports) {number : Nat}
    (holds : p.Holds pin number) : g.portOf? pin = some p := by
  cases hq : g.portOf? pin
  case none =>
    have contains := (Port.contains_iff (table.numbered p hp)).mpr ⟨number, holds⟩
    exact absurd (decide_eq_true contains) (List.find?_eq_none.mp hq p hp)
  case some q =>
    have mem := List.mem_of_find?_eq_some hq
    have contains := List.find?_some (p := fun q : Port => decide (q.Contains pin)) hq
    have ⟨_, also⟩ := (Port.contains_iff (table.numbered q mem)).mp (of_decide_eq_true contains)
    rw [(table.eq_of_holds mem hp also holds).1]

theorem portOf?_of_not_has (table : Table g.ports) (h : ¬Has g.ports pin) :
    g.portOf? pin = none := by
  refine List.find?_eq_none.mpr fun p hp contains => h ⟨p, hp, ?_⟩
  exact (Port.contains_iff (table.numbered p hp)).mp (of_decide_eq_true contains)

theorem result_pinAddress (table : Table g.ports) (room : g.HasRoom) (h : g.At pin a) :
    (pinAddress pin).result g = (.done a, g) := by
  have ⟨p, hp, number, holds, a_eq⟩ := h
  have fits := room.le h
  have numbered := table.numbered p hp
  have first := numbered.toNat_firstPin
  have ⟨count, index⟩ := numbered
  have ⟨lt, pin_eq⟩ := holds
  rw [Port.place, blockSize] at a_eq
  rw [blockSize] at fits
  have offset : (pin - p.firstPin).toNat = number := by
    rw [UInt32.toNat_sub_of_le _ _ (by rw [UInt32.le_iff_toNat_le]; omega), first]
    omega
  have distance : ((pin - p.firstPin).toUInt64 * pinSpacing).toNat = 32 * number := by
    rw [UInt64.toNat_mul, UInt32.toNat_toUInt64, offset, show pinSpacing.toNat = 32 from rfl]
    omega
  have size : UInt64.size = 2 ^ 64 := rfl
  have start : Word.add64? g.base p.offset = some (g.base + p.offset) := if_pos (by omega)
  have start_eq := Word.add64?_eq_some_iff.mp start
  have address : Word.add64? (g.base + p.offset)
      ((pin - p.firstPin).toUInt64 * pinSpacing) = some a := by
    rw [Word.add64?_eq_some_iff]
    omega
  rw [pinAddress, result_bind_of_done (result_get g), table.portOf? hp holds]
  dsimp only
  rw [start, result_bind_of_done (result_checked_some ..), address, result_checked_some]

theorem result_pinAddress_of_not_has (table : Table g.ports) (h : ¬Has g.ports pin) :
    (pinAddress pin).result g = (.failed .notFound, g) := by
  rw [pinAddress, result_bind_of_done (result_get g), portOf?_of_not_has table h]
  rfl

end BoardFirmware.Gpio
