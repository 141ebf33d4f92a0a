import BoardFirmware.Proofs.Gpio.Registers
import Mathlib.Data.List.Induction

namespace BoardFirmware.Gpio

open BoardFirmware.Action

-- A pin, and what it is set to.
structure Setting where
  pin  : UInt32
  mode : Mode
  deriving DecidableEq

-- What the settings set the pin to last, if they do.
def lastMode? (settings : List Setting) (pin : UInt32) : Option Mode :=
  (settings.filter (·.pin = pin)).getLast?.map (·.mode)

section Last

variable {settings : List Setting} {s : Setting} {pin : UInt32}

theorem lastMode?_concat_self (settings : List Setting) (s : Setting) :
    lastMode? (settings ++ [s]) s.pin = some s.mode := by
  rw [lastMode?, List.filter_append, List.filter_cons_of_pos (by simp), List.filter_nil,
    List.getLast?_concat, Option.map_some]

theorem lastMode?_concat_of_ne (ne : s.pin ≠ pin) :
    lastMode? (settings ++ [s]) pin = lastMode? settings pin := by
  rw [lastMode?, List.filter_append, List.filter_cons_of_neg (by simpa), List.filter_nil,
    List.append_nil, lastMode?]

end Last

-- The address is that of a register of the pin.
def Owns (g : Gpio μ) (pin : UInt32) (b : UInt64) : Prop :=
  ∃ a, g.At pin a ∧ ∃ offset ∈ [configOffset, inputOffset, controlOffset, outputOffset],
    b = a + offset

-- The registers of the pin show the mode, and an output the level that it is driven to.
structure Shows (r : UInt64 → UInt32) (a : UInt64) (mode : Mode) : Prop where
  known  : modeAt r a = mode
  driven : mode ≠ .input → levelAt r a = mode.driven

theorem shows_settled (r : UInt64 → UInt32) (a : UInt64) (mode : Mode) :
    Shows (settled r a mode) a mode :=
  ⟨modeAt_settled r a mode, levelAt_settled⟩

theorem Shows.congr {r r' : UInt64 → UInt32} {a : UInt64} {mode : Mode} (h : Shows r a mode)
    (same : ∀ offset, offset.toNat < blockSize → r' (a + offset) = r (a + offset)) :
    Shows r' a mode := by
  have config := same configOffset (by decide)
  have input := same inputOffset (by decide)
  have output := same outputOffset (by decide)
  refine ⟨?_, fun isOutput => ?_⟩
  · rw [← h.known, modeAt, modeAt, config, output]
  · rw [← h.driven isOutput, levelAt, levelAt, config, levelOffset]
    split
    case isTrue  => exact input
    case isFalse => exact output

-- Setting one pin leaves the registers of the others alone.
theorem settled_apart {r : UInt64 → UInt32} {a b offset : UInt64} {mode : Mode}
    (apart : a.toNat + blockSize ≤ b.toNat ∨ b.toNat + blockSize ≤ a.toNat)
    (fits : a.toNat + blockSize ≤ UInt64.size) (fits' : b.toNat + blockSize ≤ UInt64.size)
    (inside : offset.toNat < blockSize) : settled r a mode (b + offset) = r (b + offset) := by
  have size : UInt64.size = 2 ^ 64 := rfl
  have block : blockSize = 0x20 := rfl
  have ne {other : UInt64} (inside' : other.toNat < blockSize) : b + offset ≠ a + other := by
    rw [← UInt64.toNat_inj.ne, UInt64.toNat_add, UInt64.toNat_add]
    omega
  exact settled_of_ne (ne (by decide)) (ne (by decide)) (ne (by decide))

-- What the settings have made of registers that held `r`.
structure Configured (g : Gpio μ) (settings : List Setting) (r r' : UInt64 → UInt32) : Prop where
  last   : ∀ pin a mode, g.At pin a → lastMode? settings pin = some mode → Shows r' a mode
  config : ∀ pin a, g.At pin a →
    r' (a + configOffset) &&& ~~~modeBits = r (a + configOffset) &&& ~~~modeBits
  others : ∀ b, (∀ s ∈ settings, ¬g.Owns s.pin b) → r' b = r b

namespace Configured

variable {g : Gpio μ} {settings : List Setting} {s : Setting} {r r' : UInt64 → UInt32} {a : UInt64}

theorem nil (g : Gpio μ) (r : UInt64 → UInt32) : Configured g [] r r :=
  ⟨fun _ _ _ _ => nofun, fun _ _ _ => rfl, fun _ _ => rfl⟩

theorem concat (configured : Configured g settings r r') (table : Table g.ports)
    (room : g.HasRoom) (start : g.At s.pin a) :
    Configured g (settings ++ [s]) r (settled r' a s.mode) := by
  refine ⟨fun pin b mode hb last => ?_, fun pin b hb => ?_, fun b unowned => ?_⟩
  case refine_1 =>
    by_cases same : s.pin = pin
    case pos =>
      subst same
      cases table.at_inj start hb
      cases (lastMode?_concat_self settings s).symm.trans last
      exact shows_settled r' a s.mode
    case neg =>
      rw [lastMode?_concat_of_ne same] at last
      exact (configured.last pin b mode hb last).congr fun offset inside =>
        settled_apart (table.apart_of_ne start hb same) (room.le start) (room.le hb) inside
  case refine_2 =>
    rw [← configured.config pin b hb]
    by_cases same : s.pin = pin
    case pos =>
      subst same
      cases table.at_inj start hb
      exact settled_config_kept r' a s.mode
    case neg =>
      rw [settled_apart (table.apart_of_ne start hb same) (room.le start) (room.le hb) (by decide)]
  case refine_3 =>
    rw [List.forall_mem_append, List.forall_mem_singleton] at unowned
    have ne {offset : UInt64}
        (mem : offset ∈ [configOffset, inputOffset, controlOffset, outputOffset]) :
        b ≠ a + offset :=
      fun eq => unowned.2 ⟨a, start, offset, mem, eq⟩
    rw [settled_of_ne (ne (by decide)) (ne (by decide)) (ne (by decide))]
    exact configured.others b unowned.1

theorem concat_of_not_has (configured : Configured g settings r r') (h : ¬Has g.ports s.pin) :
    Configured g (settings ++ [s]) r r' := by
  refine ⟨fun pin b mode hb last => ?_, configured.config, fun b unowned => ?_⟩
  case refine_1 =>
    have ne : s.pin ≠ pin := fun same => h (same ▸ hb.has)
    rw [lastMode?_concat_of_ne ne] at last
    exact configured.last pin b mode hb last
  case refine_2 =>
    rw [List.forall_mem_append] at unowned
    exact configured.others b unowned.1

end Configured

theorem ofChip_eq_ok {g : Gpio μ} {chip : Chip} {registers : μ} {base : UInt64}
    (h : ofChip registers chip base = .ok g) :
    g.registers = registers ∧ g.base = base ∧ portsOf chip = .ok g.ports := by
  rw [ofChip] at h
  cases ports : portsOf chip <;> rw [ports] at h <;> cases h
  exact ⟨rfl, rfl, rfl⟩

variable [RegisterSpace μ] {contents : μ → UInt64 → UInt32} {g : Gpio μ} {pin : UInt32}

theorem result_setMode_of_not_has (table : Table g.ports) (h : ¬Has g.ports pin) (mode : Mode) :
    (setMode pin mode).result g = (.failed .notFound, g) := by
  rw [setMode, result_bind, result_pinAddress_of_not_has table h]

theorem result_mode_of_not_has (table : Table g.ports) (h : ¬Has g.ports pin) :
    (Gpio.mode pin).result g = (.failed .notFound, g) := by
  rw [Gpio.mode, result_bind, result_pinAddress_of_not_has table h]

theorem result_level_of_not_has (table : Table g.ports) (h : ¬Has g.ports pin) :
    (level pin).result g = (.failed .notFound, g) := by
  rw [level, result_bind, result_pinAddress_of_not_has table h]

-- Sets pins one after the other, whatever comes of it.
def configure (settings : List Setting) (g : Gpio μ) : Gpio μ :=
  settings.foldl (fun g s => ((setMode s.pin s.mode).result g).2) g

theorem configure_concat (settings : List Setting) (s : Setting) (g : Gpio μ) :
    configure (settings ++ [s]) g = ((setMode s.pin s.mode).result (configure settings g)).2 := by
  rw [configure, List.foldl_append]
  rfl

theorem exists_configure (memory : IsMemory contents) (table : Table g.ports) (room : g.HasRoom)
    (settings : List Setting) :
    ∃ m, configure settings g = { g with registers := m } ∧
      Configured g settings (contents g.registers) (contents m) := by
  induction settings using List.reverseRecOn with
  | nil => exact ⟨g.registers, rfl, Configured.nil g _⟩
  | append_singleton settings s ih =>
    have ⟨m, configure_eq, configured⟩ := ih
    rw [configure_concat, configure_eq]
    by_cases has : Has g.ports s.pin
    case pos =>
      have ⟨a, start⟩ := room.exists_at has
      have ⟨m', set, settled_eq⟩ := result_setMode memory (g := { g with registers := m })
        table room start s.mode
      refine ⟨m', by rw [set], ?_⟩
      rw [settled_eq]
      exact configured.concat table room start
    case neg =>
      refine ⟨m, ?_, configured.concat_of_not_has has⟩
      rw [result_setMode_of_not_has (g := { g with registers := m }) table has]

-- However pins are set, a pin that the chip has is left as it was set last, and nothing but the
-- registers of such pins changes. A pin that the chip lacks is not found, and nothing is done.
theorem configure_keeps_apart (memory : IsMemory contents) {chip : Chip} {registers : μ}
    {base : UInt64} (h : ofChip registers chip base = .ok g) (room : g.HasRoom)
    (settings : List Setting) {g' : Gpio μ} (configured : configure settings g = g') :
    (∀ pin mode, Has g.ports pin → lastMode? settings pin = some mode →
      ((Gpio.mode pin).result g').1 = .done mode ∧
      (mode ≠ .input → ((level pin).result g').1 = .done mode.driven)) ∧
    (∀ pin a, g.At pin a →
      contents g'.registers (a + configOffset) &&& ~~~modeBits =
        contents registers (a + configOffset) &&& ~~~modeBits) ∧
    (∀ b, (∀ s ∈ settings, ¬g.Owns s.pin b) → contents g'.registers b = contents registers b) ∧
    (∀ pin, Has g.ports pin →
      (∀ mode, ((setMode pin mode).result g').1 = .done ()) ∧
      (∃ mode, ((Gpio.mode pin).result g').1 = .done mode) ∧
      ∃ value, ((level pin).result g').1 = .done value) ∧
    ∀ pin, ¬Has g.ports pin →
      (∀ mode, (setMode pin mode).result g' = (.failed .notFound, g')) ∧
      (Gpio.mode pin).result g' = (.failed .notFound, g') ∧
      (level pin).result g' = (.failed .notFound, g') := by
  have ⟨registers_eq, _, ports⟩ := ofChip_eq_ok h
  have table := table_of_portsOf ports
  have ⟨m, configure_eq, effect⟩ := exists_configure memory table room settings
  subst registers_eq
  obtain rfl := configure_eq.symm.trans configured
  have mode_eq {pin : UInt32} {a : UInt64} (start : g.At pin a) :
      ((Gpio.mode pin).result { g with registers := m }).1 = .done (modeAt (contents m) a) := by
    have ⟨_, hmode, _⟩ := result_mode memory (g := { g with registers := m }) table room start
    rw [hmode]
  have level_eq {pin : UInt32} {a : UInt64} (start : g.At pin a) :
      ((level pin).result { g with registers := m }).1 = .done (levelAt (contents m) a) := by
    have ⟨_, hlevel, _⟩ := result_level memory (g := { g with registers := m }) table room start
    rw [hlevel]
  refine ⟨fun pin mode has last => ?_, effect.config, effect.others, fun pin has => ?_,
    fun pin lacks => ?_⟩
  case refine_1 =>
    have ⟨a, start⟩ := room.exists_at has
    have ⟨known, driven⟩ := effect.last pin a mode start last
    rw [mode_eq start, level_eq start, known]
    exact ⟨rfl, fun isOutput => by rw [driven isOutput]⟩
  case refine_2 =>
    have ⟨a, start⟩ := room.exists_at has
    refine ⟨fun mode => ?_, ⟨_, mode_eq start⟩, ⟨_, level_eq start⟩⟩
    have ⟨_, hset, _⟩ :=
      result_setMode memory (g := { g with registers := m }) table room start mode
    rw [hset]
  case refine_3 =>
    exact ⟨result_setMode_of_not_has table lacks, result_mode_of_not_has table lacks,
      result_level_of_not_has table lacks⟩

-- Registers and nothing else.
structure Memory where
  contents : UInt64 → UInt32

instance : RegisterSpace Memory where
  read address m        := (m.contents address, m)
  write address value m := ⟨Function.update m.contents address value⟩

theorem Memory.isMemory : IsMemory Memory.contents :=
  ⟨fun _ _ => ⟨rfl, rfl⟩, fun _ _ _ => rfl⟩

theorem configure_keeps_apart_of_gap :
    ∃ g : Gpio Memory, ofChip ⟨fun _ => 0xffffffff⟩ .th500 0x2200000 = .ok g ∧ g.HasRoom ∧
      let g' := configure [⟨5, .input⟩, ⟨18, .drivenHigh⟩, ⟨16, .drivenLow⟩, ⟨5, .drivenHigh⟩] g
      ((Gpio.mode 5).result g').1 = .done .drivenHigh ∧
      ((level 16).result g').1 = .done 0 ∧
      (Gpio.mode 18).result g' = (.failed .notFound, g') := by
  have room : HasRoom (⟨⟨fun _ => 0xffffffff⟩, 0x2200000, th500Ports⟩ : Gpio Memory) := by
    decide +kernel
  have made : ofChip (⟨fun _ => 0xffffffff⟩ : Memory) .th500 0x2200000 =
      .ok ⟨⟨fun _ => 0xffffffff⟩, 0x2200000, th500Ports⟩ := rfl
  have ⟨last, _, _, _, lacking⟩ :=
    configure_keeps_apart Memory.isMemory made room
      [⟨5, .input⟩, ⟨18, .drivenHigh⟩, ⟨16, .drivenLow⟩, ⟨5, .drivenHigh⟩] rfl
  have has_five : Has th500Ports 5 := ⟨.of 0 0 0 8, by decide, 5, by decide, rfl⟩
  have has_sixteen : Has th500Ports 16 := ⟨.of 2 0 2 2, by decide, 0, by decide, rfl⟩
  have lacks : ¬Has th500Ports 18 := by
    intro ⟨p, mem, number, lt, eq⟩
    have outside : ∀ p ∈ th500Ports, 18 < 8 * p.index.toNat ∨
        8 * p.index.toNat + p.pinCount.toNat ≤ 18 := by decide
    have := outside p mem
    have : (18 : UInt32).toNat = 18 := rfl
    omega
  exact ⟨_, made, room, (last 5 .drivenHigh has_five rfl).1,
    (last 16 .drivenLow has_sixteen rfl).2 (by decide), (lacking 18 lacks).2.1⟩

end BoardFirmware.Gpio
