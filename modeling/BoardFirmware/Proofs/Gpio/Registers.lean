import BoardFirmware.Proofs.Gpio.Pins
import Mathlib.Logic.Function.Basic

namespace BoardFirmware

-- The registers hold what was written to them: `contents` says what they hold in a state.
structure IsMemory [RegisterSpace μ] (contents : μ → UInt64 → UInt32) : Prop where
  read  : ∀ address m, (RegisterSpace.read address m).1 = contents m address ∧
    contents (RegisterSpace.read address m).2 = contents m
  write : ∀ address value m,
    contents (RegisterSpace.write address value m) = Function.update (contents m) address value

namespace Gpio

open BoardFirmware.Action

-- The bits of a configuration that make up the mode.
def modeBits : UInt32 :=
  enableBit ||| outputBit

-- Those of them that are set.
def Mode.bits : Mode → UInt32
  | input => enableBit
  | _     => enableBit ||| outputBit

-- What an output is driven to.
def Mode.driven : Mode → UInt32
  | drivenHigh => 1
  | _          => 0

-- What the registers hold after the pin whose registers start at the address has been set.
def settled (r : UInt64 → UInt32) (a : UInt64) (mode : Mode) : UInt64 → UInt32 :=
  let driven :=
    if mode = .input then r
    else Function.update (Function.update r (a + outputOffset) mode.driven) (a + controlOffset) 0
  Function.update driven (a + configOffset) ((r (a + configOffset) &&& ~~~modeBits) ||| mode.bits)

-- The mode of the pin whose registers start at the address.
def modeAt (r : UInt64 → UInt32) (a : UInt64) : Mode :=
  if r (a + configOffset) &&& outputBit = 0 then .input
  else if r (a + outputOffset) = 0 then .drivenLow
  else .drivenHigh

-- Which register tells the level of a pin with the configuration.
def levelOffset (config : UInt32) : UInt64 :=
  if config &&& outputBit = 0 then inputOffset else outputOffset

-- The level of the pin whose registers start at the address.
def levelAt (r : UInt64 → UInt32) (a : UInt64) : UInt32 :=
  r (a + levelOffset (r (a + configOffset)))

variable {r : UInt64 → UInt32} {a b : UInt64} {mode : Mode}

theorem or_and (x y mask : UInt32) : (x ||| y) &&& mask = (x &&& mask) ||| (y &&& mask) :=
  UInt32.toBitVec_inj.mp BitVec.and_or_distrib_right

theorem add_offset_ne {x y : UInt64} (h : x ≠ y) : a + x ≠ a + y :=
  mt (UInt64.add_right_inj a).mp h

theorem settled_config (r : UInt64 → UInt32) (a : UInt64) (mode : Mode) :
    settled r a mode (a + configOffset) = (r (a + configOffset) &&& ~~~modeBits) ||| mode.bits :=
  Function.update_self ..

theorem settled_output (output : mode ≠ .input) :
    settled r a mode (a + outputOffset) = mode.driven := by
  rw [settled, Function.update_of_ne (add_offset_ne (by decide)), if_neg output,
    Function.update_of_ne (add_offset_ne (by decide)), Function.update_self]

theorem settled_of_ne (config : b ≠ a + configOffset) (control : b ≠ a + controlOffset)
    (output : b ≠ a + outputOffset) : settled r a mode b = r b := by
  rw [settled, Function.update_of_ne config]
  split
  case isTrue  => rfl
  case isFalse => rw [Function.update_of_ne control, Function.update_of_ne output]

-- The other bits of the configuration are kept.
theorem settled_config_kept (r : UInt64 → UInt32) (a : UInt64) (mode : Mode) :
    settled r a mode (a + configOffset) &&& ~~~modeBits = r (a + configOffset) &&& ~~~modeBits := by
  have within : mode.bits &&& ~~~modeBits = 0 := by
    cases mode <;> decide
  rw [settled_config, or_and, UInt32.and_assoc, UInt32.and_self, within, UInt32.or_zero]

theorem settled_outputBit (r : UInt64 → UInt32) (a : UInt64) (mode : Mode) :
    settled r a mode (a + configOffset) &&& outputBit = 0 ↔ mode = .input := by
  have cleared : ~~~modeBits &&& outputBit = 0 := by decide
  rw [settled_config, or_and, UInt32.and_assoc, cleared, UInt32.and_zero, UInt32.zero_or]
  cases mode <;> decide

theorem modeAt_settled (r : UInt64 → UInt32) (a : UInt64) (mode : Mode) :
    modeAt (settled r a mode) a = mode := by
  rw [modeAt]
  split
  case isTrue set => exact ((settled_outputBit r a mode).mp set).symm
  case isFalse set =>
    have output := mt (settled_outputBit r a mode).mpr set
    rw [settled_output output]
    cases mode
    case input      => contradiction
    case drivenLow  => rfl
    case drivenHigh => rfl

theorem levelAt_settled (output : mode ≠ .input) : levelAt (settled r a mode) a = mode.driven := by
  rw [levelAt, levelOffset, if_neg (mt (settled_outputBit r a mode).mp output),
    settled_output output]

variable [RegisterSpace μ] {contents : μ → UInt64 → UInt32} {g : Gpio μ} {pin : UInt32}

theorem result_read (memory : IsMemory contents) (fits : a.toNat + blockSize ≤ UInt64.size)
    (offset : UInt64) (inside : offset.toNat < blockSize) (g : Gpio μ) :
    ∃ m, (read a offset).result g =
        (.done (contents g.registers (a + offset)), { g with registers := m }) ∧
      contents m = contents g.registers := by
  have ⟨value, same⟩ := memory.read (a + offset) g.registers
  refine ⟨_, ?_, same⟩
  rw [read, Word.add64?, if_pos (by omega), result_bind_of_done (result_checked_some ..), ← value]
  rfl

theorem result_write (memory : IsMemory contents) (fits : a.toNat + blockSize ≤ UInt64.size)
    (offset : UInt64) (inside : offset.toNat < blockSize) (value : UInt32) (g : Gpio μ) :
    ∃ m, (write a offset value).result g = (.done (), { g with registers := m }) ∧
      contents m = Function.update (contents g.registers) (a + offset) value := by
  refine ⟨_, ?_, memory.write (a + offset) value g.registers⟩
  rw [write, Word.add64?, if_pos (by omega), result_bind_of_done (result_checked_some ..)]
  rfl

section Pin

variable (memory : IsMemory contents) (table : Table g.ports) (room : g.HasRoom)
  (start : g.At pin a)

include memory table room start

theorem result_setMode (mode : Mode) :
    ∃ m, (setMode pin mode).result g = (.done (), { g with registers := m }) ∧
      contents m = settled (contents g.registers) a mode := by
  have fits := room.le start
  have ⟨m, hread, same⟩ := result_read memory fits configOffset (by decide) g
  rw [setMode, result_bind_of_done (result_pinAddress table room start)]
  dsimp only
  rw [result_bind_of_done (result_debug ..), result_bind_of_done hread]
  split
  case isTrue input =>
    have ⟨m', hwrite, written⟩ := result_write memory fits configOffset (by decide)
      ((contents g.registers (a + configOffset) &&& ~~~modeBits) ||| enableBit)
      { g with registers := m }
    refine ⟨m', hwrite, ?_⟩
    rw [written, same, settled, input]
    rfl
  case isFalse output =>
    have bits : mode.bits = enableBit ||| outputBit := by
      cases mode
      case input => contradiction
      all_goals rfl
    have driven : (if mode = .drivenHigh then 1 else 0) = mode.driven := by
      cases mode <;> rfl
    have ⟨m₁, hwrite₁, written₁⟩ := result_write memory fits outputOffset (by decide)
      mode.driven { g with registers := m }
    have ⟨m₂, hwrite₂, written₂⟩ := result_write memory fits controlOffset (by decide)
      0 { g with registers := m₁ }
    have ⟨m₃, hwrite₃, written₃⟩ := result_write memory fits configOffset (by decide)
      ((contents g.registers (a + configOffset) &&& ~~~modeBits) ||| enableBit ||| outputBit)
      { g with registers := m₂ }
    refine ⟨m₃, ?_, ?_⟩
    · rw [driven, result_bind_of_done hwrite₁, result_bind_of_done hwrite₂]
      exact hwrite₃
    · rw [written₃, written₂, written₁, same, settled, if_neg output, bits, UInt32.or_assoc]

theorem result_mode :
    ∃ m, (Gpio.mode pin).result g =
        (.done (modeAt (contents g.registers) a), { g with registers := m }) ∧
      contents m = contents g.registers := by
  have fits := room.le start
  have ⟨m, hread, same⟩ := result_read memory fits configOffset (by decide) g
  have ⟨m', hread', same'⟩ := result_read memory fits outputOffset (by decide)
    { g with registers := m }
  rw [Gpio.mode, result_bind_of_done (result_pinAddress table room start),
    result_bind_of_done hread, modeAt]
  split
  case isTrue  => exact ⟨m, rfl, same⟩
  case isFalse =>
    refine ⟨m', ?_, same'.trans same⟩
    rw [result_bind_of_done hread', ← same]
    split <;> rfl

theorem result_level :
    ∃ m, (level pin).result g =
        (.done (levelAt (contents g.registers) a), { g with registers := m }) ∧
      contents m = contents g.registers := by
  have fits := room.le start
  have ⟨m, hread, same⟩ := result_read memory fits configOffset (by decide) g
  have inside : (levelOffset (contents g.registers (a + configOffset))).toNat < blockSize := by
    rw [levelOffset]
    split <;> decide
  have ⟨m', hread', same'⟩ := result_read memory fits _ inside { g with registers := m }
  refine ⟨m', ?_, same'.trans same⟩
  rw [level, result_bind_of_done (result_pinAddress table room start),
    result_bind_of_done hread, levelAt, ← same]
  rw [← same] at hread'
  exact hread'

end Pin

end Gpio

end BoardFirmware
