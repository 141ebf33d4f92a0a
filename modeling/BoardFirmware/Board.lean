import BoardFirmware.Bytes.LittleEndian

namespace BoardFirmware

-- A generation of the SoC.
inductive Chip where
  | t186
  | t194
  | t234
  | th500
  deriving DecidableEq

namespace Chip

def number : Chip → UInt32
  | t186  => 0x18
  | t194  => 0x19
  | t234  => 0x23
  | th500 => 0x24

def name : Chip → String
  | t186  => "T186"
  | t194  => "T194"
  | t234  => "T234"
  | th500 => "Th500"

def all : List Chip :=
  [t186, t194, t234, th500]

def ofNumber? (number : UInt32) : Option Chip :=
  all.find? (·.number == number)

end Chip

-- What the firmware runs on. Everything but silicon is a simulator, an emulator or an FPGA.
inductive PlatformKind where
  | silicon
  | presilicon
  deriving DecidableEq

def PlatformKind.name : PlatformKind → String
  | silicon    => "Silicon"
  | presilicon => "Presilicon"

structure MemoryRegion where
  base   : UInt64
  length : UInt64
  deriving DecidableEq

-- A GPU on a PCIe root bridge, and the proximity domains that its memory is split into.
structure Gpu where
  socket      : UInt32
  segment     : UInt16
  bus         : UInt8
  device      : UInt8
  function    : UInt8
  domainStart : UInt32
  domainCount : UInt32
  deriving DecidableEq

-- Bus, device and function as ACPI device handles have them, the bus in the low byte.
def Gpu.address (g : Gpu) : UInt16 :=
  let deviceFunction := ((g.device &&& 0x1f).toUInt16 <<< 3) ||| (g.function &&& 0x7).toUInt16
  (deviceFunction <<< 8) ||| g.bus.toUInt16

-- What the earlier boot stages found on the board.
structure Board where
  chip           : Chip
  kind           : PlatformKind
  -- How many sockets there can be.
  maxSockets     : UInt32
  -- Bit `n` stands for socket `n` being present and enabled.
  socketMask     : UInt32
  -- Bit `n` stands for socket `n` having a GPU.
  gpuSocketMask  : UInt32
  -- Whether a hypervisor is booted, which gets memory carved out on each socket.
  hypervisor     : Bool
  dram           : List MemoryRegion
  -- The carve-out of each socket, in socket order.
  carveOuts      : List MemoryRegion
  gpus           : List Gpu
  deriving DecidableEq

namespace Board

-- Whether the mask has the bit of one of the board's sockets. Masks cover 32 sockets.
def Selects (b : Board) (mask socket : UInt32) : Prop :=
  socket < b.maxSockets ∧ socket < 32 ∧ mask &&& (1 <<< socket) ≠ 0

instance (b : Board) (mask socket : UInt32) : Decidable (b.Selects mask socket) := by
  unfold Selects
  infer_instance

def IsEnabled (b : Board) (socket : UInt32) : Prop :=
  b.Selects b.socketMask socket

instance (b : Board) (socket : UInt32) : Decidable (b.IsEnabled socket) := by
  unfold IsEnabled
  infer_instance

def HasGpu (b : Board) (socket : UInt32) : Prop :=
  b.Selects b.gpuSocketMask socket

instance (b : Board) (socket : UInt32) : Decidable (b.HasGpu socket) := by
  unfold HasGpu
  infer_instance

-- All sockets that a mask can select, in increasing order.
def sockets : List UInt32 :=
  (List.range 32).map UInt32.ofNat

-- The enabled sockets in increasing order.
def enabledSockets (b : Board) : List UInt32 :=
  sockets.filter (b.IsEnabled ·)

-- The sockets with a GPU in increasing order.
def gpuSockets (b : Board) : List UInt32 :=
  sockets.filter (b.HasGpu ·)

theorem mem_sockets_iff : socket ∈ sockets ↔ socket < 32 := by
  simp only [sockets, List.mem_map, List.mem_range, UInt32.lt_iff_toNat_lt, UInt32.toNat_ofNat]
  constructor
  · rintro ⟨n, h, rfl⟩
    simp
    omega
  · intro h
    exact ⟨socket.toNat, h, by simp⟩

theorem mem_enabledSockets_iff {b : Board} : socket ∈ b.enabledSockets ↔ b.IsEnabled socket := by
  simp only [enabledSockets, List.mem_filter, mem_sockets_iff, decide_eq_true_eq]
  exact ⟨And.right, fun h => ⟨h.2.1, h⟩⟩

theorem mem_gpuSockets_iff {b : Board} : socket ∈ b.gpuSockets ↔ b.HasGpu socket := by
  simp only [gpuSockets, List.mem_filter, mem_sockets_iff, decide_eq_true_eq]
  exact ⟨And.right, fun h => ⟨h.2.1, h⟩⟩

end Board

-- The socket that a TH500 physical address belongs to: its bits 44 and 45.
def socketOfAddress (address : UInt64) : UInt32 :=
  ((address &&& 0x300000000000) >>> 44).toUInt32

end BoardFirmware
