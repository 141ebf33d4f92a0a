import BoardFirmware.Acpi.Header
import BoardFirmware.Store.Basic

namespace BoardFirmware

-- Builds AML.
class AmlBuilder (γ : Type) where
  startTable : Acpi.Header → γ → Except Status Unit × γ
  startScope : String → γ → Except Status Unit × γ

-- The header of the table for generated AML.
def generatedAmlHeader (oem : Acpi.OemIdentity) : Acpi.Header :=
  .bare (.ofChars 'S' 'S' 'D' 'T') 2 oem

-- The highest capacity. The memory for all entries, 64 bytes for each, is taken at once, and there
-- are no pieces of 2⁶³ bytes.
def Store.maxCapacity : Nat := 0x01ffffffffffffff

-- An empty repository for at least one entry, with the `_SB` scope of its table open.
def Store.start [AmlBuilder γ] (capacity : Nat) (oem : Acpi.OemIdentity) : Action γ Store := do
  if capacity = 0 then
    Action.error "Max entries can't be 0"
    throw .invalidParameter
  Action.request <| AmlBuilder.startTable (generatedAmlHeader oem)
  Action.request <| AmlBuilder.startScope "_SB"
  if maxCapacity < capacity then
    Action.trap
  return .empty capacity

end BoardFirmware
