import BoardFirmware.Board
import BoardFirmware.Store.Descriptor

namespace BoardFirmware

structure MemoryRange where
  base   : UInt64
  length : UInt64
  deriving DecidableEq

namespace MemoryRange

def fields (r : MemoryRange) : UInt64 × UInt64 :=
  (r.base, r.length)

def ofFields : UInt64 × UInt64 → MemoryRange
  | (base, length) => ⟨base, length⟩

instance : Layout MemoryRange := .via fields ofFields

instance : LawfulLayout MemoryRange := .via (fun _ => rfl) (fun _ => rfl)

def ofRegion (r : MemoryRegion) : MemoryRange :=
  ⟨r.base, r.length⟩

end MemoryRange

-- An interrupt as ACPI knows it.
structure Interrupt where
  number : UInt32
  flags  : UInt32
  deriving DecidableEq

namespace Interrupt

def fields (i : Interrupt) : UInt32 × UInt32 :=
  (i.number, i.flags)

def ofFields : UInt32 × UInt32 → Interrupt
  | (number, flags) => ⟨number, flags⟩

instance : Layout Interrupt := .via fields ofFields

instance : LawfulLayout Interrupt := .via (fun _ => rfl) (fun _ => rfl)

-- Edge rather than level triggered.
def edge : UInt32 := 1

-- Triggered by a low level or a falling edge.
def activeLow : UInt32 := 2

end Interrupt

-- Whether all cores share an interrupt.
inductive InterruptKind where
  | shared
  | perCore
  deriving DecidableEq

-- The number of the first interrupt of the kind.
def InterruptKind.base : InterruptKind → UInt32
  | shared  => 32
  | perCore => 16

inductive Trigger where
  | risingEdge
  | fallingEdge
  | highLevel
  | lowLevel
  deriving DecidableEq

def Trigger.flags : Trigger → UInt32
  | risingEdge  => Interrupt.edge
  | fallingEdge => Interrupt.edge ||| Interrupt.activeLow
  | highLevel   => 0
  | lowLevel    => Interrupt.activeLow

-- An interrupt as a device tree describes it, numbered among those of its kind.
structure InterruptLine where
  kind    : InterruptKind
  number  : UInt32
  trigger : Trigger
  deriving DecidableEq

def InterruptLine.interrupt? (l : InterruptLine) : Option Interrupt :=
  (Word.add32? l.number l.kind.base).map (⟨·, l.trigger.flags⟩)

-- The first `limit` items, or all of them if the limit is zero.
def limited (limit : Nat) (items : List α) : List α :=
  if limit = 0 then items else items.take limit

namespace Store

-- Adds the items as the elements of one entry.
def addItems [Layout α] (id : ObjectId) (items : List α) : Action Store Token := do
  let d ← Descriptor.ofElements id (UInt32.ofNat items.length) (Layout.writeAll items)
  return (← addGroup d).2

def addMemoryRanges (regions : List MemoryRegion) (limit : Nat) :
    Action Store (List MemoryRange × Token) := do
  let ranges := (limited limit regions).map MemoryRange.ofRegion
  return (ranges, ← addItems .memoryRange ranges)

def addInterrupts (lines : List InterruptLine) (limit : Nat) :
    Action Store (List Interrupt × Token) := do
  match (limited limit lines).mapM InterruptLine.interrupt? with
  | none            => throw .invalidParameter
  | some interrupts => return (interrupts, ← addItems .interrupt interrupts)

end Store

end BoardFirmware
