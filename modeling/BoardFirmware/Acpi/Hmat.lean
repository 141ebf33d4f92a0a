import BoardFirmware.Acpi.TableList
import BoardFirmware.Numa.Topology

namespace BoardFirmware.Acpi

open Numa

-- The Heterogeneous Memory Attribute Table. Its header is followed by a structure for each measure,
-- with a figure for every pair of an initiator and a target.
namespace Hmat

def signature : Signature := .ofChars 'H' 'M' 'A' 'T'

def revision : UInt8 := 2

-- What a structure of the table is about.
inductive Measure where
  | readLatency
  | writeLatency
  | bandwidth
  deriving DecidableEq

namespace Measure

def number : Measure → UInt8
  | readLatency  => 1
  | writeLatency => 2
  | bandwidth    => 3

def value : Measure → Performance → UInt16
  | readLatency,  p => p.readLatency
  | writeLatency, p => p.writeLatency
  | bandwidth,    p => p.bandwidth

-- All measures in the order of their structures.
def all : List Measure :=
  [readLatency, writeLatency, bandwidth]

end Measure

-- The fixed part of a structure.
structure Preamble where
  kind            : UInt16
  reserved0       : UInt16
  -- The number of bytes of the whole structure.
  length          : UInt32
  flags           : UInt8
  measure         : UInt8
  minTransferSize : UInt8
  reserved1       : UInt8
  initiatorCount  : UInt32
  targetCount     : UInt32
  reserved2       : UInt32
  -- What a figure of one stands for, in picoseconds or in MB/s.
  baseUnit        : UInt64
  deriving DecidableEq

namespace Preamble

abbrev Fields :=
  UInt16 × UInt16 × UInt32 × UInt8 × UInt8 × UInt8 × UInt8 × UInt32 × UInt32 × UInt32 × UInt64

def fields (p : Preamble) : Fields :=
  (p.kind, p.reserved0, p.length, p.flags, p.measure, p.minTransferSize, p.reserved1,
    p.initiatorCount, p.targetCount, p.reserved2, p.baseUnit)

def ofFields : Fields → Preamble
  | (kind, reserved0, length, flags, measure, minTransferSize, reserved1, initiatorCount,
      targetCount, reserved2, baseUnit) =>
    ⟨kind, reserved0, length, flags, measure, minTransferSize, reserved1, initiatorCount,
      targetCount, reserved2, baseUnit⟩

instance : Layout Preamble := .via fields ofFields

instance : LawfulLayout Preamble := .via (fun _ => rfl) (fun _ => rfl)

end Preamble

-- The number of bytes of a structure.
def structureSize (initiators targets : Nat) : Nat :=
  32 + 4 * initiators + 4 * targets + 2 * initiators * targets

-- The number of bytes of the table, whose header is followed by four reserved bytes.
def tableSize (initiators targets : Nat) : Nat :=
  40 + Measure.all.length * structureSize initiators targets

-- Puts a number into an increasing list, unless it is there already.
def insertNumber (n : UInt32) : List UInt32 → List UInt32
  | []     => [n]
  | m :: r => if n < m then n :: m :: r else if n = m then m :: r else m :: insertNumber n r

-- The numbers of all domains, in increasing order.
def numbers (t : Topology) : List UInt32 :=
  t.domains.foldr (fun d ns => insertNumber d.number ns) []

-- The numbers of those domains that are found by their number and satisfy `p`.
def numbersWhere (t : Topology) (p : Domain → Bool) : List UInt32 :=
  (numbers t).filter fun n => (t.find? n).any p

def initiators (t : Topology) : List UInt32 :=
  numbersWhere t (·.initiator)

def targets (t : Topology) : List UInt32 :=
  numbersWhere t (·.target)

-- The figures from every initiator to every target, one initiator after the other.
def distances (t : Topology) : List Performance :=
  (initiators t).flatMap fun i => (targets t).map (t.distance i)

def preamble (m : Measure) (initiators targets : Nat) : Preamble where
  kind            := 1
  reserved0       := 0
  length          := UInt32.ofNat (structureSize initiators targets)
  flags           := 0
  measure         := m.number
  minTransferSize := 1
  reserved1       := 0
  initiatorCount  := UInt32.ofNat initiators
  targetCount     := UInt32.ofNat targets
  reserved2       := 0
  baseUnit        := 1000

def encodeStructure (t : Topology) (m : Measure) : Bytes :=
  Layout.encode (preamble m (initiators t).length (targets t).length) ++
  Layout.writeAll (initiators t) ++
  Layout.writeAll (targets t) ++
  Layout.writeAll ((distances t).map m.value)

-- The header of a table of the given length, and the reserved bytes after it.
def encodeHeader (oem : OemIdentity) (length : Nat) : Bytes :=
  Layout.encode { Header.bare signature revision oem with length := UInt32.ofNat length } ++
  Layout.encode (0 : UInt32)

-- The complete table.
def encode (t : Topology) (oem : OemIdentity) : Bytes :=
  let length := tableSize (initiators t).length (targets t).length
  -- The checksum comes last, as it covers the length.
  Bytes.balanced Header.checksumOffset <|
    encodeHeader oem length ++ Measure.all.flatMap (encodeStructure t)

end Hmat

-- Builds the table for the domains of a board, of which there must be at least one.
def buildHmat (t : Topology) (oem : OemIdentity) : Action σ Bytes := do
  let _ ← t.limits.explaining fun e => s!"Failed to get proximity domain limits: {e}"
  let initiators := (Hmat.initiators t).length
  let targets := (Hmat.targets t).length
  -- The header has 32 bits for the length of the table.
  if UInt32.size ≤ Hmat.tableSize initiators targets then
    throw .outOfResources
  Action.info s!"Built HMAT for {initiators} initiators and {targets} targets"
  return Hmat.encode t oem

end BoardFirmware.Acpi
