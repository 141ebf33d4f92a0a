import BoardFirmware.Action
import BoardFirmware.Bytes.Checksum
import BoardFirmware.Bytes.Layout
import BoardFirmware.Text.Hex

namespace BoardFirmware.Acpi

-- Names the kind of a table by four characters.
structure Signature where
  bytes : Vector UInt8 4
  deriving DecidableEq

namespace Signature

def ofChars (a b c d : Char) : Signature :=
  ⟨#v[a.toUInt8, b.toUInt8, c.toUInt8, d.toUInt8]⟩

-- The signature as a number, its first character lowest.
def word (s : Signature) : UInt32 :=
  Bytes.word32 s.bytes.toList

-- One character for each byte.
def text (s : Signature) : String :=
  String.ofList <| s.bytes.toList.map fun b => Char.ofNat b.toNat

instance : ToString Signature := ⟨text⟩

end Signature

-- Who made a table.
structure OemIdentity where
  oemId           : Vector UInt8 6
  tableId         : UInt64
  revision        : UInt32
  creatorId       : UInt32
  creatorRevision : UInt32
  deriving DecidableEq

-- What every table starts with.
structure Header where
  signature       : Signature
  -- The number of bytes of the whole table.
  length          : UInt32
  revision        : UInt8
  checksum        : UInt8
  oemId           : Vector UInt8 6
  oemTableId      : UInt64
  oemRevision     : UInt32
  creatorId       : UInt32
  creatorRevision : UInt32
  deriving DecidableEq

namespace Header

abbrev Fields :=
  Vector UInt8 4 × UInt32 × UInt8 × UInt8 × Vector UInt8 6 × UInt64 × UInt32 × UInt32 × UInt32

def fields (h : Header) : Fields :=
  (h.signature.bytes, h.length, h.revision, h.checksum, h.oemId, h.oemTableId, h.oemRevision,
    h.creatorId, h.creatorRevision)

def ofFields : Fields → Header
  | (signature, length, revision, checksum, oemId, tableId, oemRevision, creatorId,
      creatorRevision) =>
    ⟨⟨signature⟩, length, revision, checksum, oemId, tableId, oemRevision, creatorId,
      creatorRevision⟩

instance : Layout Header := .via fields ofFields

instance : LawfulLayout Header := .via (fun _ => rfl) (fun _ => rfl)

-- The number of bytes of a header.
def size : Nat := 36

theorem layout_size : Layout.size Header = size := rfl

-- Where the checksum is.
def checksumOffset : Nat := 9

-- Where the OEM ID starts.
def oemIdOffset : Nat := 10

-- The header of a table with nothing after it, and no checksum yet.
def bare (signature : Signature) (revision : UInt8) (oem : OemIdentity) : Header where
  signature
  length          := UInt32.ofNat size
  revision
  checksum        := 0
  oemId           := oem.oemId
  oemTableId      := oem.tableId
  oemRevision     := oem.revision
  creatorId       := oem.creatorId
  creatorRevision := oem.creatorRevision

def describe (h : Header) : String :=
  "AcpiDescriptionHeader \x7b " ++
  s!"signature: {h.signature}, length: {h.length}, revision: {h.revision}, " ++
  s!"checksum: {h.checksum}, oem_id: {Text.bracketed (h.oemId.toList.map toString)}, " ++
  s!"oem_table_id: {h.oemTableId}, oem_revision: {h.oemRevision}, .. \x7d"

end Header

-- The checksum of a table, whatever its checksum byte is.
def checksum (table : Bytes) : UInt8 :=
  table.balance Header.checksumOffset

-- Puts another OEM ID into a complete table and makes its checksum right again.
def withOemId (oemId : Vector UInt8 6) (table : Bytes) : Except Status Bytes :=
  if table.length < Header.size then
    .error .invalidParameter
  else
    .ok <| (table.patch Header.oemIdOffset oemId.toList).balanced Header.checksumOffset

-- The same in the buffer that holds the table. The checksum is that of the table as it is by then.
def relabel (oemId : Vector UInt8 6) : Action Bytes Unit := do
  if (← get).length < Header.size then
    throw .invalidParameter
  modify (·.patch Header.oemIdOffset oemId.toList)
  modify fun table => table.set Header.checksumOffset (checksum table)

end BoardFirmware.Acpi
