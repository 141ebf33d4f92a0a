import BoardFirmware.Acpi.Generator
import BoardFirmware.Acpi.Header
import BoardFirmware.Store.Descriptor

namespace BoardFirmware.Acpi

-- An element of the list of tables to install. A table that is complete already is stored beside
-- the list.
structure TableEntry where
  signature     : UInt32
  revision      : UInt8
  reserved0     : Vector UInt8 3
  generator     : UInt32
  reserved1     : UInt32
  -- The token of the stored table, or null.
  tableData     : UInt64
  oemTableId    : UInt64
  oemRevision   : UInt32
  minorRevision : UInt8
  reserved2     : Vector UInt8 3
  deriving DecidableEq

namespace TableEntry

abbrev Fields :=
  UInt32 × UInt8 × Vector UInt8 3 × UInt32 × UInt32 × UInt64 × UInt64 × UInt32 × UInt8 ×
    Vector UInt8 3

def fields (t : TableEntry) : Fields :=
  (t.signature, t.revision, t.reserved0, t.generator, t.reserved1, t.tableData, t.oemTableId,
    t.oemRevision, t.minorRevision, t.reserved2)

def ofFields : Fields → TableEntry
  | (signature, revision, reserved0, generator, reserved1, tableData, oemTableId, oemRevision,
      minorRevision, reserved2) =>
    ⟨signature, revision, reserved0, generator, reserved1, tableData, oemTableId, oemRevision,
      minorRevision, reserved2⟩

instance : Layout TableEntry := .via fields ofFields

instance : LawfulLayout TableEntry := .via (fun _ => rfl) (fun _ => rfl)

-- The element for a table of the given maker.
def of (signature : Signature) (revision : UInt8) (generator : Generator) (oem : OemIdentity)
    (tableData : Token) : TableEntry where
  signature     := signature.word
  revision
  reserved0     := .replicate 3 0
  generator     := generator.id
  reserved1     := 0
  tableData     := tableData.value
  oemTableId    := oem.tableId
  oemRevision   := oem.revision
  minorRevision := 0
  reserved2     := .replicate 3 0

end TableEntry

-- Adds a table to the list, which the first table creates.
def listTable (table : TableEntry) : Action Store Unit := do
  let d : Descriptor := ⟨.acpiTableList, Layout.encode table, 1⟩
  -- The null token finds the list, whatever its own token is.
  match ← (Store.extendGroup d .null).attempt with
  | .ok _            => pure ()
  | .error .notFound => let _ ← Store.addGroup d
  | .error e         => throw e

-- Stores a complete table under the maker's OEM ID.
def storeTable (table : Bytes) (oem : OemIdentity) : Action Store Token := do
  Store.addSingle .rawTable (← Action.ofExcept (withOemId oem.oemId table))

end BoardFirmware.Acpi
