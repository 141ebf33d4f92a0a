import BoardFirmware.Acpi.Affinity
import BoardFirmware.Acpi.Hmat
import BoardFirmware.Population.Basic

namespace BoardFirmware.Acpi

-- A table that is listed for every chip.
structure CommonTable where
  signature : Signature
  revision  : UInt8
  generator : Generator
  deriving DecidableEq

def commonTables : List CommonTable := [
  ⟨.ofChars 'F' 'A' 'C' 'P', 6, .fadt⟩,
  ⟨.ofChars 'G' 'T' 'D' 'T', 3, .gtdt⟩,
  ⟨.ofChars 'A' 'P' 'I' 'C', 6, .madt⟩,
  ⟨.ofChars 'D' 'S' 'D' 'T', 2, .dsdt⟩,
  ⟨.ofChars 'P' 'P' 'T' 'T', 3, .pptt⟩,
  ⟨.ofChars 'S' 'S' 'D' 'T', 2, .cpuTopology⟩
]

-- Lists the tables that every chip has. Only the DSDT is stored.
def listCommonTables (oem : OemIdentity) (dsdt : Token) : Action Store Unit :=
  commonTables.forM fun t => do
    let data := if t.generator = .dsdt then dsdt else .null
    (listTable (.of t.signature t.revision t.generator oem data)).explaining fun e =>
      s!"Got {e} trying to add {t.signature} to the table list"

-- Stores and lists the table for the devices of a secondary socket.
def listSocketTable (env : Surroundings) (socket : UInt32) : Action Store Unit := do
  -- Socket 0 has no table of its own.
  match env.aml.socketSsdts[socket.toNat - 1]? with
  | none =>
    Action.error s!"No SSDT for socket {socket}"
    throw .invalidParameter
  | some ssdt =>
    Action.debug s!"Adding SSDT for socket {socket}"
    let token ← storeTable ssdt env.oem
    (listTable (.of (.ofChars 'S' 'S' 'D' 'T') 2 .ssdt env.oem token)).explaining fun e =>
      s!"Got {e} trying to add the SSDT for socket {socket}"

-- The sockets whose devices have a table of their own. Only TH500 boards have any.
def secondarySockets (b : Board) : List UInt32 :=
  if b.chip = .th500 then b.enabledSockets.filter (· ≠ 0) else []

def tableListParser : HardwareParser where
  name     := "AcpiTableListParser"
  skipName := none
  run env  := do
    if env.board.chip = .t186 then
      Action.error s!"Unknown chip {env.board.chip.name}"
      throw .notFound
    let dsdt ← storeTable env.aml.dsdt env.oem
    listCommonTables env.oem dsdt
    (secondarySockets env.board).forM (listSocketTable env)

def hmatParser : HardwareParser where
  name     := "HmatParser"
  skipName := some "skip-hmat-table"
  run env  := do
    let table ← buildHmat env.topology env.oem
    let token ← Store.addSingle .rawTable table
    (listTable (.of Hmat.signature Hmat.revision .raw env.oem token)).explaining fun e =>
      s!"Got {e} trying to add the HMAT"

def sratParser : HardwareParser where
  name     := "SratParser"
  skipName := some "skip-srat-table"
  run env  := do
    -- The generator of the table finds the structures by their identifier.
    (listTable (.of (.ofChars 'S' 'R' 'A' 'T') 3 .srat env.oem .null)).explaining fun e =>
      s!"Got {e} trying to add the SRAT"
    let affinities ← Action.checked (MemoryAffinity.ofBoard? env.board)
    Action.debug s!"Adding {affinities.length} memory affinity structures"
    let d ← Descriptor.ofElements .memoryAffinity (UInt32.ofNat affinities.length)
      (Layout.writeAll affinities)
    let _ ← Store.addGroup d

end BoardFirmware.Acpi
