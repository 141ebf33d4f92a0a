import BoardFirmware.Acpi.Header
import BoardFirmware.Numa.Topology
import BoardFirmware.Store.Basic

namespace BoardFirmware

open Numa

-- The AML tables compiled into the firmware.
structure AmlTables where
  dsdt        : Bytes
  -- The tables for the devices of the secondary sockets, that of socket 1 first.
  socketSsdts : List Bytes
  deriving DecidableEq

-- What parsers read.
structure Surroundings where
  board    : Board
  topology : Topology
  oem      : Acpi.OemIdentity
  aml      : AmlTables
  -- The names under which the board's configuration turns parsers off.
  skipped  : List String

structure HardwareParser where
  name     : String
  -- The name under which the parser can be turned off, if it can be.
  skipName : Option String
  run      : Surroundings → Action Store Unit

namespace HardwareParser

def IsSkipped (p : HardwareParser) (skipped : List String) : Prop :=
  ∃ name ∈ p.skipName, name ∈ skipped

instance (p : HardwareParser) (skipped : List String) : Decidable (p.IsSkipped skipped) :=
  match h : p.skipName with
  | none      => isFalse (by simp [IsSkipped, h])
  | some name => decidable_of_iff (name ∈ skipped) (by simp [IsSkipped, h])

-- Runs the parser that is `index` places down its list, unless it is turned off.
def runListed (p : HardwareParser) (env : Surroundings) (index : Nat) : Action Store Unit := do
  if p.IsSkipped env.skipped then
    Action.info <| "Skipping \"" ++ p.name ++ "\" parser"
  else
    try
      p.run env
    catch e =>
      -- Only a parser with nothing to describe is passed over.
      let report := "\"" ++ p.name ++ s!"\" parser at index {index} returned {e}"
      if e = .notFound then
        Action.warn (report ++ " - ignoring it")
      else
        Action.error report
        throw e

end HardwareParser

-- Runs the parsers in order, up to the first one that fails.
def populate (env : Surroundings) (parsers : List HardwareParser) : Action Store Unit :=
  parsers.zipIdx.forM fun (p, index) => p.runListed env index

end BoardFirmware
