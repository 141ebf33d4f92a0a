namespace BoardFirmware.Acpi

-- Identifies a table generator.
structure Generator where
  id : UInt32
  deriving DecidableEq

namespace Generator

-- The generators of ACPI tables among all of the standard ones.
def standard (number : UInt32) : Generator :=
  ⟨0x10000 ||| number⟩

-- Installs a complete table as it is.
def raw : Generator := standard 1
def fadt : Generator := standard 2
def madt : Generator := standard 3
def gtdt : Generator := standard 4
def dbg2 : Generator := standard 5
def spcr : Generator := standard 6
def mcfg : Generator := standard 7
def iort : Generator := standard 8
def pptt : Generator := standard 9
def srat : Generator := standard 10
def cpuTopology : Generator := standard 13
def dsdt : Generator := standard 17
def ssdt : Generator := standard 18

-- The generators of the tables that boards have.
def all : List Generator :=
  [raw, fadt, madt, gtdt, dbg2, spcr, mcfg, iort, pptt, srat, cpuTopology, dsdt, ssdt]

end Generator

end BoardFirmware.Acpi
