namespace BoardFirmware

-- How important a record is, the most important first.
inductive Level where
  | error
  | warn
  | info
  | debug
  | trace
  deriving DecidableEq

namespace Level

def name : Level → String
  | error => "ERROR"
  | warn  => "WARN"
  | info  => "INFO"
  | debug => "DEBUG"
  | trace => "TRACE"

def all : List Level :=
  [error, warn, info, debug, trace]

-- Records of a higher rank are less important.
def rank : Level → Nat
  | error => 1
  | warn  => 2
  | info  => 3
  | debug => 4
  | trace => 5

end Level

-- Which records are let through.
inductive Verbosity where
  | off
  | upTo (level : Level)
  deriving DecidableEq

namespace Verbosity

def admits : Verbosity → Level → Bool
  | off, _        => false
  | upTo most, level => level.rank ≤ most.rank

def name : Verbosity → String
  | off        => "OFF"
  | upTo level => level.name

-- The verbosity of a build which names none.
def default : Verbosity := upTo .debug

-- Reads the lower-case name of a verbosity. Any other name stands for the default.
def ofName : String → Verbosity
  | "off"   => off
  | "error" => upTo .error
  | "warn"  => upTo .warn
  | "info"  => upTo .info
  | "debug" => upTo .debug
  | "trace" => upTo .trace
  | _       => default

end Verbosity

structure Record where
  level : Level
  text  : String
  deriving DecidableEq

abbrev Log := List Record

namespace Log

-- A complete line for the sink: a heading, what it is about, and the end of the line.
def line (heading text : String) : String :=
  s!"{heading}: {text}\n"

-- The records that a build of the given verbosity writes.
def admitted (v : Verbosity) (log : Log) : Log :=
  log.filter (v.admits ·.level)

-- The text which the sink receives.
def written (v : Verbosity) (log : Log) : String :=
  String.join <| (log.admitted v).map fun r => line r.level.name r.text

end Log

-- Where the records go. Only the first sink is accepted.
inductive Sink where
  | missing
  | installed
  deriving DecidableEq

namespace Sink

-- A second sink was offered.
inductive InstallError where
  | alreadyInstalled

def InstallError.message : InstallError → String
  | alreadyInstalled =>
    "attempted to set a logger after the logging system was already initialized"

def install : Sink → Except InstallError Sink
  | missing   => .ok installed
  | installed => .error .alreadyInstalled

end Sink

end BoardFirmware
