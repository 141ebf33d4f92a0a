import BoardFirmware.Eeprom.Image
import BoardFirmware.Gpio.Basic
import BoardFirmware.Platform.Th500
import BoardFirmware.Population.Acpi
import BoardFirmware.Population.Start
import BoardFirmware.Power.ClockTree
import BoardFirmware.Proofs.Acpi.Listed
import BoardFirmware.Proofs.Population.Order
import BoardFirmware.Proofs.Population.References
import BoardFirmware.Proofs.Store.Handles
import BoardFirmware.Proofs.Store.Uniqueness
import BoardFirmware.Secure.FunctionId
import BoardFirmware.Secure.Messages
import BoardFirmware.Store.Audit
import BoardFirmware.Store.Resource
import BoardFirmware.Proofs.Population.PassedOver
import BoardFirmware.Proofs.Numa.Discovery
import BoardFirmware.Proofs.Acpi.Affinity
import BoardFirmware.Proofs.Clock.Calendar
import BoardFirmware.Proofs.Clock.CalendarTime
import BoardFirmware.Proofs.Clock.Registers
import BoardFirmware.Proofs.Clock.RegisterFile
import BoardFirmware.Proofs.Clock.ReadBack
import BoardFirmware.Proofs.Clock.Calls
import BoardFirmware.Proofs.Clock.Virtual
import BoardFirmware.Proofs.Clock.Refined
import BoardFirmware.Proofs.Action.Safe
import BoardFirmware.Proofs.Clock.Watched
import BoardFirmware.Proofs.Clock.Bounded
import BoardFirmware.Proofs.Secure.Communicate
import BoardFirmware.Proofs.Bytes.Bits
import BoardFirmware.Proofs.Eeprom.Crc
import BoardFirmware.Proofs.Eeprom.Validation
import BoardFirmware.Proofs.Gpio.Pins
import BoardFirmware.Proofs.Gpio.Registers
import BoardFirmware.Proofs.Gpio.Settings
import BoardFirmware.Proofs.Secure.Discovery
import BoardFirmware.Proofs.Power.Operation
import BoardFirmware.Proofs.Store.Referenced
import BoardFirmware.Proofs.Store.Extension
import BoardFirmware.Proofs.Clock.VirtualRange
import BoardFirmware.Proofs.Clock.DayCount
import BoardFirmware.Proofs.Action.Refusals
import BoardFirmware.Proofs.Clock.Failure
import BoardFirmware.Proofs.Secure.Response
import BoardFirmware.Proofs.Secure.Negotiation
import BoardFirmware.Proofs.Store.Offence
import BoardFirmware.Proofs.Store.Allocation
import BoardFirmware.Proofs.Store.Unlisted
import BoardFirmware.Proofs.Secure.Reply
import BoardFirmware.Proofs.Numa.Numbering
import BoardFirmware.Proofs.Secure.Attempts
import BoardFirmware.Proofs.Population.ChipTables
import BoardFirmware.Proofs.Population.Affinities
import BoardFirmware.Proofs.Platform.Delay
import BoardFirmware.Proofs.Eeprom.Polynomial
import BoardFirmware.Proofs.Eeprom.Identification
import BoardFirmware.Proofs.Power.Answers
import BoardFirmware.Proofs.Numa.Distance
import BoardFirmware.Proofs.Acpi.Relabelling
import BoardFirmware.Proofs.Store.Devices
