/-!
Calendar time, and its conversion from and to an epoch: the number of seconds since the start of
1970. Dates follow the Gregorian calendar, extended to all years. Days are counted in eras of 400
years, which are all equally long, and in years that start in March, so that a leap day is the last
day of its year.
-/

namespace BoardFirmware

def secondsPerMinute : Int := 60
def secondsPerHour : Int := 60 * secondsPerMinute
def secondsPerDay : Int := 24 * secondsPerHour

namespace Calendar

def IsLeapYear (year : Nat) : Prop :=
  (year % 4 = 0 ∧ year % 100 ≠ 0) ∨ year % 400 = 0

instance (year : Nat) : Decidable (IsLeapYear year) := by
  unfold IsLeapYear
  infer_instance

def daysInMonth (year month : Nat) : Nat :=
  match month with
  | 2              => if IsLeapYear year then 29 else 28
  | 4 | 6 | 9 | 11 => 30
  | _              => 31

-- The days from the start of 1970 to a date.
def daysOfDate (year month day : Int) : Int :=
  let year := if month ≤ 2 then year - 1 else year
  let era := year / 400
  let yearOfEra := year - era * 400
  -- From March on, every five months have 153 days.
  let dayOfYear := (153 * (month + if month > 2 then -3 else 9) + 2) / 5 + day - 1
  let dayOfEra := yearOfEra * 365 + yearOfEra / 4 - yearOfEra / 100 + dayOfYear
  era * 146097 + dayOfEra - 719468

-- The year, month and day that come `days` days after the start of 1970.
def dateOfDays (days : Int) : Int × Int × Int :=
  let days := days + 719468
  let era := days / 146097
  let dayOfEra := days - era * 146097
  -- Without the leap days up to here, all years have 365 days.
  let yearOfEra := (dayOfEra - dayOfEra / 1460 + dayOfEra / 36524 - dayOfEra / 146096) / 365
  let dayOfYear := dayOfEra - (365 * yearOfEra + yearOfEra / 4 - yearOfEra / 100)
  let shiftedMonth := (5 * dayOfYear + 2) / 153
  let day := dayOfYear - (153 * shiftedMonth + 2) / 5 + 1
  let month := if shiftedMonth < 10 then shiftedMonth + 3 else shiftedMonth - 9
  (yearOfEra + era * 400 + (if month ≤ 2 then 1 else 0), month, day)

end Calendar

-- A time of day on a date, with what is known about its zone.
structure CalendarTime where
  year       : UInt16 := 1970
  month      : UInt8  := 1
  day        : UInt8  := 1
  hour       : UInt8  := 0
  minute     : UInt8  := 0
  second     : UInt8  := 0
  nanosecond : UInt32 := 0
  -- Minutes from UTC to the time, or that this is not known.
  zone       : Int16  := 0x07ff
  -- Flags for daylight saving time.
  daylight   : UInt8  := 0
  deriving DecidableEq

namespace CalendarTime

-- The zone of a time whose zone is not known.
def unspecifiedZone : Int16 := 0x07ff

-- The time is to be adjusted for daylight saving time.
def adjustDaylight : UInt8 := 1
-- The time is in daylight saving time.
def inDaylight : UInt8 := 2

-- Whether all fields have values that UEFI allows.
def IsValid (t : CalendarTime) : Prop :=
  1900 ≤ t.year ∧ t.year ≤ 9999 ∧
  1 ≤ t.month ∧ t.month ≤ 12 ∧
  1 ≤ t.day ∧ t.day.toNat ≤ Calendar.daysInMonth t.year.toNat t.month.toNat ∧
  t.hour ≤ 23 ∧ t.minute ≤ 59 ∧ t.second ≤ 59 ∧
  t.nanosecond < 1000000000 ∧
  (t.zone = unspecifiedZone ∨ -1440 ≤ t.zone.toInt ∧ t.zone.toInt ≤ 1440)

instance (t : CalendarTime) : Decidable t.IsValid := by
  unfold IsValid
  infer_instance

-- The epoch of the time, taken as UTC.
def toEpoch (t : CalendarTime) : Int :=
  Calendar.daysOfDate t.year.toNat t.month.toNat t.day.toNat * secondsPerDay +
  t.hour.toNat * secondsPerHour + t.minute.toNat * secondsPerMinute + t.second.toNat

-- The date and time of day at `epoch`. Nanoseconds, zone and flags stay as they are.
def atEpoch (t : CalendarTime) (epoch : Int) : CalendarTime :=
  let (year, month, day) := Calendar.dateOfDays (epoch / secondsPerDay)
  let seconds := epoch % secondsPerDay
  { t with
    year   := UInt16.ofInt year
    month  := UInt8.ofInt month
    day    := UInt8.ofInt day
    hour   := UInt8.ofInt (seconds / secondsPerHour)
    minute := UInt8.ofInt (seconds % secondsPerHour / secondsPerMinute)
    second := UInt8.ofInt (seconds % secondsPerMinute) }

-- The day of the week, with Sunday as zero.
def weekday (t : CalendarTime) : UInt8 :=
  UInt8.ofInt ((t.toEpoch / secondsPerDay + 4) % 7)

-- The seconds from UTC to the local time that the zone and the flags stand for.
def localOffset (zone : Int16) (daylight : UInt8) : Int :=
  if zone ≠ unspecifiedZone then zone.toInt * secondsPerMinute
  else if daylight &&& inDaylight ≠ 0 then secondsPerHour
  else 0

end CalendarTime

end BoardFirmware
