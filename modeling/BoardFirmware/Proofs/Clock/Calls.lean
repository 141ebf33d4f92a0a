import BoardFirmware.Proofs.Clock.Steps

namespace BoardFirmware.Clock

open BoardFirmware.Action

-- A call, with what the counter reads at it.
inductive Call where
  | get (counter : UInt64) (zone : Int16) (daylight : UInt8)
  | set (counter : UInt64) (time : CalendarTime)

namespace Call

def counter : Call → UInt64
  | get counter .. | set counter _ => counter

variable [RegisterBus δ]

-- Ends with the time that is told, if it is asked for.
def perform : Call → Action (Clock δ) (Option CalendarTime)
  | get counter zone daylight => some <$> getTime counter zone daylight
  | set counter time          => (fun _ => none) <$> setTime counter time

theorem result_perform_get {counter : UInt64} {zone : Int16} {daylight : UInt8} {t : CalendarTime}
    {c c' : Clock δ} (h : (getTime counter zone daylight).result c = (.done t, c')) :
    (get counter zone daylight).perform.result c = (.done (some t), c') := by
  rw [perform, result_map, h]

theorem result_perform_set {counter : UInt64} {t : CalendarTime} {c c' : Clock δ}
    (h : (setTime counter t).result c = (.done (), c')) :
    (set counter t).perform.result c = (.done none, c') := by
  rw [perform, result_map, h]

end Call

-- The states that a clock comes to by calls, whether they are answered or refused.
inductive After [RegisterBus δ] (start : Clock δ) : List Call → Clock δ → Prop
  | refl  : After start [] start
  | call  : After start calls c → call.perform.result c = (outcome, c') → outcome ≠ .trapped →
      After start (calls ++ [call]) c'
  | moved : After start calls c → (bus : δ) → After start calls { c with bus }

end BoardFirmware.Clock
