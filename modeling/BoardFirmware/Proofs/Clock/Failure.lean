import BoardFirmware.Proofs.Action.Refusals
import BoardFirmware.Proofs.Clock.Bounded

namespace BoardFirmware.Clock

open BoardFirmware.Action

-- Nothing but the device may have changed.
def OnlyBus (c c' : Clock δ) : Prop :=
  c' = { c with bus := c'.bus }

instance : IsPreorder (Clock δ) OnlyBus where
  refl _ := rfl
  trans _ _ _ h h' := by
    unfold OnlyBus at *
    rw [h', h]

-- If the action is refused, nothing but the device has changed.
def Untraced (x : Action (Clock δ) α) : Prop :=
  ∀ c e c', x.result c = (.failed e, c') → OnlyBus c c'

namespace Untraced

variable {x : Action (Clock δ) α} {f : α → Action (Clock δ) β}

theorem of_unrefused (h : x.Unrefused) : Untraced x :=
  fun c e c' failed => (h c e c' failed).elim

theorem of_onlyBus (h : x.Respects OnlyBus) : Untraced x :=
  fun _ _ _ failed => h.rel failed nofun

-- What may be refused is followed by what does the same.
theorem bind (hx : x.Respects OnlyBus) (hf : ∀ a, Untraced (f a)) : Untraced (x >>= f) := by
  intro c e c' failed
  obtain first | ⟨a, c₁, first, second⟩ := result_bind_eq_failed.mp failed
  case inl => exact hx.rel first nofun
  case inr => exact IsTrans.trans _ _ _ (hx.rel first nofun) (hf a c₁ e c' second)

-- After a step that is not refused any more, there may be any change.
theorem then_unrefused (hx : Untraced x) (hf : ∀ a, (f a).Unrefused) : Untraced (x >>= f) := by
  intro c e c' failed
  obtain first | ⟨a, c₁, _, second⟩ := result_bind_eq_failed.mp failed
  case inl => exact hx c e c' first
  case inr => exact (hf a c₁ e c' second).elim

end Untraced

theorem unrefused_anchor (epoch seconds : Int) :
    (anchor epoch seconds : Action (Clock δ) Unit).Unrefused :=
  RefusedWith.bind RefusedWith.checked fun _ =>
    RefusedWith.bind RefusedWith.checked fun _ => RefusedWith.modify

theorem unrefused_counterEpoch? (nanos : Int) :
    (counterEpoch? nanos : Action (Clock δ) (Option Int)).Unrefused := by
  refine RefusedWith.bind RefusedWith.get fun c => ?_
  split
  case h_1 => exact RefusedWith.pure
  case h_2 => exact RefusedWith.bind RefusedWith.checked fun _ => RefusedWith.pure

theorem unrefused_virtualEpoch (nanos : Int) :
    (virtualEpoch nanos : Action (Clock δ) Int).Unrefused := by
  refine RefusedWith.bind (unrefused_counterEpoch? nanos) fun byCounter => ?_
  split
  case h_1 => exact RefusedWith.pure
  case h_2 =>
    exact RefusedWith.bind RefusedWith.get fun _ =>
      RefusedWith.bind (unrefused_anchor _ _) fun _ => RefusedWith.pure

theorem onlyBus_checkRuntime (service : UInt32) :
    (checkRuntime service : Action (Clock δ) Unit).Respects OnlyBus := by
  refine Respects.bind Respects.get fun c => ?_
  split
  case h_1 => exact Respects.pure
  case h_2 => exact Respects.ite Respects.throw Respects.pure

theorem onlyBus_checkRunning (control : Control) :
    (checkRunning control : Action (Clock δ) Unit).Respects OnlyBus :=
  Respects.ite (Respects.bind Respects.log fun _ => Respects.throw) Respects.pure

theorem onlyBus_onBus (ask : δ → Except Status α × δ) :
    (onBus ask : Action (Clock δ) α).Respects OnlyBus := by
  intro c _
  rw [result_onBus]
  rcases ask c.bus with ⟨_ | _, _⟩ <;> rfl

variable [RegisterBus δ]

theorem onlyBus_readRegisters (register : UInt8) (length : Nat) (what : String) :
    (readRegisters register length what : Action (Clock δ) Bytes).Respects OnlyBus := by
  intro c _
  rw [result_readRegisters_answered]
  rcases RegisterBus.read register length c.bus with ⟨_ | _, _⟩ <;> rfl

theorem onlyBus_hardwareEpoch : (hardwareEpoch : Action (Clock δ) Int).Respects OnlyBus := by
  refine Respects.bind (onlyBus_readRegisters _ _ _) fun registers => ?_
  refine Respects.bind (onlyBus_checkRunning _) fun _ => ?_
  refine Respects.bind Respects.get fun c => ?_
  exact Respects.bind Respects.checked fun _ => Respects.pure

theorem untraced_refinedEpoch (nanos : Int) :
    Untraced (refinedEpoch nanos : Action (Clock δ) Int) := by
  refine Untraced.bind onlyBus_hardwareEpoch fun epoch => Untraced.of_unrefused ?_
  refine RefusedWith.bind (unrefused_counterEpoch? nanos) fun byCounter => ?_
  refine RefusedWith.ite RefusedWith.pure ?_
  exact RefusedWith.bind (unrefused_anchor _ _) fun _ => RefusedWith.pure

theorem untraced_getTime (counter : UInt64) (zone : Int16) (daylight : UInt8) :
    Untraced (getTime counter zone daylight : Action (Clock δ) CalendarTime) := by
  refine Untraced.bind (onlyBus_checkRuntime _) fun _ => ?_
  refine Untraced.bind Respects.get fun c => ?_
  dsimp only
  split
  case isTrue =>
    refine Untraced.then_unrefused (.of_unrefused (unrefused_virtualEpoch _)) fun epoch => ?_
    exact RefusedWith.bind RefusedWith.checked fun _ => RefusedWith.pure
  case isFalse =>
    refine Untraced.then_unrefused (untraced_refinedEpoch _) fun epoch => ?_
    exact RefusedWith.bind RefusedWith.checked fun _ => RefusedWith.pure

theorem onlyBus_setHardware (epoch : Int) :
    (setHardware epoch : Action (Clock δ) Unit).Respects OnlyBus := by
  refine Respects.bind (onlyBus_readRegisters _ _ _) fun registers => ?_
  refine Respects.bind (onlyBus_checkRunning _) fun _ => ?_
  refine Respects.bind Respects.get fun c => ?_
  refine Respects.ite (Respects.bind Respects.log fun _ => Respects.throw) ?_
  refine Respects.ite Respects.throw ?_
  refine Respects.tryCatch (onlyBus_onBus _) fun e => ?_
  exact Respects.bind Respects.log fun _ => Respects.throw

theorem untraced_setTime (counter : UInt64) (t : CalendarTime) :
    Untraced (setTime counter t : Action (Clock δ) Unit) := by
  unfold setTime
  split
  case isFalse => exact Untraced.of_onlyBus Respects.throw
  case isTrue =>
  refine Untraced.bind (onlyBus_checkRuntime _) fun _ => Untraced.bind Respects.get fun c => ?_
  dsimp only
  split
  case isTrue =>
    refine Untraced.of_unrefused (RefusedWith.bind RefusedWith.modify fun _ => ?_)
    exact RefusedWith.bind RefusedWith.log fun _ => unrefused_anchor _ _
  case isFalse =>
    exact Untraced.bind (onlyBus_setHardware _) fun _ => .of_unrefused (unrefused_anchor _ _)

-- Everything is in order for the time registers to be written.
structure Ready (c : Clock δ) (epoch : Int) (control : Control) : Prop where
  answered : c.controlAnswer.1 = .ok control
  running  : ¬control.Has Control.stopped
  access   : c.config.hasControl ∨ ¬control.Has Control.primaryOwns
  reach    : InReach c.config.baseYear epoch

variable {c : Clock δ} {t : CalendarTime}

-- The years of valid times are those that a calendar can tell.
theorem inReach_iff (valid : t.IsValid) (base : UInt16) :
    InReach base t.utcEpoch ↔
      ¬((({} : CalendarTime).atEpoch t.utcEpoch).year < base ∨
        100 ≤ (({} : CalendarTime).atEpoch t.utcEpoch).year - base) := by
  have ⟨ge, lt⟩ := valid.utcEpoch_near
  have ⟨year, _, year_le, inYear⟩ := exists_inYear ge lt
  have ⟨_, hyear, _⟩ := CalendarTime.onCalendar_atEpoch {} inYear year_le
  rw [reach_iff, not_not, hyear]
  constructor
  case mp =>
    intro ⟨year', inYear', base_le, le_base⟩
    rw [inYear.unique inYear']
    exact ⟨base_le, le_base⟩
  case mpr =>
    intro ⟨base_le, le_base⟩
    exact ⟨year, inYear, base_le, le_base⟩

theorem result_setHardware_of_ready (valid : t.IsValid) {control : Control}
    (ready : c.Ready t.utcEpoch control) :
    (setHardware t.utcEpoch).result c =
      match c.writeAnswer control t.utcEpoch with
      | (.ok _, d)    => (.done (), { c with bus := d })
      | (.error _, d) => (.failed .deviceError, { c with bus := d }) := by
  have ⟨answered, running, access, reach⟩ := ready
  have answer : c.controlAnswer = (.ok control, c.controlAnswer.2) := Prod.ext answered rfl
  have free : ¬(control.Has Control.stopped ∨
      ¬c.config.hasControl = true ∧ control.Has Control.primaryOwns) := by
    tauto
  rw [result_setHardware_answered, answer]
  exact (if_neg free).trans (if_neg ((inReach_iff valid _).mp reach))

theorem result_setHardware_of_not_ready (valid : t.IsValid)
    (h : ∀ control, ¬c.Ready t.utcEpoch control) :
    ∃ e, (setHardware t.utcEpoch).result c = (.failed e, { c with bus := c.controlAnswer.2 }) := by
  rw [result_setHardware_answered]
  rcases answer : c.controlAnswer with ⟨_ | control, d⟩
  case error => exact ⟨_, rfl⟩
  case ok =>
  dsimp only
  split
  case isTrue => exact ⟨_, rfl⟩
  case isFalse free =>
  split
  case isTrue => exact ⟨_, rfl⟩
  case isFalse reach =>
    have ⟨running, access⟩ := not_or.mp free
    have access : c.config.hasControl ∨ ¬control.Has Control.primaryOwns := by
      tauto
    exact absurd ⟨by rw [answer], running, access, (inReach_iff valid _).mpr reach⟩ (h control)

-- Everything is in order for the hardware to be set to a local time.
structure MaySet (c : Clock δ) (t : CalendarTime) (control : Control) : Prop where
  valid  : t.IsValid
  serves : c.Serves setTimeService
  ready  : c.Ready t.utcEpoch control

section Hardware

variable (physical : c.config.isVirtual = false) (counter : UInt64)
include physical

-- The counter is tied to the time only when it has been written.
theorem result_setTime_of_maySet {control : Control} (h : c.MaySet t control) :
    (setTime counter t).result c =
      match c.writeAnswer control t.utcEpoch with
      | (.ok _, d)    =>
        (anchor t.utcEpoch ((counter.toNat : Int) / nanosPerSecond)).result { c with bus := d }
      | (.error _, d) => (.failed .deviceError, { c with bus := d }) := by
  have ⟨valid, serves, ready⟩ := h
  have written := result_setHardware_of_ready valid ready
  rw [CalendarTime.utcEpoch] at written ⊢
  rw [result_setTime valid physical serves, result_bind, written]
  rcases c.writeAnswer control (t.toEpoch - CalendarTime.localOffset t.zone t.daylight) with
    ⟨_ | _, _⟩ <;> rfl

theorem result_setTime_of_not_maySet (h : ∀ control, ¬c.MaySet t control) :
    ∃ e d, (setTime counter t).result c = (.failed e, { c with bus := d }) ∧
      (d = c.bus ∨ d = c.controlAnswer.2) := by
  by_cases valid : t.IsValid
  case neg =>
    exact ⟨.invalidParameter, c.bus, result_setTime_of_not_valid valid counter c, .inl rfl⟩
  case pos =>
  by_cases serves : c.Serves setTimeService
  case neg =>
    exact ⟨.unsupported, c.bus, result_setTime_of_not_serves valid serves counter, .inl rfl⟩
  case pos =>
    have ⟨e, refused⟩ :=
      result_setHardware_of_not_ready valid fun control ready => h control ⟨valid, serves, ready⟩
    refine ⟨e, _, ?_, .inr rfl⟩
    rw [CalendarTime.utcEpoch] at refused
    rw [result_setTime valid physical serves, result_bind, refused]

end Hardware

-- What is done to a device.
inductive BusAccess where
  | read (register : UInt8) (length : Nat)
  | write (register : UInt8) (values : Bytes)
  deriving DecidableEq

def BusAccess.isWrite : BusAccess → Bool
  | read ..  => false
  | write .. => true

-- A device on which everything that is done to it is put down.
structure Recorded (δ : Type) where
  peer     : δ
  accesses : List BusAccess

instance : RegisterBus (Recorded δ) where
  read register length r :=
    let (answer, peer) := RegisterBus.read register length r.peer
    (answer, ⟨peer, r.accesses ++ [.read register length]⟩)
  write register values r :=
    let (answer, peer) := RegisterBus.write register values r.peer
    (answer, ⟨peer, r.accesses ++ [.write register values]⟩)

def recorded (c : Clock δ) : Clock (Recorded δ) where
  bus             := ⟨c.bus, []⟩
  config          := c.config
  counterOffset   := c.counterOffset
  rtcOffset       := c.rtcOffset
  runtimeServices := c.runtimeServices

-- What a call does to the device, in this order.
def accesses (c : Clock δ) (call : Call) : List BusAccess :=
  (call.perform.result c.recorded).2.bus.accesses

theorem maySet_recorded_iff {control : Control} :
    c.recorded.MaySet t control ↔ c.MaySet t control :=
  ⟨fun ⟨valid, serves, ⟨answered, running, access, reach⟩⟩ =>
      ⟨valid, serves, ⟨answered, running, access, reach⟩⟩,
    fun ⟨valid, serves, ⟨answered, running, access, reach⟩⟩ =>
      ⟨valid, serves, ⟨answered, running, access, reach⟩⟩⟩

omit [RegisterBus δ] in
theorem bus_anchor (epoch seconds : Int) (c : Clock δ) :
    ((anchor epoch seconds).result c).2.bus = c.bus := by
  unfold anchor checked
  rw [result_bind]
  rcases Word.signed64? (epoch - seconds) with _ | start
  case none => rfl
  case some =>
    rw [result_checked_some]
    dsimp only
    rw [result_bind]
    rcases Word.signed64? (start * nanosPerSecond) with _ | _ <;> rfl

theorem accesses_set (c : Clock δ) (counter : UInt64) (t : CalendarTime) :
    c.accesses (.set counter t) = ((setTime counter t).result c.recorded).2.bus.accesses := by
  rw [accesses, Call.perform, result_map]
  rcases (setTime counter t).result c.recorded with ⟨_ | _ | _, _⟩ <;> rfl

theorem accesses_of_maySet (physical : c.config.isVirtual = false) (counter : UInt64)
    {control : Control} (h : c.MaySet t control) :
    c.accesses (.set counter t) =
      [.read Control.register 1, .write 0 (timeBytes control c.config.baseYear t.utcEpoch)] := by
  rw [accesses_set, result_setTime_of_maySet (c := c.recorded) physical counter
    (maySet_recorded_iff.mpr h)]
  have answer : c.recorded.writeAnswer control t.utcEpoch =
      ((c.writeAnswer control t.utcEpoch).1, ⟨(c.writeAnswer control t.utcEpoch).2,
        [.read Control.register 1, .write 0 (timeBytes control c.config.baseYear t.utcEpoch)]⟩) :=
    rfl
  rw [answer]
  rcases (c.writeAnswer control t.utcEpoch).1 with _ | _
  case error => rfl
  case ok    => exact congrArg Recorded.accesses (bus_anchor ..)

theorem accesses_of_not_maySet (physical : c.config.isVirtual = false) (counter : UInt64)
    (h : ∀ control, ¬c.MaySet t control) :
    c.accesses (.set counter t) = [] ∨
      c.accesses (.set counter t) = [.read Control.register 1] := by
  have ⟨e, d, refused, device⟩ := result_setTime_of_not_maySet (c := c.recorded) physical counter
    fun control maySet => h control (maySet_recorded_iff.mp maySet)
  rw [accesses_set, refused]
  obtain rfl | rfl := device
  case inl => exact .inl rfl
  case inr => exact .inr rfl

theorem accesses_of_virtual (isVirtual : c.config.isVirtual = true) (counter : UInt64)
    (t : CalendarTime) : c.accesses (.set counter t) = [] := by
  rw [accesses_set]
  by_cases valid : t.IsValid
  case neg =>
    rw [result_setTime_of_not_valid valid]
    rfl
  case pos =>
  by_cases serves : c.recorded.Serves setTimeService
  case neg =>
    rw [result_setTime_of_not_serves valid serves]
    rfl
  case pos =>
    rw [result_setTime_of_anchor (c := c.recorded) valid isVirtual serves]
    exact congrArg Recorded.accesses (bus_anchor ..)

theorem untraced_perform (call : Call) :
    Untraced (call.perform : Action (Clock δ) (Option CalendarTime)) := by
  intro c e c' failed
  cases call
  case get counter zone daylight =>
    rw [Call.perform, ← bind_pure_comp] at failed
    exact (untraced_getTime counter zone daylight).then_unrefused (fun _ => .pure) c e c' failed
  case set counter t =>
    rw [Call.perform, ← bind_pure_comp] at failed
    exact (untraced_setTime counter t).then_unrefused (fun _ => .pure) c e c' failed

-- The counter has to be tied to the time, too, which is a trap if it does not fit its word.
theorem outcome_setTime (physical : c.config.isVirtual = false) (counter : UInt64)
    {control : Control} (h : c.MaySet t control) :
    (((setTime counter t).result c).1 = .done () ↔
      (c.writeAnswer control t.utcEpoch).1 = .ok () ∧ Fits (offsetAt t.utcEpoch counter.toNat)) ∧
    (((setTime counter t).result c).1 = .trapped ↔
      (c.writeAnswer control t.utcEpoch).1 = .ok () ∧
        ¬Fits (offsetAt t.utcEpoch counter.toNat)) := by
  rw [result_setTime_of_maySet physical counter h]
  rcases c.writeAnswer control t.utcEpoch with ⟨_ | _, d⟩
  case error => simp
  case ok =>
    by_cases fits : Fits (offsetAt t.utcEpoch counter.toNat)
    case pos => simp [result_anchor fits, fits]
    case neg => simp [trapped_anchor fits, fits]

-- How the call ends is a matter of what the control register holds, unless it is refused.
theorem outcome_setTime_iff (physical : c.config.isVirtual = false) (counter : UInt64)
    {outcome : Outcome Unit} (ret : ∀ e, outcome ≠ .failed e) {p : Control → Prop}
    (ends : ∀ control, c.MaySet t control →
      (((setTime counter t).result c).1 = outcome ↔ p control)) :
    ((setTime counter t).result c).1 = outcome ↔ ∃ control, c.MaySet t control ∧ p control := by
  constructor
  case mp =>
    intro reached
    by_contra h
    have h : ∀ control, ¬c.MaySet t control := fun control maySet =>
      h ⟨control, maySet, (ends control maySet).mp reached⟩
    have ⟨e, _, refused, _⟩ := result_setTime_of_not_maySet physical counter h
    rw [refused] at reached
    exact ret e reached.symm
  case mpr =>
    intro ⟨control, maySet, h⟩
    exact (ends control maySet).mpr h

theorem countP_write_le (c : Clock δ) (counter : UInt64) (t : CalendarTime) :
    (c.accesses (.set counter t)).countP BusAccess.isWrite ≤ 1 := by
  cases kind : c.config.isVirtual
  case true =>
    rw [accesses_of_virtual kind]
    exact Nat.zero_le 1
  case false =>
  by_cases h : ∃ control, c.MaySet t control
  case pos =>
    have ⟨control, maySet⟩ := h
    rw [accesses_of_maySet kind counter maySet]
    exact Nat.le_refl 1
  case neg =>
    obtain none | asked := accesses_of_not_maySet kind counter (not_exists.mp h)
    case inl => exact none ▸ Nat.zero_le 1
    case inr => exact asked ▸ Nat.zero_le 1

-- A call that is refused leaves no trace in the clock, wherever the device fails. The hardware is
-- set by a single write to its ten registers, and not even that is tried unless everything else is
-- in order.
theorem refused_without_trace (c : Clock δ) :
    (∀ (call : Call) status c', call.perform.result c = (.failed status, c') →
      ∃ bus, c' = { c with bus }) ∧
    ∀ (counter : UInt64) (t : CalendarTime),
      (c.accesses (.set counter t)).countP BusAccess.isWrite ≤ 1 ∧
      (c.config.isVirtual = false →
        (((setTime counter t).result c).1 = .done () ↔
          ∃ control, c.MaySet t control ∧ (c.writeAnswer control t.utcEpoch).1 = .ok () ∧
            Fits (offsetAt t.utcEpoch counter.toNat)) ∧
        (((setTime counter t).result c).1 = .trapped ↔
          ∃ control, c.MaySet t control ∧ (c.writeAnswer control t.utcEpoch).1 = .ok () ∧
            ¬Fits (offsetAt t.utcEpoch counter.toNat)) ∧
        (∀ control, c.MaySet t control →
          (timeBytes control c.config.baseYear t.utcEpoch).length = 10 ∧
          c.accesses (.set counter t) =
            [.read Control.register 1,
              .write 0 (timeBytes control c.config.baseYear t.utcEpoch)]) ∧
        ((∀ control, ¬c.MaySet t control) →
          ∀ access ∈ c.accesses (.set counter t), access = .read Control.register 1)) := by
  refine ⟨fun call status c' failed => ⟨_, untraced_perform call c status c' failed⟩, ?_⟩
  intro counter t
  refine ⟨c.countP_write_le counter t, fun physical => ⟨?done, ?trapped, ?ready, ?unready⟩⟩
  case ready =>
    intro control maySet
    exact ⟨rfl, accesses_of_maySet physical counter maySet⟩
  case unready =>
    intro h access mem
    obtain none | asked := accesses_of_not_maySet physical counter h
    case inl =>
      rw [none] at mem
      cases mem
    case inr =>
      rw [asked] at mem
      exact List.mem_singleton.mp mem
  case done =>
    refine outcome_setTime_iff physical counter ?_ fun _ maySet =>
      (outcome_setTime physical counter maySet).1
    exact fun _ => nofun
  case trapped =>
    refine outcome_setTime_iff physical counter ?_ fun _ maySet =>
      (outcome_setTime physical counter maySet).2
    exact fun _ => nofun

-- A clock that the device refuses to set, although it has just told that all is well.
theorem refused_without_trace_write :
    let c : Clock Answers := ofBus ⟨[.ok [0x20], .error .aborted]⟩ ⟨2000, false, false, 0⟩ none
    let t : CalendarTime := { year := 2024 }
    c.MaySet t ⟨0x20⟩ ∧
      ((Call.set 0 t).perform.result c).1 = .failed .deviceError ∧
      (∃ bus, ((Call.set 0 t).perform.result c).2 = { c with bus }) ∧
      c.accesses (.set 0 t) =
        [.read 0x0a 1, .write 0 [0, 0, 0, 0, 0, 0, 4, 0x01, 0x01, 0x24]] := by
  intro c t
  have reach : InReach 2000 t.utcEpoch := by
    refine ⟨2024, ⟨?_, ?_⟩, by decide, by decide⟩
    · rw [startOfYear_eq]
      decide
    · rw [startOfYear_eq]
      decide
  have maySet : c.MaySet t ⟨0x20⟩ :=
    ⟨by decide, trivial, ⟨rfl, by decide, .inr (by decide), reach⟩⟩
  have ⟨untraced, set⟩ := refused_without_trace c
  have ⟨_, _, ready, _⟩ := (set 0 t).2 rfl
  have failed : ((Call.set 0 t).perform.result c).1 = .failed .deviceError := by
    decide
  exact ⟨maySet, failed, untraced (.set 0 t) .deviceError _ (Prod.ext failed rfl),
    (ready _ maySet).2.trans (by decide)⟩

end BoardFirmware.Clock
