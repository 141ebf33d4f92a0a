import BoardFirmware.Proofs.Clock.Steps

namespace BoardFirmware

-- Registers after consecutive ones have been written, the first of which is given.
def written (registers : Nat → UInt8) (first : Nat) (values : Bytes) : Nat → UInt8 := fun i =>
  if first ≤ i then values[i - first]?.getD (registers i) else registers i

-- The device keeps its registers: `registers` says what a state of it holds.
structure IsRegisterFile [RegisterBus δ] (registers : δ → Nat → UInt8) : Prop where
  read  : ∀ (first : UInt8) (length : Nat) (d : δ), first.toNat + length ≤ 256 →
    ∃ d', RegisterBus.read first length d =
        (.ok ((List.range' first.toNat length).map (registers d)), d') ∧
      registers d' = registers d
  write : ∀ (first : UInt8) (values : Bytes) (d : δ), first.toNat + values.length ≤ 256 →
    ∃ d', RegisterBus.write first values d = (.ok (), d') ∧
      registers d' = written (registers d) first.toNat values

-- The plain register file.
structure RegisterFile where
  registers : Nat → UInt8

instance : RegisterBus RegisterFile where
  read first length d  := (.ok ((List.range' first.toNat length).map d.registers), d)
  write first values d := (.ok (), ⟨written d.registers first.toNat values⟩)

theorem RegisterFile.isRegisterFile : IsRegisterFile RegisterFile.registers where
  read _ _ d _  := ⟨d, rfl, rfl⟩
  write _ _ _ _ := ⟨_, rfl, rfl⟩

namespace Clock

open BoardFirmware.Action

variable [RegisterBus δ] {registers : δ → Nat → UInt8}

omit [RegisterBus δ] in
theorem result_onBus (ask : δ → Except Status α × δ) (c : Clock δ) :
    (onBus ask).result c =
      match ask c.bus with
      | (.ok a, d)    => (.done a, { c with bus := d })
      | (.error e, d) => (.failed e, { c with bus := d }) := by
  rw [onBus, result_within]
  simp only [result, run_request]
  rcases ask c.bus with ⟨_ | _, _⟩ <;> rfl

-- Whatever the device answers, as many bytes as were asked for are read, or there is an error of
-- the device.
theorem result_readRegisters_answered (register : UInt8) (length : Nat) (what : String)
    (c : Clock δ) :
    (readRegisters register length what).result c =
      match RegisterBus.read register length c.bus with
      | (.ok bytes, d) => (.done (.fit length bytes), { c with bus := d })
      | (.error _, d)  => (.failed .deviceError, { c with bus := d }) := by
  rw [readRegisters, result_bind, result_tryCatch, result_bind, result_onBus]
  rcases RegisterBus.read register length c.bus with ⟨_ | _, _⟩ <;> rfl

-- What the device answers when it is asked for the control register, and the device after that.
def controlAnswer (c : Clock δ) : Except Status Control × δ :=
  ((RegisterBus.read Control.register 1 c.bus).1.map fun bytes => ⟨(Bytes.fit 1 bytes).headD 0⟩,
    (RegisterBus.read Control.register 1 c.bus).2)

-- The time registers at an epoch, in the format that the control register tells.
def timeBytes (control : Control) (base : UInt16) (epoch : Int) : Bytes :=
  let utc := ({} : CalendarTime).atEpoch epoch
  control.format.encode utc (utc.year - base).toUInt8

-- What the device answers when they are written after that, and the device in the end.
def writeAnswer (c : Clock δ) (control : Control) (epoch : Int) : Except Status Unit × δ :=
  RegisterBus.write 0 (timeBytes control c.config.baseYear epoch) c.controlAnswer.2

-- The device is written to once nothing speaks against it, neither its answer nor the year.
theorem result_setHardware_answered (epoch : Int) (c : Clock δ) :
    (setHardware epoch).result c =
      match c.controlAnswer with
      | (.error _, d)    => (.failed .deviceError, { c with bus := d })
      | (.ok control, d) =>
        if control.Has Control.stopped ∨
            ¬c.config.hasControl ∧ control.Has Control.primaryOwns then
          (.failed .deviceError, { c with bus := d })
        else if (({} : CalendarTime).atEpoch epoch).year < c.config.baseYear ∨
            100 ≤ (({} : CalendarTime).atEpoch epoch).year - c.config.baseYear then
          (.failed .invalidParameter, { c with bus := d })
        else
          match c.writeAnswer control epoch with
          | (.ok _, d)    => (.done (), { c with bus := d })
          | (.error _, d) => (.failed .deviceError, { c with bus := d }) := by
  rw [setHardware, result_bind, result_readRegisters_answered]
  rcases hr : RegisterBus.read Control.register 1 c.bus with ⟨_ | bytes, d⟩
  case error =>
    rw [controlAnswer, hr]
    rfl
  case ok =>
  have answer : c.controlAnswer = (.ok ⟨(Bytes.fit 1 bytes).headD 0⟩, d) := by
    rw [controlAnswer, hr]
    rfl
  simp only [writeAnswer, answer]
  generalize (⟨(Bytes.fit 1 bytes).headD 0⟩ : Control) = control
  by_cases stopped : control.Has Control.stopped
  case pos =>
    rw [result_bind, result_checkRunning_of_stopped stopped, if_pos (.inl stopped)]
  case neg =>
  rw [result_bind_of_done (result_checkRunning stopped _), result_bind_of_done (result_get _)]
  dsimp only
  by_cases owned : ¬c.config.hasControl ∧ control.Has Control.primaryOwns
  case pos =>
    have against : control.Has Control.stopped ∨
        ¬c.config.hasControl ∧ control.Has Control.primaryOwns :=
      .inr owned
    rw [if_pos owned, if_pos against]
    rfl
  case neg =>
  rw [if_neg owned, if_neg (not_or.mpr ⟨stopped, owned⟩), result_ite]
  split
  case isTrue => rfl
  case isFalse =>
    rw [result_tryCatch, result_onBus, timeBytes]
    rcases RegisterBus.write 0 _ d with ⟨_ | _, _⟩ <;> rfl

theorem result_readRegisters (file : IsRegisterFile registers) (first : UInt8) (length : Nat)
    (what : String) (c : Clock δ) (le : first.toNat + length ≤ 256) :
    ∃ d, (readRegisters first length what).result c =
        (.done ((List.range' first.toNat length).map (registers c.bus)), { c with bus := d }) ∧
      registers d = registers c.bus := by
  have ⟨d, hread, same⟩ := file.read first length c.bus le
  refine ⟨d, ?_, same⟩
  have length_eq : ((List.range' first.toNat length).map (registers c.bus)).length = length := by
    simp
  rw [result_readRegisters_answered, hread]
  dsimp only
  rw [Bytes.fit_of_length_eq length_eq]

end Clock

end BoardFirmware
