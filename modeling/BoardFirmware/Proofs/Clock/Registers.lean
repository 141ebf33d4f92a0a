import BoardFirmware.Clock.Registers
import BoardFirmware.Proofs.Clock.CalendarTime

namespace BoardFirmware.Clock

-- Where the fields of a time are among the registers.
def timeFields : List Nat :=
  [0, 2, 4, 7, 8, 9]

variable {n mask : UInt8} {bound : Nat}

-- What holds of the first numbers, one after the other, holds of the bytes below them.
theorem of_forall_lt {p : UInt8 → Prop} (h : ∀ k < bound, p (.ofNat k)) (lt : n.toNat < bound) :
    p n := by
  have hn := h n.toNat lt
  rwa [UInt8.ofNat_toNat] at hn

theorem toNat_high (b : UInt8) : (b >>> 4).toNat = b.toNat / 16 := by
  rw [UInt8.toNat_shiftRight]
  exact Nat.shiftRight_eq_div_pow b.toNat 4

theorem toNat_low (b : UInt8) : (b &&& 0x0f).toNat = b.toNat % 16 := by
  rw [UInt8.toNat_and]
  exact Nat.and_two_pow_sub_one_eq_mod b.toNat 4

-- Halves that are no digits are not refused, but they do not leave the byte.
theorem toNat_ofDigits (b : UInt8) : (ofDigits b).toNat = b.toNat / 16 * 10 + b.toNat % 16 := by
  have := b.toNat_lt
  have ten : (10 : UInt8).toNat = 10 := rfl
  rw [ofDigits, UInt8.toNat_add, UInt8.toNat_mul, toNat_high, toNat_low, ten]
  omega

theorem ofDigits_toDigits (lt : n.toNat < 100) : ofDigits (toDigits n) = n := by
  refine of_forall_lt (p := fun n => ofDigits (toDigits n) = n) ?_ lt
  decide

-- The numbers below `bound` use no other bits than those of the mask, whichever way they are held.
def Holds (mask : UInt8) (bound : Nat) : Prop :=
  bound ≤ 100 ∧ ∀ k < bound,
    UInt8.ofNat k &&& mask = UInt8.ofNat k ∧ toDigits (.ofNat k) &&& mask = toDigits (.ofNat k)

instance : Decidable (Holds mask bound) := by
  unfold Holds
  infer_instance

theorem toNat_and_le (b mask : UInt8) : (b &&& mask).toNat ≤ mask.toNat := by
  rw [UInt8.toNat_and]
  exact Nat.and_le_right

theorem toNat_mod_twelve_lt (n : UInt8) : (n % 12).toNat < 12 := by
  rw [UInt8.toNat_mod]
  exact Nat.mod_lt _ (by decide)

namespace Format

theorem read_le (f : Format) (b : UInt8) : (f.read b).toNat ≤ b.toNat := by
  rw [read]
  split
  case isTrue => exact Nat.le_refl _
  case isFalse =>
    rw [toNat_ofDigits]
    omega

theorem read_masked_le (f : Format) (b mask : UInt8) : (f.read (b &&& mask)).toNat ≤ mask.toNat :=
  Nat.le_trans (f.read_le _) (toNat_and_le b mask)

-- With hours up to 24, nearly three days of them can be read.
theorem readHour_le (f : Format) (b : UInt8) : (f.readHour b).toNat ≤ 63 := by
  rw [readHour]
  split
  case isTrue => exact f.read_masked_le b 0x3f
  case isFalse =>
    have twelve : (12 : UInt8).toNat = 12 := rfl
    have hour := toNat_mod_twelve_lt (f.read (b &&& 0x1f))
    dsimp only
    split
    case isTrue =>
      rw [UInt8.toNat_add]
      omega
    case isFalse => omega

theorem read_write_masked (f : Format) (bound : Nat) (holds : Holds mask bound)
    (lt : n.toNat < bound) : f.read (f.write n &&& mask) = n := by
  have ⟨le, keeps⟩ := holds
  have ⟨binary, digits⟩ :=
    of_forall_lt (p := fun n => n &&& mask = n ∧ toDigits n &&& mask = toDigits n) keeps lt
  rw [read, write]
  split
  case isTrue => exact binary
  case isFalse => rw [digits, ofDigits_toDigits (Nat.lt_of_lt_of_le lt le)]

theorem read_write (f : Format) (lt : n.toNat < 100) : f.read (f.write n) = n := by
  rw [read, write]
  split
  case isTrue => rfl
  case isFalse => exact ofDigits_toDigits lt

-- Hours up to 12 leave the bit for the time after noon alone.
theorem readHour_writeHour (f : Format) (lt : n.toNat < 24) : f.readHour (f.writeHour n) = n := by
  refine of_forall_lt (p := fun n => f.readHour (f.writeHour n) = n) ?_ lt
  rcases f with ⟨_ | _, _ | _⟩ <;> decide

-- The other registers do not matter.
theorem decode?_congr {f : Format} {base : UInt16} {a b : Bytes}
    (h : ∀ i ∈ timeFields, a.getD i 0 = b.getD i 0) : f.decode? base a = f.decode? base b := by
  have h : ∀ i ∈ [0, 2, 4, 7, 8, 9], a.getD i 0 = b.getD i 0 := h
  simp only [List.forall_mem_cons] at h
  have ⟨second, minute, hour, day, month, year, _⟩ := h
  simp only [decode?, second, minute, hour, day, month, year]

-- The time of the registers is the one that was written to them, if its year is among those that
-- they can tell apart.
theorem decode?_encode (f : Format) {t : CalendarTime} (h : t.OnCalendar) {base : UInt16}
    {year : UInt8} (lt : year.toNat < 100) (sum : base.toNat + year.toNat = t.year.toNat) :
    f.decode? base (f.encode t year) =
      some { year := t.year, month := t.month, day := t.day, hour := t.hour, minute := t.minute,
             second := t.second } := by
  have ⟨⟨_, month_le, _, day_le⟩, hour_le, minute_le, second_le⟩ := h
  have days := Calendar.daysInMonth_le t.year.toNat t.month.toNat
  have second : f.read (f.write t.second &&& 0x7f) = t.second :=
    f.read_write_masked 60 (by decide) (by omega)
  have minute : f.read (f.write t.minute &&& 0x7f) = t.minute :=
    f.read_write_masked 60 (by decide) (by omega)
  have hour : f.readHour (f.writeHour t.hour) = t.hour := f.readHour_writeHour (by omega)
  have day : f.read (f.write t.day &&& 0x3f) = t.day :=
    f.read_write_masked 32 (by decide) (by omega)
  have month : f.read (f.write t.month &&& 0x1f) = t.month :=
    f.read_write_masked 13 (by decide) (by omega)
  have year : Word.add16? base (f.read (f.write year)).toUInt16 = some t.year := by
    rwa [f.read_write lt, Word.add16?_eq_some_iff, UInt8.toNat_toUInt16]
  simp [decode?, encode, second, minute, hour, day, month, year]

end Format

end BoardFirmware.Clock
