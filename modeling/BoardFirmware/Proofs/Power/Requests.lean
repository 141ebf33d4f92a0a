import BoardFirmware.Power.ClockTree

namespace BoardFirmware.Power

-- A request about a clock, as the processor reads it.
structure ClockRequest where
  command   : UInt32
  clock     : UInt32
  -- The parent and the rate, if the request is long enough for them.
  arguments : Option (UInt32 × UInt64)
  deriving DecidableEq

-- What a request is read as. All requests have 4 or 16 bytes.
def ClockRequest.ofBytes? (b : Bytes) : Option ClockRequest :=
  let word := Bytes.word32 b
  if b.length = 4 then
    some ⟨word >>> 24, word &&& 0x00ffffff, none⟩
  else if b.length = 16 then
    some ⟨word >>> 24, word &&& 0x00ffffff, some (Bytes.word32 (b.drop 4), Bytes.word64 (b.drop 8))⟩
  else
    none

namespace ClockCommand

variable {clock : UInt32}

theorem toNat_word (c : ClockCommand) (h : clock.toNat < 0x1000000) :
    (c.word clock).toNat = 0x1000000 * c.number.toNat + clock.toNat := by
  have command : (c.number <<< 24).toNat = 0x1000000 * c.number.toNat := by
    cases c <;> rfl
  have number : (clock &&& 0x00ffffff).toNat = clock.toNat := by
    rw [UInt32.toNat_and, show (0x00ffffff : UInt32).toNat = 2 ^ 24 - 1 from rfl,
      Nat.and_two_pow_sub_one_eq_mod, Nat.mod_eq_of_lt h]
  rw [word, UInt32.toNat_or, command, number]
  exact (Nat.two_pow_add_eq_or_of_lt (i := 24) h c.number.toNat).symm

theorem word_high (c : ClockCommand) (h : clock.toNat < 0x1000000) :
    c.word clock >>> 24 = c.number := by
  rw [← UInt32.toNat_inj, UInt32.toNat_shiftRight, c.toNat_word h,
    show (24 : UInt32).toNat % 32 = 24 from rfl, Nat.shiftRight_eq_div_pow]
  omega

theorem word_low (c : ClockCommand) (h : clock.toNat < 0x1000000) :
    c.word clock &&& 0x00ffffff = clock := by
  rw [← UInt32.toNat_inj, UInt32.toNat_and, c.toNat_word h,
    show (0x00ffffff : UInt32).toNat = 2 ^ 24 - 1 from rfl, Nat.and_two_pow_sub_one_eq_mod]
  omega

theorem ofBytes?_encode (c : ClockCommand) (h : clock.toNat < 0x1000000) :
    ClockRequest.ofBytes? (Layout.encode (c.word clock)) = some ⟨c.number, clock, none⟩ := by
  have word : Bytes.word32 (Layout.encode (c.word clock)) = c.word clock :=
    LawfulLayout.decode_encode (c.word clock)
  have length : (Layout.encode (c.word clock)).length = 4 := LawfulLayout.length_encode _
  rw [ClockRequest.ofBytes?, word, if_pos length, c.word_high h, c.word_low h]

theorem ofBytes?_encode_arguments (c : ClockCommand) (h : clock.toNat < 0x1000000) (parent : UInt32)
    (rate : UInt64) :
    ClockRequest.ofBytes? (Layout.encode (c.word clock, parent, rate)) =
      some ⟨c.number, clock, some (parent, rate)⟩ := by
  have split : Layout.encode (c.word clock, parent, rate) =
      Bytes.ofWord32 (c.word clock) ++ (Bytes.ofWord32 parent ++ Bytes.ofWord64 rate) := rfl
  have after_word : (Layout.encode (c.word clock, parent, rate)).drop 4 =
      Bytes.ofWord32 parent ++ Bytes.ofWord64 rate :=
    List.drop_left' (Bytes.length_ofWord32 _)
  have after_parent : (Layout.encode (c.word clock, parent, rate)).drop 8 =
      Bytes.ofWord64 rate := by
    rw [show 8 = 4 + 4 from rfl, ← List.drop_drop, after_word]
    exact List.drop_left' (Bytes.length_ofWord32 _)
  have rate_eq : Bytes.word64 (Bytes.ofWord64 rate) = rate := LawfulLayout.decode_encode rate
  have length : (Layout.encode (c.word clock, parent, rate)).length = 16 :=
    LawfulLayout.length_encode _
  rw [ClockRequest.ofBytes?, if_neg (by rw [length]; decide), if_pos length, after_word,
    after_parent, rate_eq, split, Bytes.word32_ofWord32_append, Bytes.word32_ofWord32_append,
    c.word_high h, c.word_low h]

end ClockCommand

end BoardFirmware.Power
