import BoardFirmware.Proofs.Action.Result
import BoardFirmware.Store.Token
import BoardFirmware.Word
import Mathlib.Data.List.Nodup

namespace BoardFirmware

namespace Token

@[simp] theorem not_isNull_iff {t : Token} : t.isNull = false ↔ 0 < t.value.toNat := by
  simp only [isNull, null, beq_eq_false_iff_ne, ne_eq, ← UInt64.toNat_inj, UInt64.toNat_zero]
  omega

-- The tokens in a list that refer to something.
def proper (tokens : List Token) : List Token :=
  tokens.filter (!·.isNull)

@[simp] theorem proper_append (a b : List Token) : proper (a ++ b) = proper a ++ proper b :=
  List.filter_append ..

theorem mem_proper_iff {t : Token} {tokens : List Token} :
    t ∈ proper tokens ↔ t ∈ tokens ∧ t.isNull = false := by
  simp [proper]

end Token

namespace TokenSource

variable {s : TokenSource} {n : Nat} {t : Token}

-- How many tokens were given out.
def issued (s : TokenSource) : Nat :=
  (s.next - Token.first.value).toNat

structure Issued (s : TokenSource) (t : Token) : Prop where
  pos : 0 < t.value.toNat
  le  : t.value.toNat ≤ s.issued

theorem issued_iff : s.Issued t ↔ 0 < t.value.toNat ∧ t.value.toNat ≤ s.issued :=
  ⟨fun h => ⟨h.pos, h.le⟩, fun h => ⟨h.left, h.right⟩⟩

instance (s : TokenSource) (t : Token) : Decidable (s.Issued t) :=
  decidable_of_iff' _ issued_iff

-- The next token is null exactly if all others are out.
theorem issued_eq (s : TokenSource) :
    s.issued = if s.next = Token.null.value then UInt64.size - 1 else s.next.toNat - 1 := by
  have := s.next.toNat_lt
  rw [issued, UInt64.toNat_sub]
  by_cases h : s.next = Token.null.value
  case pos => simp [h, Token.null, Token.first]
  case neg =>
    have := Word.toNat64_pos h
    rw [if_neg h, Token.first, UInt64.toNat_one]
    omega

theorem provides_iff : s.Provides n ↔ s.issued + n < UInt64.size := by
  have hs : UInt64.size = 2 ^ 64 := rfl
  have := s.next.toNat_lt
  rw [Provides, issued_eq]
  split
  case isTrue h  =>
    simp only [ne_eq, h, not_true, false_and, or_false]
    omega
  case isFalse h =>
    have := Word.toNat64_pos h
    simp only [ne_eq, h, not_false_eq_true, true_and]
    omega

-- No sum of a provided request wraps around before its last token.
theorem toNat_next_add (h : s.Provides n) (hi : i < n) :
    (s.next + UInt64.ofNat i).toNat = s.issued + 1 + i := by
  have hs : UInt64.size = 2 ^ 64 := rfl
  have hp := provides_iff.mp h
  have hne : s.next ≠ Token.null.value := by
    cases h
    case inl   => omega
    case inr h => exact h.left
  have := Word.toNat64_pos hne
  have he := s.issued_eq
  rw [if_neg hne] at he
  rw [UInt64.toNat_add, UInt64.toNat_ofNat', Nat.mod_eq_of_lt (a := i) (by omega),
    Nat.mod_eq_of_lt (by omega)]
  omega

theorem issued_advance (h : s.Provides n) : (s.advance n).issued = s.issued + n := by
  cases n
  case zero => simp [advance, issued]
  case succ n =>
    have hn := toNat_next_add h (Nat.lt_succ_self n)
    have hp := provides_iff.mp h
    have : s.next + UInt64.ofNat (n + 1) - Token.first.value = s.next + UInt64.ofNat n := by
      rw [UInt64.ofNat_add, ← UInt64.add_assoc]
      exact UInt64.add_sub_cancel ..
    rw [advance, issued, this, hn]
    omega

theorem mem_upcoming_iff (h : s.Provides n) :
    t ∈ s.upcoming n ↔ s.issued < t.value.toNat ∧ t.value.toNat ≤ s.issued + n := by
  simp only [upcoming, List.mem_map, List.mem_range]
  constructor
  case mp =>
    rintro ⟨i, hi, ht⟩
    have : t.value.toNat = s.issued + 1 + i := ht ▸ toNat_next_add h hi
    omega
  case mpr =>
    rintro ⟨hl, hu⟩
    have hi : t.value.toNat - s.issued - 1 < n := by omega
    refine ⟨_, hi, ?_⟩
    have := toNat_next_add h hi
    have : s.next + UInt64.ofNat (t.value.toNat - s.issued - 1) = t.value := by
      rw [← UInt64.toNat_inj]
      omega
    rw [this]

theorem nodup_upcoming (h : s.Provides n) : (s.upcoming n).Nodup := by
  refine List.Nodup.map_on ?_ List.nodup_range
  intro i hi j hj heq
  rw [Token.mk.injEq, ← UInt64.toNat_inj, toNat_next_add h (List.mem_range.mp hi),
    toNat_next_add h (List.mem_range.mp hj)] at heq
  omega

theorem issued_of_mem_upcoming (h : s.Provides n) (hm : t ∈ s.upcoming n) :
    (s.advance n).Issued t := by
  have ⟨_, _⟩ := (mem_upcoming_iff h).mp hm
  exact ⟨by omega, by rw [issued_advance h]; assumption⟩

theorem not_issued_of_mem_upcoming (h : s.Provides n) (hm : t ∈ s.upcoming n) : ¬s.Issued t := by
  intro hi
  have := (mem_upcoming_iff h).mp hm
  have := hi.le
  omega

theorem Issued.advance (h : s.Provides n) (hi : s.Issued t) : (s.advance n).Issued t :=
  ⟨hi.pos, by rw [issued_advance h]; exact Nat.le_add_right_of_le hi.le⟩

theorem Issued.not_isNull (h : s.Issued t) : t.isNull = false :=
  Token.not_isNull_iff.mpr h.pos

-- The last token of a request is the one that would come next without it.
theorem upcoming_succ (s : TokenSource) (n : Nat) :
    s.upcoming (n + 1) = s.upcoming n ++ [⟨(s.advance n).next⟩] := by
  simp [upcoming, advance, List.range_succ]

theorem proper_upcoming (h : s.Provides n) : Token.proper (s.upcoming n) = s.upcoming n := by
  rw [Token.proper, List.filter_eq_self]
  intro t ht
  simp [(issued_of_mem_upcoming h ht).not_isNull]

theorem result_allocate (s : TokenSource) (n : Nat) :
    (allocate n).result s =
      if ¬s.Provides n then (.failed .outOfResources, s)
      else if maxRequest < n then (.trapped, s)
      else (.done (s.upcoming n), s.advance n) := by
  by_cases h : s.Provides n <;> by_cases hm : maxRequest < n <;>
    simp [allocate, Action.result_bind, Action.result_map, h, hm]

end TokenSource

end BoardFirmware
