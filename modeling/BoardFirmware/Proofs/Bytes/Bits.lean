import BoardFirmware.Bytes.Basic
import Mathlib.Data.List.OfFn
import Mathlib.Data.Nat.Bitwise

namespace BoardFirmware.Bytes

-- The bits of a byte, the lowest one first.
def bitsOf (b : UInt8) : List Bool :=
  List.ofFn fun k : Fin 8 => b.toNat.testBit k

-- The bits of all bytes, one byte after the other.
def bits (b : Bytes) : List Bool :=
  b.flatMap bitsOf

-- Which bits of two strings differ.
def changes (a b : Bytes) : List Bool :=
  List.zipWith xor a.bits b.bits

-- All bits that are set lie within so many consecutive ones.
def Burst (width : Nat) (bits : List Bool) : Prop :=
  ∃ start, ∀ k, bits[k]? = some true → start ≤ k ∧ k < start + width

@[simp] theorem length_bitsOf (b : UInt8) : (bitsOf b).length = 8 :=
  List.length_ofFn

theorem bits_cons (b : UInt8) (r : Bytes) : bits (b :: r) = bitsOf b ++ bits r :=
  List.flatMap_cons

@[simp] theorem length_bits (b : Bytes) : b.bits.length = 8 * b.length := by
  induction b
  case nil         => rfl
  case cons b r ih =>
    rw [bits_cons, List.length_append, ih, length_bitsOf, List.length_cons]
    omega

theorem bitsOf_inj {a b : UInt8} (h : bitsOf a = bitsOf b) : a = b := by
  have same := List.ofFn_inj.mp h
  apply UInt8.toNat_inj.mp
  apply Nat.eq_of_testBit_eq
  intro k
  by_cases lt : k < 8
  case pos => exact congrFun same ⟨k, lt⟩
  case neg =>
    have le : 2 ^ 8 ≤ 2 ^ k := Nat.pow_le_pow_right (by decide) (by omega)
    rw [Nat.testBit_lt_two_pow (Nat.lt_of_lt_of_le a.toNat_lt le),
      Nat.testBit_lt_two_pow (Nat.lt_of_lt_of_le b.toNat_lt le)]

-- Any eight bits are those of a byte.
theorem exists_bitsOf {w : List Bool} (h : w.length = 8) : ∃ b, bitsOf b = w := by
  obtain ⟨f, rfl⟩ : ∃ f : Fin 8 → Bool, List.ofFn f = w :=
    ⟨fun k => w[k], List.ext_getElem (by simp [h]) fun _ _ _ => List.getElem_ofFn ..⟩
  refine ⟨.ofNat (Nat.ofBits f), congrArg List.ofFn (funext fun k => ?_)⟩
  rw [UInt8.toNat_ofNat', Nat.mod_eq_of_lt (Nat.ofBits_lt_two_pow f),
    Nat.testBit_ofBits_lt f k k.isLt]

theorem bits_inj {a b : Bytes} (same : a.length = b.length) (h : a.bits = b.bits) : a = b := by
  induction a generalizing b
  case nil => exact (List.eq_nil_of_length_eq_zero same.symm).symm
  case cons x a ih =>
    obtain _ | ⟨y, b⟩ := b
    case nil  => cases same
    case cons =>
      rw [bits_cons, bits_cons] at h
      have ⟨head, tail⟩ := List.append_inj h (by simp)
      rw [bitsOf_inj head, ih (Nat.succ.inj same) tail]

-- Strings of which no bit differs are equal.
theorem eq_of_changes {a b : Bytes} (same : a.length = b.length)
    (h : ∀ c ∈ changes a b, c = false) : a = b := by
  refine bits_inj same (List.ext_getElem (by simp [same]) fun k lt lt' => ?_)
  have lt_changes : k < (changes a b).length := by
    rw [changes, List.length_zipWith]
    omega
  have unchanged := h _ (List.getElem_mem lt_changes)
  simpa only [changes, List.getElem_zipWith, bne_eq_false_iff_eq, Bool.xor] using unchanged

-- No bit is set before a burst or after it.
theorem burst_iff {width : Nat} {w : List Bool} :
    Burst width w ↔ ∃ start, (∀ bit ∈ w.take start, bit = false) ∧
      ∀ bit ∈ w.drop (start + width), bit = false := by
  refine exists_congr fun start => ⟨fun within => ⟨?before, ?after⟩, ?within⟩
  case before =>
    intro bit mem
    have ⟨k, at_k⟩ := List.mem_iff_getElem?.mp mem
    rw [List.getElem?_take, Option.ite_none_right_eq_some] at at_k
    refine Bool.eq_false_iff.mpr fun set => ?_
    have := within k (set ▸ at_k.2)
    omega
  case after =>
    intro bit mem
    have ⟨k, at_k⟩ := List.mem_iff_getElem?.mp mem
    rw [List.getElem?_drop] at at_k
    refine Bool.eq_false_iff.mpr fun set => ?_
    have := within _ (set ▸ at_k)
    omega
  case within =>
    intro ⟨before, after⟩ k set
    refine ⟨Nat.le_of_not_lt fun lt => ?_, Nat.lt_of_not_le fun le => ?_⟩
    · have at_k : (w.take start)[k]? = some true := by rwa [List.getElem?_take, if_pos lt]
      cases before true (List.mem_of_getElem? at_k)
    · have at_k : (w.drop (start + width))[k - (start + width)]? = some true := by
        rwa [List.getElem?_drop, Nat.add_sub_cancel' le]
      cases after true (List.mem_of_getElem? at_k)

end BoardFirmware.Bytes
