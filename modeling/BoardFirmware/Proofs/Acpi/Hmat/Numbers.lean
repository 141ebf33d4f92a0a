import BoardFirmware.Acpi.Hmat
import Mathlib.Data.List.Dedup
import Mathlib.Data.List.Perm.Basic
import Mathlib.Data.List.Sort

namespace BoardFirmware.Acpi.Hmat

open Numa

variable {t : Topology} {extent : Extent} {n m i j : UInt32} {ns : List UInt32}
variable {p : Domain → Bool}

theorem mem_insertNumber : m ∈ insertNumber n ns ↔ m = n ∨ m ∈ ns := by
  fun_induction insertNumber n ns
  case case1         => simp
  case case2         => simp
  case case3         => simp
  case case4 _ _ ih  => simp [ih, or_left_comm]

theorem insertNumber_increasing (h : ns.Pairwise (· < ·)) :
    (insertNumber n ns).Pairwise (· < ·) := by
  fun_induction insertNumber n ns
  case case1              => exact List.pairwise_singleton _ _
  case case2 k _ hlt      =>
    refine .cons (fun k' hk' => ?_) h
    cases hk'
    case head      => exact hlt
    case tail hk'  => exact UInt32.lt_trans hlt (List.rel_of_pairwise_cons h hk')
  case case3              => exact h
  case case4 hlt hne ih   =>
    refine .cons (fun k' hk' => ?_) (ih h.of_cons)
    cases mem_insertNumber.mp hk'
    case inl heq => subst heq; exact UInt32.lt_of_le_of_ne (UInt32.not_lt.mp hlt) (Ne.symm hne)
    case inr hk' => exact List.rel_of_pairwise_cons h hk'

theorem mem_numbers : n ∈ numbers t ↔ ∃ d ∈ t.domains, d.number = n := by
  rw [numbers]
  induction t.domains
  case nil            => simp
  case cons d rest ih => simp [mem_insertNumber, ih, eq_comm]

theorem numbers_increasing (t : Topology) : (numbers t).Pairwise (· < ·) := by
  rw [numbers]
  induction t.domains
  case nil            => exact .nil
  case cons d rest ih => exact insertNumber_increasing ih

-- The numbers of the domains that are found and satisfy `p`, in increasing order.
structure Lists (t : Topology) (p : Domain → Bool) (ns : List UInt32) : Prop where
  increasing : ns.Pairwise (· < ·)
  mem        : ∀ n, n ∈ ns ↔ ∃ d, t.find? n = some d ∧ p d

theorem of_find? {d : Domain} (h : t.find? n = some d) : d ∈ t.domains ∧ d.number = n := by
  have hf : t.domains.find? (·.number = n) = some d := h
  have hn := List.find?_some hf
  exact ⟨List.mem_of_find?_eq_some hf, of_decide_eq_true hn⟩

theorem numbersWhere_lists (t : Topology) (p : Domain → Bool) : Lists t p (numbersWhere t p) where
  increasing := (numbers_increasing t).filter _
  mem n      := by
    rw [numbersWhere, List.mem_filter]
    cases h : t.find? n
    case none   => simp
    case some d => simp [mem_numbers.mpr ⟨d, of_find? h⟩]

-- The figures are those of the performance table, and not those for what can't be reached.
theorem distance_of_lists {initiators targets : List UInt32} (hi : Lists t (·.initiator) initiators)
    (ht : Lists t (·.target) targets) (i : UInt32) (mem : i ∈ initiators) (j) (mem' : j ∈ targets) :
    ∃ a b, t.find? i = some a ∧ a.initiator ∧ t.find? j = some b ∧ b.target ∧
      t.distance i j = Topology.separated i j (t.performance.get (.between a b)) := by
  have ⟨a, ha, hia⟩ := (hi.mem i).mp mem
  have ⟨b, hb, htb⟩ := (ht.mem j).mp mem'
  exact ⟨a, b, ha, hia, hb, htb, by simp [Topology.distance, ha, hb, hia, htb]⟩

theorem numbersWhere_eq_numbers (h : ∀ d ∈ t.domains, p d) : numbersWhere t p = numbers t := by
  refine List.filter_eq_self.mpr fun n mem => ?_
  have ⟨d, hd, hn⟩ := mem_numbers.mp mem
  have found : (t.find? n).isSome := List.find?_isSome.mpr ⟨d, hd, decide_eq_true hn⟩
  obtain ⟨d', h'⟩ := Option.isSome_iff_exists.mp found
  rw [h', Option.any_some, h d' (of_find? h').1]

-- The list of numbers leaves out the repetitions.
theorem numbers_perm_dedup (t : Topology) :
    (numbers t).Perm (t.domains.map Domain.number).dedup := by
  have once : (numbers t).Nodup := (numbers_increasing t).imp UInt32.ne_of_lt
  refine (List.perm_ext_iff_of_nodup once (List.nodup_dedup _)).mpr fun n => ?_
  rw [mem_numbers, List.mem_dedup, List.mem_map]

-- Each domain has a number of its own exactly if there are as many numbers as domains.
theorem length_numbers_eq_iff :
    (numbers t).length = t.domains.length ↔ (t.domains.map Domain.number).Nodup := by
  have len : (t.domains.map Domain.number).length = t.domains.length := List.length_map _
  rw [(numbers_perm_dedup t).length_eq, ← len, ← List.dedup_eq_self]
  exact ⟨(List.dedup_sublist _).eq_of_length, congrArg List.length⟩

theorem length_numbersWhere_le (t : Topology) (p : Domain → Bool) :
    (numbersWhere t p).length ≤ t.domains.countP p := by
  have lists := numbersWhere_lists t p
  have once : (numbersWhere t p).Nodup := lists.increasing.imp UInt32.ne_of_lt
  have among : numbersWhere t p ⊆ (t.domains.filter p).map Domain.number := by
    intro n mem
    have ⟨d, found, hp⟩ := (lists.mem n).mp mem
    have ⟨mem, number⟩ := of_find? found
    exact List.mem_map.mpr ⟨d, List.mem_filter.mpr ⟨mem, hp⟩, number⟩
  have le := once.length_le_of_subset among
  rwa [List.length_map, ← List.countP_eq_length_filter] at le

theorem eq_of_extent (h : t.extent = .ok extent) :
    extent = {
      maxNumber  := t.domains.foldl (fun n d => max n d.number.toNat) 0
      initiators := t.domains.countP (·.initiator)
      targets    := t.domains.countP (·.target)
    } := by
  rw [Topology.extent] at h
  split at h
  case h_1 => cases h
  case h_2 => exact (Except.ok.inj h).symm

-- There is no more to list than was counted.
theorem lengths_le_extent (h : t.extent = .ok extent) :
    (initiators t).length ≤ extent.initiators ∧ (targets t).length ≤ extent.targets := by
  rw [eq_of_extent h]
  exact ⟨length_numbersWhere_le t _, length_numbersWhere_le t _⟩

theorem foldl_max_le_iff {ds : List Domain} {n m : Nat} :
    ds.foldl (fun n d => max n d.number.toNat) n ≤ m ↔
      n ≤ m ∧ ∀ d ∈ ds, d.number.toNat ≤ m := by
  induction ds generalizing n
  case nil            => simp
  case cons d rest ih => simp [ih, and_assoc]

theorem maxNumber_le_iff (h : t.extent = .ok extent) {m : Nat} :
    extent.maxNumber ≤ m ↔ ∀ d ∈ t.domains, d.number.toNat ≤ m := by
  rw [eq_of_extent h, foldl_max_le_iff]
  exact and_iff_right (Nat.zero_le m)

-- The list is what a search finds that tries one number after the other, up to the highest.
theorem numbersWhere_eq_search (h : t.extent = .ok extent) (p : Domain → Bool) :
    (numbersWhere t p).map UInt32.toNat =
      (List.range (extent.maxNumber + 1)).filter fun n => (t.find? (.ofNat n)).any p := by
  have lists := numbersWhere_lists t p
  have listed : ((numbersWhere t p).map UInt32.toNat).Pairwise (· < ·) :=
    List.pairwise_map.mpr lists.increasing
  have searched : ((List.range (extent.maxNumber + 1)).filter
      fun n => (t.find? (.ofNat n)).any p).Pairwise (· < ·) := List.pairwise_lt_range.filter _
  refine List.Perm.eq_of_pairwise' listed searched ?_
  refine (List.perm_ext_iff_of_nodup (listed.imp Nat.ne_of_lt)
    (searched.imp Nat.ne_of_lt)).mpr fun n => ?_
  rw [List.mem_map, List.mem_filter, List.mem_range, Nat.lt_succ_iff, Option.any_eq_true]
  constructor
  case mp  =>
    rintro ⟨k, mem, rfl⟩
    have ⟨d, found, hp⟩ := (lists.mem k).mp mem
    have ⟨mem, number⟩ := of_find? found
    refine ⟨number ▸ (maxNumber_le_iff h).mp (Nat.le_refl _) d mem, d, ?_, hp⟩
    rwa [UInt32.ofNat_toNat]
  case mpr =>
    rintro ⟨le, d, found, hp⟩
    -- The highest number fits its word, so no number tried is another one cut off.
    have small : extent.maxNumber ≤ UInt32.size - 1 :=
      (maxNumber_le_iff h).mpr fun d _ => Nat.le_sub_one_of_lt d.number.toNat_lt_size
    have fits : n < UInt32.size := Nat.lt_of_le_pred (by decide) (Nat.le_trans le small)
    exact ⟨.ofNat n, (lists.mem _).mpr ⟨d, found, hp⟩, UInt32.toNat_ofNat_of_lt' fits⟩

section

variable (few : t.domains.length ≤ 64)
include few

theorem tableSize_lt : tableSize (initiators t).length (targets t).length < UInt32.size := by
  have le (p : Domain → Bool) : (numbersWhere t p).length ≤ 64 :=
    Nat.le_trans (length_numbersWhere_le t p) (Nat.le_trans List.countP_le_length few)
  have hi : (initiators t).length ≤ 64 := le _
  have ht : (targets t).length ≤ 64 := le _
  have hm : 2 * (initiators t).length * (targets t).length ≤ 2 * 64 * 64 :=
    Nat.mul_le_mul (Nat.mul_le_mul_left 2 hi) ht
  have hs : UInt32.size = 2 ^ 32 := rfl
  rw [tableSize, structureSize, Measure.all]
  simp only [List.length_cons, List.length_nil]
  omega

theorem extent_fits (some : t.domains ≠ []) : ∃ extent, t.extent = .ok extent ∧ extent.Fits := by
  have lt (p : Domain → Bool) : t.domains.countP p < UInt32.size :=
    Nat.lt_of_le_of_lt (Nat.le_trans List.countP_le_length few) (by decide)
  rw [Topology.extent]
  split
  case h_1 none => exact absurd none some
  case h_2      => exact ⟨_, rfl, lt _, lt _⟩

end

end BoardFirmware.Acpi.Hmat
