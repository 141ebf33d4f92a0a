import BoardFirmware.Proofs.Acpi.Header
import BoardFirmware.Proofs.Action.Result
import Mathlib.Algebra.GroupWithZero.Nat

namespace BoardFirmware

theorem Bytes.toNat_sum (b : Bytes) : (sum b).toNat = (b.map UInt8.toNat).sum % 256 := by
  induction b
  case nil         => rfl
  case cons x r ih => simp [sum, ih]

namespace Acpi

variable {oemId oemId' : Vector UInt8 6} {b : Bytes}

theorem result_relabel_of_lt (short : b.length < Header.size) :
    (relabel oemId).result b = (.failed .invalidParameter, b) := by
  simp [relabel, Action.result_bind, short]

section

variable (long : Header.size ≤ b.length)
include long

theorem oemId_fits : Header.oemIdOffset + oemId.toList.length ≤ b.length :=
  Nat.le_trans (by rw [oemId.length_toList]; decide) long

theorem checksumOffset_lt : Header.checksumOffset < b.length :=
  Nat.lt_of_lt_of_le (by decide) long

theorem relabelled_set (c : UInt8) :
    relabelled oemId (b.set Header.checksumOffset c) = relabelled oemId b := by
  rw [relabelled, Bytes.patch_set (by decide) (checksumOffset_lt long), Bytes.balanced_set,
    relabelled]

-- The first OEM ID is overwritten, and its checksum with it.
theorem relabelled_relabelled :
    relabelled oemId' (relabelled oemId b) = relabelled oemId' b := by
  have same : oemId'.toList.length = oemId.toList.length := by
    rw [oemId.length_toList, oemId'.length_toList]
  have long' : Header.size ≤ (b.patch Header.oemIdOffset oemId.toList).length := by
    rwa [Bytes.length_patch]
  calc relabelled oemId' (relabelled oemId b)
    _ = relabelled oemId' (b.patch Header.oemIdOffset oemId.toList) := relabelled_set long' _
    _ = relabelled oemId' b                                        := by
      rw [relabelled, Bytes.patch_patch same (oemId_fits long), relabelled]

end

-- In place or not, it becomes the same table.
theorem result_relabel_of_le (long : Header.size ≤ b.length) :
    (relabel oemId).result b = (.done (), relabelled oemId b) := by
  simp [relabel, relabelled, Bytes.balanced, checksum, Action.result_bind, Nat.not_lt.mpr long]

theorem result_relabel_relabel (oemId oemId' : Vector UInt8 6) (b : Bytes) :
    (relabel oemId >>= fun _ => relabel oemId').result b = (relabel oemId').result b := by
  by_cases short : b.length < Header.size
  case pos => rw [Action.result_bind, result_relabel_of_lt short, result_relabel_of_lt short]
  case neg =>
    have long := Nat.not_lt.mp short
    have long' : Header.size ≤ (relabelled oemId b).length := by
      rwa [(relabels_relabelled long).length]
    rw [Action.result_bind_of_done (result_relabel_of_le long), result_relabel_of_le long',
      result_relabel_of_le long, relabelled_relabelled long]

theorem relabel_keeps_valid (oemId oemId' : Vector UInt8 6) (b : Bytes) :
    (36 ≤ b.length → ∃ table, withOemId oemId b = .ok table ∧
      (relabel oemId).result b = (.done (), table) ∧
      (table.map UInt8.toNat).sum % 256 = 0 ∧ table.length = b.length ∧
      table.slice 10 6 = oemId.toList ∧ (∀ i, i < 9 ∨ 15 < i → table[i]? = b[i]?) ∧
      (∀ c, withOemId oemId (b.set 9 c) = .ok table) ∧
      withOemId oemId' table = withOemId oemId' b) ∧
    (relabel oemId >>= fun _ => relabel oemId').result b = (relabel oemId').result b ∧
    (b.length < 36 → withOemId oemId b = .error .invalidParameter ∧
      (relabel oemId).result b = (.failed .invalidParameter, b)) := by
  refine ⟨fun long => ?long, result_relabel_relabel oemId oemId' b,
    fun short => ⟨withOemId_of_lt short, result_relabel_of_lt short⟩⟩
  have relabels : Relabels oemId b (relabelled oemId b) := relabels_relabelled long
  refine ⟨_, withOemId_of_le long, result_relabel_of_le long, ?sum, relabels.length,
    relabels.oemId, ?kept, fun c => ?before, ?twice⟩
  case sum  => rw [← Bytes.toNat_sum, relabels.sum, UInt8.toNat_zero]
  case kept =>
    intro i outside
    have other : i ≠ Header.checksumOffset := by rw [Header.checksumOffset]; omega
    exact relabels.kept i other (by rw [Header.oemIdOffset]; omega)
  case before =>
    have long' : Header.size ≤ (b.set 9 c).length := by rwa [List.length_set]
    rw [withOemId_of_le long']
    exact congrArg Except.ok (relabelled_set long c)
  case twice =>
    have long' : Header.size ≤ (relabelled oemId b).length := by rwa [relabels.length]
    rw [withOemId_of_le long', withOemId_of_le long, relabelled_relabelled long]

-- The checksum was wrong before, and the second table is cut off in the middle of its header.
theorem relabel_keeps_valid_unchecked :
    let oemId : Vector UInt8 6 := #v[78, 86, 73, 68, 73, 65]
    let b : Bytes := List.replicate 40 7
    ∃ table, (relabel oemId).result b = (.done (), table) ∧
      (table.map UInt8.toNat).sum % 256 = 0 ∧ table.slice 10 6 = [78, 86, 73, 68, 73, 65] ∧
      table[16]? = some 7 ∧
      (relabel (.replicate 6 0) >>= fun _ => relabel oemId).result b = (.done (), table) ∧
      (relabel oemId).result (b.take 20) = (.failed .invalidParameter, b.take 20) := by
  intro oemId b
  have ⟨valid, _, _⟩ := relabel_keeps_valid oemId oemId b
  have ⟨table, _, ran, sum, _, named, kept, _, _⟩ := valid (by decide)
  have ⟨_, twice, _⟩ := relabel_keeps_valid (.replicate 6 0) oemId b
  have ⟨_, _, refused⟩ := relabel_keeps_valid oemId oemId (b.take 20)
  exact ⟨table, ran, sum, named, kept 16 (.inr (by decide)), twice.trans ran,
    (refused (by decide)).right⟩

end Acpi

end BoardFirmware
