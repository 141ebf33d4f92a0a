import BoardFirmware.Proofs.Acpi.Header
import BoardFirmware.Proofs.Acpi.Hmat.Numbers
import BoardFirmware.Proofs.Action.Result
import BoardFirmware.Proofs.Bytes.Reader

namespace BoardFirmware.Acpi.Hmat

open Numa

-- A structure of the table. The figures have a row for each initiator.
structure Locality where
  preamble   : Preamble
  initiators : List UInt32
  targets    : List UInt32
  figures    : List UInt16

namespace Locality

def encode (l : Locality) : Bytes :=
  Layout.encode l.preamble ++ Layout.writeAll l.initiators ++ Layout.writeAll l.targets ++
    Layout.writeAll l.figures

-- The structure at the start of `b`, and the bytes after it.
def read? (b : Bytes) : Option (Locality × Bytes) := do
  let (preamble, b) ← Layout.read? Preamble b
  let initiatorCount := preamble.initiatorCount.toNat
  let targetCount := preamble.targetCount.toNat
  let (initiators, b) ← Layout.readMany? UInt32 initiatorCount b
  let (targets, b) ← Layout.readMany? UInt32 targetCount b
  let (figures, b) ← Layout.readMany? UInt16 (initiatorCount * targetCount) b
  return (⟨preamble, initiators, targets, figures⟩, b)

-- All structures up to the end of `b`. Each one must take as many bytes as it says.
def readAll? (b : Bytes) : Option (List Locality) :=
  if b = [] then
    some []
  else
    match read? b with
    | none           => none
    | some (l, rest) =>
      let length := l.preamble.length.toNat
      if 0 < length ∧ length + rest.length = b.length then
        (l :: ·) <$> readAll? rest
      else
        none
termination_by b.length
decreasing_by omega

-- What the preamble says is right.
structure Exact (l : Locality) : Prop where
  length     : l.preamble.length.toNat = structureSize l.initiators.length l.targets.length
  initiators : l.preamble.initiatorCount.toNat = l.initiators.length
  targets    : l.preamble.targetCount.toNat = l.targets.length
  figures    : l.figures.length = l.initiators.length * l.targets.length

variable {l : Locality}

namespace Exact

theorem length_encode (h : l.Exact) : l.encode.length = l.preamble.length.toNat := by
  have hp : Layout.size Preamble = 32 := rfl
  have h4 : Layout.size UInt32 = 4 := rfl
  have h2 : Layout.size UInt16 = 2 := rfl
  simp only [encode, List.length_append, LawfulLayout.length_encode, LawfulLayout.length_writeAll,
    h.figures, h.length, structureSize, hp, h4, h2]
  rw [Nat.mul_assoc 2]
  omega

theorem length_pos (h : l.Exact) : 0 < l.preamble.length.toNat := by
  rw [h.length, structureSize]
  omega

theorem read?_encode (h : l.Exact) (rest : Bytes) : read? (l.encode ++ rest) = some (l, rest) := by
  simp only [read?, encode, List.append_assoc, Layout.read?_encode, h.initiators, h.targets,
    ← h.figures, Layout.readMany?_writeAll, Option.bind_eq_bind, Option.bind_some, Option.pure_def]

end Exact

theorem readAll?_encode {structures : List Locality} (h : ∀ l ∈ structures, l.Exact) :
    readAll? (structures.flatMap encode) = some structures := by
  induction structures
  case nil => simp [readAll?]
  case cons l rest ih =>
    have hl := h l List.mem_cons_self
    have hne : l.encode ++ rest.flatMap encode ≠ [] := by
      apply List.append_ne_nil_of_left_ne_nil
      exact List.ne_nil_of_length_pos (hl.length_encode ▸ hl.length_pos)
    rw [List.flatMap_cons, readAll?, if_neg hne, hl.read?_encode]
    simp [hl.length_pos, hl.length_encode, ih fun l' mem => h l' (List.mem_cons_of_mem _ mem)]

-- What a structure tells of the domains of `t`, where accesses start in those numbered by `starts`
-- and end in those numbered by `ends`.
structure Tells (l : Locality) (t : Topology) (starts ends : List UInt32) (m : Measure) : Prop where
  measure    : l.preamble.measure = m.number
  length     : l.preamble.length.toNat = structureSize starts.length ends.length
  initiators : l.initiators = starts
  targets    : l.targets = ends
  figures    : l.figures.length = starts.length * ends.length
  figure     : ∀ (i j : Nat) (hi : i < starts.length) (hj : j < ends.length),
    ∃ a b, t.find? starts[i] = some a ∧ t.find? ends[j] = some b ∧
      l.figures[i * ends.length + j]? = some (m.value (t.performance.get (.between a b)))

end Locality

-- The header of a table, and the structures after it.
def read? (b : Bytes) : Option (Header × List Locality) := do
  let (header, b) ← Layout.read? Header b
  let (_, b) ← Layout.read? UInt32 b
  return (header, ← Locality.readAll? b)

variable {t : Topology} {oem : OemIdentity} {m : Measure} {b : Bytes}

def locality (t : Topology) (m : Measure) : Locality where
  preamble   := preamble m (initiators t).length (targets t).length
  initiators := initiators t
  targets    := targets t
  figures    := (distances t).map m.value

theorem length_distances (t : Topology) :
    (distances t).length = (initiators t).length * (targets t).length := by
  simp [distances, List.length_flatMap, List.map_const']

-- The figures of a row follow those of the rows above.
theorem getElem?_rows {f : α → β → γ} {rows : List α} {columns : List β} {i j : Nat}
    (hi : i < rows.length) (hj : j < columns.length) :
    (rows.flatMap fun a => columns.map (f a))[i * columns.length + j]? =
      some (f rows[i] columns[j]) := by
  induction rows generalizing i
  case nil => simp at hi
  case cons a rows ih =>
    cases i
    case zero   =>
      rw [List.flatMap_cons, List.getElem?_append_left (by simpa using hj)]
      simp [hj]
    case succ i =>
      have hi : i < rows.length := by simpa using hi
      rw [List.flatMap_cons, List.getElem?_append_right (by simp [Nat.succ_mul]; omega)]
      have hk : (i + 1) * columns.length + j - (columns.map (f a)).length =
          i * columns.length + j := by simp [Nat.succ_mul]; omega
      rw [hk, ih hi]
      rfl

theorem value_separated (m : Measure) (i j : UInt32) (p : Performance) :
    m.value (Topology.separated i j p) = m.value p := by
  rw [Topology.separated]
  split
  case isTrue  => cases m <;> rfl
  case isFalse => rfl

section

variable (h : tableSize (initiators t).length (targets t).length < UInt32.size)
include h

theorem locality_exact : (locality t m).Exact := by
  have hsize : structureSize (initiators t).length (targets t).length < UInt32.size :=
    Nat.lt_of_le_of_lt (by rw [tableSize, Measure.all]; simp; omega) h
  constructor
  case length     => exact UInt32.toNat_ofNat_of_lt' hsize
  case initiators =>
    exact UInt32.toNat_ofNat_of_lt' (Nat.lt_of_le_of_lt (by rw [structureSize]; omega) hsize)
  case targets    =>
    exact UInt32.toNat_ofNat_of_lt' (Nat.lt_of_le_of_lt (by rw [structureSize]; omega) hsize)
  case figures    => simp [locality, length_distances]

theorem locality_tells (m : Measure) :
    (locality t m).Tells t (initiators t) (targets t) m where
  measure    := rfl
  length     := (locality_exact h).length
  initiators := rfl
  targets    := rfl
  figures    := (locality_exact h).figures
  figure     := by
    intro i j hi hj
    have ⟨a, b, ha, _, hb, _, hd⟩ := distance_of_lists (numbersWhere_lists t (·.initiator))
      (numbersWhere_lists t (·.target)) _ (List.getElem_mem hi) _ (List.getElem_mem hj)
    refine ⟨a, b, ha, hb, ?_⟩
    have row : (distances t)[i * (targets t).length + j]? = _ := getElem?_rows hi hj
    rw [locality, List.getElem?_map, row, hd, Option.map_some, value_separated]

end

-- The checksum changes nothing but the header.
theorem encode_eq (t : Topology) (oem : OemIdentity) :
    ∃ header : Header, header.oemId = oem.oemId ∧
      header.length = UInt32.ofNat (tableSize (initiators t).length (targets t).length) ∧
      encode t oem = Layout.encode header ++
        (Layout.encode (0 : UInt32) ++ (Measure.all.map (locality t)).flatMap Locality.encode) := by
  rw [encode, encodeHeader, List.append_assoc, List.flatMap_map]
  rw [Bytes.balanced_append_left (by rw [LawfulLayout.length_encode]; decide),
    Header.encode_set_checksum]
  exact ⟨_, rfl, rfl, rfl⟩

theorem length_encode (h : tableSize (initiators t).length (targets t).length < UInt32.size) :
    (encode t oem).length = tableSize (initiators t).length (targets t).length := by
  have ⟨header, _, _, heq⟩ := encode_eq t oem
  have hs (m : Measure) : (locality t m).encode.length =
      structureSize (initiators t).length (targets t).length :=
    (locality_exact h).length_encode.trans (locality_exact h).length
  simp only [heq, List.length_append, LawfulLayout.length_encode, Measure.all, List.map_cons,
    List.map_nil, List.flatMap_cons, List.flatMap_nil, List.length_nil, hs, tableSize,
    List.length_cons]
  have h36 : Layout.size Header = 36 := rfl
  have h4 : Layout.size UInt32 = 4 := rfl
  omega

theorem encode_complete (t : Topology) (oem : OemIdentity) : Complete oem.oemId (encode t oem) := by
  have ⟨header, hoem, _, heq⟩ := encode_eq t oem
  have hsize : Header.size ≤ (encode t oem).length := by
    rw [heq, List.length_append, LawfulLayout.length_encode]
    exact Nat.le_add_right ..
  constructor
  case size  => exact hsize
  case sum   =>
    rw [encode, Bytes.length_balanced] at hsize
    exact Bytes.sum_balanced (Nat.lt_of_lt_of_le (by decide) hsize)
  case oemId =>
    have hend : Header.oemIdOffset + 6 ≤ (Layout.encode header).length := by
      rw [LawfulLayout.length_encode]
      decide
    rw [heq, Bytes.slice_of_prefix (List.prefix_append ..) hend, Header.slice_encode_oemId, hoem]

theorem read?_encode (oem : OemIdentity)
    (h : tableSize (initiators t).length (targets t).length < UInt32.size) :
    ∃ header : Header, header.length.toNat = tableSize (initiators t).length (targets t).length ∧
      read? (encode t oem) = some (header, Measure.all.map (locality t)) := by
  have ⟨header, _, hlength, heq⟩ := encode_eq t oem
  have exact : ∀ l ∈ Measure.all.map (locality t), l.Exact := by
    intro l mem
    have ⟨m, _, hm⟩ := List.mem_map.mp mem
    exact hm ▸ locality_exact h
  refine ⟨header, hlength ▸ UInt32.toNat_ofNat_of_lt' h, ?_⟩
  simp [read?, heq, Layout.read?_encode, Locality.readAll?_encode exact]

theorem result_limits (t : Topology) (s : σ) :
    t.limits.result s =
      match t.extent with
      | .error e   => (.failed e, s)
      | .ok extent => if extent.Fits then (.done extent, s) else (.trapped, s) := by
  rw [Topology.limits, Action.result_bind]
  cases t.extent
  case error     => rfl
  case ok extent => by_cases fits : extent.Fits <;> simp [fits, Action.result_map]

theorem result_buildHmat (t : Topology) (oem : OemIdentity) (s : σ) :
    (buildHmat t oem).result s =
      match t.extent with
      | .error e   => (.failed e, s)
      | .ok extent =>
        if ¬extent.Fits then (.trapped, s)
        else if UInt32.size ≤ tableSize (initiators t).length (targets t).length then
          (.failed .outOfResources, s)
        else (.done (encode t oem), s) := by
  rw [buildHmat, Action.result_bind, Action.result_explaining, result_limits]
  cases t.extent
  case error     => rfl
  case ok extent =>
    by_cases fits : extent.Fits
    case neg => simp [fits]
    case pos =>
      by_cases long : UInt32.size ≤ tableSize (initiators t).length (targets t).length <;>
        simp [fits, long, Action.result_bind, Action.result_map]

theorem result_buildHmat_of_few (few : t.domains.length ≤ 64) (some : t.domains ≠ []) (s : σ) :
    (buildHmat t oem).result s = (.done (encode t oem), s) := by
  have ⟨extent, known, fits⟩ := extent_fits few some
  rw [result_buildHmat, known]
  dsimp only
  rw [if_neg (not_not_intro fits), if_neg (Nat.not_le.mpr (tableSize_lt few))]

-- The table of a board that has domains is complete, and small enough for its header.
theorem encode_of_buildHmat {s : σ} (h : ((buildHmat t oem).result s).1 = .done b) :
    b = encode t oem ∧
      tableSize (initiators t).length (targets t).length < UInt32.size := by
  rw [result_buildHmat] at h
  cases ht : t.extent
  case error     => rw [ht] at h; cases h
  case ok extent =>
    rw [ht] at h
    dsimp only at h
    split at h
    case isTrue  => cases h
    case isFalse =>
      split at h
      case isTrue      => cases h
      case isFalse lt  => cases h; exact ⟨rfl, Nat.not_le.mp lt⟩

end BoardFirmware.Acpi.Hmat
