import BoardFirmware.Proofs.Eeprom.Contents
import Mathlib.Data.List.TakeWhile

namespace BoardFirmware.Eeprom

-- Bytes that are kept in a text.
def IsCharacter (b : UInt8) : Prop :=
  b ≠ 0 ∧ b < 0x80

instance : DecidablePred IsCharacter := fun b => by
  unfold IsCharacter
  infer_instance

-- The text in a field: what comes before its first NUL, without bytes that are not ASCII.
def textOf (field : Bytes) : Bytes :=
  (field.takeWhile (· ≠ 0)).filter (· < 0x80)

theorem textOf_cons (b : UInt8) (r : Bytes) :
    textOf (b :: r) = if b = 0 then [] else if b < 0x80 then b :: textOf r else textOf r := by
  rw [textOf, List.takeWhile_cons]
  by_cases nul : b = 0
  case pos => simp [nul]
  case neg => simp [nul, List.filter_cons, textOf]

theorem ascii_eq (room : Nat) (field : Bytes) : ascii room field = (textOf field).take room := by
  induction field generalizing room
  case nil => rw [ascii, textOf, List.takeWhile_nil, List.filter_nil, List.take_nil]
  case cons b r ih =>
    rw [ascii, textOf_cons]
    split
    case isTrue => rw [List.take_nil]
    case isFalse =>
      split
      case isTrue high => rw [ih, if_neg (UInt8.not_lt.mpr high)]
      case isFalse low =>
        rw [if_pos (UInt8.not_le.mp low)]
        cases room
        case zero => rfl
        case succ => exact congrArg (List.cons b) (ih _)

theorem length_textOf_le (field : Bytes) : (textOf field).length ≤ field.length :=
  (List.length_filter_le ..).trans (List.takeWhile_prefix _).length_le

theorem isCharacter_of_mem_textOf {field : Bytes} (mem : b ∈ textOf field) : IsCharacter b := by
  have ⟨before, low⟩ := List.mem_filter.mp mem
  have ne : decide (b ≠ 0) = true := List.mem_takeWhile_imp (p := fun b => decide (b ≠ 0)) before
  exact ⟨of_decide_eq_true ne, of_decide_eq_true low⟩

-- There is room for all of a field that is no longer than the text.
theorem ascii_eq_textOf {room : Nat} {field : Bytes} (h : field.length ≤ room) :
    ascii room field = textOf field := by
  rw [ascii_eq, List.take_of_length_le ((length_textOf_le field).trans h)]

-- Characters at the start of a field are all kept.
theorem textOf_append {a : Bytes} (h : ∀ b ∈ a, IsCharacter b) (rest : Bytes) :
    textOf (a ++ rest) = a ++ textOf rest := by
  induction a
  case nil => rfl
  case cons b a ih =>
    have ⟨⟨ne, low⟩, others⟩ := List.forall_mem_cons.mp h
    rw [List.cons_append, textOf_cons, if_neg ne, if_pos low, ih others]
    rfl

namespace Image

-- The customer's block has its two signatures, `NVCB` and `M1`.
def IsCustomized (i : Image) : Prop :=
  i.field 150 4 = [0x4e, 0x56, 0x43, 0x42] ∧ i.field 156 2 = [0x4d, 0x31]

instance (i : Image) : Decidable i.IsCustomized := by
  unfold IsCustomized
  infer_instance

variable {i j : Image}

theorem customer_isPresent_iff : i.contents.customer.IsPresent ↔ i.IsCustomized := by
  rw [CustomerBlock.IsPresent, ← Vector.toList_inj, ← Vector.toList_inj, toList_blockSignature,
    toList_typeSignature]
  rfl

-- The images have the same bytes where a board is identified. Not all chips count addresses.
structure Agree (i : Image) (chip : Chip) (j : Image) : Prop where
  partNumber        : i.field 20 30 = j.field 20 30
  macAddress        : i.field 68 6 = j.field 68 6
  serialNumber      : i.field 74 15 = j.field 74 15
  blockSignature    : i.field 150 4 = j.field 150 4
  typeSignature     : i.field 156 2 = j.field 156 2
  customerAddress   : i.field 172 6 = j.field 172 6
  addressCounts     : chip = .t234 → i[19] = j[19] ∧ i[178] = j[178]

end Image

-- What an image says about its board, read off its bytes.
structure BoardInfo.Describes (info : BoardInfo) (i : Image) (chip : Chip) : Prop where
  boardId      : info.boardId = textOf (i.field 25 4)
  productId    : info.productId = textOf (i.field 20 30)
  serialNumber : info.serialNumber = textOf (i.field 74 15)
  customer     : i.IsCustomized →
    info.macAddress = i.field 172 6 ∧ info.addressCount = if chip = .t234 then i[178] else 1
  factory      : ¬i.IsCustomized →
    info.macAddress = i.field 68 6 ∧ info.addressCount = if chip = .t234 then i[19] else 1

namespace BoardInfo

-- The text fits a field, and all of it can be printed.
def IsName (length : Nat) (text : Bytes) : Prop :=
  text.length ≤ length ∧ ∀ b ∈ text, IsCharacter b

variable {info info' : BoardInfo} {i j : Image} {chip : Chip}

theorem isName_textOf {field : Bytes} (h : field.length = length) : IsName length (textOf field) :=
  ⟨h ▸ length_textOf_le field, fun _ => isCharacter_of_mem_textOf⟩

namespace Describes

theorem unique (h : info.Describes i chip) (h' : info'.Describes i chip) : info = info' := by
  have addresses : info.macAddress = info'.macAddress ∧ info.addressCount = info'.addressCount := by
    by_cases customized : i.IsCustomized
    case pos =>
      have ⟨mac, count⟩ := h.customer customized
      have ⟨mac', count'⟩ := h'.customer customized
      exact ⟨mac.trans mac'.symm, count.trans count'.symm⟩
    case neg =>
      have ⟨mac, count⟩ := h.factory customized
      have ⟨mac', count'⟩ := h'.factory customized
      exact ⟨mac.trans mac'.symm, count.trans count'.symm⟩
  cases info
  cases info'
  rw [mk.injEq]
  exact ⟨h.boardId.trans h'.boardId.symm, h.productId.trans h'.productId.symm,
    h.serialNumber.trans h'.serialNumber.symm, addresses⟩

-- An image with the same bytes in these places says the same.
theorem congr (h : info.Describes i chip) (same : i.Agree chip j) : info.Describes j chip := by
  have boardId : i.field 25 4 = j.field 25 4 := by
    have part (i : Image) : (i.field 20 30).slice 5 4 = i.field 25 4 :=
      Bytes.slice_slice (by decide)
    rw [← part i, same.partNumber, part j]
  have customized : i.IsCustomized ↔ j.IsCustomized := by
    rw [Image.IsCustomized, same.blockSignature, same.typeSignature, Image.IsCustomized]
  refine ⟨?_, ?_, ?_, fun c => ?_, fun c => ?_⟩
  · rw [h.boardId, boardId]
  · rw [h.productId, same.partNumber]
  · rw [h.serialNumber, same.serialNumber]
  · have ⟨mac, count⟩ := h.customer (customized.mpr c)
    refine ⟨mac.trans same.customerAddress, count.trans ?_⟩
    split
    case isTrue counts => exact (same.addressCounts counts).2
    case isFalse       => rfl
  · have ⟨mac, count⟩ := h.factory (mt customized.mp c)
    refine ⟨mac.trans same.macAddress, count.trans ?_⟩
    split
    case isTrue counts => exact (same.addressCounts counts).1
    case isFalse       => rfl

-- If the part number starts with nine characters, the ID of the board is the last four of them.
theorem boardId_eq (h : info.Describes i chip) (characters : ∀ b ∈ i.field 20 9, IsCharacter b) :
    info.boardId = info.productId.slice 5 4 := by
  have part : (i.field 20 9).slice 5 4 = i.field 25 4 := Bytes.slice_slice (by decide)
  have inside : ∀ b ∈ i.field 25 4, IsCharacter b := fun b mem =>
    characters b (List.mem_of_mem_drop (List.mem_of_mem_take (part ▸ mem)))
  calc info.boardId
    _ = textOf (i.field 25 4 ++ [])                            := by
      rw [h.boardId, List.append_nil]
    _ = i.field 25 4                                           := by
      rw [textOf_append inside]
      exact List.append_nil _
    _ = (i.field 20 9 ++ textOf (i.field 29 21)).slice 5 4     := by
      rw [Bytes.slice_of_prefix (List.prefix_append ..), part]
      exact (i.length_field (by decide)).ge
    _ = info.productId.slice 5 4                               := by
      rw [← textOf_append characters, h.productId]
      exact congrArg (fun b => (textOf b).slice 5 4) (Bytes.slice_add i.toList 20 9 21).symm

end Describes

end BoardInfo

variable {chip : Chip} {g : Generation}

theorem boardInfo_of_generation (i : Image) (h : generation chip = .ok g) :
    boardInfo i chip = .ok
      { boardId      := textOf (i.field 25 4)
        productId    := textOf (i.field 20 30)
        serialNumber := textOf (i.field 74 15)
        macAddress   := if i.IsCustomized then i.field 172 6 else i.field 68 6
        addressCount :=
          if g.countsAddresses then (if i.IsCustomized then i[178] else i[19]) else 1 } := by
  have boardId : ascii boardIdLength i.contents.partNumber.boardId.toList =
      textOf (i.field 25 4) := by
    rw [i.toList_boardId]
    exact ascii_eq_textOf (i.length_field (by decide)).le
  have productId : ascii productIdLength (Layout.encode i.contents.partNumber) =
      textOf (i.field 20 30) := by
    rw [i.encode_partNumber]
    exact ascii_eq_textOf (i.length_field (by decide)).le
  have serialNumber : ascii serialNumberLength i.contents.serialNumber.toList =
      textOf (i.field 74 15) := by
    rw [i.toList_serialNumber]
    exact ascii_eq_textOf (i.length_field (by decide)).le
  simp only [boardInfo, h, Image.customer_isPresent_iff, boardId, productId, serialNumber]
  by_cases customized : i.IsCustomized
  case pos =>
    simp only [if_pos customized, i.toList_customer_macAddress, i.customerAddressCount_eq]
    rfl
  case neg =>
    simp only [if_neg customized, i.toList_macAddress, i.addressCount_eq]
    rfl

theorem exists_describes (i : Image) (known : chip = .t194 ∨ chip = .t234) :
    ∃ info, boardInfo i chip = .ok info ∧ info.Describes i chip := by
  obtain ⟨g, hg, counts⟩ :
      ∃ g, generation chip = .ok g ∧ (g.countsAddresses = true ↔ chip = .t234) := by
    obtain rfl | rfl := known
    case inl => exact ⟨t194, rfl, by decide⟩
    case inr => exact ⟨t234, rfl, by decide⟩
  refine ⟨_, boardInfo_of_generation i hg, rfl, rfl, rfl, fun c => ?_, fun c => ?_⟩
  · simp only [if_pos c, counts, and_self]
  · simp only [if_neg c, counts, and_self]

-- For a chip with an EEPROM, a board is identified by its part number, its serial number and its
-- addresses, and by nothing else in the image.
theorem boardInfo_exact (i : Image) (known : chip = .t194 ∨ chip = .t234) :
    ∃ info, boardInfo i chip = .ok info ∧ info.Describes i chip ∧
      BoardInfo.IsName boardIdLength info.boardId ∧
      BoardInfo.IsName productIdLength info.productId ∧
      BoardInfo.IsName serialNumberLength info.serialNumber ∧
      (∀ j, i.Agree chip j → boardInfo j chip = .ok info) ∧
      ((∀ b ∈ i.field 20 9, IsCharacter b) → info.boardId = info.productId.slice 5 4) := by
  have ⟨info, ok, describes⟩ := exists_describes i known
  refine ⟨info, ok, describes, ?boardId, ?productId, ?serialNumber, fun j same => ?agree,
    describes.boardId_eq⟩
  case boardId =>
    rw [describes.boardId]
    exact BoardInfo.isName_textOf (i.length_field (by decide))
  case productId =>
    rw [describes.productId]
    exact BoardInfo.isName_textOf (i.length_field (by decide))
  case serialNumber =>
    rw [describes.serialNumber]
    exact BoardInfo.isName_textOf (i.length_field (by decide))
  case agree =>
    have ⟨info', ok', describes'⟩ := exists_describes j known
    rw [ok', describes'.unique (describes.congr same)]

-- An image with the part number `699-13668-0000-300 A.0`, and with four addresses of the customer.
def Image.labelled : Image :=
  let partNumber : Bytes :=
    [0x36, 0x39, 0x39, 0x2d, 0x31, 0x33, 0x36, 0x36, 0x38, 0x2d, 0x30, 0x30, 0x30, 0x30, 0x2d, 0x33,
      0x30, 0x30, 0x20, 0x41, 0x2e, 0x30]
  let block : Bytes := [0x4e, 0x56, 0x43, 0x42, 28, 0, 0x4d, 0x31]
  let addresses : Bytes := [0x02, 0x04, 0x4b, 0x0a, 0x0b, 0x0c, 4]
  let bytes := List.replicate 20 0 ++ partNumber ++ List.replicate 108 0 ++ block ++
    List.replicate 14 0 ++ addresses
  ⟨(Bytes.fit imageSize bytes).toArray, by simp⟩

set_option maxRecDepth 4000 in
-- The board is a 3668, and a reserved byte makes no difference.
theorem boardInfo_exact_labelled :
    ∃ info, boardInfo .labelled .t234 = .ok info ∧
      boardInfo (Image.labelled.set 100 0xff) .t234 = .ok info ∧
      info.boardId = [0x33, 0x36, 0x36, 0x38] ∧ info.boardId = info.productId.slice 5 4 ∧
      info.macAddress = [0x02, 0x04, 0x4b, 0x0a, 0x0b, 0x0c] ∧ info.addressCount = 4 := by
  have ⟨info, ok, describes, _, _, _, only, part⟩ := boardInfo_exact .labelled (.inr rfl)
  have ⟨mac, count⟩ := describes.customer (by decide +kernel)
  have same : Image.labelled.Agree .t234 (Image.labelled.set 100 0xff) :=
    ⟨by decide +kernel, by decide +kernel, by decide +kernel, by decide +kernel, by decide +kernel,
      by decide +kernel, fun _ => by decide +kernel⟩
  refine ⟨info, ok, only _ same, ?_, part (by decide +kernel), ?_, ?_⟩
  · rw [describes.boardId]
    decide +kernel
  · rw [mac]
    decide +kernel
  · rw [count]
    decide +kernel

end BoardFirmware.Eeprom
