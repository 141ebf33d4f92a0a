import BoardFirmware.Proofs.Lists
import BoardFirmware.Proofs.Store.Items

namespace BoardFirmware

-- The items that are used: as many as the limit allows, where zero is no limit.
def usedPart (limit : Nat) (items : List α) : List α :=
  items.take (if limit = 0 then items.length else min items.length limit)

theorem limited_eq (limit : Nat) (items : List α) : limited limit items = usedPart limit items := by
  rw [limited, usedPart]
  split
  case isTrue  => exact items.take_length.symm
  case isFalse => rw [Nat.min_comm, ← List.take_eq_take_min]

theorem usedPart_zero (items : List α) : usedPart 0 items = items :=
  items.take_length

theorem length_usedPart_lt {items : List α} (few : items.length < n) (limit : Nat) :
    (usedPart limit items).length < n :=
  Nat.lt_of_le_of_lt (List.length_take_le' ..) few

namespace Trigger

-- Bit 0 of the flags stands for an edge, bit 1 for one that falls or for a low level.
theorem testBit_zero_flags (t : Trigger) :
    t.flags.toNat.testBit 0 ↔ t = risingEdge ∨ t = fallingEdge := by
  cases t <;> decide

theorem testBit_one_flags (t : Trigger) :
    t.flags.toNat.testBit 1 ↔ t = fallingEdge ∨ t = lowLevel := by
  cases t <;> decide

theorem toNat_flags_lt (t : Trigger) : t.flags.toNat < 2 ^ 2 := by
  cases t <;> decide

end Trigger

namespace InterruptLine

variable {l : InterruptLine}

-- The number of a line among all lines. It may be too large for an interrupt.
def globalNumber (l : InterruptLine) : Nat :=
  l.number.toNat + match l.kind with
    | .shared  => 32
    | .perCore => 16

-- What an interrupt says about the line that it was made for.
structure Describes (l : InterruptLine) (i : Interrupt) : Prop where
  number    : i.number.toNat = l.globalNumber
  edge      : i.flags.toNat.testBit 0 ↔ l.trigger = .risingEdge ∨ l.trigger = .fallingEdge
  activeLow : i.flags.toNat.testBit 1 ↔ l.trigger = .fallingEdge ∨ l.trigger = .lowLevel
  others    : ∀ bit, 2 ≤ bit → i.flags.toNat.testBit bit = false

def interrupt (l : InterruptLine) : Interrupt :=
  ⟨l.number + l.kind.base, l.trigger.flags⟩

theorem globalNumber_eq (l : InterruptLine) :
    l.globalNumber = l.number.toNat + l.kind.base.toNat := by
  rw [globalNumber]
  cases l.kind <;> rfl

theorem interrupt?_of_lt (h : l.globalNumber < UInt32.size) : l.interrupt? = some l.interrupt := by
  rw [globalNumber_eq] at h
  rw [interrupt?, Word.add32?, if_pos h]
  rfl

theorem interrupt?_of_le (h : UInt32.size ≤ l.globalNumber) : l.interrupt? = none := by
  rw [globalNumber_eq] at h
  rw [interrupt?, Word.add32?, if_neg (Nat.not_lt.mpr h)]
  rfl

theorem describes_interrupt (h : l.globalNumber < UInt32.size) : l.Describes l.interrupt where
  number    := by
    rw [globalNumber_eq] at h ⊢
    exact (Word.add32?_eq_some_iff.mp (if_pos h)).symm
  edge      := l.trigger.testBit_zero_flags
  activeLow := l.trigger.testBit_one_flags
  others    := fun _ le => Nat.testBit_lt_two_pow <|
    Nat.lt_of_lt_of_le l.trigger.toNat_flags_lt (Nat.pow_le_pow_right Nat.two_pos le)

end InterruptLine

namespace Store

open BoardFirmware.Action InterruptLine

variable {s : Store} {limit : Nat}

-- The outcome gives the items back, with a token that finds them.
def Adds [Layout α] (id : ObjectId) (items : List α) (r : Outcome (List α × Token) × Store) :
    Prop :=
  ∃ own t, r = (.done (items, own), t) ∧ t.Gives id own items

-- The outcome is an error, and nothing has changed.
def Refuses (s : Store) (r : Outcome α × Store) : Prop :=
  ∃ status, r = (.failed status, s)

section

variable [Layout α] [LawfulLayout α] {used : List β} (few : used.length < UInt32.size)
include few

theorem adds_map (unique : s.Accounted []) (pos : 0 < Layout.size α) (h : s.Takes used.length)
    (id : ObjectId) (f : β → α) :
    Adds id (used.map f) ((Prod.mk (used.map f) <$> addItems id (used.map f)).result s) := by
  rw [← List.length_map f] at few h
  have ⟨own, t, ran, gives⟩ := addItems_of_takes few unique pos h id
  exact ⟨own, t, by rw [result_map, ran], gives⟩

theorem refuses_map (h : ¬s.Takes used.length) (id : ObjectId) (f : β → α) :
    s.Refuses ((Prod.mk (used.map f) <$> addItems id (used.map f)).result s) := by
  rw [← List.length_map f] at few h
  have ⟨status, ran⟩ := addItems_of_not_takes few h id
  exact ⟨status, by rw [result_map, ran]⟩

end

section

variable {regions : List MemoryRegion} (few : regions.length < UInt32.size)

theorem result_addMemoryRanges (s : Store) (regions : List MemoryRegion) (limit : Nat) :
    (addMemoryRanges regions limit).result s =
      let ranges := (usedPart limit regions).map MemoryRange.ofRegion
      (Prod.mk ranges <$> addItems .memoryRange ranges).result s := by
  simp only [addMemoryRanges, limited_eq, map_eq_pure_bind]

include few

theorem addMemoryRanges_of_takes (unique : s.Accounted [])
    (h : s.Takes (usedPart limit regions).length) :
    Adds .memoryRange ((usedPart limit regions).map MemoryRange.ofRegion)
      ((addMemoryRanges regions limit).result s) := by
  rw [result_addMemoryRanges]
  exact adds_map (length_usedPart_lt few limit) unique (by decide) h _ _

theorem addMemoryRanges_of_not_takes (h : ¬s.Takes (usedPart limit regions).length) :
    s.Refuses ((addMemoryRanges regions limit).result s) := by
  rw [result_addMemoryRanges]
  exact refuses_map (length_usedPart_lt few limit) h _ _

end

-- The lines that are used all have an interrupt, and the store takes as many.
structure TakesLines (s : Store) (used : List InterruptLine) : Prop where
  takes : s.Takes used.length
  fits  : ∀ l ∈ used, l.globalNumber < UInt32.size

section

variable {lines : List InterruptLine} (few : lines.length < UInt32.size)

-- Lines without an interrupt do not even reach the store.
theorem result_addInterrupts (s : Store) (lines : List InterruptLine) (limit : Nat) :
    (addInterrupts lines limit).result s =
      if ∀ l ∈ usedPart limit lines, l.globalNumber < UInt32.size then
        let interrupts := (usedPart limit lines).map InterruptLine.interrupt
        (Prod.mk interrupts <$> addItems .interrupt interrupts).result s
      else (.failed .invalidParameter, s) := by
  rw [addInterrupts, limited_eq]
  by_cases fits : ∀ l ∈ usedPart limit lines, l.globalNumber < UInt32.size
  case pos =>
    rw [if_pos fits, mapM_eq_some fun l mem => interrupt?_of_lt (fits l mem)]
    simp only [map_eq_pure_bind]
  case neg =>
    rw [if_neg fits]
    push Not at fits
    have ⟨l, mem, le⟩ := fits
    rw [mapM_eq_none mem (interrupt?_of_le le)]
    rfl

theorem result_addInterrupts_usedPart (s : Store) (lines : List InterruptLine) (limit : Nat) :
    (addInterrupts (usedPart limit lines) 0).result s = (addInterrupts lines limit).result s := by
  simp only [result_addInterrupts, usedPart_zero]

include few

theorem addInterrupts_of_takes (unique : s.Accounted [])
    (h : s.TakesLines (usedPart limit lines)) :
    ∃ interrupts, List.Forall₂ Describes (usedPart limit lines) interrupts ∧
      Adds .interrupt interrupts ((addInterrupts lines limit).result s) := by
  refine ⟨(usedPart limit lines).map interrupt, ?describes, ?adds⟩
  case describes =>
    rw [List.forall₂_map_right_iff]
    exact List.forall₂_same.mpr fun l mem => describes_interrupt (h.fits l mem)
  case adds =>
    rw [result_addInterrupts, if_pos h.fits]
    exact adds_map (length_usedPart_lt few limit) unique (by decide) h.takes _ _

theorem addInterrupts_of_not_takes (h : ¬s.TakesLines (usedPart limit lines)) :
    s.Refuses ((addInterrupts lines limit).result s) := by
  rw [result_addInterrupts]
  by_cases fits : ∀ l ∈ usedPart limit lines, l.globalNumber < UInt32.size
  case neg => exact ⟨_, if_neg fits⟩
  case pos =>
    rw [if_pos fits]
    exact refuses_map (length_usedPart_lt few limit) (fun takes => h ⟨takes, fits⟩) _ _

end

theorem resources_as_given (unique : s.Accounted []) (limit : Nat) :
    (∀ regions : List MemoryRegion, regions.length < UInt32.size →
      let used := usedPart limit regions
      let result := (addMemoryRanges regions limit).result s
      (s.Takes used.length → Adds .memoryRange (used.map fun r => ⟨r.base, r.length⟩) result) ∧
      (¬s.Takes used.length → s.Refuses result)) ∧
    ∀ lines : List InterruptLine, lines.length < UInt32.size →
      let used := usedPart limit lines
      let result := (addInterrupts lines limit).result s
      (s.TakesLines used → ∃ interrupts, List.Forall₂ Describes used interrupts ∧
        Adds .interrupt interrupts result) ∧
      (¬s.TakesLines used → s.Refuses result) ∧
      (addInterrupts used 0).result s = result where
  left _ few      := ⟨addMemoryRanges_of_takes few unique, addMemoryRanges_of_not_takes few⟩
  right lines few :=
    ⟨addInterrupts_of_takes few unique, addInterrupts_of_not_takes few,
      result_addInterrupts_usedPart s lines limit⟩

-- Three lines of a device. There is no interrupt with the number of the last.
def threeLines : List InterruptLine :=
  [⟨.shared, 10, .highLevel⟩, ⟨.perCore, 4, .fallingEdge⟩, ⟨.shared, 0xffffffff, .highLevel⟩]

-- Two of three lines take the only place of a store.
theorem resources_as_given_within_limit :
    ∃ own t,
      (addInterrupts threeLines 2).result (.empty 1) = (.done ([⟨42, 0⟩, ⟨20, 3⟩], own), t) ∧
      t.Gives .interrupt own [(⟨42, 0⟩ : Interrupt), ⟨20, 3⟩] ∧
      Refuses t ((addMemoryRanges [⟨0x3100000, 0x10000⟩] 0).result t) ∧
      Refuses (.empty 1) ((addInterrupts threeLines 0).result (.empty 1)) ∧
      Adds .memoryRange [(⟨0x3100000, 0x10000⟩ : MemoryRange)]
        ((addMemoryRanges [⟨0x3100000, 0x10000⟩, ⟨0x3200000, 0x1000⟩] 1).result (.empty 1)) := by
  have ran : (addInterrupts threeLines 2).result (.empty 1) =
      (.done ([⟨42, 0⟩, ⟨20, 3⟩], ⟨3⟩), ⟨[⟨.interrupt,
        [42, 0, 0, 0, 0, 0, 0, 0, 20, 0, 0, 0, 3, 0, 0, 0], 2, ⟨3⟩, [⟨1⟩, ⟨2⟩]⟩], 1, ⟨4⟩⟩) := rfl
  have ⟨_, _, _, _, same, gives⟩ := ((resources_as_given (.empty 1) 2).2 threeLines (by decide)).1
    ⟨⟨by decide, by decide, by decide⟩, by decide⟩
  rw [ran] at same
  cases same
  have ⟨_, refused, _⟩ := (resources_as_given (.empty 1) 0).2 threeLines (by decide)
  have ⟨ranges, _⟩ := (resources_as_given (.empty 1) 1).1
    [⟨0x3100000, 0x10000⟩, ⟨0x3200000, 0x1000⟩] (by decide)
  refine ⟨_, _, ran, gives, ?full, refused fun h => absurd h.fits (by decide),
    ranges ⟨by decide, by decide, by decide⟩⟩
  exact ((resources_as_given ⟨by decide, by decide⟩ 0).1 [⟨0x3100000, 0x10000⟩] (by decide)).2
    fun h => absurd h.place (by decide)

end Store

end BoardFirmware
