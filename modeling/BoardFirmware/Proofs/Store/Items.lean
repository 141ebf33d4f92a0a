import BoardFirmware.Acpi.Affinity
import BoardFirmware.Proofs.Store.Referenced
import BoardFirmware.Proofs.Store.Unlisted

namespace BoardFirmware

-- The types of the values that are stored as elements.
inductive ElementType where
  | tableEntry
  | memoryAffinity
  | memoryRange
  | interrupt
  -- The value of a token that refers to an object.
  | reference
  deriving DecidableEq

namespace ElementType

def Value : ElementType → Type
  | tableEntry     => Acpi.TableEntry
  | memoryAffinity => Acpi.MemoryAffinity
  | memoryRange    => MemoryRange
  | interrupt      => Interrupt
  | reference      => UInt64

instance : (k : ElementType) → Layout k.Value
  | tableEntry     => inferInstanceAs (Layout Acpi.TableEntry)
  | memoryAffinity => inferInstanceAs (Layout Acpi.MemoryAffinity)
  | memoryRange    => inferInstanceAs (Layout MemoryRange)
  | interrupt      => inferInstanceAs (Layout Interrupt)
  | reference      => inferInstanceAs (Layout UInt64)

instance : (k : ElementType) → LawfulLayout k.Value
  | tableEntry     => inferInstanceAs (LawfulLayout Acpi.TableEntry)
  | memoryAffinity => inferInstanceAs (LawfulLayout Acpi.MemoryAffinity)
  | memoryRange    => inferInstanceAs (LawfulLayout MemoryRange)
  | interrupt      => inferInstanceAs (LawfulLayout Interrupt)
  | reference      => inferInstanceAs (LawfulLayout UInt64)

-- How many bytes an element takes.
def size : ElementType → Nat
  | tableEntry     => 40
  | memoryAffinity => 32
  | memoryRange    => 16
  | interrupt      => 8
  | reference      => 8

theorem layout_size (k : ElementType) : Layout.size k.Value = k.size := by
  cases k <;> rfl

theorem size_pos (k : ElementType) : 0 < k.size := by
  cases k <;> decide

end ElementType

namespace Store

open BoardFirmware.Action

variable {s t : Store} {id : ObjectId} {own : Token}

-- There are elements, a place for one more entry, and a token for each element and for the entry.
structure Takes (s : Store) (count : Nat) : Prop where
  pos    : 0 < count
  place  : s.entries.length < s.capacity
  tokens : s.tokens.issued + (count + 1) < UInt64.size

theorem takes_iff_admits (s : Store) (d : Descriptor) :
    s.Takes d.count.toNat ↔ s.Admits d none where
  mp h  := ⟨UInt32.toNat_inj.ne.mp (Nat.ne_of_gt h.pos), h.place, h.tokens, nofun⟩
  mpr h := ⟨Word.toNat32_pos h.pos, h.room, h.tokens⟩

-- The token finds an entry with these items as its elements, and no others.
def Gives [Layout α] (s : Store) (id : ObjectId) (token : Token) (items : List α) : Prop :=
  ∃ e, (find id token).result s = (.done e, s) ∧
    (lookup id token).result s = (.done e.descriptor, s) ∧
    e.count.toNat = items.length ∧ e.descriptor.elements α = .ok items

theorem result_addGroup (s : Store) (d : Descriptor) :
    (addGroup d).result s =
      if d.count = 0 then (.failed .invalidParameter, s)
      else (add d.id d.data d.count).result s := by
  rw [addGroup, result_bind, result_checkDescriptor]
  by_cases h : d.count = 0 <;> simp [h]

-- The token of an entry that was added is new, so it leads nowhere else.
theorem found_of_add {data : Bytes} {count : UInt32} {a : List Token × Token}
    (unique : s.Accounted []) (h : (add id data count).result s = (.done a, t)) :
    ∃ e, (find id a.2).result t = (.done e, t) ∧
      (lookup id a.2).result t = (.done e.descriptor, t) ∧ e.descriptor = ⟨id, data, count⟩ := by
  have custody : KeepsCustody s t := (Stable.add id data count).rel h nofun
  have nodup := (custody [] unique).nodup_stored
  have proper := proper_of_add h a.2 List.mem_cons_self
  have ⟨_, _, _, ha, ht⟩ := add_of_done h
  have he : t.entries[s.entries.length]? = some (s.newEntry id data count) := by simp [ht]
  have own : (s.newEntry id data count).token = a.2 := by rw [ha]
  have mem := Entry.token_mem_tokens (own ▸ proper)
  have found := indexOf?_of_mem_tokens nodup he mem
  have looked := result_lookup_of_token nodup he (own ▸ proper)
  rw [own] at found looked
  exact ⟨_, result_find_of_some found he, looked, rfl⟩

section

variable [Layout α] [LawfulLayout α] {items : List α}

-- The items as the elements of one descriptor.
def descriptorOf (id : ObjectId) (items : List α) : Descriptor :=
  ⟨id, Layout.writeAll items, UInt32.ofNat items.length⟩

variable (few : items.length < UInt32.size)
include few

omit [LawfulLayout α] in
theorem toNat_count_descriptorOf (id : ObjectId) :
    (descriptorOf id items).count.toNat = items.length :=
  UInt32.toNat_ofNat_of_lt' few

omit [LawfulLayout α] in
theorem admits_descriptorOf_iff (s : Store) (id : ObjectId) :
    s.Admits (descriptorOf id items) none ↔ s.Takes items.length := by
  rw [← takes_iff_admits, toNat_count_descriptorOf few]

-- Items divide evenly, so only the store can refuse them.
theorem result_addItems (s : Store) (id : ObjectId) :
    (addItems id items).result s = (Prod.snd <$> addGroup (descriptorOf id items)).result s := by
  have even : (Layout.writeAll items).length % (UInt32.ofNat items.length).toNat = 0 := by
    rw [UInt32.toNat_ofNat_of_lt' few, LawfulLayout.length_writeAll, Nat.mul_mod_right]
  rw [addItems, result_bind, result_ofElements, even]
  by_cases none : UInt32.ofNat items.length = 0
  case pos => simp [result_map, result_addGroup, descriptorOf, none]
  case neg => simp [result_map, descriptorOf, none]

theorem addItems_of_takes (unique : s.Accounted []) (pos : 0 < Layout.size α)
    (h : s.Takes items.length) (id : ObjectId) :
    ∃ own t, (addItems id items).result s = (.done own, t) ∧ t.Gives id own items := by
  have admits := (admits_descriptorOf_iff few s id).mpr h
  have ran := result_add_of_admits admits
  have ⟨e, found, looked, same⟩ := found_of_add unique ran
  refine ⟨_, _, ?ran, e, found, looked, ?count, ?elements⟩
  case ran => rw [result_addItems few, result_map, result_addGroup, if_neg admits.pos, ran]
  case count =>
    have count : e.count = (descriptorOf id items).count := congrArg Descriptor.count same
    rw [count, toNat_count_descriptorOf few]
  case elements =>
    rw [same]
    exact LawfulLayout.readAll_writeAll pos items

theorem addItems_of_not_takes (h : ¬s.Takes items.length) (id : ObjectId) :
    ∃ status, (addItems id items).result s = (.failed status, s) := by
  have admits := (admits_descriptorOf_iff few s id).not.mpr h
  rw [result_addItems few, result_map, result_addGroup]
  by_cases none : (descriptorOf id items).count = 0
  case pos => exact ⟨_, by rw [if_pos none]⟩
  case neg =>
    have ⟨status, ran⟩ := result_add_of_not_admits admits
    exact ⟨status, by rw [if_neg none, ran]⟩

end

theorem elements_round_trip (k : ElementType) :
    (∀ values : List k.Value, Layout.readAll (Layout.writeAll values) = .ok values) ∧
    (∀ b : Bytes, k.size ∣ b.length →
      ∃ values : List k.Value, Layout.readAll b = .ok values ∧ Layout.writeAll values = b) ∧
    (∀ b : Bytes, ¬k.size ∣ b.length →
      (Layout.readAll b : Except Status (List k.Value)) = .error .invalidParameter) ∧
    ∀ (s : Store) (id : ObjectId) (values : List k.Value), s.Accounted [] →
      values.length < UInt32.size →
      (((addItems id values).result s).1.isOk ↔ s.Takes values.length) ∧
      ∀ own t, (addItems id values).result s = (.done own, t) → t.Gives id own values := by
  have pos : 0 < Layout.size k.Value := k.layout_size ▸ k.size_pos
  refine ⟨LawfulLayout.readAll_writeAll pos, fun b even => ?even, fun b uneven => ?uneven,
    fun s id values unique few => ?stored⟩
  case even   => exact LawfulLayout.readAll_of_dvd pos (k.layout_size ▸ even)
  case uneven => exact Layout.readAll_of_not_dvd (k.layout_size ▸ uneven)
  case stored =>
    by_cases takes : s.Takes values.length
    case pos =>
      have ⟨own, t, ran, gives⟩ := addItems_of_takes few unique pos takes id
      rw [ran]
      exact ⟨iff_of_true rfl takes, fun own' t' h => by cases h; exact gives⟩
    case neg =>
      have ⟨status, ran⟩ := addItems_of_not_takes few takes id
      rw [ran]
      exact ⟨iff_of_false nofun takes, nofun⟩

-- Two interrupts take the last place of a store in which an element was added under a reserved
-- token.
theorem elements_round_trip_interrupts :
    ∃ s t, Reachable 2 s ∧ s.Accounted [] ∧
      (addItems .interrupt [(⟨42, 0⟩ : Interrupt), ⟨20, 1⟩]).result s = (.done ⟨5⟩, t) ∧
      t.Gives .interrupt ⟨5⟩ [(⟨42, 0⟩ : Interrupt), ⟨20, 1⟩] ∧
      (∃ values : List Interrupt,
        Layout.readAll [42, 0, 0, 0, 3, 0, 0, 0] = .ok values ∧
        Layout.writeAll values = [42, 0, 0, 0, 3, 0, 0, 0]) ∧
      (Layout.readAll [42, 0, 0, 0, 3] : Except Status (List Interrupt)) =
        .error .invalidParameter := by
  have reach : Reachable 2 ⟨[⟨.memoryRange, [1, 2], 1, ⟨2⟩, [⟨1⟩]⟩], 2, ⟨3⟩⟩ :=
    .request (.operation (.addWithElementTokens .memoryRange [1, 2] 1 [⟨1⟩] .null))
      (.request (.operation (.allocate 1)) .empty nofun) nofun
  have unique : Accounted ⟨[⟨.memoryRange, [1, 2], 1, ⟨2⟩, [⟨1⟩]⟩], 2, ⟨3⟩⟩ [] :=
    ⟨by decide, by decide⟩
  have ran : (addItems .interrupt [(⟨42, 0⟩ : Interrupt), ⟨20, 1⟩]).result
      ⟨[⟨.memoryRange, [1, 2], 1, ⟨2⟩, [⟨1⟩]⟩], 2, ⟨3⟩⟩ = (.done ⟨5⟩,
        ⟨[⟨.memoryRange, [1, 2], 1, ⟨2⟩, [⟨1⟩]⟩, ⟨.interrupt,
          [42, 0, 0, 0, 0, 0, 0, 0, 20, 0, 0, 0, 1, 0, 0, 0], 2, ⟨5⟩, [⟨3⟩, ⟨4⟩]⟩], 2, ⟨6⟩⟩) := rfl
  have ⟨_, read, refused, stored⟩ := elements_round_trip .interrupt
  have ⟨_, gives⟩ := stored _ .interrupt [⟨42, 0⟩, ⟨20, 1⟩] unique (by decide)
  exact ⟨_, _, reach, unique, ran, gives _ _ ran, read _ (by decide), refused _ (by decide)⟩

end Store

end BoardFirmware
