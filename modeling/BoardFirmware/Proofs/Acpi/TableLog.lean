import BoardFirmware.Proofs.Store.AppendOnly
import BoardFirmware.Proofs.Store.Frame
import BoardFirmware.Proofs.Store.Lookup

namespace BoardFirmware

namespace Store

variable {s : Store} {e : Entry} {id : ObjectId}

theorem indexOf?_of_entriesOf_nil (h : s.entriesOf id = []) (token : Token) :
    s.indexOf? id token = none := by
  cases s.indexOf?_cases id token
  case inl h' => exact h'
  case inr h' =>
    have ⟨_, e, _, he, hm⟩ := h'
    have : e ∈ s.entriesOf id := mem_entriesOf.mpr ⟨List.mem_of_getElem? he, hm.left⟩
    simp [h] at this

-- Null finds the only entry of a kind.
theorem indexOf?_null_of_only (only : s.entriesOf id = [e]) :
    ∃ k, s.indexOf? id .null = some k ∧ s.entries[k]? = some e := by
  have ⟨mem, hid⟩ : e ∈ s.entries ∧ e.id = id := mem_entriesOf.mp (by simp [only])
  obtain hnone | ⟨k, e', hk, he', hm⟩ := s.indexOf?_cases id .null
  case inl =>
    have := List.findIdx?_eq_none_iff.mp hnone e mem
    simp [Entry.Matches, Token.isNull, hid] at this
  case inr =>
    have : e' ∈ s.entriesOf id := mem_entriesOf.mpr ⟨List.mem_of_getElem? he', hm.left⟩
    rw [only, List.mem_singleton] at this
    exact ⟨k, hk, this ▸ he'⟩

end Store

namespace Acpi

open Store

variable {s t : Store} {tables : List TableEntry} {table : TableEntry} {e : Entry} {k : Nat}

-- The list in a store holds `tables`. Without a table there is no list.
inductive TableLog (s : Store) : List TableEntry → Prop
  | absent (none : s.entriesOf .acpiTableList = []) : TableLog s []
  | listed {tables : List TableEntry} {e : Entry} (only : s.entriesOf .acpiTableList = [e])
      (pos : e.count ≠ 0) (count : e.count.toNat = tables.length)
      (data : e.data = Layout.writeAll tables) : TableLog s tables

-- The first table needs an entry for the list, which takes a token.
def opening (tables : List α) : Nat :=
  if tables = [] then 1 else 0

theorem TableLog.keeps (h : TableLog s tables) (keeps : Keeps .acpiTableList s t) :
    TableLog t tables := by
  cases h
  case absent none          => exact .absent (keeps.trans none)
  case listed only pos c data => exact .listed (keeps.trans only) pos c data

theorem TableLog.elements (h : TableLog s tables) (only : s.entriesOf .acpiTableList = [e]) :
    e.descriptor.elements TableEntry = .ok tables := by
  cases h
  case absent none => simp [none] at only
  case listed only' _ _ data =>
    cases only'.symm.trans only
    rw [Descriptor.elements, Entry.descriptor, data]
    exact LawfulLayout.readAll_writeAll (by decide) tables

theorem TableLog.unique {tables' : List TableEntry} (h : TableLog s tables)
    (h' : TableLog s tables') : tables = tables' := by
  cases h
  case absent none =>
    cases h'
    case absent            => rfl
    case listed only _ _ _ => simp [none] at only
  case listed e only pos count data =>
    have he : e.descriptor.elements TableEntry = .ok tables :=
      (TableLog.listed only pos count data).elements only
    exact Except.ok.inj (he.symm.trans (h'.elements only))

theorem TableLog.eq_nil (h : TableLog s tables) (none : s.entriesOf .acpiTableList = []) :
    tables = [] :=
  h.unique (.absent none)

theorem TableLog.eq_nil_iff (h : TableLog s tables) :
    tables = [] ↔ s.entriesOf .acpiTableList = [] := by
  refine ⟨fun heq => ?_, h.eq_nil⟩
  cases h
  case absent none              => exact none
  case listed e _ pos count _   =>
    have zero : e.count.toNat = 0 := count.trans (congrArg List.length heq)
    exact absurd (UInt32.toNat_inj.mp zero) pos

-- The number of elements is a word.
theorem TableLog.length_lt (h : TableLog s tables) : tables.length < UInt32.size := by
  cases h
  case absent             => decide
  case listed e _ _ count _ => exact count ▸ e.count.toNat_lt

theorem result_listTable (s : Store) (table : TableEntry) :
    (listTable table).result s =
      match (extend .acpiTableList (Layout.encode table) 1 .null).result s with
      | (.done _, t)           => (.done (), t)
      | (.failed .notFound, t) =>
        ((fun _ => ()) <$> add .acpiTableList (Layout.encode table) 1).result t
      | (.failed e, t)         => (.failed e, t)
      | (.trapped, t)          => (.trapped, t) := by
  rw [listTable, Action.result_bind, Action.result_attempt, extendGroup]
  rcases (extend .acpiTableList (Layout.encode table) 1 .null).result s with ⟨_ | e | _, t⟩
  case done    => rfl
  case trapped => rfl
  case failed  =>
    cases e
    case notFound =>
      simp [addGroup, checkDescriptor, Action.result_map]
    all_goals rfl

-- How listing a table may end.
inductive ListEnds (s : Store) (tables : List TableEntry) (table : TableEntry) :
    Outcome Unit × Store → Prop
  | done {t : Store} (log : TableLog t (tables ++ [table]))
      (length : t.entries.length = s.entries.length + opening tables)
      (capacity : t.capacity = s.capacity)
      (room : tables = [] → s.entries.length < s.capacity)
      (provides : s.tokens.Provides (opening tables + 1))
      (tokens : t.tokens = s.tokens.advance (opening tables + 1)) :
      ListEnds s tables table (.done (), t)
  | full (none : s.entriesOf .acpiTableList = []) (full : s.capacity ≤ s.entries.length) :
      ListEnds s tables table (.failed .outOfResources, s)
  | exhausted (h : ¬s.tokens.Provides (opening tables + 1)) :
      ListEnds s tables table (.failed .outOfResources, s)
  | trapped (overflow : UInt32.size ≤ tables.length + 1) (t : Store) :
      ListEnds s tables table (.trapped, t)

theorem ListEnds.tableLog {outcome : Outcome Unit} (h : ListEnds s tables table (outcome, t))
    (log : TableLog s tables) (ret : outcome ≠ .trapped) :
    TableLog t (if outcome.isOk then tables ++ [table] else tables) := by
  cases h
  case done log' _ _ _ => exact log'
  case full              => exact log
  case exhausted         => exact log
  case trapped           => exact absurd rfl ret

theorem listEnds_of_absent (none : s.entriesOf .acpiTableList = []) (table : TableEntry) :
    ListEnds s [] table ((listTable table).result s) := by
  have hn := indexOf?_of_entriesOf_nil none .null
  rw [result_listTable, result_extend_of_none (by decide) (by decide) hn]
  simp only [Action.result_map, result_add, UInt32.toNat_one, Nat.reduceAdd]
  by_cases full : s.capacity ≤ s.entries.length
  case pos => rw [if_neg (by decide), if_pos full]; exact .full none full
  by_cases hp : s.tokens.Provides 2
  case neg => rw [if_neg (by decide), if_neg full, if_pos hp]; exact .exhausted hp
  rw [if_neg (by decide), if_neg full, if_neg (not_not.mpr hp)]
  have only : ((s.advance 2).push (s.newEntry .acpiTableList (Layout.encode table) 1)).entriesOf
      .acpiTableList = [s.newEntry .acpiTableList (Layout.encode table) 1] :=
    (entriesOf_push_of_eq rfl).trans (congrArg (· ++ [_]) none)
  have pos : (1 : UInt32) ≠ 0 := by decide
  refine .done (.listed only pos rfl ?_) (by simp [opening]) rfl ?_ hp rfl
  case refine_1 => simp [newEntry, Layout.writeAll]
  case refine_2 => exact fun _ => Nat.not_le.mp full

theorem listEnds_of_listed (only : s.entriesOf .acpiTableList = [e]) (pos : e.count ≠ 0)
    (count : e.count.toNat = tables.length) (data : e.data = Layout.writeAll tables)
    (table : TableEntry) : ListEnds s tables table ((listTable table).result s) := by
  have ⟨k, hk, he⟩ := indexOf?_null_of_only only
  have mem : e ∈ s.entriesOf .acpiTableList := by simp [only]
  have hid : e.id = .acpiTableList := (mem_entriesOf.mp mem).right
  have hne : tables ≠ [] := by
    have := Word.toNat32_pos pos
    exact List.length_pos_iff.mp (by omega)
  have hopen : opening tables = 0 := if_neg hne
  -- All elements have the size of a table, which is what the extension compares.
  have hsize : e.elementSize? = some (Layout.size TableEntry) := by
    rw [Entry.elementSize?_of_ne_zero pos, data, LawfulLayout.length_writeAll, ← count,
      Nat.mul_div_cancel_left _ (Word.toNat32_pos pos)]
  rw [result_listTable, result_extend_of_some (by decide) (by decide) _ hk he, hsize]
  simp only [LawfulLayout.length_encode, UInt32.toNat_one, Nat.div_one, ne_eq, not_true, if_false]
  by_cases hp : s.tokens.Provides 1
  case neg =>
    rw [if_pos hp]
    exact .exhausted (by rwa [hopen])
  rw [if_neg (not_not.mpr hp)]
  cases ht : Word.add32? e.count 1
  case none =>
    have : ¬e.count.toNat + (1 : UInt32).toNat < UInt32.size := by simpa [Word.add32?] using ht
    exact .trapped (by rw [← count]; exact Nat.not_lt.mp this) _
  case some total =>
    have total_eq := Word.add32?_eq_some_iff.mp ht
    have only' := entriesOf_growAt_of_only (s := s.advance 1) he (hid ▸ only)
      (Layout.encode table) (s.tokens.upcoming 1) total
    refine .done (.listed (hid ▸ only') ?_ ?_ ?_) ?_ rfl (absurd · hne) ?_ ?_
    case refine_1 => exact fun (hz : total = 0) => by simp [hz] at total_eq
    case refine_2 => simp [Entry.grown, ← total_eq, count]
    case refine_3 => simp [Entry.grown, data, Layout.writeAll]
    case refine_4 => simp [hopen]
    case refine_5 => rwa [hopen]
    case refine_6 => rw [hopen]; rfl

theorem TableLog.ends (h : TableLog s tables) (table : TableEntry) :
    ListEnds s tables table ((listTable table).result s) := by
  cases h
  case absent none                => exact listEnds_of_absent none table
  case listed only pos count data => exact listEnds_of_listed only pos count data table

end Acpi

end BoardFirmware
