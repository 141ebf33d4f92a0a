import BoardFirmware.Proofs.Store.Steps

/-!
Elements that are stored without a list of references to them. Elements and list are two entries,
added one after the other, and nothing that is stored is ever taken back. So if the list is refused
the elements stay, although the request for both is refused as well. In all other cases a refused
request leaves the entries as they were.
-/

namespace BoardFirmware.Store

open BoardFirmware.Action

variable {s : Store} {d : Descriptor} {reserved : Option (List Token)}

-- How many tokens are given out for the elements and their entry.
def tokensTaken (d : Descriptor) : Option (List Token) → Nat
  | none   => d.count.toNat + 1
  | some _ => 1

-- The entry that the elements are stored in.
def elementsEntry (s : Store) (d : Descriptor) : Option (List Token) → Entry
  | none          => s.newEntry d.id d.data d.count
  | some reserved =>
    ⟨d.id, d.data, d.count, ⟨s.tokens.next⟩, reserved.take (tokensNeeded d.id d.count)⟩

-- The store with the elements, before anything is done about the list.
def withElements (s : Store) (d : Descriptor) (reserved : Option (List Token)) : Store :=
  (s.advance (tokensTaken d reserved)).push (s.elementsEntry d reserved)

-- There are elements, and room and tokens for them.
structure Admits (s : Store) (d : Descriptor) (reserved : Option (List Token)) : Prop where
  pos    : d.count ≠ 0
  room   : s.entries.length < s.capacity
  tokens : s.tokens.issued + tokensTaken d reserved < UInt64.size
  enough : ∀ given ∈ reserved, tokensNeeded d.id d.count ≤ given.length

-- Too few tokens were reserved to refer to each element. They can still be enough for the entry,
-- because a list of references is content with one.
def Short (d : Descriptor) (reserved : Option (List Token)) : Prop :=
  ∃ given ∈ reserved, given.length < d.count.toNat

-- The elements can be stored, but not a list of references to them: the last place is taken by the
-- elements, or there are too few tokens, either new ones or reserved ones.
structure Unlisted (s : Store) (d : Descriptor) (reserved : Option (List Token)) : Prop
    extends s.Admits d reserved where
  stuck : s.capacity ≤ s.entries.length + 1 ∨
    UInt64.size ≤ s.tokens.issued + tokensTaken d reserved + (d.count.toNat + 1) ∨
    Short d reserved

@[simp] theorem entries_withElements (s : Store) (d : Descriptor)
    (reserved : Option (List Token)) :
    (s.withElements d reserved).entries = s.entries ++ [s.elementsEntry d reserved] := rfl

@[simp] theorem descriptor_elementsEntry (s : Store) (d : Descriptor)
    (reserved : Option (List Token)) : (s.elementsEntry d reserved).descriptor = d := by
  cases reserved <;> rfl

theorem result_checkDescriptor (s : Store) (d : Descriptor) :
    (checkDescriptor d).result s =
      if d.count = 0 then (.failed .invalidParameter, s) else (.done (), s) := by
  by_cases h : d.count = 0 <;> simp [checkDescriptor, result_bind, h]

section

variable {given : List Token}

theorem result_add_of_admits (h : s.Admits d none) :
    (add d.id d.data d.count).result s =
      (.done (s.tokens.upcoming d.count.toNat, (s.elementsEntry d none).token),
        s.withElements d none) := by
  have provides : s.tokens.Provides (d.count.toNat + 1) := TokenSource.provides_iff.mpr h.tokens
  rw [result_add, if_neg h.pos, if_neg (Nat.not_le.mpr h.room), if_neg (not_not.mpr provides)]
  rfl

theorem result_add_of_not_admits (h : ¬s.Admits d none) :
    ∃ status, (add d.id d.data d.count).result s = (.failed status, s) := by
  rw [result_add]
  split
  case isTrue => exact ⟨_, rfl⟩
  case isFalse pos =>
  split
  case isTrue => exact ⟨_, rfl⟩
  case isFalse room =>
  split
  case isTrue => exact ⟨_, rfl⟩
  case isFalse provides =>
    refine absurd ⟨pos, Nat.not_le.mp room, ?_, nofun⟩ h
    exact TokenSource.provides_iff.mp (not_not.mp provides)

theorem result_addWithElementTokens_of_admits (h : s.Admits d (some given)) :
    (addWithElementTokens d.id d.data d.count given .null).result s =
      (.done ⟨s.tokens.next⟩, s.withElements d (some given)) := by
  have provides : s.tokens.Provides 1 := TokenSource.provides_iff.mpr h.tokens
  have room : ¬(s.advance 1).capacity ≤ (s.advance 1).entries.length := Nat.not_le.mpr h.room
  rw [result_addWithElementTokens_of_null s d.id d.data d.count given rfl,
    if_neg (not_not.mpr provides), result_map, result_addWithTokens, if_neg h.pos, if_neg room,
    if_neg (Nat.not_lt.mpr (h.enough given rfl))]
  rfl

-- A token may be used up for the entry, but none is added.
theorem result_addWithElementTokens_of_not_admits (h : ¬s.Admits d (some given)) :
    ∃ status t, (addWithElementTokens d.id d.data d.count given .null).result s =
      (.failed status, t) ∧ t.entries = s.entries := by
  rw [result_addWithElementTokens_of_null s d.id d.data d.count given rfl]
  split
  case isTrue => exact ⟨_, s, rfl, rfl⟩
  case isFalse provides =>
  rw [result_map]
  obtain ⟨status, ended⟩ | ⟨pos, room, enough, _⟩ :=
    addWithTokens_cases (s.advance 1) d.id d.data d.count given ⟨s.tokens.next⟩
  case inl => exact ⟨status, s.advance 1, by rw [ended], rfl⟩
  case inr =>
    refine absurd ⟨pos, room, TokenSource.provides_iff.mp (not_not.mp provides), ?_⟩ h
    intro tokens mem
    exact Option.mem_some.mp mem ▸ enough

end

theorem result_addElements_of_short (h : s.Admits d reserved) (short : Short d reserved) :
    (addElements d reserved).result s = (.failed .invalidParameter, s.withElements d reserved) := by
  obtain ⟨given, rfl, short⟩ := short
  rw [addElements, result_bind_of_done (result_addWithElementTokens_of_admits h)]
  simp [short, result_map]

theorem addElements_of_admits (h : s.Admits d reserved) (enough : ¬Short d reserved) :
    ∃ tokens, (addElements d reserved).result s = (.done tokens, s.withElements d reserved) := by
  cases reserved
  case none =>
    rw [addElements, result_bind_of_done (result_add_of_admits h)]
    exact ⟨_, rfl⟩
  case some given =>
    have enough : ¬given.length < d.count.toNat := fun short => enough ⟨given, rfl, short⟩
    rw [addElements, result_bind_of_done (result_addWithElementTokens_of_admits h)]
    exact ⟨given.take d.count.toNat, by simp [enough]⟩

theorem addElements_of_not_admits (h : ¬s.Admits d reserved) :
    ∃ status t, (addElements d reserved).result s = (.failed status, t) ∧
      t.entries = s.entries := by
  cases reserved
  case none =>
    obtain ⟨status, ended⟩ := result_add_of_not_admits h
    exact ⟨status, s, by rw [addElements, result_bind, ended], rfl⟩
  case some given =>
    obtain ⟨status, t, ended, same⟩ := result_addWithElementTokens_of_not_admits h
    exact ⟨status, t, by rw [addElements, result_bind, ended], same⟩

-- The list is an entry of its own, for which there may be no place or not enough tokens left.
theorem addList_of_admits (h : s.Admits d reserved) (enough : ¬Short d reserved) (data : Bytes) :
    s.Unlisted d reserved ∧ (add .references data d.count).result (s.withElements d reserved) =
      (.failed .outOfResources, s.withElements d reserved) ∨
    ¬s.Unlisted d reserved ∧
      ∃ a t, (add .references data d.count).result (s.withElements d reserved) = (.done a, t) := by
  have issued : (s.withElements d reserved).tokens.issued =
      s.tokens.issued + tokensTaken d reserved :=
    TokenSource.issued_advance (TokenSource.provides_iff.mpr h.tokens)
  rw [result_add, if_neg h.pos, entries_withElements, List.length_append, List.length_singleton]
  split
  case isTrue full => exact .inl ⟨⟨h, .inl full⟩, rfl⟩
  case isFalse room =>
  split
  case isTrue out =>
    rw [TokenSource.provides_iff, issued] at out
    exact .inl ⟨⟨h, .inr (.inl (Nat.not_lt.mp out))⟩, rfl⟩
  case isFalse provides =>
    rw [not_not, TokenSource.provides_iff, issued] at provides
    refine .inr ⟨fun unlisted => ?_, _, _, rfl⟩
    obtain full | out | short := unlisted.stuck
    case inl     => exact room full
    case inr.inl => exact absurd provides (Nat.not_lt.mpr out)
    case inr.inr => exact enough short

theorem addReferenced_of_not_admits (h : ¬s.Admits d reserved) :
    ∃ status t, (addReferenced d reserved).result s = (.failed status, t) ∧
      t.entries = s.entries := by
  rw [addReferenced, result_bind, result_checkDescriptor]
  by_cases zero : d.count = 0
  case pos => exact ⟨.invalidParameter, s, by simp [zero], rfl⟩
  case neg =>
    obtain ⟨status, t, ended, same⟩ := addElements_of_not_admits h
    exact ⟨status, t, by simp [zero, result_bind, ended], same⟩

theorem addReferenced_of_admits (h : s.Admits d reserved) :
    s.Unlisted d reserved ∧ (∃ status, (addReferenced d reserved).result s =
      (.failed status, s.withElements d reserved)) ∨
    ¬s.Unlisted d reserved ∧ ∃ own t, (addReferenced d reserved).result s = (.done own, t) := by
  have checked : (checkDescriptor d).result s = (.done (), s) := by
    rw [result_checkDescriptor, if_neg h.pos]
  rw [addReferenced, result_bind_of_done checked]
  by_cases short : Short d reserved
  case pos =>
    refine .inl ⟨⟨h, .inr (.inr short)⟩, .invalidParameter, ?_⟩
    rw [result_bind, result_addElements_of_short h short]
  case neg =>
    obtain ⟨tokens, stored⟩ := addElements_of_admits h short
    rw [result_bind_of_done stored]
    obtain ⟨unlisted, ended⟩ | ⟨listed, _, t, ended⟩ :=
      addList_of_admits h short (Token.bytesOf tokens)
    case inl => exact .inl ⟨unlisted, .outOfResources, by rw [result_bind, ended]⟩
    case inr => exact .inr ⟨listed, _, t, by rw [result_bind, ended]; rfl⟩

theorem addReferenced_unchanged_iff (s : Store) (d : Descriptor)
    (reserved : Option (List Token)) :
    let r := (addReferenced d reserved).result s
    r.1 ≠ .trapped ∧
    ((∃ own, r.1 = .done own) ↔ s.Admits d reserved ∧ ¬s.Unlisted d reserved) ∧
    (∀ status, r.1 = .failed status → (r.2.entries = s.entries ↔ ¬s.Unlisted d reserved)) ∧
    (s.Unlisted d reserved → (∃ status, r.1 = .failed status) ∧
      ∃ e, e.descriptor = d ∧ r.2.entries = s.entries ++ [e]) := by
  by_cases admits : s.Admits d reserved
  case neg =>
    obtain ⟨status, t, ended, same⟩ := addReferenced_of_not_admits admits
    have listed : ¬s.Unlisted d reserved := fun unlisted => admits unlisted.toAdmits
    simp [ended, same, admits, listed]
  case pos =>
  obtain ⟨unlisted, status, ended⟩ | ⟨listed, own, t, ended⟩ := addReferenced_of_admits admits
  case inl => simp [ended, unlisted]
  case inr => simp [ended, admits, listed]

-- Two elements take the only place that there is.
theorem addReferenced_left_unlisted :
    let s := empty 1
    let r := (addReferenced ⟨.memoryRange, [1, 2], 2⟩ none).result s
    r.1 = .failed .outOfResources ∧ r.2.entries ≠ s.entries ∧
      r.2.entries = [⟨.memoryRange, [1, 2], 2, ⟨3⟩, [⟨1⟩, ⟨2⟩]⟩] := by
  decide

end BoardFirmware.Store
