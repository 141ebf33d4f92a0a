import BoardFirmware.Proofs.Store.Entry
import BoardFirmware.Proofs.Store.Token

namespace BoardFirmware.Store

variable {s : Store} {n k : Nat} {id : ObjectId} {data : Bytes} {count : UInt32} {token : Token}
variable {elementTokens new : List Token}

def advance (s : Store) (n : Nat) : Store :=
  { s with tokens := s.tokens.advance n }

def push (s : Store) (e : Entry) : Store :=
  { s with entries := s.entries ++ [e] }

def growAt (s : Store) (k : Nat) (data : Bytes) (new : List Token) (total : UInt32) : Store :=
  { s with entries := s.entries.modify k (·.grown data new total) }

@[simp] theorem advance_entries : (s.advance n).entries = s.entries := rfl
@[simp] theorem advance_capacity : (s.advance n).capacity = s.capacity := rfl
@[simp] theorem advance_tokens : (s.advance n).tokens = s.tokens.advance n := rfl

@[simp] theorem push_entries : (s.push e).entries = s.entries ++ [e] := rfl
@[simp] theorem push_capacity : (s.push e).capacity = s.capacity := rfl
@[simp] theorem push_tokens : (s.push e).tokens = s.tokens := rfl

@[simp] theorem growAt_entries :
    (s.growAt k data new total).entries = s.entries.modify k (·.grown data new total) := rfl
@[simp] theorem growAt_capacity : (s.growAt k data new total).capacity = s.capacity := rfl
@[simp] theorem growAt_tokens : (s.growAt k data new total).tokens = s.tokens := rfl

-- The entry that `add` makes. The token after those of the elements is its own.
def newEntry (s : Store) (id : ObjectId) (data : Bytes) (count : UInt32) : Entry where
  id
  data
  count
  token         := ⟨(s.tokens.advance count.toNat).next⟩
  elementTokens := (s.tokens.upcoming count.toNat).take (tokensNeeded id count)

theorem tokensNeeded_le (h : count ≠ 0) : tokensNeeded id count ≤ count.toNat := by
  have := Word.toNat32_pos h
  rw [tokensNeeded]
  split <;> omega

theorem result_allocate (s : Store) (n : Nat) :
    (allocate n).result s =
      if ¬s.tokens.Provides n then (.failed .outOfResources, s)
      else if TokenSource.maxRequest < n then (.trapped, s)
      else (.done (s.tokens.upcoming n), s.advance n) := by
  rw [allocate, Action.result_within, TokenSource.result_allocate]
  split
  case isTrue  => rfl
  case isFalse => split <;> rfl

theorem result_checkRoom (s : Store) (count : UInt32) :
    (checkRoom count).result s =
      if count = 0 then (.failed .invalidParameter, s)
      else if s.capacity ≤ s.entries.length then (.failed .outOfResources, s)
      else (.done (), s) := by
  by_cases h : count = 0 <;> by_cases hc : s.capacity ≤ s.entries.length <;>
    simp [checkRoom, Action.result_bind, h, hc]

theorem result_addWithTokens (s : Store) (id : ObjectId) (data : Bytes) (count : UInt32)
    (elementTokens : List Token) (token : Token) :
    (addWithTokens id data count elementTokens token).result s =
      if count = 0 then (.failed .invalidParameter, s)
      else if s.capacity ≤ s.entries.length then (.failed .outOfResources, s)
      else if elementTokens.length < tokensNeeded id count then (.failed .invalidParameter, s)
      else
        (.done (),
          s.push ⟨id, data, count, token, elementTokens.take (tokensNeeded id count)⟩) := by
  rw [addWithTokens, Action.result_bind, result_checkRoom]
  by_cases h : count = 0 <;> by_cases hc : s.capacity ≤ s.entries.length <;>
    by_cases ht : elementTokens.length < tokensNeeded id count <;>
    simp [Action.result_bind, h, hc, ht, push]

-- Numbers of elements are far from the most tokens that are given out at once, so adding elements
-- never traps there.
theorem toNat_lt_maxRequest (count : UInt32) : count.toNat < TokenSource.maxRequest := by
  have := count.toNat_lt
  rw [TokenSource.maxRequest]
  omega

theorem result_add (s : Store) (id : ObjectId) (data : Bytes) (count : UInt32) :
    (add id data count).result s =
      if count = 0 then (.failed .invalidParameter, s)
      else if s.capacity ≤ s.entries.length then (.failed .outOfResources, s)
      else if ¬s.tokens.Provides (count.toNat + 1) then (.failed .outOfResources, s)
      else
        (.done (s.tokens.upcoming count.toNat, (s.newEntry id data count).token),
          (s.advance (count.toNat + 1)).push (s.newEntry id data count)) := by
  have hm : ¬TokenSource.maxRequest < count.toNat + 1 := Nat.not_lt.mpr (toNat_lt_maxRequest count)
  rw [add, Action.result_bind, result_checkRoom]
  by_cases h : count = 0
  case pos => simp [h]
  by_cases hc : s.capacity ≤ s.entries.length
  case pos => simp [h, hc]
  by_cases hp : s.tokens.Provides (count.toNat + 1)
  case neg => simp [Action.result_bind, result_allocate, h, hc, hp]
  have : tokensNeeded id count ≤ count.toNat := tokensNeeded_le h
  simp [Action.result_bind, Action.result_map, result_allocate, result_addWithTokens,
    TokenSource.upcoming_succ, newEntry, h, hc, hp, hm, Nat.not_lt.mpr this]

theorem add_of_done {a : List Token × Token} {t : Store}
    (h : (add id data count).result s = (.done a, t)) :
    count ≠ 0 ∧ s.entries.length < s.capacity ∧ s.tokens.Provides (count.toNat + 1) ∧
      a = (s.tokens.upcoming count.toNat, (s.newEntry id data count).token) ∧
      t = (s.advance (count.toNat + 1)).push (s.newEntry id data count) := by
  rw [result_add] at h
  split at h
  case isTrue => cases h
  split at h
  case isTrue => cases h
  split at h
  case isTrue => cases h
  case isFalse pos room hp =>
    cases h
    exact ⟨pos, Nat.not_le.mp room, not_not.mp hp, rfl, rfl⟩

theorem result_allocateOne (s : Store) :
    allocateOne.result s =
      if ¬s.tokens.Provides 1 then (.failed .outOfResources, s)
      else (.done ⟨s.tokens.next⟩, s.advance 1) := by
  have hm : ¬TokenSource.maxRequest < 1 := by decide
  rw [allocateOne, Action.result_bind, result_allocate]
  by_cases h : s.tokens.Provides 1 <;> simp [h, hm, TokenSource.upcoming]

theorem addWithTokens_cases (s : Store) (id : ObjectId) (data : Bytes) (count : UInt32)
    (elementTokens : List Token) (token : Token) :
    (∃ e, (addWithTokens id data count elementTokens token).result s = (.failed e, s)) ∨
    count ≠ 0 ∧ s.entries.length < s.capacity ∧ tokensNeeded id count ≤ elementTokens.length ∧
      (addWithTokens id data count elementTokens token).result s =
        (.done (),
          s.push ⟨id, data, count, token, elementTokens.take (tokensNeeded id count)⟩) := by
  rw [result_addWithTokens]
  by_cases h : count = 0
  case pos => simp [h]
  by_cases hc : s.capacity ≤ s.entries.length
  case pos => simp [h, hc]
  by_cases ht : elementTokens.length < tokensNeeded id count
  case pos => simp [h, hc, ht]
  simp [h, hc, ht, Nat.not_le.mp hc, Nat.not_lt.mp ht]

theorem result_addWithElementTokens_of_proper (s : Store) (id : ObjectId) (data : Bytes)
    (count : UInt32) (elementTokens : List Token) (h : token.isNull = false) :
    (addWithElementTokens id data count elementTokens token).result s =
      ((fun _ => token) <$> addWithTokens id data count elementTokens token).result s := by
  simp [addWithElementTokens, h]

-- A null entry token is replaced before anything is checked.
theorem result_addWithElementTokens_of_null (s : Store) (id : ObjectId) (data : Bytes)
    (count : UInt32) (elementTokens : List Token) (h : token.isNull) :
    (addWithElementTokens id data count elementTokens token).result s =
      if ¬s.tokens.Provides 1 then (.failed .outOfResources, s)
      else
        ((fun _ => ⟨s.tokens.next⟩) <$>
          addWithTokens id data count elementTokens ⟨s.tokens.next⟩).result (s.advance 1) := by
  have hx : (addWithElementTokens id data count elementTokens token).result s =
      (allocateOne >>= fun own => (fun _ => own) <$>
        addWithTokens id data count elementTokens own).result s := by
    simp [addWithElementTokens, h]
  rw [hx, Action.result_bind, result_allocateOne]
  by_cases hp : s.tokens.Provides 1 <;> simp [hp]

-- The index of an entry and the entry are found together.
theorem indexOf?_cases (s : Store) (id : ObjectId) (token : Token) :
    s.indexOf? id token = none ∨
      ∃ k e, s.indexOf? id token = some k ∧ s.entries[k]? = some e ∧ e.Matches id token := by
  cases h : s.indexOf? id token
  case none => exact .inl rfl
  case some k =>
    have ⟨hk, hm, _⟩ := List.findIdx?_eq_some_iff_getElem.mp h
    exact .inr ⟨k, s.entries[k], rfl, List.getElem?_eq_getElem hk, of_decide_eq_true hm⟩

theorem result_refuseMissing (s : Store) (id : ObjectId) (token : Token) :
    (refuseMissing id token : Action Store α).result s = (.failed .notFound, s) := by
  have h := Action.result_forM_of_done (σ := Store)
    (f := fun (p : Entry × Nat) => Action.debug s!"Entry[{p.2}] has ID {p.1.id}")
    (fun _ _ => rfl) s.entries.zipIdx s
  simp only [refuseMissing, Action.result_bind, Action.result_info, Action.result_get]
  rw [h]
  rfl

theorem result_findIndexed_of_none (h : s.indexOf? id token = none) :
    (findIndexed id token).result s = (.failed .notFound, s) := by
  simp [findIndexed, Action.result_bind, h, result_refuseMissing]

theorem result_findIndexed_of_some (h : s.indexOf? id token = some k)
    (he : s.entries[k]? = some e) : (findIndexed id token).result s = (.done (k, e), s) := by
  simp [findIndexed, Action.result_bind, h, he]

theorem result_find_of_none (h : s.indexOf? id token = none) :
    (find id token).result s = (.failed .notFound, s) := by
  simp [find, Action.result_map, result_findIndexed_of_none h]

theorem result_find_of_some (h : s.indexOf? id token = some k) (he : s.entries[k]? = some e) :
    (find id token).result s = (.done e, s) := by
  simp [find, Action.result_map, result_findIndexed_of_some h he]

theorem result_extend_of_refused (h : count = 0 ∨ id = .references) :
    (extend id data count token).result s = (.failed .invalidParameter, s) := by
  by_cases hc : count = 0
  case pos => simp [extend, Action.result_bind, hc]
  case neg => simp [extend, Action.result_bind, hc, h.resolve_left hc]

section

variable (pos : count ≠ 0) (plain : id ≠ .references)
include pos plain

theorem result_extend_of_none (h : s.indexOf? id token = none) :
    (extend id data count token).result s = (.failed .notFound, s) := by
  simp [extend, Action.result_bind, pos, plain, result_findIndexed_of_none h]

theorem result_extend_of_some (data : Bytes) (h : s.indexOf? id token = some k)
    (he : s.entries[k]? = some e) :
    (extend id data count token).result s =
      match e.elementSize? with
      | none      => (.trapped, s)
      | some size =>
        if size ≠ data.length / count.toNat then (.failed .invalidParameter, s)
        else if ¬s.tokens.Provides count.toNat then (.failed .outOfResources, s)
        else
          match Word.add32? e.count count with
          | none       => (.trapped, s.advance count.toNat)
          | some total =>
            (.done (s.tokens.upcoming count.toNat),
              (s.advance count.toNat).growAt k data (s.tokens.upcoming count.toNat) total) := by
  have hf := result_findIndexed_of_some h he
  have hm : ¬TokenSource.maxRequest < count.toNat := Nat.lt_asymm (toNat_lt_maxRequest count)
  cases hs : e.elementSize?
  case none => simp [extend, Action.result_bind, pos, plain, hf, hs]
  case some size =>
    by_cases hn : size = data.length / count.toNat
    case neg => simp [extend, Action.result_bind, pos, plain, hf, hs, hn]
    by_cases hp : s.tokens.Provides count.toNat
    case neg =>
      simp [extend, Action.result_bind, pos, plain, hf, hs, hn, result_allocate, hp]
    cases ht : Word.add32? e.count count <;>
      simp [extend, Action.result_bind, Action.result_map, pos, plain, hf, hs, hn,
        result_allocate, hp, hm, ht, growAt, advance]

end

theorem extend_of_done {t : Store}
    (h : (extend id data count token).result s = (.done new, t)) :
    ∃ k e total, s.indexOf? id token = some k ∧ s.entries[k]? = some e ∧ e.Matches id token ∧
      e.Accepts data count total ∧ s.tokens.Provides count.toNat ∧
      new = s.tokens.upcoming count.toNat ∧
      t = (s.advance count.toNat).growAt k data new total := by
  by_cases refused : count = 0 ∨ id = .references
  case pos =>
    rw [result_extend_of_refused refused] at h
    cases h
  have ⟨pos, plain⟩ := not_or.mp refused
  cases s.indexOf?_cases id token
  case inl missing =>
    rw [result_extend_of_none pos plain missing] at h
    cases h
  case inr known =>
    have ⟨k, e, hk, he, hm⟩ := known
    rw [result_extend_of_some pos plain data hk he] at h
    split at h
    case h_1 => cases h
    case h_2 size hs =>
      split at h
      case isTrue => cases h
      case isFalse same =>
        split at h
        case isTrue => cases h
        case isFalse provides =>
          split at h
          case h_1 => cases h
          case h_2 total ht =>
            cases h
            have acc : e.Accepts data count total :=
              ⟨pos, hm.left ▸ plain, not_not.mp same ▸ hs, Word.add32?_eq_some_iff.mp ht⟩
            exact ⟨k, e, total, hk, he, hm, acc, not_not.mp provides, rfl, rfl⟩

end BoardFirmware.Store
