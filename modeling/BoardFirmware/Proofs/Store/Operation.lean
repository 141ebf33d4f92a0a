import BoardFirmware.Proofs.Store.Result

namespace BoardFirmware.Store

-- What changes a store.
inductive Operation : Type → Type
  | allocate (count : Nat) : Operation (List Token)
  | add (id : ObjectId) (data : Bytes) (count : UInt32) : Operation (List Token × Token)
  | addWithTokens (id : ObjectId) (data : Bytes) (count : UInt32) (elementTokens : List Token)
      (token : Token) : Operation Unit
  | addWithElementTokens (id : ObjectId) (data : Bytes) (count : UInt32)
      (elementTokens : List Token) (token : Token) : Operation Token
  | extend (id : ObjectId) (data : Bytes) (count : UInt32) (token : Token) :
      Operation (List Token)

namespace Operation

def perform : Operation α → Action Store α
  | allocate count                                         => Store.allocate count
  | add id data count                                      => Store.add id data count
  | addWithTokens id data count elementTokens token        =>
    Store.addWithTokens id data count elementTokens token
  | addWithElementTokens id data count elementTokens token =>
    Store.addWithElementTokens id data count elementTokens token
  | extend id data count token                             => Store.extend id data count token

-- What an operation has to go beyond to be trapped.
def Overflows (s : Store) : Operation α → Prop
  | allocate n         => TokenSource.maxRequest < n
  | extend _ _ count _ => ∃ e ∈ s.entries, e.count = 0 ∨ UInt32.size ≤ e.count.toNat + count.toNat
  | _                  => False

-- How an operation ends, and in which store.
inductive Ends (s : Store) : {α : Type} → Operation α → Outcome α × Store → Prop
  | refused {o : Operation α} (e : Status) : Ends s o (.failed e, s)
  | trapped {o : Operation α} (h : o.Overflows s) (t : Store) : Ends s o (.trapped, t)
  | allocated {n : Nat} (hp : s.tokens.Provides n) :
      Ends s (.allocate n) (.done (s.tokens.upcoming n), s.advance n)
  | added {id : ObjectId} {data : Bytes} {count : UInt32} (pos : count ≠ 0)
      (room : s.entries.length < s.capacity) (hp : s.tokens.Provides (count.toNat + 1)) :
      Ends s (.add id data count)
        (.done (s.tokens.upcoming count.toNat, (s.newEntry id data count).token),
          (s.advance (count.toNat + 1)).push (s.newEntry id data count))
  | addedWithTokens {id : ObjectId} {data : Bytes} {count : UInt32} {elementTokens : List Token}
      {token : Token} (pos : count ≠ 0) (room : s.entries.length < s.capacity)
      (enough : tokensNeeded id count ≤ elementTokens.length) :
      Ends s (.addWithTokens id data count elementTokens token)
        (.done (), s.push ⟨id, data, count, token, elementTokens.take (tokensNeeded id count)⟩)
  | addedWithElementTokens {id : ObjectId} {data : Bytes} {count : UInt32}
      {elementTokens : List Token} {token : Token} (pos : count ≠ 0)
      (room : s.entries.length < s.capacity)
      (enough : tokensNeeded id count ≤ elementTokens.length) (proper : token.isNull = false) :
      Ends s (.addWithElementTokens id data count elementTokens token)
        (.done token, s.push ⟨id, data, count, token, elementTokens.take (tokensNeeded id count)⟩)
  | addedReplacing {id : ObjectId} {data : Bytes} {count : UInt32} {elementTokens : List Token}
      {token : Token} (pos : count ≠ 0) (room : s.entries.length < s.capacity)
      (enough : tokensNeeded id count ≤ elementTokens.length) (null : token.isNull)
      (hp : s.tokens.Provides 1) :
      Ends s (.addWithElementTokens id data count elementTokens token)
        (.done ⟨s.tokens.next⟩, (s.advance 1).push
          ⟨id, data, count, ⟨s.tokens.next⟩, elementTokens.take (tokensNeeded id count)⟩)
  -- A null token is replaced before anything is checked, so a refusal may still use one up.
  | usedUp {id : ObjectId} {data : Bytes} {count : UInt32} {elementTokens : List Token}
      {token : Token} (e : Status) (null : token.isNull) (hp : s.tokens.Provides 1) :
      Ends s (.addWithElementTokens id data count elementTokens token) (.failed e, s.advance 1)
  | extended {id : ObjectId} {data : Bytes} {count : UInt32} {token : Token} {k : Nat} {e : Entry}
      {total : UInt32} (hk : s.indexOf? id token = some k) (he : s.entries[k]? = some e)
      (hm : e.Matches id token) (acc : e.Accepts data count total)
      (hp : s.tokens.Provides count.toNat) :
      Ends s (.extend id data count token)
        (.done (s.tokens.upcoming count.toNat),
          (s.advance count.toNat).growAt k data (s.tokens.upcoming count.toNat) total)

theorem ends_allocate (s : Store) (n : Nat) :
    Ends s (.allocate n) ((Store.allocate n).result s) := by
  rw [result_allocate]
  by_cases hp : s.tokens.Provides n
  case neg => rw [if_pos hp]; exact .refused _
  rw [if_neg (not_not.mpr hp)]
  split
  case isTrue h => exact .trapped (o := .allocate n) h s
  case isFalse  => exact .allocated hp

theorem ends_add (s : Store) (id : ObjectId) (data : Bytes) (count : UInt32) :
    Ends s (.add id data count) ((Store.add id data count).result s) := by
  rw [result_add]
  by_cases pos : count = 0
  case pos => rw [if_pos pos]; exact .refused _
  by_cases room : s.capacity ≤ s.entries.length
  case pos => rw [if_neg pos, if_pos room]; exact .refused _
  by_cases hp : s.tokens.Provides (count.toNat + 1)
  case neg => rw [if_neg pos, if_neg room, if_pos hp]; exact .refused _
  rw [if_neg pos, if_neg room, if_neg (not_not.mpr hp)]
  exact .added pos (Nat.not_le.mp room) hp

theorem ends_addWithTokens (s : Store) (id : ObjectId) (data : Bytes) (count : UInt32)
    (elementTokens : List Token) (token : Token) :
    Ends s (.addWithTokens id data count elementTokens token)
      ((Store.addWithTokens id data count elementTokens token).result s) := by
  cases addWithTokens_cases s id data count elementTokens token
  case inl h =>
    have ⟨e, h⟩ := h
    rw [h]
    exact .refused e
  case inr h =>
    have ⟨pos, room, enough, h⟩ := h
    rw [h]
    exact .addedWithTokens pos room enough

theorem ends_addWithElementTokens (s : Store) (id : ObjectId) (data : Bytes) (count : UInt32)
    (elementTokens : List Token) (token : Token) :
    Ends s (.addWithElementTokens id data count elementTokens token)
      ((Store.addWithElementTokens id data count elementTokens token).result s) := by
  cases null : token.isNull
  case false =>
    rw [result_addWithElementTokens_of_proper s id data count elementTokens null, Action.result_map]
    cases addWithTokens_cases s id data count elementTokens token
    case inl h =>
      have ⟨e, h⟩ := h
      rw [h]
      exact .refused e
    case inr h =>
      have ⟨pos, room, enough, h⟩ := h
      rw [h]
      exact .addedWithElementTokens pos room enough null
  case true =>
    rw [result_addWithElementTokens_of_null s id data count elementTokens null]
    by_cases hp : s.tokens.Provides 1
    case neg => rw [if_pos hp]; exact .refused _
    rw [if_neg (not_not.mpr hp), Action.result_map]
    cases addWithTokens_cases (s.advance 1) id data count elementTokens ⟨s.tokens.next⟩
    case inl h =>
      have ⟨e, h⟩ := h
      rw [h]
      exact .usedUp e null hp
    case inr h =>
      have ⟨pos, room, enough, h⟩ := h
      rw [h]
      exact .addedReplacing pos room enough null hp

theorem ends_extend (s : Store) (id : ObjectId) (data : Bytes) (count : UInt32) (token : Token) :
    Ends s (.extend id data count token) ((Store.extend id data count token).result s) := by
  by_cases hr : count = 0 ∨ id = .references
  case pos => rw [result_extend_of_refused hr]; exact .refused _
  have ⟨pos, plain⟩ := not_or.mp hr
  cases s.indexOf?_cases id token
  case inl h => rw [result_extend_of_none pos plain h]; exact .refused _
  case inr h =>
    have ⟨k, e, hk, he, hm⟩ := h
    have mem := List.mem_of_getElem? he
    rw [result_extend_of_some pos plain data hk he]
    cases hs : e.elementSize?
    case none =>
      have hz : e.count = 0 := by
        by_contra hn
        simp [Entry.elementSize?_of_ne_zero hn] at hs
      exact .trapped (o := .extend id data count token) ⟨e, mem, .inl hz⟩ s
    case some size =>
      dsimp only
      by_cases hn : size = data.length / count.toNat
      case neg => rw [if_pos hn]; exact .refused _
      by_cases hp : s.tokens.Provides count.toNat
      case neg => rw [if_neg (not_not.mpr hn), if_pos hp]; exact .refused _
      rw [if_neg (not_not.mpr hn), if_neg (not_not.mpr hp)]
      cases ht : Word.add32? e.count count
      case none =>
        have ho : ¬e.count.toNat + count.toNat < UInt32.size := by simpa [Word.add32?] using ht
        exact .trapped (o := .extend id data count token) ⟨e, mem, .inr (Nat.not_lt.mp ho)⟩ _
      case some total =>
        have acc : e.Accepts data count total :=
          ⟨pos, hm.left ▸ plain, hn ▸ hs, Word.add32?_eq_some_iff.mp ht⟩
        exact .extended hk he hm acc hp

-- Everything that an operation can come to.
theorem ends : (o : Operation α) → (s : Store) → Ends s o (o.perform.result s)
  | .allocate n, s => ends_allocate s n
  | .add id data count, s => ends_add s id data count
  | .addWithTokens id data count elementTokens token, s =>
    ends_addWithTokens s id data count elementTokens token
  | .addWithElementTokens id data count elementTokens token, s =>
    ends_addWithElementTokens s id data count elementTokens token
  | .extend id data count token, s => ends_extend s id data count token

theorem Ends.overflows {s : Store} {o : Operation α} (h : o.Ends s r) (ht : r.1 = .trapped) :
    o.Overflows s := by
  cases h
  case trapped h => exact h
  all_goals cases ht

end Operation

end BoardFirmware.Store
