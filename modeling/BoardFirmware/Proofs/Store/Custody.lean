import BoardFirmware.Proofs.Store.AppendOnly
import BoardFirmware.Proofs.Store.Lookup
import Mathlib.Data.List.Perm.Subperm

namespace BoardFirmware

theorem Entry.tokens_grown (e : Entry) (data : Bytes) (new : List Token) (total : UInt32) :
    (e.grown data new total).tokens = e.tokens ++ Token.proper new := by
  rw [tokens, tokens, ← Token.proper_append]
  rfl

namespace Store

variable {s t : Store} {held left new : List Token} {id : ObjectId} {data : Bytes}
variable {count : UInt32} {token : Token} {elementTokens : List Token}

@[simp] theorem stored_advance : (s.advance n).stored = s.stored := rfl

@[simp] theorem stored_push : (s.push e).stored = s.stored ++ e.tokens := by
  simp [stored]

theorem stored_growAt (he : s.entries[k]? = some e) (data : Bytes) (new : List Token)
    (total : UInt32) :
    (s.growAt k data new total).stored.Perm (s.stored ++ Token.proper new) := by
  obtain ⟨entries, _, _⟩ := s
  simp only [stored, growAt]
  induction entries generalizing k
  case nil => simp at he
  case cons e' rest ih =>
    cases k
    case zero =>
      cases he
      simp only [List.modify_zero_cons, List.flatMap_cons, Entry.tokens_grown, List.append_assoc]
      exact List.perm_append_comm.append_left _
    case succ k =>
      simp only [List.modify_succ_cons, List.flatMap_cons, List.append_assoc]
      exact (ih he).append_left _

-- Every token that was given out is in at most one place: stored at one position, or held outside
-- for an entry to come. Requests move tokens from one place to another or let go of them, and new
-- tokens are in no place before.
structure Accounted (s : Store) (held : List Token) : Prop where
  nodup  : (s.stored ++ held).Nodup
  issued : ∀ t ∈ s.stored ++ held, s.tokens.Issued t

namespace Accounted

theorem empty (capacity : Nat) : Accounted (.empty capacity) [] :=
  ⟨List.nodup_nil, nofun⟩

theorem nodup_stored (h : s.Accounted held) : s.stored.Nodup :=
  (List.nodup_append.mp h.nodup).left

-- Tokens that only change places, or are let go, stay accounted for.
theorem of_subperm (h : s.Accounted held) (ht : t.tokens = s.tokens)
    (hp : (t.stored ++ left).Subperm (s.stored ++ held)) : t.Accounted left where
  nodup  := by
    have ⟨_, perm, sub⟩ := hp
    exact perm.nodup_iff.mp (h.nodup.sublist sub)
  issued := fun t' hm => ht ▸ h.issued t' (hp.subset hm)

theorem release (h : s.Accounted held) (hp : left.Subperm held) : s.Accounted left :=
  h.of_subperm rfl ((List.subperm_append_left _).mpr hp)

theorem forget (h : s.Accounted (new ++ held)) : s.Accounted held :=
  h.release (List.sublist_append_right ..).subperm

theorem advance (h : s.Accounted held) (hp : s.tokens.Provides n) :
    (s.advance n).Accounted (s.tokens.upcoming n ++ held) where
  nodup  := by
    have perm : (s.stored ++ (s.tokens.upcoming n ++ held)).Perm
        (s.tokens.upcoming n ++ (s.stored ++ held)) := List.perm_append_comm_assoc ..
    refine perm.nodup_iff.mpr (List.nodup_append'.mpr ⟨TokenSource.nodup_upcoming hp, h.nodup, ?_⟩)
    -- What is given out now was not given out before.
    exact fun t hu hs => TokenSource.not_issued_of_mem_upcoming hp hu (h.issued t hs)
  issued := by
    intro t hm
    simp only [stored_advance, List.mem_append] at hm
    cases hm
    case inl hm => exact (h.issued t (List.mem_append_left _ hm)).advance hp
    case inr hm =>
      cases hm
      case inl hm => exact TokenSource.issued_of_mem_upcoming hp hm
      case inr hm => exact (h.issued t (List.mem_append_right _ hm)).advance hp

theorem push (h : s.Accounted (e.tokens ++ held)) : (s.push e).Accounted held :=
  h.of_subperm rfl (by simpa using List.Subperm.refl _)

theorem grow (h : s.Accounted (Token.proper new ++ held)) (he : s.entries[k]? = some e)
    (data : Bytes) (total : UInt32) : (s.growAt k data new total).Accounted held := by
  refine h.of_subperm rfl ?_
  have := (stored_growAt he data new total).append_right held
  exact (this.trans (List.append_assoc .. ▸ .refl _)).subperm

end Accounted

theorem tokens_newEntry (s : Store) (id : ObjectId) (data : Bytes) (count : UInt32) :
    (s.newEntry id data count).tokens.Subperm (s.tokens.upcoming (count.toNat + 1)) := by
  have hf : (s.newEntry id data count).tokens.Sublist
      (⟨(s.tokens.advance count.toNat).next⟩ ::
        (s.tokens.upcoming count.toNat).take (tokensNeeded id count)) := List.filter_sublist
  refine (hf.trans ((List.take_sublist ..).cons_cons _)).subperm.trans ?_
  rw [TokenSource.upcoming_succ]
  exact (List.perm_append_singleton ..).symm.subperm

namespace Operation

-- The tokens of the caller's choice that are stored if the operation succeeds.
def supplied : Operation α → List Token
  | addWithTokens id _ count elementTokens token
  | addWithElementTokens id _ count elementTokens token =>
    Token.proper (token :: elementTokens.take (tokensNeeded id count))
  | _ => []

-- The tokens that the caller may choose afterwards.
def reserved : Operation α → α → List Token
  | allocate _, tokens => tokens
  | _, _               => []

variable {o : Operation α}

theorem Ends.accounted_of_done (h : o.Ends s (.done a, t)) (ha : s.Accounted (o.supplied ++ held)) :
    t.Accounted (o.reserved a ++ held) := by
  cases h
  case allocated hp           => exact ha.advance hp
  case addedWithTokens        => exact .push ha
  case addedWithElementTokens => exact .push ha
  case added id data count _ _ hp =>
    have sub := (tokens_newEntry s id data count).append (List.Subperm.refl held)
    exact ((ha.advance hp).release sub).push
  case addedReplacing id data count elementTokens token _ _ _ null hp =>
    have ho : s.tokens.upcoming 1 = [⟨s.tokens.next⟩] := by simp [TokenSource.upcoming]
    have hz : Token.proper (token :: elementTokens.take (tokensNeeded id count)) =
        Token.proper (elementTokens.take (tokensNeeded id count)) := by simp [Token.proper, null]
    have ha' := ha.advance hp
    rw [supplied, hz, ← TokenSource.proper_upcoming hp, ← List.append_assoc, ← Token.proper_append,
      ho] at ha'
    exact .push ha'
  case extended he _ _ hp =>
    have ha' := TokenSource.proper_upcoming hp ▸ ha.advance hp
    exact ha'.grow he _ _

-- What is refused is not stored.
theorem Ends.accounted_of_failed (h : o.Ends s (.failed e, t)) (ha : s.Accounted held) :
    t.Accounted held := by
  cases h
  case refused   => exact ha
  case usedUp hp => exact (ha.advance hp).forget

end Operation

-- The request lets no token into the store but new ones.
def KeepsCustody (s t : Store) : Prop :=
  ∀ held, s.Accounted held → t.Accounted held

theorem Operation.keepsCustody {o : Operation α} (hs : o.supplied = []) :
    o.perform.Respects KeepsCustody := by
  intro s ret held ha
  have ends := o.ends s
  cases h : o.perform.result s with | _ outcome t
  rw [h] at ret ends
  cases outcome
  case done     => exact (ends.accounted_of_done (hs ▸ ha)).forget
  case failed   => exact ends.accounted_of_failed ha
  case trapped  => exact absurd rfl ret

instance : Stable KeepsCustody where
  refl     := fun _ _ h => h
  trans    := fun _ _ _ h₁ h₂ held h => h₂ held (h₁ held h)
  allocate := fun n => Operation.keepsCustody (o := .allocate n) rfl
  add      := fun id data count => Operation.keepsCustody (o := .add id data count) rfl
  extend   := fun id data count token =>
    Operation.keepsCustody (o := .extend id data count token) rfl

end Store

end BoardFirmware
