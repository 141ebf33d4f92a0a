import BoardFirmware.Proofs.Store.Audit
import BoardFirmware.Proofs.Store.Custody

namespace BoardFirmware.Store

-- Only an operation that adds an entry stores tokens of the client's choice.
theorem Operation.Ends.supplied_eq_nil {s t : Store} {o : Operation α} (h : o.Ends s (.done a, t))
    (hl : ¬s.entries.length < t.entries.length) : o.supplied = [] := by
  cases h
  case allocated              => rfl
  case added                  => rfl
  case extended               => rfl
  case addedWithTokens        => simp at hl
  case addedWithElementTokens => simp at hl
  case addedReplacing         => simp at hl

theorem result_addReserved (s : Store) (d : Descriptor) (elementTokens : List Token)
    (token : Token) :
    (addReserved d elementTokens token).result s =
      if d.count = 0 then (.failed .invalidParameter, s)
      else (addWithElementTokens d.id d.data d.count elementTokens token).result s := by
  by_cases h : d.count = 0 <;> simp [addReserved, checkDescriptor, Action.result_bind, h]

namespace Request

variable {s t : Store}

-- The tokens of the client's choice among those that the request may store.
def supplied : Request α → List Token
  | operation o                       => o.supplied
  | addReserved d elementTokens token =>
    (Operation.addWithElementTokens d.id d.data d.count elementTokens token).supplied
  | addReferenced d (some reserved)   =>
    (Operation.addWithElementTokens d.id d.data d.count reserved .null).supplied
  | _                                 => []

-- They are stored with a new entry or not at all. A request may add one and still be refused.
def deposited (r : Request α) (s t : Store) : List Token :=
  if s.entries.length < t.entries.length then r.supplied else []

-- The tokens that the client may choose afterwards.
def reserved : Request α → Outcome α → List Token
  | operation o, .done a      => o.reserved a
  | reserve _,   .done tokens => tokens
  | _,           _            => []

-- Whoever makes the request has the tokens that it stores, and then has those that it returns.
def Balanced (r : Request α) : Prop :=
  ∀ ⦃s t outcome held⦄, r.perform.result s = (outcome, t) → outcome ≠ .trapped →
    s.Accounted (r.deposited s t ++ held) → t.Accounted (r.reserved outcome ++ held)

theorem deposited_sublist {r : Request α} {q : Request β} (hs : q.supplied = r.supplied)
    (hl : u.entries.length ≤ t.entries.length) : (q.deposited s u).Sublist (r.deposited s t) := by
  rw [deposited, deposited, hs]
  by_cases h : s.entries.length < u.entries.length
  case pos => rw [if_pos h, if_pos (Nat.lt_of_lt_of_le h hl)]
  case neg => rw [if_neg h]; exact List.nil_sublist _

theorem operation_balanced (o : Operation α) : (operation o).Balanced := by
  intro s t outcome held hr ret h
  have ends : o.Ends s (outcome, t) := hr ▸ o.ends s
  cases outcome
  case trapped => exact absurd rfl ret
  case failed  => exact ends.accounted_of_failed h.forget
  case done    =>
    have hd : (operation o).deposited s t = o.supplied := by
      rw [deposited]
      split
      case isTrue     => rfl
      case isFalse hl => exact (ends.supplied_eq_nil hl).symm
    exact ends.accounted_of_done (hd ▸ h)

theorem addReserved_balanced (d : Descriptor) (elementTokens : List Token) (token : Token) :
    (addReserved d elementTokens token).Balanced := by
  intro s t outcome held hr ret h
  rw [perform, result_addReserved] at hr
  split at hr
  case isTrue => cases hr; exact h.forget
  case isFalse =>
    have hb := operation_balanced (.addWithElementTokens d.id d.data d.count elementTokens token)
    have ht := hb hr ret h
    cases outcome <;> exact ht

theorem addReferenced_balanced (d : Descriptor) (tokens : List Token) :
    (addReferenced d (some tokens)).Balanced := by
  intro s t outcome held hr ret h
  rw [perform, addReferenced_some, Action.result_bind] at hr
  have hb := addReserved_balanced d tokens .null
  rcases hx : (Store.addReserved d tokens .null).result s with ⟨_ | _ | _, u⟩ <;>
    simp only [hx] at hr
  case done own =>
    have hr₁ : ((listReserved d tokens).result u).1 = outcome := by rw [hr]
    have hr₂ : ((listReserved d tokens).result u).2 = t := by rw [hr]
    have steps : Steps u t := hr₂ ▸ Stable.listReserved u (hr₁ ▸ ret)
    have custody : KeepsCustody u t := hr₂ ▸ Stable.listReserved u (hr₁ ▸ ret)
    have hsub : ((addReserved d tokens .null).deposited s u).Sublist
        ((addReferenced d (some tokens)).deposited s t) :=
      deposited_sublist rfl steps.grows.length_le
    exact custody held (hb hx (by simp) (h.release (hsub.append_right held).subperm))
  case failed e => cases hr; exact hb hx (by simp) h
  case trapped  => cases hr; exact absurd rfl ret

theorem reserve_balanced (count : UInt32) : (reserve count).Balanced := by
  intro s t outcome held hr ret h
  have hx : (Store.reserve count).result s =
      if count = 0 then (.failed .invalidParameter, s)
      else (Store.allocate count.toNat).result s := by
    by_cases hc : count = 0 <;> simp [Store.reserve, Action.result_bind, hc]
  rw [perform, hx] at hr
  split at hr
  case isTrue  => cases hr; exact h.forget
  case isFalse =>
    have ht := operation_balanced (.allocate count.toNat) hr ret h
    cases outcome <;> exact ht

-- A request that stores no token of the client's choice.
theorem balanced_of_respects {r : Request α} (hr : r.perform.Respects KeepsCustody)
    (hn : ∀ outcome, r.reserved outcome = []) : r.Balanced := by
  intro s t outcome held ht ret h
  have custody := hr s (by rw [ht]; exact ret)
  rw [ht] at custody
  rw [hn]
  exact custody held h.forget

theorem balanced : (r : Request α) → r.Balanced
  | .operation o              => operation_balanced o
  | .addReserved ..           => addReserved_balanced ..
  | .addReferenced _ (some _) => addReferenced_balanced ..
  | .reserve _                => reserve_balanced _
  | .addReferenced _ none     => balanced_of_respects (Stable.addReferenced nofun) fun _ => rfl
  | .find ..                  => balanced_of_respects Stable.find fun _ => rfl
  | .lookup ..                => balanced_of_respects Stable.lookup fun _ => rfl
  | .lookupLogged ..          => balanced_of_respects Stable.lookupLogged fun _ => rfl
  | .sanityCheck              => balanced_of_respects Stable.sanityCheck fun _ => rfl
  | .addSingle ..             => balanced_of_respects Stable.addSingle fun _ => rfl
  | .addGroup _               => balanced_of_respects Stable.addGroup fun _ => rfl
  | .extendGroup ..           => balanced_of_respects Stable.extendGroup fun _ => rfl
  | .addMemoryRanges ..       => balanced_of_respects Stable.addMemoryRanges fun _ => rfl
  | .addInterrupts ..         => balanced_of_respects Stable.addInterrupts fun _ => rfl
  | .listTable _              => balanced_of_respects Stable.listTable fun _ => rfl

end Request

-- What a client may come to that has the tokens in `held` in reserve. Those of its choice that are
-- stored are taken from the reserve.
inductive Careful (capacity : Nat) : Store → List Token → Prop
  | empty : Careful capacity (.empty capacity) []
  | request (r : Request α) : Careful capacity s held → r.perform.result s = (outcome, t) →
      outcome ≠ .trapped → (r.deposited s t ++ left).Perm held →
      Careful capacity t (r.reserved outcome ++ left)

variable {s : Store} {held : List Token} {capacity : Nat}

theorem Careful.accounted (h : Careful capacity s held) : s.Accounted held := by
  induction h
  case empty => exact .empty capacity
  case request r _ hr ret hp ih => exact r.balanced hr ret (ih.release hp.subperm)

theorem Accounted.result_sanityCheck (h : s.Accounted held) :
    sanityCheck.result s = (.done (), s) := by
  have hi : ∀ t ∈ s.stored, s.tokens.Issued t := fun t ht => h.issued t (List.mem_append_left _ ht)
  rw [Store.result_sanityCheck, Audit.result_forM_check (by simpa using h.nodup_stored) hi]

theorem careful_sanityCheck (h : Careful capacity s held) :
    sanityCheck.result s = (.done (), s) ∧
    (∀ t ∈ s.stored, 1 ≤ t.value ∧ t.value ≤ s.tokens.next - 1) ∧ s.stored.Nodup := by
  have ha := h.accounted
  refine ⟨ha.result_sanityCheck, ?_, ha.nodup_stored⟩
  intro t ht
  have hi := ha.issued t (List.mem_append_left _ ht)
  exact ⟨UInt64.le_iff_toNat_le.mpr hi.pos, UInt64.le_iff_toNat_le.mpr hi.le⟩

-- One token is for an element and one is chosen instead of null. The last request is refused when
-- its elements are stored already, as there is no room for the list of references to them.
theorem careful_sanityCheck_refused :
    ∃ s, Careful 2 s [] ∧ sanityCheck.result s = (.done (), s) ∧
      s.stored = [⟨3⟩, ⟨2⟩, ⟨4⟩, ⟨1⟩] := by
  have h₁ : Careful 2 ⟨[], 2, ⟨3⟩⟩ [⟨1⟩, ⟨2⟩] :=
    .request (.operation (.allocate 2)) .empty rfl nofun (.refl [])
  have h₂ : Careful 2 ⟨[⟨.memoryRange, [1, 2], 2, ⟨3⟩, [⟨2⟩, .null]⟩], 2, ⟨4⟩⟩ [⟨1⟩] :=
    .request (.addReserved ⟨.memoryRange, [1, 2], 2⟩ [⟨2⟩, .null] .null) h₁ rfl nofun (.swap ..)
  have h₃ : Careful 2 ⟨[⟨.memoryRange, [1, 2], 2, ⟨3⟩, [⟨2⟩, .null]⟩,
      ⟨.interrupt, [7], 1, ⟨4⟩, [⟨1⟩]⟩], 2, ⟨5⟩⟩ [] :=
    .request (.addReferenced ⟨.interrupt, [7], 1⟩ (some [⟨1⟩])) h₂ rfl nofun (.refl _)
  exact ⟨_, h₃, (careful_sanityCheck h₃).left, rfl⟩

end BoardFirmware.Store
