import BoardFirmware.Proofs.Store.Steps

namespace BoardFirmware.Store

variable {s t : Store}

-- `t` is what may become of `s`.
structure Grows (s t : Store) : Prop where
  capacity : t.capacity = s.capacity
  entries  : ∀ (k : Nat) (e : Entry), s.entries[k]? = some e →
    ∃ e', t.entries[k]? = some e' ∧ e.Grows e'

namespace Grows

theorem refl (s : Store) : s.Grows s :=
  ⟨rfl, fun _ e h => ⟨e, h, .refl e⟩⟩

theorem trans {s' : Store} (h₁ : s.Grows s') (h₂ : s'.Grows t) : s.Grows t where
  capacity := h₂.capacity.trans h₁.capacity
  entries  := by
    intro k e he
    have ⟨e', he', h⟩ := h₁.entries k e he
    have ⟨e'', he'', h'⟩ := h₂.entries k e' he'
    exact ⟨e'', he'', h.trans h'⟩

theorem length_le (h : s.Grows t) : s.entries.length ≤ t.entries.length := by
  by_contra hlt
  have ⟨_, he, _⟩ := h.entries t.entries.length _ (List.getElem?_eq_getElem (Nat.not_le.mp hlt))
  simp at he

end Grows

namespace Step

theorem grows (h : Step s t) : s.Grows t := by
  cases h
  case advance => exact ⟨rfl, fun _ e he => ⟨e, he, .refl e⟩⟩
  case push e _ _ =>
    refine ⟨rfl, fun k e he => ⟨e, ?_, .refl e⟩⟩
    rw [push_entries, List.getElem?_append_left (List.getElem?_eq_some_iff.mp he).fst, he]
  case grow k e data count total new he acc _ =>
    refine ⟨rfl, fun j e' he' => ?_⟩
    by_cases hj : k = j
    case pos =>
      subst hj
      cases he.symm.trans he'
      exact ⟨_, by simp [he], acc.grows new⟩
    case neg => exact ⟨e', by simp [hj, he'], .refl e'⟩

theorem length_le_capacity (h : Step s t) (hs : s.entries.length ≤ s.capacity) :
    t.entries.length ≤ t.capacity := by
  cases h
  case advance   => exact hs
  case push room _ => simpa using Nat.succ_le_of_lt room
  case grow      => simpa using hs

end Step

namespace Steps

theorem grows (h : Steps s t) : s.Grows t := by
  induction h
  case refl         => exact .refl s
  case tail _ h ih  => exact ih.trans h.grows

theorem length_le_capacity (h : Steps s t) (hs : s.entries.length ≤ s.capacity) :
    t.entries.length ≤ t.capacity := by
  induction h
  case refl         => exact hs
  case tail _ h ih  => exact h.length_le_capacity ih

end Steps

theorem Reachable.length_le {capacity : Nat} (h : Reachable capacity s) :
    s.entries.length ≤ capacity := by
  have hc : s.capacity = capacity := h.steps.grows.capacity
  exact hc ▸ h.steps.length_le_capacity (Nat.zero_le _)

namespace Operation

-- What the operation does to `s` if it succeeds, where `t` is the store after it.
def Effect (s t : Store) : Operation α → Prop
  | allocate n                        => t = s.advance n
  | add id data count
  | addWithTokens id data count ..
  | addWithElementTokens id data count .. =>
    ∃ e, e.id = id ∧ e.data = data ∧ e.count = count ∧ t.entries = s.entries ++ [e]
  | extend id data count token        =>
    ∃ k e total, (findIndexed id token).result s = (.done (k, e), s) ∧
      (find id token).result s = (.done e, s) ∧ e.count.toNat + count.toNat = total.toNat ∧
      t.entries = s.entries.set k (e.grown data (s.tokens.upcoming count.toNat) total)

-- Whether the operation asks for a new token before it is known to succeed.
def ReplacesToken : Operation α → Prop
  | addWithElementTokens _ _ _ _ token => token.isNull
  | _                                  => False

variable {o : Operation α}

theorem Ends.effect (h : o.Ends s (.done a, t)) : o.Effect s t := by
  cases h
  case allocated              => rfl
  case added                  => exact ⟨_, rfl, rfl, rfl, rfl⟩
  case addedWithTokens        => exact ⟨_, rfl, rfl, rfl, rfl⟩
  case addedWithElementTokens => exact ⟨_, rfl, rfl, rfl, rfl⟩
  case addedReplacing         => exact ⟨_, rfl, rfl, rfl, rfl⟩
  case extended hk he _ acc _ =>
    refine ⟨_, _, _, result_findIndexed_of_some hk he, result_find_of_some hk he, acc.total, ?_⟩
    simp [List.modify_eq_set_getElem?, he]

theorem Ends.unchanged (h : o.Ends s (.failed e, t)) :
    t.entries = s.entries ∧ (t.tokens = s.tokens ∨
      o.ReplacesToken ∧ s.tokens.Provides 1 ∧ t.tokens = s.tokens.advance 1) := by
  cases h
  case refused        => exact ⟨rfl, .inl rfl⟩
  case usedUp null hp => exact ⟨rfl, .inr ⟨null, hp, rfl⟩⟩

end Operation

theorem operation_append_only {capacity : Nat} {o : Operation α} (reach : Reachable capacity s)
    (h : o.perform.result s = (outcome, t)) (ret : outcome ≠ .trapped) :
    t.entries.length ≤ capacity ∧ s.Grows t ∧
    (∀ a, outcome = .done a → o.Effect s t) ∧
    (∀ e, outcome = .failed e → t.entries = s.entries ∧ (t.tokens = s.tokens ∨
      o.ReplacesToken ∧ s.tokens.Provides 1 ∧ t.tokens = s.tokens.advance 1)) := by
  have reach' : Reachable capacity t := by
    have := reach.request (.operation o) (by rw [Request.perform, h]; exact ret)
    rwa [Request.perform, h] at this
  have ends : o.Ends s (outcome, t) := h ▸ o.ends s
  refine ⟨reach'.length_le, (ends.steps ret).grows, ?_, ?_⟩
  case refine_1 => exact fun a ha => (ha ▸ ends).effect
  case refine_2 => exact fun e he => (he ▸ ends).unchanged

-- There is no room for a second entry, but the token that was to replace null is used up.
theorem operation_append_only_refused :
    ∃ s t, Reachable 1 s ∧
      (addWithElementTokens .interrupt [7] 1 [.null] .null).result s =
        (.failed .outOfResources, t) ∧
      t.entries = s.entries ∧ t.entries.length = 1 ∧ t.tokens = s.tokens.advance 1 := by
  have reach : Reachable 1 ⟨[⟨.memoryRange, [1, 2], 2, ⟨3⟩, [⟨1⟩, ⟨2⟩]⟩], 1, ⟨4⟩⟩ :=
    .request (.operation (.add .memoryRange [1, 2] 2)) .empty nofun
  have h : (Operation.addWithElementTokens .interrupt [7] 1 [.null] .null).perform.result
      ⟨[⟨.memoryRange, [1, 2], 2, ⟨3⟩, [⟨1⟩, ⟨2⟩]⟩], 1, ⟨4⟩⟩ =
      (.failed .outOfResources, ⟨[⟨.memoryRange, [1, 2], 2, ⟨3⟩, [⟨1⟩, ⟨2⟩]⟩], 1, ⟨5⟩⟩) := rfl
  have ⟨_, _, _, refused⟩ := operation_append_only reach h nofun
  exact ⟨_, _, reach, h, (refused _ rfl).left, rfl, rfl⟩

end BoardFirmware.Store
