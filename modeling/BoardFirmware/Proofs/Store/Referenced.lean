import BoardFirmware.Proofs.Store.Change
import BoardFirmware.Proofs.Store.Uniqueness

namespace BoardFirmware.Store

open BoardFirmware.Action

variable {s t : Store} {e : Entry} {d : Descriptor} {id : ObjectId} {data : Bytes} {k i : Nat}
variable {count : UInt32} {own w : Token} {tokens : List Token} {reserved : Option (List Token)}

-- A list of references accepts no more elements, so it never changes.
theorem Step.references (h : Step s t) (he : s.entries[k]? = some e) (list : e.id = .references) :
    t.entries[k]? = some e := by
  cases h
  case advance => exact he
  case push    =>
    rw [push_entries, List.getElem?_append_left (List.getElem?_eq_some_iff.mp he).fst, he]
  case grow j e' _ _ _ _ he' acc _ =>
    by_cases hj : j = k
    case pos =>
      subst hj
      cases he.symm.trans he'
      exact absurd list acc.plain
    case neg => simp [hj, he]

-- The elements of `d` are behind the tokens, and the tokens are what the list behind `own` holds.
structure Lists (s : Store) (d : Descriptor) (tokens : List Token) (own : Token) : Prop where
  length   : tokens.length = d.count.toNat
  proper   : ∀ w ∈ own :: tokens, w.isNull = false
  elements : ∀ (i : Nat) (w : Token), tokens[i]? = some w →
    ∃ (k : Nat) (e : Entry), s.entries[k]? = some e ∧ e.id = d.id ∧ e.Holds i w (d.element i)
  list     : ∃ (k : Nat) (e : Entry), s.entries[k]? = some e ∧ e.token = own ∧
    e.descriptor = ⟨.references, Token.bytesOf tokens, d.count⟩

namespace Lists

theorem step (h : s.Lists d tokens own) (step : Step s t) : t.Lists d tokens own where
  length   := h.length
  proper   := h.proper
  elements := by
    intro i w hw
    have ⟨k, e, he, hid, holds⟩ := h.elements i w hw
    have ⟨e', he', grows⟩ := step.grows.entries k e he
    exact ⟨k, e', he', grows.id.trans hid, holds.grows grows⟩
  list     := by
    have ⟨k, e, he, hown, hdesc⟩ := h.list
    exact ⟨k, e, step.references he (congrArg Descriptor.id hdesc), hown, hdesc⟩

theorem steps (h : s.Lists d tokens own) (steps : Steps s t) : t.Lists d tokens own := by
  induction steps
  case refl           => exact h
  case tail _ next ih => exact ih.step next

theorem lookup_list (h : s.Lists d tokens own) (nodup : s.stored.Nodup) :
    (lookup .references own).result s =
      (.done ⟨.references, Token.bytesOf tokens, d.count⟩, s) := by
  have ⟨_, e, he, hown, hdesc⟩ := h.list
  have found := result_lookup_of_token nodup he (hown ▸ h.proper own List.mem_cons_self)
  rwa [show e.id = .references from congrArg Descriptor.id hdesc, hown, hdesc] at found

theorem lookup_element (h : s.Lists d tokens own) (nodup : s.stored.Nodup)
    (plain : d.id ≠ .references) (hw : tokens[i]? = some w) :
    (lookup d.id w).result s = (.done ⟨d.id, d.element i, 1⟩, s) := by
  have ⟨_, e, he, hid, holds⟩ := h.elements i w hw
  have proper := h.proper w (List.mem_cons_of_mem _ (List.mem_of_getElem? hw))
  have found := result_lookup_of_holds nodup he (hid ▸ plain) holds proper
  rwa [hid] at found

end Lists

-- New tokens are not null.
theorem proper_of_add {a : List Token × Token} (h : (add id data count).result s = (.done a, t)) :
    ∀ w ∈ a.2 :: a.1, w.isNull = false := by
  have ⟨_, _, provides, result, _⟩ := add_of_done h
  subst result
  intro w hw
  have new : w ∈ s.tokens.upcoming (count.toNat + 1) := by
    rw [TokenSource.upcoming_succ]
    exact (List.perm_append_singleton ..).mem_iff.mpr hw
  exact (TokenSource.issued_of_mem_upcoming provides new).not_isNull

-- Elements take new tokens in their order, and so they do reserved ones.
theorem addElements_of_done (h : (addElements d reserved).result s = (.done tokens, t))
    (proper : ∀ w ∈ (reserved.getD []).take d.count.toNat, w.isNull = false) :
    (∃ own, Change s t none (some d) tokens (some own)) ∧ tokens.length = d.count.toNat ∧
      ∀ w ∈ tokens, w.isNull = false := by
  cases reserved
  case none =>
    have ⟨a, _, ran, returned⟩ := result_bind_eq_done.mp h
    obtain ⟨rfl, rfl⟩ : a.1 = tokens ∧ _ = t := by simpa using returned
    have ends := (Operation.add d.id d.data d.count).ends s
    rw [Operation.perform, ran] at ends
    have ⟨_, _, _, result, _⟩ := add_of_done ran
    refine ⟨⟨_, ends.change⟩, ?_, fun w hw => proper_of_add ran w (List.mem_cons_of_mem _ hw)⟩
    rw [result, TokenSource.length_upcoming]
  case some reserved =>
    have ⟨_, _, ran, enough⟩ := result_bind_eq_done.mp h
    by_cases short : reserved.length < d.count.toNat
    case pos => simp [short, result_map] at enough
    case neg =>
      obtain ⟨rfl, rfl⟩ : reserved.take d.count.toNat = tokens ∧ _ = t := by
        simpa [short] using enough
      have ends := (Operation.addWithElementTokens d.id d.data d.count reserved .null).ends s
      rw [Operation.perform, ran] at ends
      exact ⟨⟨_, Change.take ends.change⟩, List.length_take_of_le (Nat.not_lt.mp short), proper⟩

theorem lists_of_addReferenced (h : (addReferenced d reserved).result s = (.done own, t))
    (proper : ∀ w ∈ (reserved.getD []).take d.count.toNat, w.isNull = false)
    (plain : d.id ≠ .references) : ∃ tokens, t.Lists d tokens own := by
  have ⟨_, s', checked, h⟩ := result_bind_eq_done.mp h
  have same : s = s' := Stable.checkDescriptor.rel checked nofun
  subst same
  have ⟨tokens, mid, stored, h⟩ := result_bind_eq_done.mp h
  have ⟨a, _, listed, returned⟩ := result_bind_eq_done.mp h
  obtain ⟨rfl, rfl⟩ : a.2 = own ∧ _ = t := by simpa using returned
  have ⟨⟨_, change⟩, length, proper'⟩ := addElements_of_done stored proper
  have ends := (Operation.add .references (Token.bytesOf tokens) d.count).ends mid
  rw [Operation.perform, listed] at ends
  refine ⟨tokens, length, ?proper, ?elements, ?list⟩
  case proper =>
    exact List.forall_mem_cons.mpr ⟨proper_of_add listed a.2 List.mem_cons_self, proper'⟩
  case elements =>
    intro i w hw
    have hi : i < d.count.toNat := length ▸ (List.getElem?_eq_some_iff.mp hw).fst
    have ⟨e, he, hid, holds⟩ := change.holds_of_added plain hi hw
    have ⟨_, he', grows⟩ := (ends.steps nofun).grows.entries _ e he
    exact ⟨_, _, he', grows.id.trans hid, holds.grows grows⟩
  case list =>
    have ⟨e, he, hown, hdesc⟩ := ends.change.added
    exact ⟨_, e, he, hown, hdesc⟩

-- Only the first of the reserved tokens are stored.
theorem deposited_addReferenced (plain : d.id ≠ .references) :
    ((Request.addReferenced d reserved).deposited s t).Sublist
      ((reserved.getD []).take d.count.toNat) := by
  have supplied : (Request.addReferenced d reserved).supplied.Sublist
      ((reserved.getD []).take d.count.toNat) := by
    cases reserved
    case none => exact List.nil_sublist _
    case some reserved =>
      have needed : tokensNeeded d.id d.count = d.count.toNat := if_neg plain
      have supplied : (Request.addReferenced d (some reserved)).supplied =
          Token.proper (reserved.take (tokensNeeded d.id d.count)) := rfl
      rw [supplied, needed]
      exact List.filter_sublist
  rw [Request.deposited]
  split
  case isTrue  => exact supplied
  case isFalse => exact List.nil_sublist _

-- Whatever is asked of the store afterwards, the list behind `own` has a reference to each element,
-- for as long as the tokens are unique.
theorem references_lead (unique : s.Accounted ((reserved.getD []).take d.count.toNat))
    (plain : d.id ≠ .references) (added : (addReferenced d reserved).result s = (.done own, t)) :
    t.Accounted [] ∧ sanityCheck.result t = (.done (), t) ∧
    ∃ (list : Descriptor) (values : List UInt64), list.count = d.count ∧
      list.elements UInt64 = .ok values ∧ values.length = d.count.toNat ∧
      ∀ u, Later t u → u.stored.Nodup →
        (lookup .references own).result u = (.done list, u) ∧
        ∀ i < d.count.toNat, ∃ v, values[i]? = some v ∧
          (lookup d.id ⟨v⟩).result u = (.done ⟨d.id, d.element i, 1⟩, u) := by
  have proper : ∀ w ∈ (reserved.getD []).take d.count.toNat, w.isNull = false :=
    fun w hw => (unique.issued w (List.mem_append_right _ hw)).not_isNull
  have ⟨tokens, lists⟩ := lists_of_addReferenced added proper plain
  have custody := unique.release (deposited_addReferenced (s := s) (t := t) plain).subperm
  have accounted : t.Accounted [] := (Request.addReferenced d reserved).balanced added nofun
    (by rwa [List.append_nil])
  refine ⟨accounted, accounted.result_sanityCheck, ⟨.references, Token.bytesOf tokens, d.count⟩,
    tokens.map Token.value, rfl, LawfulLayout.readAll_writeAll (by decide) _, ?_, ?_⟩
  case refine_1 => rw [List.length_map, lists.length]
  intro u later nodup
  have lists := lists.steps later.steps
  refine ⟨lists.lookup_list nodup, fun i hi => ?_⟩
  have hlt : i < tokens.length := lists.length ▸ hi
  have hw := List.getElem?_eq_getElem hlt
  exact ⟨tokens[i].value, by simp [hlt], lists.lookup_element nodup plain hw⟩

-- Two of three reserved tokens are used, not in the order in which they were given out, and then
-- one more element is added behind the others.
theorem references_lead_extended :
    ∃ s t u, Reachable 2 s ∧ s.Accounted [⟨3⟩, ⟨1⟩] ∧
      (addReferenced ⟨.memoryRange, [1, 2, 3, 4], 2⟩ (some [⟨3⟩, ⟨1⟩, ⟨2⟩])).result s =
        (.done ⟨7⟩, t) ∧
      (extend .memoryRange [5, 6] 1 ⟨3⟩).result t = (.done [⟨8⟩], u) ∧
      sanityCheck.result t = (.done (), t) ∧
      ∃ list values, (lookup .references ⟨7⟩).result u = (.done list, u) ∧
        list.elements UInt64 = .ok values ∧ values.length = 2 ∧
        ∃ v, values[1]? = some v ∧
          (lookup .memoryRange ⟨v⟩).result u = (.done ⟨.memoryRange, [3, 4], 1⟩, u) := by
  have reach : Reachable 2 ⟨[], 2, ⟨4⟩⟩ := .request (.operation (.allocate 3)) .empty nofun
  have unique : Accounted ⟨[], 2, ⟨4⟩⟩ [⟨3⟩, ⟨1⟩] := ⟨by decide, by decide⟩
  let list : Entry :=
    ⟨.references, [3, 0, 0, 0, 0, 0, 0, 0, 1, 0, 0, 0, 0, 0, 0, 0], 2, ⟨7⟩, [⟨5⟩]⟩
  have added : (addReferenced ⟨.memoryRange, [1, 2, 3, 4], 2⟩ (some [⟨3⟩, ⟨1⟩, ⟨2⟩])).result
      ⟨[], 2, ⟨4⟩⟩ =
      (.done ⟨7⟩, ⟨[⟨.memoryRange, [1, 2, 3, 4], 2, ⟨4⟩, [⟨3⟩, ⟨1⟩]⟩, list], 2, ⟨8⟩⟩) := rfl
  have later : Later ⟨[⟨.memoryRange, [1, 2, 3, 4], 2, ⟨4⟩, [⟨3⟩, ⟨1⟩]⟩, list], 2, ⟨8⟩⟩
      ⟨[⟨.memoryRange, [1, 2, 3, 4, 5, 6], 3, ⟨4⟩, [⟨3⟩, ⟨1⟩, ⟨8⟩]⟩, list], 2, ⟨9⟩⟩ :=
    .request (.operation (.extend .memoryRange [5, 6] 1 ⟨3⟩)) .refl nofun
  have ⟨_, sane, whole, values, _, decoded, length, leads⟩ :=
    references_lead unique (by decide) added
  have ⟨found, element⟩ := leads _ later (by decide)
  have ⟨v, hv, resolved⟩ := element 1 (by decide)
  exact ⟨_, _, _, reach, unique, added, rfl, sane, whole, values, found, decoded, length, v, hv,
    resolved⟩

end BoardFirmware.Store
