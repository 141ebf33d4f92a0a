import BoardFirmware.Proofs.Store.Change
import BoardFirmware.Proofs.Store.Uniqueness

/-!
Extensions, and when they keep elements addressable. Sizes are compared rounded down, so an entry
also accepts bytes that do not divide evenly. These are behind their tokens all the same, but there
is a gap after them, and whatever is added later is not where its tokens lead to.
-/

namespace BoardFirmware

namespace Entry

variable {e : Entry} {data : Bytes} {count total : UInt32} {new : List Token}

-- The bytes that are accepted divide evenly if there are no more than the elements take.
theorem Accepts.exact_iff (h : e.Accepts data count total) :
    Descriptor.Exact ⟨e.id, data, count⟩ ↔
      data.length = count.toNat * e.descriptor.elementSize := by
  rw [h.elementSize_eq]
  exact ⟨Descriptor.Exact.length_eq, fun length => ⟨_, length⟩⟩

theorem Accepts.exact_grown_iff (h : e.Accepts data count total) (he : e.descriptor.Exact) :
    (e.grown data new total).descriptor.Exact ↔ Descriptor.Exact ⟨e.id, data, count⟩ := by
  refine ⟨fun grown => ?_, h.exact he⟩
  have size : (e.grown data new total).descriptor.elementSize = e.descriptor.elementSize := by
    have kept := elementSize?_grown h new
    rwa [elementSize?_of_ne_zero h.count_ne_zero,
      elementSize?_of_ne_zero (e := e.grown data new total) h.total_ne_zero,
      Option.some.injEq] at kept
  have before : e.data.length = e.count.toNat * e.descriptor.elementSize := he.length_eq
  have after : e.data.length + data.length = total.toNat * e.descriptor.elementSize := by
    rw [← size, ← List.length_append]
    exact grown.length_eq
  rw [← h.total, Nat.add_mul, before, Nat.add_left_cancel_iff] at after
  exact h.exact_iff.mpr after

end Entry

namespace Store

variable {s t u : Store} {e : Entry} {id : ObjectId} {data : Bytes} {count : UInt32}
variable {token w : Token} {new : List Token} {k i : Nat}

-- The bytes of all entries but lists of references divide evenly into elements.
def Exact (s : Store) : Prop :=
  ∀ e ∈ s.entries, e.id ≠ .references → e.descriptor.Exact

instance (s : Store) : Decidable s.Exact := by
  unfold Exact
  infer_instance

-- What is behind a token stays there, and is found for as long as the tokens are unique.
theorem Later.lookup_of_holds (h : Later s t) (he : s.entries[k]? = some e) (hid : e.id = id)
    (plain : id ≠ .references) (holds : e.Holds i w bytes) (proper : w.isNull = false)
    (nodup : t.stored.Nodup) : (lookup id w).result t = (.done ⟨id, bytes, 1⟩, t) := by
  subst hid
  have ⟨e', he', grows⟩ := h.steps.grows.entries k e he
  have found := result_lookup_of_holds nodup he' (grows.id ▸ plain) (holds.grows grows) proper
  rwa [grows.id] at found

-- Elements of any other size are refused.
theorem result_extend_of_size_ne (sound : s.Sound) (pos : count ≠ 0) (plain : id ≠ .references)
    (found : (find id token).result s = (.done e, s))
    (ne : e.descriptor.elementSize ≠ data.length / count.toNat) :
    (extend id data count token).result s = (.failed .invalidParameter, s) := by
  cases s.indexOf?_cases id token
  case inl missing => simp [result_find_of_none missing] at found
  case inr known =>
    have ⟨k, e', hk, he, _⟩ := known
    obtain rfl : e' = e := by simpa [result_find_of_some hk he] using found
    have size := Entry.elementSize?_of_ne_zero (sound e' (List.mem_of_getElem? he)).pos
    rw [result_extend_of_some pos plain data hk he, size]
    exact if_pos ne

theorem exact_iff_of_extend (exact : s.Exact) (he : s.entries[k]? = some e)
    (acc : e.Accepts data count total)
    (entries : t.entries = s.entries.modify k (·.grown data new total)) :
    t.Exact ↔ Descriptor.Exact ⟨e.id, data, count⟩ := by
  have before := exact e (List.mem_of_getElem? he) acc.plain
  constructor
  case mp =>
    intro after
    have mem : e.grown data new total ∈ t.entries :=
      List.mem_of_getElem? (i := k) (by simp [entries, he])
    exact (acc.exact_grown_iff before).mp (after _ mem acc.plain)
  case mpr =>
    intro even
    rw [Exact, entries]
    exact forall_mem_modify he exact fun _ => (acc.exact_grown_iff before).mpr even

-- The new elements are behind their tokens from then on, as the old ones are. If there are no bytes
-- left over, and only then, this is as true of the next extension.
theorem extend_addressable {capacity : Nat} (reach : Reachable capacity s) (exact : s.Exact)
    (unique : s.Accounted []) (id : ObjectId) (data : Bytes) (count : UInt32) (token : Token) :
    (∀ e, (find id token).result s = (.done e, s) → count ≠ 0 → id ≠ .references →
      e.descriptor.elementSize ≠ data.length / count.toNat →
      (extend id data count token).result s = (.failed .invalidParameter, s)) ∧
    ∀ new t, (extend id data count token).result s = (.done new, t) →
      ∃ k e e', (find id token).result s = (.done e, s) ∧ s.entries[k]? = some e ∧
        t.entries = s.entries.set k e' ∧ e'.data = e.data ++ data ∧
        e'.elementTokens = e.elementTokens ++ new ∧ new.length = count.toNat ∧
        (data.length = count.toNat * e.descriptor.elementSize ↔ count.toNat ∣ data.length) ∧
        (t.Exact ↔ count.toNat ∣ data.length) ∧ t.Accounted [] ∧
        ∀ u, Later t u → u.stored.Nodup →
          (∀ i w, e.elementTokens[i]? = some w → w.isNull = false →
            (lookup id w).result s = (.done ⟨id, e.descriptor.element i, 1⟩, s) ∧
            (lookup id w).result u = (.done ⟨id, e.descriptor.element i, 1⟩, u)) ∧
          ∀ i < count.toNat, ∃ w, new[i]? = some w ∧
            (lookup id w).result u =
              (.done ⟨id, Descriptor.element ⟨id, data, count⟩ i, 1⟩, u) := by
  refine ⟨fun e found pos plain => result_extend_of_size_ne reach.sound pos plain found, ?_⟩
  intro new t ran
  have ⟨k, e, total, hk, he, hm, acc, provides, hnew, ht⟩ := extend_of_done ran
  have entries : t.entries = s.entries.modify k (·.grown data new total) := by rw [ht]; rfl
  obtain rfl : e.id = id := hm.left
  have mem := List.mem_of_getElem? he
  have sound := reach.sound e mem
  have even := exact e mem acc.plain
  have custody : KeepsCustody s t := (Stable.extend e.id data count token).rel ran nofun
  have length : new.length = count.toNat := by rw [hnew, TokenSource.length_upcoming]
  have proper : ∀ w ∈ new, w.isNull = false :=
    fun w hw => (TokenSource.issued_of_mem_upcoming provides (hnew ▸ hw)).not_isNull
  have set : t.entries = s.entries.set k (e.grown data new total) := by
    rw [entries, List.modify_eq_set_getElem?, he]
    rfl
  have he' : t.entries[k]? = some (e.grown data new total) := by simp [entries, he]
  refine ⟨k, e, e.grown data new total, result_find_of_some hk he, he, set, rfl, rfl, length,
    acc.exact_iff.symm, exact_iff_of_extend exact he acc entries, custody [] unique, ?_⟩
  intro u later nodup
  constructor
  case left =>
    intro i w hw proper
    have holds := sound.holds (sound.lt_count acc.plain hw) hw
    exact ⟨result_lookup_of_holds unique.nodup_stored he acc.plain holds proper,
      later.lookup_of_holds he' rfl acc.plain (holds.grows (acc.grows new)) proper nodup⟩
  case right =>
    intro i hi
    have hw := List.getElem?_eq_getElem (length ▸ hi : i < new.length)
    have holds := acc.holds sound even hi hw
    have proper := proper new[i] (List.mem_of_getElem? hw)
    exact ⟨new[i], hw, later.lookup_of_holds he' rfl acc.plain holds proper nodup⟩

-- To two elements two more are added, and then one more.
theorem extend_addressable_twice :
    ∃ s t u, Reachable 1 s ∧ s.Exact ∧ s.Accounted [] ∧
      (extend .memoryRange [5, 6, 7, 8] 2 ⟨2⟩).result s = (.done [⟨4⟩, ⟨5⟩], t) ∧ t.Exact ∧
      (extend .memoryRange [9, 10] 1 ⟨5⟩).result t = (.done [⟨6⟩], u) ∧
      (lookup .memoryRange ⟨2⟩).result u = (.done ⟨.memoryRange, [3, 4], 1⟩, u) ∧
      ∃ w, [Token.mk 4, ⟨5⟩][1]? = some w ∧
        (lookup .memoryRange w).result u = (.done ⟨.memoryRange, [7, 8], 1⟩, u) := by
  have reach : Reachable 1 ⟨[⟨.memoryRange, [1, 2, 3, 4], 2, ⟨3⟩, [⟨1⟩, ⟨2⟩]⟩], 1, ⟨4⟩⟩ :=
    .request (.operation (.add .memoryRange [1, 2, 3, 4] 2)) .empty nofun
  have exact : Exact ⟨[⟨.memoryRange, [1, 2, 3, 4], 2, ⟨3⟩, [⟨1⟩, ⟨2⟩]⟩], 1, ⟨4⟩⟩ := by
    decide
  have unique : Accounted ⟨[⟨.memoryRange, [1, 2, 3, 4], 2, ⟨3⟩, [⟨1⟩, ⟨2⟩]⟩], 1, ⟨4⟩⟩ [] :=
    ⟨by decide, by decide⟩
  have ran : (extend .memoryRange [5, 6, 7, 8] 2 ⟨2⟩).result
      ⟨[⟨.memoryRange, [1, 2, 3, 4], 2, ⟨3⟩, [⟨1⟩, ⟨2⟩]⟩], 1, ⟨4⟩⟩ = (.done [⟨4⟩, ⟨5⟩],
        ⟨[⟨.memoryRange, [1, 2, 3, 4, 5, 6, 7, 8], 4, ⟨3⟩, [⟨1⟩, ⟨2⟩, ⟨4⟩, ⟨5⟩]⟩], 1, ⟨6⟩⟩) := rfl
  have later : Later
      ⟨[⟨.memoryRange, [1, 2, 3, 4, 5, 6, 7, 8], 4, ⟨3⟩, [⟨1⟩, ⟨2⟩, ⟨4⟩, ⟨5⟩]⟩], 1, ⟨6⟩⟩
      ⟨[⟨.memoryRange, [1, 2, 3, 4, 5, 6, 7, 8, 9, 10], 5, ⟨3⟩,
        [⟨1⟩, ⟨2⟩, ⟨4⟩, ⟨5⟩, ⟨6⟩]⟩], 1, ⟨7⟩⟩ :=
    .request (.operation (.extend .memoryRange [9, 10] 1 ⟨5⟩)) .refl nofun
  have ⟨_, grows⟩ := extend_addressable reach exact unique .memoryRange [5, 6, 7, 8] 2 ⟨2⟩
  have ⟨_, e, _, found, _, _, _, _, _, _, even, _, leads⟩ := grows _ _ ran
  obtain rfl : e = ⟨.memoryRange, [1, 2, 3, 4], 2, ⟨3⟩, [⟨1⟩, ⟨2⟩]⟩ := by cases found; rfl
  have ⟨old, new⟩ := leads _ later (by decide)
  exact ⟨_, _, _, reach, exact, unique, ran, even.mpr (by decide), rfl,
    (old 1 ⟨2⟩ rfl rfl).right, new 1 (by decide)⟩

-- Five bytes are no two elements, but are added as such. The last of them comes before the next
-- element, so the token of that one leads to the wrong bytes.
theorem extend_uneven_shifted :
    ∃ s t u, Reachable 1 s ∧ s.Exact ∧ s.Accounted [] ∧
      (extend .memoryRange [5, 6, 7, 8, 9] 2 ⟨3⟩).result s = (.done [⟨4⟩, ⟨5⟩], t) ∧
      (extend .memoryRange [10, 11] 1 ⟨3⟩).result t = (.done [⟨6⟩], u) ∧
      (lookup .memoryRange ⟨6⟩).result u = (.done ⟨.memoryRange, [9, 10], 1⟩, u) := by
  have reach : Reachable 1 ⟨[⟨.memoryRange, [1, 2, 3, 4], 2, ⟨3⟩, [⟨1⟩, ⟨2⟩]⟩], 1, ⟨4⟩⟩ :=
    .request (.operation (.add .memoryRange [1, 2, 3, 4] 2)) .empty nofun
  exact ⟨_, _, _, reach, by decide, ⟨by decide, by decide⟩, rfl, rfl, rfl⟩

end Store

end BoardFirmware
