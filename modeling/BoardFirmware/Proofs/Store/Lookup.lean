import BoardFirmware.Proofs.Store.Operation

namespace BoardFirmware

namespace Token

variable {t : Token} {tokens : List Token} {i : Nat}

-- Null tokens may repeat, so a list of tokens is compared without them.
theorem idxOf?_of_nodup_proper (h : (proper tokens).Nodup) (hi : tokens[i]? = some t)
    (ht : t.isNull = false) : tokens.idxOf? t = some i := by
  have ⟨hlt, heq⟩ := List.getElem?_eq_some_iff.mp hi
  have hp := List.pairwise_iff_getElem.mp (List.pairwise_filter.mp h)
  refine List.idxOf?_eq_some_iff.mpr ⟨hlt, heq, ?_⟩
  intro j hj hc
  have hne := hp j i (Nat.lt_trans hj hlt) hlt hj
  simp [hc, heq, ht] at hne

end Token

namespace Entry

variable {e : Entry} {id : ObjectId} {t : Token} {i : Nat}

-- The tokens that lead to the entry or into it.
def tokens (e : Entry) : List Token :=
  Token.proper (e.token :: e.elementTokens)

theorem mem_tokens_of_element (h : e.elementTokens[i]? = some t) (ht : t.isNull = false) :
    t ∈ e.tokens :=
  Token.mem_proper_iff.mpr ⟨List.mem_cons_of_mem _ (List.mem_of_getElem? h), ht⟩

theorem token_mem_tokens (h : e.token.isNull = false) : e.token ∈ e.tokens :=
  Token.mem_proper_iff.mpr ⟨List.mem_cons_self, h⟩

theorem matches_iff (h : t.isNull = false) : e.Matches id t ↔ e.id = id ∧ t ∈ e.tokens := by
  simp [Matches, tokens, Token.mem_proper_iff, h]

-- No element shares its token with the whole entry.
theorem element_ne_token (h : e.tokens.Nodup) (hi : e.elementTokens[i]? = some t)
    (ht : t.isNull = false) : t ≠ e.token := by
  intro heq
  subst heq
  rw [tokens, Token.proper, List.filter_cons_of_pos (by simp [ht])] at h
  exact (List.nodup_cons.mp h).left
    (Token.mem_proper_iff.mpr ⟨List.mem_of_getElem? hi, ht⟩)

theorem nodup_elementTokens (h : e.tokens.Nodup) : (Token.proper e.elementTokens).Nodup :=
  h.sublist ((List.sublist_cons_self ..).filter _)

-- Every element of a sound entry lies within its bytes.
theorem Sound.element_le (h : e.Sound) (plain : e.id ≠ .references)
    (hi : i < e.elementTokens.length) :
    (i + 1) * (e.data.length / e.count.toNat) ≤ e.data.length := by
  have hl := h.length
  rw [Store.tokensNeeded, if_neg plain] at hl
  calc (i + 1) * (e.data.length / e.count.toNat)
    _ ≤ e.count.toNat * (e.data.length / e.count.toNat) := Nat.mul_le_mul_right _ (by omega)
    _ ≤ e.data.length                                   := Nat.mul_div_le ..

end Entry

namespace Store

variable {s : Store} {e : Entry} {k : Nat} {id : ObjectId} {token t : Token}

-- The tokens that lead to something, in the order of the entries.
def stored (s : Store) : List Token :=
  s.entries.flatMap Entry.tokens

theorem eq_of_mem_tokens (h : s.stored.Nodup) {e' : Entry} (hk : s.entries[k]? = some e)
    (hj : s.entries[j]? = some e') (he : t ∈ e.tokens) (he' : t ∈ e'.tokens) : j = k := by
  have ⟨hkl, hke⟩ := List.getElem?_eq_some_iff.mp hk
  have ⟨hjl, hje⟩ := List.getElem?_eq_some_iff.mp hj
  have hp := List.pairwise_iff_getElem.mp (List.nodup_flatMap.mp h).right
  by_contra hne
  cases Nat.lt_or_gt_of_ne hne
  case inl hlt => exact hp j k hjl hkl hlt (hje ▸ he') (hke ▸ he)
  case inr hlt => exact hp k j hkl hjl hlt (hke ▸ he) (hje ▸ he')

-- The first match is the only one.
theorem indexOf?_of_mem_tokens (h : s.stored.Nodup) (hk : s.entries[k]? = some e)
    (ht : t ∈ e.tokens) : s.indexOf? e.id t = some k := by
  have hn := (Token.mem_proper_iff.mp ht).right
  cases s.indexOf?_cases e.id t
  case inl hnone =>
    have := List.findIdx?_eq_none_iff.mp hnone e (List.mem_of_getElem? hk)
    simp [(Entry.matches_iff hn).mpr ⟨rfl, ht⟩] at this
  case inr h' =>
    have ⟨j, e', hj, he', hm⟩ := h'
    have ht' := ((Entry.matches_iff hn).mp hm).right
    rw [hj, eq_of_mem_tokens h hk he' ht ht']

theorem nodup_tokens (h : s.stored.Nodup) (hk : s.entries[k]? = some e) : e.tokens.Nodup :=
  (List.nodup_flatMap.mp h).left e (List.mem_of_getElem? hk)

theorem result_lookup_of_none (h : s.indexOf? id token = none) :
    (lookup id token).result s = (.failed .notFound, s) := by
  simp [lookup, Action.result_bind, result_find_of_none h]

theorem result_lookup_of_whole (h : s.indexOf? id token = some k) (he : s.entries[k]? = some e)
    (hw : token.isNull ∨ token = e.token ∨ e.id = .references) :
    (lookup id token).result s = (.done e.descriptor, s) := by
  simp [lookup, Action.result_bind, result_find_of_some h he, hw]

theorem result_lookup_of_token (h : s.stored.Nodup) (hk : s.entries[k]? = some e)
    (ht : e.token.isNull = false) : (lookup e.id e.token).result s = (.done e.descriptor, s) := by
  have hm := indexOf?_of_mem_tokens h hk (Entry.token_mem_tokens ht)
  exact result_lookup_of_whole hm hk (.inr (.inl rfl))

theorem result_lookup_of_element (h : s.indexOf? id token = some k) (he : s.entries[k]? = some e)
    (hw : ¬(token.isNull ∨ token = e.token ∨ e.id = .references))
    (hi : e.elementTokens.idxOf? token = some i) (hs : e.elementSize? = some size)
    (le : (i + 1) * size ≤ e.data.length) :
    (lookup id token).result s = (.done ⟨id, e.data.slice (i * size) size, 1⟩, s) := by
  simp [lookup, Action.result_bind, result_find_of_some h he, hw, hi, hs, le]

-- In a store of sound entries whatever is found can be read.
theorem lookup_of_find (sound : ∀ e ∈ s.entries, e.Sound) (h : s.indexOf? id token = some k)
    (he : s.entries[k]? = some e) (hm : e.Matches id token) :
    ∃ d, (lookup id token).result s = (.done d, s) := by
  by_cases hw : token.isNull ∨ token = e.token ∨ e.id = .references
  case pos => exact ⟨_, result_lookup_of_whole h he hw⟩
  have hmem : token ∈ e.elementTokens := by
    have := hm.right
    tauto
  have ⟨i, hi⟩ := Option.isSome_iff_exists.mp (List.isSome_idxOf?.mpr hmem)
  have ⟨hil, _⟩ := List.idxOf?_eq_some_iff.mp hi
  have hs := sound e (List.mem_of_getElem? he)
  have le := hs.element_le (fun hr => hw (.inr (.inr hr))) hil
  exact ⟨_, result_lookup_of_element h he hw hi (Entry.elementSize?_of_ne_zero hs.pos) le⟩

end Store

end BoardFirmware
