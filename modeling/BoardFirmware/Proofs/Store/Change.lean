import BoardFirmware.Proofs.Store.Lookup
import BoardFirmware.Proofs.Store.Totality
import Mathlib

namespace BoardFirmware

namespace Descriptor

def elementSize (d : Descriptor) : Nat :=
  d.data.length / d.count.toNat

def element (d : Descriptor) (i : Nat) : Bytes :=
  d.data.slice (i * d.elementSize) d.elementSize

theorem element_le {d : Descriptor} (hi : i < d.count.toNat) :
    (i + 1) * d.elementSize ≤ d.data.length :=
  calc (i + 1) * d.elementSize
    _ ≤ d.count.toNat * d.elementSize := Nat.mul_le_mul_right _ hi
    _ ≤ d.data.length                 := Nat.mul_div_le ..

theorem length_element {d : Descriptor} (hi : i < d.count.toNat) :
    (d.element i).length = d.elementSize := by
  have := element_le hi
  rw [Nat.succ_mul] at this
  simp only [element, Bytes.slice, List.length_take, List.length_drop]
  omega

-- The bytes divide evenly into elements.
def Exact (d : Descriptor) : Prop :=
  d.count.toNat ∣ d.data.length

instance (d : Descriptor) : Decidable d.Exact :=
  inferInstanceAs (Decidable (d.count.toNat ∣ d.data.length))

theorem Exact.length_eq {d : Descriptor} (h : d.Exact) :
    d.data.length = d.count.toNat * d.elementSize :=
  (Nat.mul_div_cancel' h).symm

end Descriptor

namespace Entry

variable {e e' : Entry} {i : Nat} {t : Token} {bytes data : Bytes} {count total : UInt32}
variable {new : List Token}

-- The element with index `i` has the token `t`, and these are its bytes.
structure Holds (e : Entry) (i : Nat) (t : Token) (bytes : Bytes) : Prop where
  token : e.elementTokens[i]? = some t
  size  : e.elementSize? = some bytes.length
  le    : (i + 1) * bytes.length ≤ e.data.length
  bytes : e.data.slice (i * bytes.length) bytes.length = bytes

theorem Holds.grows (h : e.Holds i t bytes) (hg : e.Grows e') : e'.Holds i t bytes where
  token := by
    have ⟨hi, ht⟩ := List.getElem?_eq_some_iff.mp h.token
    rw [List.prefix_iff_getElem?.mp hg.elementTokens i hi, ht]
  size  := hg.elementSize.trans h.size
  le    := Nat.le_trans h.le hg.data.length_le
  bytes := by
    have := h.le
    rw [Nat.succ_mul] at this
    exact (Bytes.slice_of_prefix hg.data this).trans h.bytes

theorem Sound.holds (h : e.Sound) (hi : i < e.count.toNat) (ht : e.elementTokens[i]? = some t) :
    e.Holds i t (e.descriptor.element i) := by
  have hl : (e.descriptor.element i).length = e.descriptor.elementSize :=
    Descriptor.length_element hi
  constructor
  case token => exact ht
  case size  => rw [hl]; exact elementSize?_of_ne_zero h.pos
  case le    => rw [hl]; exact Descriptor.element_le hi
  case bytes => rw [hl]; rfl

-- Only elements have tokens.
theorem Sound.lt_count (h : e.Sound) (plain : e.id ≠ .references)
    (ht : e.elementTokens[i]? = some t) : i < e.count.toNat := by
  have hlt := (List.getElem?_eq_some_iff.mp ht).fst
  rwa [h.length, Store.tokensNeeded, if_neg plain] at hlt

-- The elements of an entry that was added are behind the first of the tokens that came with it.
theorem Sound.holds_of_kept (h : e.Sound) (plain : e.id ≠ .references)
    (kept : e.elementTokens = new.take (Store.tokensNeeded e.id e.count))
    (hi : i < e.count.toNat) :
    ∃ t, new[i]? = some t ∧ e.Holds i t (e.descriptor.element i) := by
  have hn : Store.tokensNeeded e.id e.count = e.count.toNat := if_neg plain
  have hlt : i < e.elementTokens.length := by rwa [h.length, hn]
  have ht := List.getElem?_eq_getElem hlt
  refine ⟨e.elementTokens[i], ?_, h.holds hi ht⟩
  rw [← ht, kept, hn, List.getElem?_take_of_lt hi]

theorem Accepts.elementSize_eq (h : e.Accepts data count total) :
    e.descriptor.elementSize = data.length / count.toNat := by
  have hs := h.size
  rwa [elementSize?_of_ne_zero h.count_ne_zero, Option.some.injEq] at hs

-- The added elements follow the others without a gap, as the others fill the bytes before.
theorem Accepts.holds (h : e.Accepts data count total) (hs : e.Sound) (exact : e.descriptor.Exact)
    (hi : i < count.toNat) (ht : new[i]? = some t) :
    (e.grown data new total).Holds (e.count.toNat + i) t
      (Descriptor.element ⟨e.id, data, count⟩ i) := by
  have hl : (Descriptor.element ⟨e.id, data, count⟩ i).length = data.length / count.toNat :=
    Descriptor.length_element hi
  have hd : e.data.length = e.count.toNat * (data.length / count.toNat) :=
    h.elementSize_eq ▸ exact.length_eq
  have htokens : e.elementTokens.length = e.count.toNat := by
    rw [hs.length, Store.tokensNeeded, if_neg h.plain]
  constructor
  case token =>
    rw [grown, List.getElem?_append_right (by omega), htokens, Nat.add_sub_cancel_left, ht]
  case size  => rw [hl, elementSize?_grown h, h.size]
  case le    =>
    have : (i + 1) * (data.length / count.toNat) ≤ data.length :=
      Descriptor.element_le (d := ⟨e.id, data, count⟩) hi
    rw [hl, grown, List.length_append, Nat.add_assoc, Nat.add_mul, ← hd]
    omega
  case bytes =>
    rw [hl, grown, Nat.add_mul, ← hd, Bytes.slice_append_right]
    rfl

theorem Accepts.exact (h : e.Accepts data count total) (he : e.descriptor.Exact)
    (hd : Descriptor.Exact ⟨e.id, data, count⟩) : (e.grown data new total).descriptor.Exact := by
  have he' : e.data.length = e.count.toNat * (data.length / count.toNat) :=
    h.elementSize_eq ▸ he.length_eq
  have hd' : data.length = count.toNat * (data.length / count.toNat) := hd.length_eq
  refine ⟨data.length / count.toNat, ?_⟩
  calc (e.data ++ data).length
    _ = e.data.length + data.length               := List.length_append
    _ = total.toNat * (data.length / count.toNat) := by rw [← h.total, Nat.add_mul, ← he', ← hd']

-- `e'` is what has become of `e` after the elements in `more` were added at its end.
structure Gains (e e' : Entry) (more : List Descriptor) : Prop where
  grows : e.Grows e'
  data  : e'.data = e.data ++ more.flatMap (·.data)
  count : e'.count.toNat = e.count.toNat + (more.map (·.count.toNat)).sum

theorem Gains.refl (e : Entry) : e.Gains e [] :=
  ⟨.refl e, by simp, by simp⟩

theorem Gains.trans {e₁ e₂ e₃ : Entry} {more more' : List Descriptor} (h₁ : e₁.Gains e₂ more)
    (h₂ : e₂.Gains e₃ more') : e₁.Gains e₃ (more ++ more') where
  grows := h₁.grows.trans h₂.grows
  data  := by simp [h₂.data, h₁.data]
  count := by simp [h₂.count, h₁.count, Nat.add_assoc]

theorem Accepts.gains (h : e.Accepts data count total) (new : List Token) :
    e.Gains (e.grown data new total) [⟨e.id, data, count⟩] :=
  ⟨h.grows new, by simp [grown], by simp [grown, h.total]⟩

end Entry

namespace Store

-- What a successful operation does to the entries of a store. It adds an entry of its own, or it
-- adds to the entry with the index `target`. The caller knows the elements by the tokens in `new`,
-- and the entry by the token `own`.
inductive Change (s t : Store) :
    (target : Option Nat) → Option Descriptor → (new : List Token) → (own : Option Token) → Prop
  | reserve {new : List Token} (h : t.entries = s.entries) : Change s t none none new none
  | add {e : Entry} {new : List Token} (sound : e.Sound)
      (kept : e.elementTokens = new.take (tokensNeeded e.id e.count))
      (h : t.entries = s.entries ++ [e]) : Change s t none (some e.descriptor) new (some e.token)
  | extend {k : Nat} {e : Entry} {data : Bytes} {count total : UInt32} {new : List Token}
      (he : s.entries[k]? = some e) (acc : e.Accepts data count total)
      (hn : new.length = count.toNat)
      (h : t.entries = s.entries.modify k (·.grown data new total)) :
      Change s t (some k) (some ⟨e.id, data, count⟩) new none

namespace Operation

-- The index of the entry that the operation extends.
def target? (s : Store) : Operation α → Option Nat
  | extend id _ _ token => s.indexOf? id token
  | _                   => none

-- The elements that the operation adds.
def descriptor? : Operation α → Option Descriptor
  | allocate _                    => none
  | add id data count
  | addWithTokens id data count ..
  | addWithElementTokens id data count ..
  | extend id data count _        => some ⟨id, data, count⟩

-- The tokens that the caller knows the elements by.
def elementTokens : Operation α → α → List Token
  | allocate _, _                                    => []
  | add .., (elementTokens, _)                       => elementTokens
  | addWithTokens _ _ _ elementTokens _, _
  | addWithElementTokens _ _ _ elementTokens _, _    => elementTokens
  | extend .., elementTokens                         => elementTokens

-- The token that the caller knows the added entry by.
def entryToken? : Operation α → α → Option Token
  | add .., (_, token)                => some token
  | addWithTokens _ _ _ _ token, _    => some token
  | addWithElementTokens .., token    => some token
  | _, _                              => none

theorem Ends.change {o : Operation α} (h : o.Ends s (.done a, t)) :
    Change s t (o.target? s) o.descriptor? (o.elementTokens a) (o.entryToken? a) := by
  cases h
  case allocated              => exact .reserve rfl
  case added pos _ _          => exact .add (newEntry_sound s pos) rfl rfl
  case extended hk he hm acc _ =>
    rw [target?, hk, descriptor?, ← hm.left]
    exact .extend he acc (TokenSource.length_upcoming ..) rfl
  case addedWithTokens pos _ enough =>
    exact .add (e := ⟨_, _, _, _, _⟩) ⟨pos, List.length_take_of_le enough⟩ rfl rfl
  case addedWithElementTokens pos _ enough _ =>
    exact .add (e := ⟨_, _, _, _, _⟩) ⟨pos, List.length_take_of_le enough⟩ rfl rfl
  case addedReplacing pos _ enough _ _ =>
    exact .add (e := ⟨_, _, _, _, _⟩) ⟨pos, List.length_take_of_le enough⟩ rfl rfl

end Operation

namespace Change

variable {s t : Store} {target : Option Nat} {d? : Option Descriptor} {new : List Token}
variable {own : Option Token} {k i : Nat} {e : Entry} {d : Descriptor}

-- What the operation adds to the entry with the index `k`.
theorem gains (h : Change s t target d? new own) (he : s.entries[k]? = some e) :
    ∃ e', t.entries[k]? = some e' ∧ e.Gains e' (if target = some k then d?.toList else []) := by
  cases h
  case reserve h => exact ⟨e, by rw [h, he], .refl e⟩
  case add _ _ h _ =>
    have hk := (List.getElem?_eq_some_iff.mp he).fst
    exact ⟨e, by rw [h, List.getElem?_append_left hk, he], .refl e⟩
  case extend j e₀ data count total he₀ acc _ h =>
    by_cases hj : j = k
    case pos =>
      subst hj
      cases he.symm.trans he₀
      exact ⟨e.grown data new total, by simp [h, he], by simpa using acc.gains new⟩
    case neg => exact ⟨e, by simp [h, hj, he], by simpa [hj] using .refl e⟩

theorem exact (h : Change s t target d? new own) (hd : ∀ d ∈ d?, d.Exact)
    (hs : ∀ e ∈ s.entries, e.descriptor.Exact) : ∀ e ∈ t.entries, e.descriptor.Exact := by
  cases h
  case reserve h => exact h ▸ hs
  case add h _   => exact h ▸ forall_mem_concat hs (hd _ rfl)
  case extend k e _ _ _ he acc _ h =>
    exact h ▸ forall_mem_modify he hs (acc.exact (hs e (List.mem_of_getElem? he)) (hd _ rfl))

-- An added entry comes after all others.
theorem added (h : Change s t target (some d) new (some token)) :
    ∃ e, t.entries[s.entries.length]? = some e ∧ e.token = token ∧ e.descriptor = d := by
  cases h
  case add e _ h _ => exact ⟨e, by simp [h], rfl, rfl⟩

-- Of the tokens that come with an entry, only the first ones are stored.
theorem take (h : Change s t none (some d) new (some token)) :
    Change s t none (some d) (new.take d.count.toNat) (some token) := by
  cases h
  case add e sound h kept =>
    have hn : tokensNeeded e.id e.count ≤ e.descriptor.count.toNat := tokensNeeded_le sound.pos
    exact .add sound (by rw [List.take_take, Nat.min_eq_left hn, kept]) h

theorem holds_of_added (h : Change s t none (some d) new (some token))
    (plain : d.id ≠ .references) (hi : i < d.count.toNat) (ht : new[i]? = some u) :
    ∃ e, t.entries[s.entries.length]? = some e ∧ e.id = d.id ∧ e.Holds i u (d.element i) := by
  cases h
  case add e sound h kept =>
    have ⟨t', ht', holds⟩ := sound.holds_of_kept plain kept hi
    cases ht.symm.trans ht'
    exact ⟨e, by simp [h], rfl, holds⟩

-- Each element is behind its token afterwards.
theorem holds (h : Change s t target (some d) new own) (sound : s.Sound)
    (exact : ∀ e ∈ s.entries, e.descriptor.Exact) (plain : d.id ≠ .references)
    (hi : i < d.count.toNat) :
    ∃ (k j : Nat) (e : Entry) (t' : Token), t.entries[k]? = some e ∧ e.id = d.id ∧
      new[i]? = some t' ∧ e.Holds j t' (d.element i) := by
  cases h
  case add e sound h kept =>
    have ⟨t', ht, holds⟩ := sound.holds_of_kept plain kept hi
    exact ⟨s.entries.length, i, e, t', by simp [h], rfl, ht, holds⟩
  case extend k e data count total he acc hn h =>
    have hlt : i < new.length := hn ▸ hi
    have mem := List.mem_of_getElem? he
    refine ⟨k, e.count.toNat + i, e.grown data new total, new[i], by simp [h, he], rfl, ?_, ?_⟩
    case refine_1 => exact List.getElem?_eq_getElem hlt
    case refine_2 => exact acc.holds (sound e mem) (exact e mem) hi (List.getElem?_eq_getElem hlt)

end Change

section

variable {s : Store} {e : Entry} {k i : Nat} {t : Token}

-- The place of a token among those of its entry is that of its element among the bytes.
theorem result_lookup_of_holds (h : s.stored.Nodup) (hk : s.entries[k]? = some e)
    (plain : e.id ≠ .references) (hh : e.Holds i t bytes) (ht : t.isNull = false) :
    (lookup e.id t).result s = (.done ⟨e.id, bytes, 1⟩, s) := by
  have nodup := nodup_tokens h hk
  have hw : ¬(t.isNull ∨ t = e.token ∨ e.id = .references) := by
    simp [ht, plain, Entry.element_ne_token nodup hh.token ht]
  have hi := Token.idxOf?_of_nodup_proper (Entry.nodup_elementTokens nodup) hh.token ht
  have hm := indexOf?_of_mem_tokens h hk (Entry.mem_tokens_of_element hh.token ht)
  rw [result_lookup_of_element hm hk hw hi hh.size hh.le, hh.bytes]

end

end Store

end BoardFirmware
