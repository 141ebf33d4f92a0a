import BoardFirmware.Proofs.Bytes.Slice
import BoardFirmware.Store.Basic

namespace BoardFirmware

namespace Entry

variable {e e' : Entry} {data : Bytes} {new : List Token} {count total : UInt32}

-- If two quotients are the same when rounded down, then so is that of the sums.
theorem add_div_add {a b m n q : Nat} (hm : 0 < m) (hn : 0 < n) (ha : a / m = q)
    (hb : b / n = q) : (a + b) / (m + n) = q := by
  rw [Nat.div_eq_iff hm] at ha
  rw [Nat.div_eq_iff hn] at hb
  rw [Nat.div_eq_iff (by omega), Nat.mul_add]
  have : (q + 1) * m = q * m + m := Nat.succ_mul ..
  omega

theorem elementSize?_of_ne_zero (h : e.count ≠ 0) :
    e.elementSize? = some (e.data.length / e.count.toNat) :=
  if_neg h

-- The tokens of an entry go with its elements. A list of references is not taken apart, so it has
-- a token for all of them.
structure Sound (e : Entry) : Prop where
  pos    : e.count ≠ 0
  length : e.elementTokens.length = Store.tokensNeeded e.id e.count

-- What `count` more elements must be like, if there are to be `total` of them.
structure Accepts (e : Entry) (data : Bytes) (count total : UInt32) : Prop where
  pos   : count ≠ 0
  plain : e.id ≠ .references
  size  : e.elementSize? = some (data.length / count.toNat)
  total : e.count.toNat + count.toNat = total.toNat

theorem Accepts.count_ne_zero (h : e.Accepts data count total) : e.count ≠ 0 := by
  intro hz
  have := h.size
  simp [elementSize?, hz] at this

theorem Accepts.total_ne_zero (h : e.Accepts data count total) : total ≠ 0 := by
  have ht := h.total
  have := Word.toNat32_pos h.pos
  intro hz
  rw [hz, UInt32.toNat_zero] at ht
  omega

theorem elementSize?_grown (h : e.Accepts data count total) (new : List Token) :
    (e.grown data new total).elementSize? = e.elementSize? := by
  have hs := h.size
  rw [elementSize?_of_ne_zero h.count_ne_zero, Option.some.injEq] at hs
  rw [elementSize?_of_ne_zero h.count_ne_zero,
    elementSize?_of_ne_zero (e := e.grown data new total) h.total_ne_zero]
  simp only [grown, List.length_append, ← h.total]
  rw [add_div_add (Word.toNat32_pos h.count_ne_zero) (Word.toNat32_pos h.pos) rfl hs.symm]

theorem Sound.grown (hs : e.Sound) (h : e.Accepts data count total)
    (hn : new.length = count.toNat) : (e.grown data new total).Sound where
  pos    := h.total_ne_zero
  length := by
    have := hs.length
    have := h.total
    simp_all [Entry.grown, Store.tokensNeeded, h.plain]

-- `e'` is what has become of `e`.
structure Grows (e e' : Entry) : Prop where
  id            : e'.id = e.id
  token         : e'.token = e.token
  data          : e.data <+: e'.data
  elementTokens : e.elementTokens <+: e'.elementTokens
  elementSize   : e'.elementSize? = e.elementSize?

theorem Grows.refl (e : Entry) : e.Grows e :=
  ⟨rfl, rfl, List.prefix_rfl, List.prefix_rfl, rfl⟩

theorem Grows.trans {e₁ e₂ e₃ : Entry} (h₁ : e₁.Grows e₂) (h₂ : e₂.Grows e₃) : e₁.Grows e₃ where
  id            := h₂.id.trans h₁.id
  token         := h₂.token.trans h₁.token
  data          := h₁.data.trans h₂.data
  elementTokens := h₁.elementTokens.trans h₂.elementTokens
  elementSize   := h₂.elementSize.trans h₁.elementSize

theorem Accepts.grows (h : e.Accepts data count total) (new : List Token) :
    e.Grows (e.grown data new total) :=
  ⟨rfl, rfl, List.prefix_append .., List.prefix_append .., elementSize?_grown h new⟩

end Entry

end BoardFirmware
