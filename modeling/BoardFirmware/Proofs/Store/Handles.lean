import BoardFirmware.Proofs.Store.Change
import BoardFirmware.Proofs.Store.Custody

namespace BoardFirmware.Store

-- A store, and the tokens that its client has in reserve.
structure Session where
  store : Store
  held  : List Token

-- An operation that succeeds. Its bytes divide evenly into elements, and tokens of the client's
-- choice are taken from the reserve.
structure Call (σ σ' : Session) where
  {Reply : Type}
  operation : Operation Reply
  reply     : Reply
  ran       : operation.perform.result σ.store = (.done reply, σ'.store)
  exact     : ∀ d ∈ operation.descriptor?, d.Exact
  left      : List Token
  taken     : (operation.supplied ++ left).Perm σ.held
  held      : σ'.held = operation.reserved reply ++ left

inductive Run : Session → Session → Type 1
  | refl : Run σ σ
  | step : (Call σ₁ σ₂) → (Run σ₂ σ₃) → Run σ₁ σ₃

namespace Session

def new (capacity : Nat) : Session :=
  ⟨.empty capacity, []⟩

-- What every call relies on, and keeps.
structure Valid (σ : Session) : Prop where
  accounted : σ.store.Accounted σ.held
  sound     : σ.store.Sound
  exact     : ∀ e ∈ σ.store.entries, e.descriptor.Exact

theorem valid_new (capacity : Nat) : (new capacity).Valid :=
  ⟨.empty capacity, nofun, nofun⟩

end Session

namespace Call

variable {σ σ' : Session}

-- What the call adds at the end of the entry with the index `k`.
def extension (c : Call σ σ') (k : Nat) : List Descriptor :=
  if c.operation.target? σ.store = some k then c.operation.descriptor?.toList else []

theorem ends (c : Call σ σ') : c.operation.Ends σ.store (.done c.reply, σ'.store) :=
  c.ran ▸ c.operation.ends σ.store

theorem valid (c : Call σ σ') (h : σ.Valid) : σ'.Valid where
  accounted := c.held ▸ c.ends.accounted_of_done (h.accounted.release c.taken.subperm)
  sound     := (c.ends.steps nofun).sound h.sound
  exact     := c.ends.change.exact c.exact h.exact

end Call

namespace Run

def extensions {σ σ' : Session} (k : Nat) : (Run σ σ') → List Descriptor
  | refl     => []
  | step c r => c.extension k ++ r.extensions k

theorem valid {σ σ' : Session} : (Run σ σ') → σ.Valid → σ'.Valid
  | refl,     h => h
  | step c r, h => r.valid (c.valid h)

theorem gains {σ σ' : Session} {k : Nat} {e : Entry} (r : Run σ σ')
    (he : σ.store.entries[k]? = some e) :
    ∃ e', σ'.store.entries[k]? = some e' ∧ e.Gains e' (r.extensions k) := by
  induction r generalizing e
  case refl          => exact ⟨e, he, .refl e⟩
  case step c r ih =>
    have ⟨e', he', h⟩ := c.ends.change.gains he
    have ⟨e'', he'', h'⟩ := ih he'
    exact ⟨e'', he'', h.trans h'⟩

end Run

theorem handles_stable {capacity : Nat} {σ σ₁ σ₂ : Session} {d : Descriptor}
    (before : Run (.new capacity) σ) (c : Call σ σ₁) (after : Run σ₁ σ₂)
    (hd : c.operation.descriptor? = some d) :
    (d.id ≠ .references → ∀ i < d.count.toNat,
      ∃ t, (c.operation.elementTokens c.reply)[i]? = some t ∧ (t.isNull = false →
        (lookup d.id t).result σ₂.store = (.done ⟨d.id, d.element i, 1⟩, σ₂.store))) ∧
    (∀ t, c.operation.entryToken? c.reply = some t → t.isNull = false →
      ∃ e, (lookup d.id t).result σ₂.store = (.done e, σ₂.store) ∧ e.id = d.id ∧
        e.data = d.data ++ (after.extensions σ.store.entries.length).flatMap (·.data) ∧
        e.count.toNat =
          d.count.toNat + ((after.extensions σ.store.entries.length).map (·.count.toNat)).sum) := by
  have valid := before.valid (Session.valid_new capacity)
  have nodup := (after.valid (c.valid valid)).accounted.nodup_stored
  have change := hd ▸ c.ends.change
  constructor
  case left =>
    intro plain i hi
    have ⟨k, j, e, t, he, hid, ht, holds⟩ := change.holds valid.sound valid.exact plain hi
    have ⟨e', he', gains⟩ := after.gains he
    have hid' : e'.id = d.id := gains.grows.id.trans hid
    refine ⟨t, ht, fun hn => ?_⟩
    have := result_lookup_of_holds nodup he' (hid' ▸ plain) (holds.grows gains.grows) hn
    rwa [hid'] at this
  case right =>
    intro t ht hn
    have ⟨e, he, htoken, hdesc⟩ := (ht ▸ change).added
    have ⟨e', he', gains⟩ := after.gains he
    subst hdesc
    have htoken' : e'.token = t := gains.grows.token.trans htoken
    have := result_lookup_of_token nodup he' (htoken' ▸ hn)
    rw [htoken', gains.grows.id] at this
    exact ⟨_, this, gains.grows.id, gains.data, gains.count⟩

-- Two elements are added under reserved tokens, and a third one is added to them.
theorem handles_stable_extended :
    ∃ (σ σ₁ σ₂ : Session) (_ : Run (.new 1) σ) (c : Call σ σ₁) (after : Run σ₁ σ₂),
      c.operation.descriptor? = some ⟨.memoryRange, [1, 2, 3, 4], 2⟩ ∧
      after.extensions 0 = [⟨.memoryRange, [5, 6], 1⟩] ∧
      (lookup .memoryRange ⟨1⟩).result σ₂.store = (.done ⟨.memoryRange, [3, 4], 1⟩, σ₂.store) ∧
      ∃ e, (lookup .memoryRange ⟨4⟩).result σ₂.store = (.done e, σ₂.store) ∧
        e.data = [1, 2, 3, 4, 5, 6] ∧ e.count.toNat = 3 := by
  let reserved : Call (.new 1) ⟨⟨[], 1, ⟨4⟩⟩, [⟨1⟩, ⟨2⟩, ⟨3⟩]⟩ :=
    { operation := .allocate 3
      reply     := [⟨1⟩, ⟨2⟩, ⟨3⟩]
      ran       := rfl
      exact     := nofun
      left      := []
      taken     := .nil
      held      := rfl }
  let added : Call ⟨⟨[], 1, ⟨4⟩⟩, [⟨1⟩, ⟨2⟩, ⟨3⟩]⟩
      ⟨⟨[⟨.memoryRange, [1, 2, 3, 4], 2, ⟨4⟩, [⟨3⟩, ⟨1⟩]⟩], 1, ⟨5⟩⟩, [⟨2⟩]⟩ :=
    { operation := .addWithElementTokens .memoryRange [1, 2, 3, 4] 2 [⟨3⟩, ⟨1⟩] .null
      reply     := ⟨4⟩
      ran       := rfl
      exact     := by rintro _ ⟨⟩; decide
      left      := [⟨2⟩]
      taken     := by decide
      held      := rfl }
  let extended : Call ⟨⟨[⟨.memoryRange, [1, 2, 3, 4], 2, ⟨4⟩, [⟨3⟩, ⟨1⟩]⟩], 1, ⟨5⟩⟩, [⟨2⟩]⟩
      ⟨⟨[⟨.memoryRange, [1, 2, 3, 4, 5, 6], 3, ⟨4⟩, [⟨3⟩, ⟨1⟩, ⟨5⟩]⟩], 1, ⟨6⟩⟩, [⟨2⟩]⟩ :=
    { operation := .extend .memoryRange [5, 6] 1 ⟨1⟩
      reply     := [⟨5⟩]
      ran       := rfl
      exact     := by rintro _ ⟨⟩; decide
      left      := [⟨2⟩]
      taken     := .refl _
      held      := rfl }
  have ⟨elements, whole⟩ := handles_stable (.step reserved .refl) added (.step extended .refl) rfl
  have ⟨t, ht, element⟩ := elements (by decide) 1 (by decide)
  have ⟨e, he, _, data, count⟩ := whole ⟨4⟩ rfl rfl
  cases ht
  exact ⟨_, _, _, .step reserved .refl, added, .step extended .refl, rfl, rfl, element rfl,
    e, he, data, count⟩

end BoardFirmware.Store
