import BoardFirmware.Proofs.Action.Result

namespace BoardFirmware.Action

-- An action is refused if one of its steps is, the second one only after the first.
theorem result_bind_eq_failed {x : Action σ α} {f : α → Action σ β} {s t : σ} {e : Status} :
    (x >>= f).result s = (.failed e, t) ↔
      x.result s = (.failed e, t) ∨
        ∃ a u, x.result s = (.done a, u) ∧ (f a).result u = (.failed e, t) := by
  rw [result_bind]
  rcases x.result s with ⟨_ | _ | _, _⟩ <;> simp [and_assoc]

-- Wherever the action starts, a status that it is refused with has `p`.
def RefusedWith (p : Status → Prop) (x : Action σ α) : Prop :=
  ∀ s e t, x.result s = (.failed e, t) → p e

-- The action is never refused.
def Unrefused (x : Action σ α) : Prop :=
  x.RefusedWith fun _ => False

namespace RefusedWith

variable {p : Status → Prop} {x y : Action σ α}

theorem pure {a : α} : (pure a : Action σ α).RefusedWith p :=
  nofun

theorem throw {e : Status} (h : p e) : (throw e : Action σ α).RefusedWith p := by
  intro _ _ _ failed
  cases failed
  exact h

theorem get : (get : Action σ σ).RefusedWith p :=
  nofun

theorem modify {f : σ → σ} : (modify f : Action σ PUnit).RefusedWith p :=
  nofun

theorem log {level : Level} {text : String} : (log level text : Action σ Unit).RefusedWith p :=
  nofun

theorem trap : (trap : Action σ α).RefusedWith p :=
  nofun

theorem checked {a : Option α} : (checked a : Action σ α).RefusedWith p := by
  cases a
  case none => exact trap
  case some => exact pure

theorem ofExcept {r : Except Status α} (h : ∀ e, r = .error e → p e) :
    (ofExcept r : Action σ α).RefusedWith p := by
  cases r
  case error e => exact throw (h e rfl)
  case ok      => exact pure

theorem ite {c : Prop} [Decidable c] (hx : x.RefusedWith p) (hy : y.RefusedWith p) :
    (if c then x else y).RefusedWith p := by
  split
  case isTrue  => exact hx
  case isFalse => exact hy

theorem bind {f : α → Action σ β} (hx : x.RefusedWith p) (hf : ∀ a, (f a).RefusedWith p) :
    (x >>= f).RefusedWith p := by
  intro s e t failed
  obtain first | ⟨a, u, _, second⟩ := result_bind_eq_failed.mp failed
  case inl => exact hx s e t first
  case inr => exact hf a u e t second

end RefusedWith

end BoardFirmware.Action
