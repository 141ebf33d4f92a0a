import BoardFirmware.Proofs.Action.Result

namespace BoardFirmware.Action

-- From a state with `I`, the action ends in one, without a trap. A value that it ends with has `p`.
def Safe (I : σ → Prop) (p : α → Prop) (x : Action σ α) : Prop :=
  ∀ s, I s → match x.result s with
    | (.done a, t)   => I t ∧ p a
    | (.failed _, t) => I t
    | (.trapped, _)  => False

namespace Safe

variable {I : σ → Prop} {p : α → Prop} {x y : Action σ α} {s t : σ} {outcome : Outcome α}

theorem not_trapped (hx : x.Safe I p) (hs : I s) : (x.result s).1 ≠ .trapped := by
  have h := hx s hs
  rcases hr : x.result s with ⟨_ | _ | _, t⟩ <;> rw [hr] at h
  case done    => exact nofun
  case failed  => exact nofun
  case trapped => exact h.elim

theorem keeps (hx : x.Safe I p) (hs : I s) (h : x.result s = (outcome, t)) : I t := by
  have hr := hx s hs
  rw [h] at hr
  cases outcome
  case done    => exact hr.1
  case failed  => exact hr
  case trapped => exact hr.elim

theorem weaken {q : α → Prop} (hx : x.Safe I p) (h : ∀ a, p a → q a) : x.Safe I q := by
  intro s hs
  have hxs := hx s hs
  rcases hr : x.result s with ⟨a | _ | _, t⟩ <;> rw [hr] at hxs
  case done    => exact ⟨hxs.1, h a hxs.2⟩
  case failed  => exact hxs
  case trapped => exact hxs

theorem pure {a : α} (ha : p a) : (pure a : Action σ α).Safe I p :=
  fun _ hs => ⟨hs, ha⟩

theorem throw {e : Status} : (throw e : Action σ α).Safe I p :=
  fun _ hs => hs

theorem log {level : Level} {text : String} :
    (log level text : Action σ Unit).Safe I fun _ => True :=
  fun _ hs => ⟨hs, trivial⟩

-- A state that is read is one in order.
theorem get : (get : Action σ σ).Safe I I :=
  fun _ hs => ⟨hs, hs⟩

theorem modify {f : σ → σ} (hf : ∀ s, I s → I (f s)) :
    (modify f : Action σ PUnit).Safe I fun _ => True :=
  fun s hs => ⟨hf s hs, trivial⟩

theorem checked {a : Option α} {b : α} (h : a = some b) (hb : p b) :
    (checked a : Action σ α).Safe I p := by
  subst h
  exact pure hb

theorem ofExcept {r : Except Status α} (h : ∀ a, r = .ok a → p a) :
    (ofExcept r : Action σ α).Safe I p := by
  cases r
  case error => exact throw
  case ok a  => exact pure (h a rfl)

theorem ite {c : Prop} [Decidable c] (hx : c → x.Safe I p) (hy : ¬c → y.Safe I p) :
    (if c then x else y).Safe I p := by
  split
  case isTrue h  => exact hx h
  case isFalse h => exact hy h

theorem bind {q : β → Prop} {f : α → Action σ β} (hx : x.Safe I p)
    (hf : ∀ a, p a → (f a).Safe I q) : (x >>= f).Safe I q := by
  intro s hs
  have h := hx s hs
  rw [result_bind]
  rcases hr : x.result s with ⟨a | _ | _, t⟩ <;> rw [hr] at h
  case done    => exact hf a h.2 t h.1
  case failed  => exact h
  case trapped => exact h.elim

-- What the second step does matters only for what the first one can end with.
theorem result_bind_congr {f g : α → Action σ β} (hx : x.Safe I p) (hs : I s)
    (hf : ∀ a t, p a → (f a).result t = (g a).result t) :
    (x >>= f).result s = (x >>= g).result s := by
  have h := hx s hs
  rw [result_bind, result_bind]
  rcases hr : x.result s with ⟨a | _ | _, t⟩
  case done    => rw [hr] at h; exact hf a t h.2
  case failed  => rfl
  case trapped => rfl

theorem map {q : β → Prop} {g : α → β} (hx : x.Safe I fun a => q (g a)) :
    (g <$> x).Safe I q := by
  rw [← bind_pure_comp]
  exact bind hx fun _ => pure

theorem tryCatch {handler : Status → Action σ α} (hx : x.Safe I p)
    (hh : ∀ e, (handler e).Safe I p) : (tryCatch x handler).Safe I p := by
  intro s hs
  have h := hx s hs
  rw [result_tryCatch]
  rcases hr : x.result s with ⟨_ | e | _, t⟩ <;> rw [hr] at h
  case done    => exact h
  case failed  => exact hh e t h
  case trapped => exact h.elim

end Safe

end BoardFirmware.Action
