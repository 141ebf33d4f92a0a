import BoardFirmware.Action
import Mathlib.Order.Defs.Unbundled

namespace BoardFirmware.Action

-- How an action ends, and in which state. Its records are left out.
def result (x : Action σ α) (s : σ) : Outcome α × σ :=
  ((x.run s).outcome, (x.run s).state)

@[simp] theorem result_pure (a : α) (s : σ) : (pure a : Action σ α).result s = (.done a, s) := rfl

@[simp] theorem result_throw (e : Status) (s : σ) :
    (throw e : Action σ α).result s = (.failed e, s) := rfl

@[simp] theorem result_trap (s : σ) : (trap : Action σ α).result s = (.trapped, s) := rfl

@[simp] theorem result_get (s : σ) : (get : Action σ σ).result s = (.done s, s) := rfl

@[simp] theorem result_set (t s : σ) : (set t : Action σ PUnit).result s = (.done (), t) := rfl

@[simp] theorem result_modify (f : σ → σ) (s : σ) :
    (modify f : Action σ PUnit).result s = (.done (), f s) := rfl

@[simp] theorem result_modifyGet (f : σ → α × σ) (s : σ) :
    (modifyGet f : Action σ α).result s = (.done (f s).1, (f s).2) := rfl

@[simp] theorem result_log (level : Level) (text : String) (s : σ) :
    (log level text).result s = (.done (), s) := rfl

@[simp] theorem result_error (text : String) (s : σ) : (error text).result s = (.done (), s) := rfl

@[simp] theorem result_warn (text : String) (s : σ) : (warn text).result s = (.done (), s) := rfl

@[simp] theorem result_info (text : String) (s : σ) : (info text).result s = (.done (), s) := rfl

@[simp] theorem result_debug (text : String) (s : σ) : (debug text).result s = (.done (), s) := rfl

@[simp] theorem result_checked_some (a : α) (s : σ) :
    (checked (some a)).result s = (.done a, s) := rfl

@[simp] theorem result_checked_none (s : σ) :
    (checked (none : Option α)).result s = (.trapped, s) := rfl

@[simp] theorem result_ofExcept_ok (a : α) (s : σ) :
    (ofExcept (.ok a) : Action σ α).result s = (.done a, s) := rfl

@[simp] theorem result_ofExcept_error (e : Status) (s : σ) :
    (ofExcept (.error e) : Action σ α).result s = (.failed e, s) := rfl

@[simp] theorem result_within (view : σ → τ) (update : τ → σ → σ) (x : Action τ α) (s : σ) :
    (within view update x).result s =
      ((x.result (view s)).1, update (x.result (view s)).2 s) := rfl

@[simp] theorem result_ite {p : Prop} [Decidable p] (x y : Action σ α) (s : σ) :
    (if p then x else y).result s = if p then x.result s else y.result s := by
  split <;> rfl

theorem result_bind (x : Action σ α) (f : α → Action σ β) (s : σ) :
    (x >>= f).result s =
      match x.result s with
      | (.done a, t)   => (f a).result t
      | (.failed e, t) => (.failed e, t)
      | (.trapped, t)  => (.trapped, t) := by
  simp only [result, run_bind]
  rcases x.run s with ⟨_ | _ | _, _, _⟩ <;> rfl

theorem result_map (g : α → β) (x : Action σ α) (s : σ) :
    (g <$> x).result s =
      match x.result s with
      | (.done a, t)   => (.done (g a), t)
      | (.failed e, t) => (.failed e, t)
      | (.trapped, t)  => (.trapped, t) := by
  rw [← bind_pure_comp, result_bind]
  rcases x.result s with ⟨_ | _ | _, _⟩ <;> rfl

theorem result_attempt (x : Action σ α) (s : σ) :
    x.attempt.result s =
      match x.result s with
      | (.done a, t)   => (.done (.ok a), t)
      | (.failed e, t) => (.done (.error e), t)
      | (.trapped, t)  => (.trapped, t) := by
  simp only [result, attempt, ← bind_pure_comp, run_tryCatch, run_bind]
  rcases x.run s with ⟨_ | _ | _, _, _⟩ <;> rfl

theorem result_tryCatch (x : Action σ α) (handler : Status → Action σ α) (s : σ) :
    (tryCatch x handler).result s =
      match x.result s with
      | (.done a, t)   => (.done a, t)
      | (.failed e, t) => (handler e).result t
      | (.trapped, t)  => (.trapped, t) := by
  simp only [result, run_tryCatch]
  rcases x.run s with ⟨_ | _ | _, _, _⟩ <;> rfl

@[simp] theorem result_explaining (x : Action σ α) (text : Status → String) (s : σ) :
    (x.explaining text).result s = x.result s := by
  have h : (x.explaining text).run s =
      (tryCatch x fun e => error (text e) >>= fun _ => throw e).run s := rfl
  simp only [result, h, run_tryCatch]
  rcases x.run s with ⟨_ | _ | _, _, _⟩ <;> rfl

theorem result_bind_of_done {x : Action σ α} {f : α → Action σ β} {s t : σ}
    (h : x.result s = (.done a, t)) : (x >>= f).result s = (f a).result t := by
  rw [result_bind, h]

theorem trapped_bind {x : Action σ α} {s : σ} (h : (x.result s).1 = .trapped)
    (f : α → Action σ β) : ((x >>= f).result s).1 = .trapped := by
  rw [result_bind]
  rcases hr : x.result s with ⟨_ | _ | _, _⟩ <;> simp [hr] at h ⊢

-- An action succeeds if both of its steps do.
theorem result_bind_eq_done {x : Action σ α} {f : α → Action σ β} {s t : σ} {b : β} :
    (x >>= f).result s = (.done b, t) ↔
      ∃ a u, x.result s = (.done a, u) ∧ (f a).result u = (.done b, t) := by
  rw [result_bind]
  rcases x.result s with ⟨_ | _ | _, _⟩ <;> simp [and_assoc]

theorem result_bind_congr {x y : Action σ α} {f g : α → Action σ β} {s : σ}
    (hx : x.result s = y.result s) (hf : ∀ a t, (f a).result t = (g a).result t) :
    (x >>= f).result s = (y >>= g).result s := by
  simp only [result_bind, hx, hf]

theorem result_forM_cons (f : α → Action σ Unit) (a : α) (items : List α) (s : σ) :
    ((a :: items).forM f).result s =
      match (f a).result s with
      | (.done (), t) => (items.forM f).result t
      | r             => r := by
  have h : ((a :: items).forM f).result s = (f a >>= fun _ => items.forM f).result s := rfl
  rw [h, result_bind]
  rcases (f a).result s with ⟨_ | _ | _, _⟩ <;> rfl

-- Steps that change nothing change nothing together.
theorem result_forM_of_done {f : α → Action σ Unit} (h : ∀ a s, (f a).result s = (.done (), s))
    (items : List α) (s : σ) : (items.forM f).result s = (.done (), s) := by
  induction items with
  | nil         => rfl
  | cons a r ih => exact (result_bind_of_done (h a s)).trans ih

-- Numbering the items makes no difference to steps that use the numbers for records only.
theorem result_forM_zipIdx {f : α × Nat → Action σ Unit} {g : α → Action σ Unit}
    (h : ∀ p s, (f p).result s = (g p.1).result s) (items : List α) (n : Nat) (s : σ) :
    ((items.zipIdx n).forM f).result s = (items.forM g).result s := by
  induction items generalizing n s
  case nil => rfl
  case cons a r ih => exact result_bind_congr (h (a, n) s) fun _ t => ih (n + 1) t

-- Items on which nothing is done may be left out.
theorem result_forM_filter {f : α → Action σ Unit} {p : α → Bool}
    (h : ∀ a s, p a = false → (f a).result s = (.done (), s)) (items : List α) (s : σ) :
    ((items.filter p).forM f).result s = (items.forM f).result s := by
  induction items generalizing s
  case nil => rfl
  case cons a r ih =>
    cases ha : p a
    case true =>
      rw [List.filter_cons_of_pos ha]
      exact result_bind_congr rfl fun _ t => ih t
    case false =>
      rw [List.filter_cons_of_neg (by simp [ha]), ih]
      exact (result_bind_of_done (f := fun _ => r.forM f) (h a s ha)).symm

theorem result_forM_flatMap (f : β → Action σ Unit) (g : α → List β) (items : List α) (s : σ) :
    (items.forM fun a => (g a).forM f).result s = ((items.flatMap g).forM f).result s := by
  induction items generalizing s
  case nil => rfl
  case cons a r ih =>
    have happ : ((a :: r).flatMap g).forM f = ((g a).forM f >>= fun _ => (r.flatMap g).forM f) := by
      rw [List.flatMap_cons]
      exact List.forM_append
    calc ((g a).forM f >>= fun _ => r.forM fun a => (g a).forM f).result s
      _ = ((g a).forM f >>= fun _ => (r.flatMap g).forM f).result s :=
        result_bind_congr rfl fun _ t => ih t
      _ = (((a :: r).flatMap g).forM f).result s                    := by rw [happ]

-- Whatever state `x` starts in, it ends in a related one, unless it is trapped.
def Respects (R : σ → σ → Prop) (x : Action σ α) : Prop :=
  ∀ s, (x.result s).1 ≠ .trapped → R s (x.result s).2

namespace Respects

variable {R : σ → σ → Prop} {x : Action σ α}

theorem rel {s t : σ} {outcome : Outcome α} (hx : x.Respects R) (h : x.result s = (outcome, t))
    (ret : outcome ≠ .trapped) : R s t := by
  have hs := hx s
  rw [h] at hs
  exact hs ret

-- What leaves the state alone respects every reflexive relation.
theorem of_state_eq [IsPreorder σ R] (h : ∀ s, (x.result s).2 = s) : x.Respects R := by
  intro s _
  rw [h s]
  exact Std.Refl.refl s

theorem pure [IsPreorder σ R] {a : α} : (pure a : Action σ α).Respects R :=
  of_state_eq fun _ => rfl

theorem throw [IsPreorder σ R] {e : Status} : (throw e : Action σ α).Respects R :=
  of_state_eq fun _ => rfl

theorem log [IsPreorder σ R] {level : Level} {text : String} :
    (log level text : Action σ Unit).Respects R :=
  of_state_eq fun _ => rfl

theorem ite {p : Prop} [Decidable p] {y : Action σ α} (hx : x.Respects R) (hy : y.Respects R) :
    (if p then x else y).Respects R := by
  split
  case isTrue  => exact hx
  case isFalse => exact hy

-- The second step has to respect the relation only for what the first one can return.
theorem bind_of_done [IsPreorder σ R] {f : α → Action σ β} (hx : x.Respects R)
    (hf : ∀ a s t, x.result s = (.done a, t) → (f a).Respects R) : (x >>= f).Respects R := by
  intro s ret
  have hs := hx s
  rw [result_bind] at ret ⊢
  rcases h : x.result s with ⟨_ | _ | _, t⟩ <;> simp only [h] at ret hs ⊢
  case done a   => exact IsTrans.trans _ _ _ (hs nofun) (hf a s t h t ret)
  case failed   => exact hs nofun
  case trapped  => exact absurd rfl ret

theorem bind [IsPreorder σ R] {f : α → Action σ β} (hx : x.Respects R)
    (hf : ∀ a, (f a).Respects R) : (x >>= f).Respects R :=
  bind_of_done hx fun a _ _ _ => hf a

theorem attempt (hx : x.Respects R) : x.attempt.Respects R := by
  intro s ret
  have hs := hx s
  rw [result_attempt] at ret ⊢
  rcases h : x.result s with ⟨_ | _ | _, t⟩ <;> simp only [h] at ret hs ⊢
  case done     => exact hs nofun
  case failed   => exact hs nofun
  case trapped  => exact absurd rfl ret

theorem tryCatch [IsPreorder σ R] {handler : Status → Action σ α} (hx : x.Respects R)
    (hh : ∀ e, (handler e).Respects R) : (tryCatch x handler).Respects R := by
  intro s ret
  have hs := hx s
  rw [result_tryCatch] at ret ⊢
  rcases h : x.result s with ⟨_ | e | _, t⟩ <;> simp only [h] at ret hs ⊢
  case done     => exact hs nofun
  case failed   => exact IsTrans.trans _ _ _ (hs nofun) (hh e t ret)
  case trapped  => exact absurd rfl ret

theorem checked [IsPreorder σ R] {a : Option α} : (checked a : Action σ α).Respects R :=
  of_state_eq fun _ => by cases a <;> rfl

theorem get [IsPreorder σ R] : (get : Action σ σ).Respects R :=
  of_state_eq fun _ => rfl

end Respects

end BoardFirmware.Action
