import BoardFirmware.Status
import BoardFirmware.Log

namespace BoardFirmware

-- How an action ends. A refusal is part of a service's contract. A trap is not: an addition left
-- its word, or an assertion did not hold, and the firmware stops.
inductive Outcome (α : Type) where
  | done (value : α)
  | failed (status : Status)
  | trapped
  deriving DecidableEq

namespace Outcome

def isOk : Outcome α → Bool
  | done _ => true
  | _      => false

end Outcome

-- What is left after an action, however it ends.
structure Ran (σ α : Type) where
  outcome : Outcome α
  state   : σ
  log     : Log

def Action (σ α : Type) :=
  σ → Ran σ α

namespace Action

def run (x : Action σ α) (s : σ) : Ran σ α :=
  x s

protected def pure (a : α) : Action σ α :=
  fun s => ⟨.done a, s, []⟩

protected def bind (x : Action σ α) (f : α → Action σ β) : Action σ β := fun s =>
  match x s with
  | ⟨.done a, t, log⟩   => let r := f a t; ⟨r.outcome, r.state, log ++ r.log⟩
  | ⟨.failed e, t, log⟩ => ⟨.failed e, t, log⟩
  | ⟨.trapped, t, log⟩  => ⟨.trapped, t, log⟩

instance : Monad (Action σ) where
  pure := Action.pure
  bind := Action.bind

instance : MonadStateOf σ (Action σ) where
  get         := fun s => ⟨.done s, s, []⟩
  set t       := fun _ => ⟨.done (), t, []⟩
  modifyGet f := fun s => let r := f s; ⟨.done r.1, r.2, []⟩

-- Runs `handler` if `x` is refused, on the state that `x` left. A trap is not caught.
protected def tryCatch (x : Action σ α) (handler : Status → Action σ α) : Action σ α := fun s =>
  match x s with
  | ⟨.failed e, t, log⟩ => let r := handler e t; ⟨r.outcome, r.state, log ++ r.log⟩
  | r                   => r

instance : MonadExceptOf Status (Action σ) where
  throw e  := fun s => ⟨.failed e, s, []⟩
  tryCatch := Action.tryCatch

-- Stops the firmware.
def trap : Action σ α :=
  fun s => ⟨.trapped, s, []⟩

-- The value of a calculation that stays in its words, or else a trap.
def checked : Option α → Action σ α
  | some a => pure a
  | none   => trap

def log (level : Level) (text : String) : Action σ Unit :=
  fun s => ⟨.done (), s, [⟨level, text⟩]⟩

def error (text : String) : Action σ Unit := log .error text
def warn  (text : String) : Action σ Unit := log .warn text
def info  (text : String) : Action σ Unit := log .info text
def debug (text : String) : Action σ Unit := log .debug text

-- Logs why `x` was refused, and refuses for the same reason.
def explaining (x : Action σ α) (text : Status → String) : Action σ α :=
  tryCatch x fun e => do
    error (text e)
    throw e

-- The result of `x` with a refusal as a value.
def attempt (x : Action σ α) : Action σ (Except Status α) :=
  tryCatch (Except.ok <$> x) (pure ∘ Except.error)

-- A request to a device, which answers and goes on to another state.
def request (ask : σ → Except Status α × σ) : Action σ α := fun s =>
  match ask s with
  | (.ok a, t)    => ⟨.done a, t, []⟩
  | (.error e, t) => ⟨.failed e, t, []⟩

-- A result found elsewhere.
def ofExcept : Except Status α → Action σ α
  | .ok a    => pure a
  | .error e => throw e

-- An action on a part of the state.
def within (view : σ → τ) (update : τ → σ → σ) (x : Action τ α) : Action σ α := fun s =>
  let r := x (view s)
  ⟨r.outcome, update r.state s, r.log⟩

@[simp] theorem run_pure (a : α) (s : σ) : (pure a : Action σ α).run s = ⟨.done a, s, []⟩ := rfl

theorem run_bind (x : Action σ α) (f : α → Action σ β) (s : σ) :
    (x >>= f).run s =
      match x.run s with
      | ⟨.done a, t, log⟩   =>
        ⟨((f a).run t).outcome, ((f a).run t).state, log ++ ((f a).run t).log⟩
      | ⟨.failed e, t, log⟩ => ⟨.failed e, t, log⟩
      | ⟨.trapped, t, log⟩  => ⟨.trapped, t, log⟩ := rfl

@[simp] theorem run_throw (e : Status) (s : σ) :
    (throw e : Action σ α).run s = ⟨.failed e, s, []⟩ := rfl

@[simp] theorem run_trap (s : σ) : (trap : Action σ α).run s = ⟨.trapped, s, []⟩ := rfl

@[simp] theorem run_log (level : Level) (text : String) (s : σ) :
    (log level text).run s = ⟨.done (), s, [⟨level, text⟩]⟩ := rfl

@[simp] theorem run_get (s : σ) : (get : Action σ σ).run s = ⟨.done s, s, []⟩ := rfl

@[simp] theorem run_set (t s : σ) : (set t : Action σ PUnit).run s = ⟨.done (), t, []⟩ := rfl

@[simp] theorem run_modify (f : σ → σ) (s : σ) :
    (modify f : Action σ PUnit).run s = ⟨.done (), f s, []⟩ := rfl

@[simp] theorem run_checked_some (a : α) (s : σ) :
    (checked (some a) : Action σ α).run s = ⟨.done a, s, []⟩ := rfl

@[simp] theorem run_checked_none (s : σ) :
    (checked none : Action σ α).run s = ⟨.trapped, s, []⟩ := rfl

@[simp] theorem run_ofExcept_ok (a : α) (s : σ) :
    (ofExcept (.ok a) : Action σ α).run s = ⟨.done a, s, []⟩ := rfl

@[simp] theorem run_ofExcept_error (e : Status) (s : σ) :
    (ofExcept (.error e) : Action σ α).run s = ⟨.failed e, s, []⟩ := rfl

@[simp] theorem run_within (view : σ → τ) (update : τ → σ → σ) (x : Action τ α) (s : σ) :
    (within view update x).run s =
      ⟨(x.run (view s)).outcome, update (x.run (view s)).state s, (x.run (view s)).log⟩ := rfl

theorem run_request (ask : σ → Except Status α × σ) (s : σ) :
    (request ask).run s =
      match ask s with
      | (.ok a, t)    => ⟨.done a, t, []⟩
      | (.error e, t) => ⟨.failed e, t, []⟩ := rfl

theorem run_tryCatch (x : Action σ α) (handler : Status → Action σ α) (s : σ) :
    (tryCatch x handler).run s =
      match x.run s with
      | ⟨.failed e, t, log⟩ =>
        ⟨((handler e).run t).outcome, ((handler e).run t).state, log ++ ((handler e).run t).log⟩
      | r                   => r := rfl

instance : LawfulMonad (Action σ) := by
  refine LawfulMonad.mk' _ ?_ ?_ ?_
  · intro α x
    funext s
    show Action.bind x (fun a => Action.pure a) s = x s
    unfold Action.bind Action.pure
    rcases x s with ⟨_ | _ | _, _, _⟩ <;> simp
  · intro α β a f
    funext s
    show Action.bind (Action.pure a) f s = f a s
    simp [Action.bind, Action.pure]
  · intro α β γ x f g
    funext s
    show Action.bind (Action.bind x f) g s = Action.bind x (fun a => Action.bind (f a) g) s
    unfold Action.bind
    rcases x s with ⟨a | _ | _, t, _⟩
    · dsimp only
      rcases f a t with ⟨_ | _ | _, _, _⟩ <;> simp
    · rfl
    · rfl

end Action

end BoardFirmware
