import BoardFirmware.Proofs.Secure.Script

namespace BoardFirmware.Secure

variable {replies : Nat → Results} {call : Demand} {backoff : UInt64} {left n i : Nat}

theorem answerAt?_eq_some_iff :
    answerAt? replies left = some i ↔
      i < left + 1 ∧ (replies i).Answers ∧ ∀ j < i, ¬(replies j).Answers := by
  simp [answerAt?, List.find?_range_eq_some, and_left_comm]

theorem answerAt?_eq_none_iff :
    answerAt? replies left = none ↔ ∀ i < left + 1, ¬(replies i).Answers := by
  simp [answerAt?]

-- What is asked for in `n` attempts: the same call each time, and a wait after all but the last.
structure Attempts (call : Demand) (backoff : UInt64) (n : Nat) (demands : List Demand) : Prop where
  length : demands.length + 1 = 2 * n
  asked  : ∀ (i : Nat) (h : i < demands.length),
    demands[i] = if i % 2 = 0 then call else .waited backoff

theorem length_resent : (resent call backoff n).length = 2 * n + 1 := by
  induction n with
  | zero      => rfl
  | succ n ih => rw [resent, List.length_cons, List.length_cons, ih, Nat.mul_succ]

theorem getElem_resent (h : i < (resent call backoff n).length) :
    (resent call backoff n)[i] = if i % 2 = 0 then call else .waited backoff := by
  induction n generalizing i with
  | zero =>
    obtain rfl : i = 0 := Nat.lt_one_iff.mp h
    rfl
  | succ n ih =>
    match i with
    | 0     => rfl
    | 1     => rfl
    | i + 2 =>
      have h : i < (resent call backoff n).length := by
        rw [length_resent] at h ⊢
        omega
      rw [Nat.add_mod_right]
      exact ih h

theorem attempts_resent (call : Demand) (backoff : UInt64) (n : Nat) :
    Attempts call backoff (n + 1) (resent call backoff n) where
  length := congrArg (· + 1) length_resent
  asked  := fun _ => getElem_resent

namespace FfaClient

variable {c : FfaClient Script}

-- The first answer ends the attempts, and is returned as it came. Without one there are as many as
-- the policy allows. Nothing else is asked of the monitor, and the client stays as it is.
theorem sent_until_answered (bounded : c.retry.maxRetries.toNat + 1 < UInt32.size)
    (destination : UInt16) (arguments : Vector UInt64 5) :
    let allowed := c.retry.maxRetries.toNat + 1
    ∃ n outcome demands,
      (directRequest destination arguments.toList).result c = (outcome, c.past demands) ∧
      Attempts (request destination arguments.toList) c.retry.backoff n demands ∧
      (∀ i < allowed, (c.monitor.upcoming i).Answers →
        (∀ j < i, ¬(c.monitor.upcoming j).Answers) →
        n = i + 1 ∧ outcome = .done (c.monitor.upcoming i)) ∧
      ((∀ i < allowed, ¬(c.monitor.upcoming i).Answers) →
        n = allowed ∧ outcome = .failed .deviceError) := by
  intro allowed
  have sent := result_directRequest destination arguments.toList bounded
  have attempts := attempts_resent (request destination arguments.toList) c.retry.backoff
  cases first : answerAt? c.monitor.upcoming c.retry.maxRetries.toNat
  case some k =>
    rw [first] at sent
    have ⟨lt, answers, _⟩ := answerAt?_eq_some_iff.mp first
    refine ⟨k + 1, _, _, sent, attempts k, ?_, fun silent => absurd answers (silent k lt)⟩
    intro i lt' answers' before'
    have first' := answerAt?_eq_some_iff.mpr ⟨lt', answers', before'⟩
    obtain rfl : i = k := Option.some.inj (first'.symm.trans first)
    exact ⟨rfl, rfl⟩
  case none =>
    rw [first] at sent
    have silent := answerAt?_eq_none_iff.mp first
    exact ⟨_, _, _, sent, attempts _, fun i lt answers => absurd answers (silent i lt),
      fun _ => ⟨rfl, rfl⟩⟩

-- A response with 32-bit arguments is no answer. The second reply is one, whatever the high half of
-- its first register is, so the third attempt is not made.
theorem sent_until_answered_second :
    let replies (i : Nat) : Results := .replicate 18 (if i = 0 then 0x84000070 else 0x1c4000070)
    let c := ofScript replies ⟨2, 100⟩
    let asked := request 0x8003 [1, 2, 3, 4, 5]
    c.retry.maxRetries.toNat + 1 < UInt32.size ∧
    ∃ demands, (directRequest 0x8003 [1, 2, 3, 4, 5]).result c =
        (.done (.replicate 18 0x1c4000070), c.past demands) ∧
      Attempts asked 100 2 demands := by
  intro replies c asked
  have bounded : c.retry.maxRetries.toNat + 1 < UInt32.size := by decide
  have ⟨n, outcome, demands, sent, attempts, answered, _⟩ :=
    sent_until_answered bounded 0x8003 #v[1, 2, 3, 4, 5]
  have ⟨two, done⟩ := answered 1 (by decide) (by decide) (by decide)
  subst two done
  exact ⟨bounded, demands, sent, attempts⟩

end FfaClient

end BoardFirmware.Secure
