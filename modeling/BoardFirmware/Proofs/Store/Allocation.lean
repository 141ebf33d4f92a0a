import BoardFirmware.Proofs.Store.Token

namespace BoardFirmware.TokenSource

variable {s : TokenSource} {n : Nat} {t : Token}

theorem issued_lt (s : TokenSource) : s.issued < UInt64.size :=
  (s.next - Token.first.value).toNat_lt

theorem upcoming_values (h : s.Provides n) :
    (s.upcoming n).map (·.value.toNat) = List.range' (s.issued + 1) n := by
  rw [upcoming, List.map_map, List.range'_eq_map_range]
  exact List.map_congr_left fun i hi => toNat_next_add h (List.mem_range.mp hi)

-- Everything that a request can come to.
theorem allocate_cases (s : TokenSource) (n : Nat) :
    UInt64.size ≤ s.issued + n ∧ (allocate n).result s = (.failed .outOfResources, s) ∨
    s.issued + n < UInt64.size ∧ maxRequest < n ∧ (allocate n).result s = (.trapped, s) ∨
    s.issued + n < UInt64.size ∧ n ≤ maxRequest ∧
      (allocate n).result s = (.done (s.upcoming n), s.advance n) := by
  simp only [result_allocate, provides_iff]
  by_cases provides : s.issued + n < UInt64.size
  case neg => simp [provides, Nat.le_of_not_lt provides]
  by_cases large : maxRequest < n
  case pos => simp [provides, large]
  case neg => simp [provides, large, Nat.le_of_not_lt large]

-- A request for so many tokens, and what it came to.
structure Request where
  count   : Nat
  outcome : Outcome (List Token)
  deriving DecidableEq

namespace Request

def tokens (r : Request) : List Token :=
  match r.outcome with
  | .done tokens => tokens
  | _            => []

-- The number of tokens asked for, if they were given.
def granted (r : Request) : Nat :=
  if r.outcome.isOk then r.count else 0

end Request

-- Requests one after the other, for so many tokens each.
def requests : TokenSource → List Nat → List Request
  | _, []        => []
  | s, n :: rest => ⟨n, ((allocate n).result s).1⟩ :: requests ((allocate n).result s).2 rest

-- The source after all of them.
def asked : TokenSource → List Nat → TokenSource
  | s, []        => s
  | s, n :: rest => asked ((allocate n).result s).2 rest

def given (calls : List Request) : List Token :=
  calls.flatMap Request.tokens

def granted : List Request → Nat
  | []         => 0
  | r :: calls => r.granted + granted calls

theorem given_cons (r : Request) (calls : List Request) :
    given (r :: calls) = r.tokens ++ given calls :=
  List.flatMap_cons

-- Either a request is granted and gets the tokens that come next, or all is as before.
theorem request_values (s : TokenSource) (n : Nat) :
    let r : Request := ⟨n, ((allocate n).result s).1⟩
    ((allocate n).result s).2.issued = s.issued + r.granted ∧
      r.tokens.map (·.value.toNat) = List.range' (s.issued + 1) r.granted := by
  obtain ⟨_, ended⟩ | ⟨_, _, ended⟩ | ⟨provides, _, ended⟩ := allocate_cases s n
  case inl     => simp [ended, Request.granted, Request.tokens, Outcome.isOk]
  case inr.inl => simp [ended, Request.granted, Request.tokens, Outcome.isOk]
  case inr.inr =>
    have provides := provides_iff.mpr provides
    simp [ended, Request.granted, Request.tokens, Outcome.isOk, issued_advance provides,
      upcoming_values provides]

theorem requests_values (s : TokenSource) (counts : List Nat) :
    (s.asked counts).issued = s.issued + granted (s.requests counts) ∧
      (given (s.requests counts)).map (·.value.toNat) =
        List.range' (s.issued + 1) (granted (s.requests counts)) := by
  induction counts generalizing s
  case nil => exact ⟨rfl, rfl⟩
  case cons n rest ih =>
    have ⟨issued, tokens⟩ := s.request_values n
    have ⟨later, given⟩ := ih ((allocate n).result s).2
    rw [issued] at later given
    rw [requests, asked, given_cons, granted, later, List.map_append, tokens, given,
      Nat.add_assoc, Nat.add_right_comm s.issued, List.range'_append_1]
    exact ⟨rfl, rfl⟩

-- When all tokens are out, nothing changes any more.
theorem requests_of_exhausted (exhausted : s.issued = UInt64.size - 1) (counts : List Nat) :
    s.requests counts =
      counts.map fun n => ⟨n, if n = 0 then .done [] else .failed .outOfResources⟩ := by
  have size : 0 < UInt64.size := by decide
  induction counts
  case nil => rfl
  case cons n rest ih =>
    have result : (allocate n).result s =
        (if n = 0 then .done [] else .failed .outOfResources, s) := by
      obtain ⟨_, ended⟩ | ⟨_, _, ended⟩ | ⟨_, _, ended⟩ := allocate_cases s n
      case inl     => rw [ended, if_neg (by omega)]
      case inr.inl => omega
      case inr.inr =>
        obtain rfl : n = 0 := by omega
        simpa [upcoming, advance] using ended
    rw [requests, result, ih, List.map_cons]

-- A source that has given out no token so far gives out `k` of them in requests for `counts`, and
-- then there is one more request. The list of tokens that it is granted is as long as it wants,
-- unless no list in memory is.
theorem allocation_exact (counts : List Nat) :
    let calls : List Request := requests {} counts
    let source := asked {} counts
    let k := granted calls
    (given calls).map (·.value.toNat) = List.range' 1 k ∧ Token.null ∉ given calls ∧
    (∀ n,
      ((∃ status, ((allocate n).result source).1 = .failed status) ↔
        0 < n ∧ UInt64.size - 1 < k + n) ∧
      (∀ status, ((allocate n).result source).1 = .failed status →
        (allocate n).result source = (.failed .outOfResources, source)) ∧
      (((allocate n).result source).1 = .trapped ↔
        k + n ≤ UInt64.size - 1 ∧ maxRequest < n)) ∧
    (k = UInt64.size - 1 → ∀ later, source.requests later =
      later.map fun n => ⟨n, if n = 0 then .done [] else .failed .outOfResources⟩) := by
  intro calls source k
  have ⟨issued, values⟩ := requests_values {} counts
  replace issued : source.issued = k := issued.trans (Nat.zero_add k)
  replace values : (given calls).map (·.value.toNat) = List.range' 1 k := values
  have lt : k < UInt64.size := issued ▸ source.issued_lt
  refine ⟨values, ?null, ?next, ?exhausted⟩
  case null =>
    intro mem
    have : Token.null.value.toNat ∈ List.range' 1 k := values ▸ List.mem_map_of_mem mem
    simp [Token.null] at this
  case next =>
    intro n
    have size : UInt64.size = 0x10000000000000000 := rfl
    rw [← issued]
    obtain ⟨_, ended⟩ | ⟨_, _, ended⟩ | ⟨_, _, ended⟩ := allocate_cases source n
    case inl     => simp [ended]; omega
    case inr.inl => simp [ended]; omega
    case inr.inr => simp [ended]; omega
  case exhausted =>
    intro all
    exact requests_of_exhausted (issued.trans all)

-- Seventeen requests take all tokens, as sixteen of the longest lists leave fifteen.
theorem allocation_exact_exhausted :
    let counts := List.replicate 16 maxRequest ++ [15]
    granted (requests {} counts) = UInt64.size - 1 ∧
      (asked {} counts).requests [1, 0, 5] =
        [⟨1, .failed .outOfResources⟩, ⟨0, .done []⟩, ⟨5, .failed .outOfResources⟩] := by
  intro counts
  have ⟨_, _, _, exhausted⟩ := allocation_exact counts
  have all : granted (requests {} counts) = UInt64.size - 1 := by decide +kernel
  exact ⟨all, exhausted all [1, 0, 5]⟩

-- A new source has 2⁶⁰ tokens and many more, but they are neither given nor refused to a request.
theorem allocate_trapped_of_new :
    let n := 0x1000000000000000
    let source : TokenSource := {}
    source.issued + n ≤ UInt64.size - 1 ∧ (allocate n).result source = (.trapped, source) ∧
      (¬∃ tokens, ((allocate n).result source).1 = .done tokens) ∧
      ¬∃ status, ((allocate n).result source).1 = .failed status := by
  intro n source
  have left : source.issued + n ≤ UInt64.size - 1 := by decide
  have ended : (allocate n).result source = (.trapped, source) := by
    obtain ⟨full, _⟩ | ⟨_, _, ended⟩ | ⟨_, small, _⟩ := allocate_cases source n
    case inl     => exact absurd full (by decide)
    case inr.inl => exact ended
    case inr.inr => exact absurd small (by decide)
  refine ⟨left, ended, fun ⟨tokens, granted⟩ => ?_, fun ⟨status, refused⟩ => ?_⟩
  case refine_1 => rw [ended] at granted; cases granted
  case refine_2 => rw [ended] at refused; cases refused

end BoardFirmware.TokenSource
