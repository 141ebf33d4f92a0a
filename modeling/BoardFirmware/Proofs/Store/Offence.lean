import BoardFirmware.Proofs.Store.Audit
import Mathlib.Data.List.Induction

namespace BoardFirmware

theorem TokenSource.issued_iff_mem_range {source : TokenSource} {t : Token} :
    source.Issued t ↔ 1 ≤ t.value ∧ t.value ≤ source.next - 1 := by
  rw [issued_iff, UInt64.le_iff_toNat_le, UInt64.le_iff_toNat_le]
  rfl

namespace Audit

variable {source : TokenSource} {tokens before rest : List Token} {t : Token} {status : Status}

-- All tokens were given out, and none of them is there twice.
structure Flawless (source : TokenSource) (tokens : List Token) : Prop where
  issued : ∀ t ∈ tokens, source.Issued t
  nodup  : tokens.Nodup

theorem flawless_iff :
    Flawless source tokens ↔ (∀ t ∈ tokens, source.Issued t) ∧ tokens.Nodup :=
  ⟨fun ⟨issued, nodup⟩ => ⟨issued, nodup⟩, fun ⟨issued, nodup⟩ => ⟨issued, nodup⟩⟩

theorem Flawless.concat (h : Flawless source before) (issued : source.Issued t)
    (new : t ∉ before) : Flawless source (before ++ [t]) where
  issued := by
    intro u hu
    obtain hu | hu := List.mem_append.mp hu
    case inl => exact h.issued u hu
    case inr => exact List.mem_singleton.mp hu ▸ issued
  nodup  := by
    rw [← List.concat_eq_append]
    exact h.nodup.concat new

-- Why a token is refused that comes after those in `before`.
inductive Offence (source : TokenSource) (before : List Token) (t : Token) : Status → Prop
  | stray (h : ¬source.Issued t) : Offence source before t .invalidParameter
  | repeated (h : source.Issued t) (met : t ∈ before) : Offence source before t .deviceError

theorem offence_iff : Offence source before t status ↔
    ¬source.Issued t ∧ status = .invalidParameter ∨
      source.Issued t ∧ t ∈ before ∧ status = .deviceError := by
  constructor
  case mp =>
    intro offence
    cases offence
    case stray stray         => exact .inl ⟨stray, rfl⟩
    case repeated issued met => exact .inr ⟨issued, met, rfl⟩
  case mpr =>
    rintro (⟨stray, rfl⟩ | ⟨issued, met, rfl⟩)
    case inl => exact .stray stray
    case inr => exact .repeated issued met

-- A list of tokens is flawless, or there is a first token in it that is refused.
theorem flawless_or_offence (source : TokenSource) (tokens : List Token) :
    Flawless source tokens ∨ ∃ before t rest status, tokens = before ++ t :: rest ∧
      Flawless source before ∧ Offence source before t status := by
  induction tokens using List.reverseRecOn
  case nil => exact .inl ⟨nofun, .nil⟩
  case append_singleton tokens t ih =>
    obtain flawless | ⟨before, u, rest, status, eq, flawless, offence⟩ := ih
    case inr =>
      refine .inr ⟨before, u, rest ++ [t], status, ?_, flawless, offence⟩
      rw [eq, List.append_assoc, List.cons_append]
    case inl =>
      by_cases issued : source.Issued t
      case neg => exact .inr ⟨tokens, t, [], _, rfl, flawless, .stray issued⟩
      by_cases met : t ∈ tokens
      case pos => exact .inr ⟨tokens, t, [], _, rfl, flawless, .repeated issued met⟩
      case neg => exact .inl (flawless.concat issued met)

theorem result_forM_check_of_flawless (h : Flawless source tokens) :
    (tokens.forM check).result (after source []) = (.done (), after source tokens) := by
  have nodup : ([] ++ tokens).Nodup := h.nodup
  exact result_forM_check nodup h.issued

theorem Offence.result_check (h : Offence source before t status) (proper : t.isNull = false) :
    (check t).result (after source before) = (.failed status, after source before) := by
  cases h
  case stray stray         => simp [Audit.result_check, proper, stray]
  case repeated issued met => simp [Audit.result_check, proper, issued, met]

-- Nothing that comes after the first offence is looked at.
theorem result_forM_check_of_offence (flawless : Flawless source before)
    (offence : Offence source before t status) (proper : t.isNull = false) (rest : List Token) :
    ((before ++ t :: rest).forM check).result (after source []) =
      (.failed status, after source before) := by
  have split : (before ++ t :: rest).forM check =
      (before.forM check >>= fun _ => (t :: rest).forM check) := List.forM_append
  rw [split, Action.result_bind_of_done (result_forM_check_of_flawless flawless),
    Action.result_forM_cons, offence.result_check proper]

end Audit

namespace Store

open Audit

variable {s : Store} {before rest : List Token} {t : Token} {status : Status}

theorem not_isNull_of_mem_stored (h : t ∈ s.stored) : t.isNull = false := by
  have ⟨e, _, mem⟩ := List.mem_flatMap.mp h
  exact (Token.mem_proper_iff.mp mem).right

theorem result_sanityCheck_of_flawless (h : Flawless s.tokens s.stored) :
    sanityCheck.result s = (.done (), s) := by
  rw [result_sanityCheck, result_forM_check_of_flawless h]

theorem result_sanityCheck_of_offence (eq : s.stored = before ++ t :: rest)
    (flawless : Flawless s.tokens before) (offence : Offence s.tokens before t status) :
    sanityCheck.result s = (.failed status, s) := by
  have mem : t ∈ s.stored := eq ▸ List.mem_append_right _ List.mem_cons_self
  rw [result_sanityCheck, eq,
    result_forM_check_of_offence flawless offence (not_isNull_of_mem_stored mem)]

theorem sanityCheck_cases (s : Store) :
    Flawless s.tokens s.stored ∧ sanityCheck.result s = (.done (), s) ∨
    ∃ before t rest status, s.stored = before ++ t :: rest ∧ Flawless s.tokens before ∧
      Offence s.tokens before t status ∧ sanityCheck.result s = (.failed status, s) := by
  obtain flawless | ⟨before, t, rest, status, eq, flawless, offence⟩ :=
    flawless_or_offence s.tokens s.stored
  case inl => exact .inl ⟨flawless, result_sanityCheck_of_flawless flawless⟩
  case inr =>
    exact .inr ⟨before, t, rest, status, eq, flawless, offence,
      result_sanityCheck_of_offence eq flawless offence⟩

theorem outcome_sanityCheck_eq_done_iff :
    (sanityCheck.result s).1 = .done () ↔ Flawless s.tokens s.stored := by
  refine ⟨fun ended => ?_, fun flawless => by rw [result_sanityCheck_of_flawless flawless]⟩
  obtain ⟨flawless, _⟩ | ⟨_, _, _, _, _, _, _, refused⟩ := s.sanityCheck_cases
  case inl => exact flawless
  case inr =>
    rw [refused] at ended
    cases ended

theorem outcome_sanityCheck_eq_failed_iff :
    (sanityCheck.result s).1 = .failed status ↔ ∃ before t rest, s.stored = before ++ t :: rest ∧
      Flawless s.tokens before ∧ Offence s.tokens before t status := by
  constructor
  case mp =>
    intro ended
    obtain ⟨_, accepted⟩ | ⟨before, t, rest, _, eq, flawless, offence, refused⟩ :=
      s.sanityCheck_cases
    case inl =>
      rw [accepted] at ended
      cases ended
    case inr =>
      rw [refused] at ended
      cases ended
      exact ⟨before, t, rest, eq, flawless, offence⟩
  case mpr =>
    intro ⟨before, t, rest, eq, flawless, offence⟩
    rw [result_sanityCheck_of_offence eq flawless offence]

-- The audit looks at all tokens that are stored, also at those that were never given out. As it is
-- not trapped, its bitmap reaches far enough, however many tokens there are. When all are out the
-- next one is null, and the last one is still the one before it.
theorem sanityCheck_exact (s : Store) :
    (sanityCheck.result s).1 ≠ .trapped ∧ (sanityCheck.result s).2 = s ∧
    ((sanityCheck.result s).1 = .done () ↔
      (∀ t ∈ s.stored, 1 ≤ t.value ∧ t.value ≤ s.tokens.next - 1) ∧ s.stored.Nodup) ∧
    ∀ status, (sanityCheck.result s).1 = .failed status ↔
      ∃ before t rest, s.stored = before ++ t :: rest ∧
        ((∀ u ∈ before, 1 ≤ u.value ∧ u.value ≤ s.tokens.next - 1) ∧ before.Nodup) ∧
        (¬(1 ≤ t.value ∧ t.value ≤ s.tokens.next - 1) ∧ status = .invalidParameter ∨
          (1 ≤ t.value ∧ t.value ≤ s.tokens.next - 1) ∧ t ∈ before ∧ status = .deviceError) := by
  simp only [← TokenSource.issued_iff_mem_range, ← flawless_iff, ← offence_iff]
  refine ⟨?trapped, ?state, outcome_sanityCheck_eq_done_iff,
    fun _ => outcome_sanityCheck_eq_failed_iff⟩
  case trapped =>
    obtain ⟨_, ended⟩ | ⟨_, _, _, _, _, _, _, ended⟩ := s.sanityCheck_cases <;> simp [ended]
  case state =>
    obtain ⟨_, ended⟩ | ⟨_, _, _, _, _, _, _, ended⟩ := s.sanityCheck_cases <;> simp [ended]

-- Of 64 tokens that were given out, one word has a bit for each. The last one is met twice, which
-- comes before the one that was never given out.
example : (sanityCheck.result ⟨[⟨.memoryRange, [1, 2], 2, ⟨64⟩, [.null, ⟨1⟩]⟩,
    ⟨.interrupt, [3, 4], 2, .null, [⟨64⟩, ⟨65⟩]⟩], 2, ⟨65⟩⟩).1 = .failed .deviceError := by
  decide

end Store

end BoardFirmware
