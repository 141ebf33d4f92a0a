import BoardFirmware.Proofs.Store.Bitmap
import BoardFirmware.Proofs.Store.Lookup
import BoardFirmware.Store.Audit

namespace BoardFirmware

namespace Audit

variable {source : TokenSource} {seen tokens : List Token} {t : Token}

def bit (t : Token) : UInt64 :=
  t.value - Token.first.value

theorem bit_inj {t t' : Token} : bit t = bit t' ↔ t = t' := by
  rw [bit, bit, UInt64.sub_left_inj, Token.mk.injEq]

-- The audit after it has met the tokens in `seen`.
def after (source : TokenSource) (seen : List Token) : Audit :=
  { start source with seen := (seen.map bit).foldl Bitmap.mark (start source).seen }

theorem after_concat (source : TokenSource) (seen : List Token) (t : Token) :
    after source (seen ++ [t]) =
      { after source seen with seen := (after source seen).seen.mark (bit t) } := by
  simp [after]

-- The numbers of a token and its bit differ by one, so the bitmap reaches up to the last token.
theorem bit_lt (h : source.Issued t) : bit t < source.next - 1 - Token.first.value + 1 := by
  have hb : (bit t).toNat = t.value.toNat - 1 :=
    UInt64.toNat_sub_of_le _ _ (UInt64.le_iff_toNat_le.mpr h.pos)
  have hr : source.next - 1 - Token.first.value + 1 = source.next - Token.first.value := by
    simp [Token.first]
  have pos := h.pos
  have le : t.value.toNat ≤ (source.next - Token.first.value).toNat := h.le
  rw [UInt64.lt_iff_toNat_lt, hb, hr]
  omega

theorem test?_after (seen : List Token) (h : source.Issued t) :
    (after source seen).seen.test? (bit t) = some (decide (t ∈ seen)) := by
  have hm : bit t ∈ seen.map bit ↔ t ∈ seen := by simp [bit_inj]
  rw [after, Bitmap.test?_foldl_mark, start, Bitmap.test?_clear (bit_lt h)]
  simp [hm]

theorem result_check (source : TokenSource) (seen : List Token) (t : Token) :
    (check t).result (after source seen) =
      if t.isNull then (.done (), after source seen)
      else if ¬source.Issued t then (.failed .invalidParameter, after source seen)
      else if t ∈ seen then (.failed .deviceError, after source seen)
      else (.done (), after source (seen ++ [t])) := by
  cases hn : t.isNull
  case true => simp [check, hn]
  have hr : (t.value < Token.first.value ∨ (after source seen).last < t.value) ↔
      ¬source.Issued t := by
    have := Token.not_isNull_iff.mp hn
    rw [TokenSource.issued_iff, UInt64.lt_iff_toNat_lt, UInt64.lt_iff_toNat_lt]
    simp only [after, start, TokenSource.issued, Token.first, UInt64.toNat_one]
    omega
  by_cases hi : source.Issued t
  case neg => simp [check, hn, hr, hi, Action.result_bind]
  have ht := test?_after seen hi
  rw [bit] at ht
  by_cases hs : t ∈ seen
  case pos => simp [check, hn, hr, hi, hs, ht, Action.result_bind]
  case neg => simp [check, hn, hr, hi, hs, ht, Action.result_bind, after_concat, bit]

theorem result_forM_check (nodup : (seen ++ tokens).Nodup)
    (issued : ∀ t ∈ tokens, source.Issued t) :
    (tokens.forM check).result (after source seen) = (.done (), after source (seen ++ tokens)) := by
  induction tokens generalizing seen
  case nil => simp
  case cons t rest ih =>
    have hi := issued t List.mem_cons_self
    have ht : t ∉ seen := fun hs =>
      (List.nodup_append.mp nodup).right.right t hs t List.mem_cons_self rfl
    have hc : (check t).result (after source seen) = (.done (), after source (seen ++ [t])) := by
      simp [result_check, hi.not_isNull, hi, ht]
    rw [List.append_cons] at nodup
    calc (check t >>= fun _ => rest.forM check).result (after source seen)
      _ = (rest.forM check).result (after source (seen ++ [t])) := Action.result_bind_of_done hc
      _ = (.done (), after source (seen ++ t :: rest))          := by
        rw [ih nodup fun t' h => issued t' (List.mem_cons_of_mem _ h), ← List.append_cons]

theorem result_checkEntry (e : Entry) (k : Nat) (a : Audit) :
    (checkEntry e k).result a = (e.tokens.forM check).result a := by
  have hs : ∀ t a, (!t.isNull) = false → (check t).result a = (.done (), a) := by
    intro t a hn
    simp_all [check]
  rw [Entry.tokens, Token.proper, Action.result_forM_filter hs]
  exact Action.result_bind_congr (Action.result_explaining ..) fun _ t =>
    Action.result_forM_zipIdx (fun _ _ => Action.result_explaining ..) ..

theorem result_checkEntries (entries : List Entry) (a : Audit) :
    (checkEntries entries).result a = ((entries.flatMap Entry.tokens).forM check).result a := by
  have h (p : Entry × Nat) (a : Audit) :
      (checkEntry p.1 p.2).result a = (p.1.tokens.forM check).result a :=
    result_checkEntry p.1 p.2 a
  calc (checkEntries entries).result a
    _ = (entries.forM fun e => e.tokens.forM check).result a := Action.result_forM_zipIdx h ..
    _ = ((entries.flatMap Entry.tokens).forM check).result a := Action.result_forM_flatMap ..

end Audit

theorem Store.result_sanityCheck (s : Store) :
    sanityCheck.result s = (((s.stored.forM Audit.check).result (.after s.tokens [])).1, s) := by
  simp only [sanityCheck, Action.result_bind, Action.result_get, Action.result_log,
    Action.result_within, Audit.result_checkEntries]
  rfl

end BoardFirmware
