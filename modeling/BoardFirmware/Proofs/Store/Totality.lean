import BoardFirmware.Proofs.Store.AppendOnly
import BoardFirmware.Proofs.Store.Lookup

namespace BoardFirmware.Store

variable {s t : Store}

def Sound (s : Store) : Prop :=
  ∀ e ∈ s.entries, e.Sound

theorem forall_mem_modify {entries : List Entry} {p : Entry → Prop} {f : Entry → Entry}
    (he : entries[k]? = some e) (hp : ∀ e ∈ entries, p e) (hf : p (f e)) :
    ∀ e ∈ entries.modify k f, p e := by
  intro e' he'
  rw [List.modify_eq_set_getElem?, he] at he'
  cases List.mem_or_eq_of_mem_set he'
  case inl he' => exact hp e' he'
  case inr heq => exact heq ▸ hf

theorem forall_mem_concat {entries : List Entry} {p : Entry → Prop} (hp : ∀ e ∈ entries, p e)
    (he : p e) : ∀ e' ∈ entries ++ [e], p e' := by
  intro e' he'
  cases List.mem_append.mp he'
  case inl he' => exact hp e' he'
  case inr he' => exact List.mem_singleton.mp he' ▸ he

theorem Step.sound (h : Step s t) (hs : s.Sound) : t.Sound := by
  cases h
  case advance            => exact hs
  case push _ _ sound     => exact forall_mem_concat hs sound
  case grow he acc hn     =>
    exact forall_mem_modify he hs ((hs _ (List.mem_of_getElem? he)).grown acc hn)

theorem Steps.sound (h : Steps s t) (hs : s.Sound) : t.Sound := by
  induction h
  case refl        => exact hs
  case tail _ h ih => exact h.sound ih

theorem Reachable.sound {capacity : Nat} (h : Reachable capacity s) : s.Sound :=
  h.steps.sound nofun

-- A look-up fails only because nothing is found.
theorem lookup_cases (hs : s.Sound) (id : ObjectId) (token : Token) :
    (find id token).result s = (.failed .notFound, s) ∧
      (lookup id token).result s = (.failed .notFound, s) ∨
    ∃ e d, (find id token).result s = (.done e, s) ∧ (lookup id token).result s = (.done d, s) := by
  cases s.indexOf?_cases id token
  case inl h => exact .inl ⟨result_find_of_none h, result_lookup_of_none h⟩
  case inr h =>
    have ⟨k, e, hk, he, hm⟩ := h
    have ⟨d, hd⟩ := lookup_of_find hs hk he hm
    exact .inr ⟨e, d, result_find_of_some hk he, hd⟩

-- The division in an extension never fails, so it is trapped only if it counts too far.
theorem le_of_extend_trapped (hs : s.Sound) {id : ObjectId} {data : Bytes} {count : UInt32}
    {token : Token} (h : ((extend id data count token).result s).1 = .trapped) :
    ∃ e ∈ s.entries, UInt32.size ≤ e.count.toNat + count.toNat := by
  have ⟨e, he, hx⟩ := (Operation.ends (.extend id data count token) s).overflows h
  exact ⟨e, he, hx.resolve_left (hs e he).pos⟩

theorem reachable_lookup_total {capacity : Nat} (reach : Reachable capacity s) :
    (∀ e ∈ s.entries, 1 ≤ e.count.toNat ∧
      e.elementTokens.length = (if e.id = .references then 1 else e.count.toNat) ∧
      e.elementSize? = some (e.data.length / e.count.toNat)) ∧
    (∀ id token, ((lookup id token).result s).1 ≠ .trapped ∧
      (((lookup id token).result s).1.isOk ↔ ((find id token).result s).1.isOk)) ∧
    (∀ id data count token, ((extend id data count token).result s).1 = .trapped →
      ∃ e ∈ s.entries, UInt32.size ≤ e.count.toNat + count.toNat) ∧
    (∀ id data count token, ((extend id data count token).result s).1 ≠ .trapped →
      ∀ (k : Nat) (e e' : Entry), s.entries[k]? = some e →
        ((extend id data count token).result s).2.entries[k]? = some e' →
        e'.data.length / e'.count.toNat = e.data.length / e.count.toNat) := by
  have sound := reach.sound
  refine ⟨?_, ?_, ?_, ?_⟩
  case refine_1 =>
    intro e he
    have hs := sound e he
    exact ⟨Word.toNat32_pos hs.pos, hs.length, Entry.elementSize?_of_ne_zero hs.pos⟩
  case refine_2 =>
    intro id token
    cases lookup_cases sound id token
    case inl h =>
      have ⟨hf, hl⟩ := h
      simp [hf, hl, Outcome.isOk]
    case inr h =>
      have ⟨_, _, hf, hl⟩ := h
      simp [hf, hl, Outcome.isOk]
  case refine_3 => exact fun _ _ _ _ => le_of_extend_trapped sound
  case refine_4 =>
    intro id data count token ret k e e' he he'
    have steps := Steps.operation (.extend id data count token) s ret
    have ⟨_, h, grows⟩ := steps.grows.entries k e he
    cases h.symm.trans he'
    have hpos := (sound e (List.mem_of_getElem? he)).pos
    have hpos' := (steps.sound sound e' (List.mem_of_getElem? he')).pos
    have hsize := grows.elementSize
    rwa [Entry.elementSize?_of_ne_zero hpos, Entry.elementSize?_of_ne_zero hpos',
      Option.some.injEq] at hsize

-- Five bytes make two elements of two bytes each, and so do seven bytes make three.
theorem reachable_lookup_total_uneven :
    ∃ s, Reachable 1 s ∧ s.entries = [⟨.memoryRange, [1, 2, 3, 4, 5], 2, ⟨3⟩, [⟨1⟩, ⟨2⟩]⟩] ∧
      ((lookup .memoryRange ⟨2⟩).result s).1.isOk ∧
      ∀ e, ((extend .memoryRange [6, 7] 1 ⟨3⟩).result s).2.entries[0]? = some e →
        e.data.length / e.count.toNat = 2 := by
  have reach : Reachable 1 ⟨[⟨.memoryRange, [1, 2, 3, 4, 5], 2, ⟨3⟩, [⟨1⟩, ⟨2⟩]⟩], 1, ⟨4⟩⟩ :=
    .request (.operation (.add .memoryRange [1, 2, 3, 4, 5] 2)) .empty nofun
  have ⟨_, found, _, size⟩ := reachable_lookup_total reach
  refine ⟨_, reach, rfl, (found .memoryRange ⟨2⟩).right.mpr rfl, fun e he => ?_⟩
  exact size .memoryRange [6, 7] 1 ⟨3⟩ nofun 0 _ e rfl he

end BoardFirmware.Store
