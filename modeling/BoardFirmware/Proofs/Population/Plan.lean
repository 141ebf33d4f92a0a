import BoardFirmware.Proofs.Population.Piece

namespace BoardFirmware.Population

open Acpi Store BoardFirmware.Action

-- Which pieces are to be brought into a store, and how that is to end.
structure Plan where
  pieces  : List Piece
  verdict : Outcome Unit

-- There are entries, tokens and numbers for all the pieces in a store with `tables` in its list.
structure Fits (s : Store) (tables : List TableEntry) (ps : List Piece) : Prop where
  room   : s.entries.length + room tables ps ≤ s.capacity
  cost   : s.tokens.issued + cost tables ps < UInt64.size
  listed : tables.length + (listings ps).length < UInt32.size

-- The pieces in `before` were brought, and the next one does not fit.
structure Stops (s : Store) (ps before : List Piece) (t : Store) : Prop where
  brings : Brings s before t
  full   : ∃ p tables, before ++ [p] <+: ps ∧ TableLog t tables ∧ ¬Fits t tables [p]

-- What may become of `s` by an action that is to follow the plan.
inductive Follows (s : Store) (plan : Plan) : Outcome Unit × Store → Prop
  | through {t : Store} (h : Brings s plan.pieces t) : Follows s plan (plan.verdict, t)
  | refused {before : List Piece} {t : Store} (h : Stops s plan.pieces before t) :
      Follows s plan (.failed .outOfResources, t)
  | trapped {before : List Piece} {t : Store} (h : Stops s plan.pieces before t) (u : Store) :
      Follows s plan (.trapped, u)

variable {s t u : Store} {p : Piece} {ps qs before : List Piece} {tables new : List TableEntry}
variable {table : TableEntry} {l : Listing} {plan other : Plan} {outcome : Outcome Unit}

namespace Fits

theorem nil (log : TableLog s tables) (le : s.entries.length ≤ s.capacity) : Fits s tables [] where
  room   := le
  cost   := UInt64.toNat_lt _
  listed := log.length_lt

theorem of_prefix (h : Fits s tables qs) (part : ps <+: qs) : Fits s tables ps := by
  have ⟨rest, hr⟩ := part
  have ⟨hroom, hcost, hlisted⟩ := hr ▸ h
  have hle : Population.room tables ps ≤ Population.room tables (ps ++ rest) := by
    rw [Population.room, Population.room, List.countP_append, listings_append]
    cases hl : listings ps
    case nil  => simp [Nat.add_assoc]
    case cons => simp
  rw [Population.cost, List.map_append, List.sum_append] at hcost
  rw [listings_append, List.length_append] at hlisted
  constructor
  case room   => omega
  case cost   => rw [Population.cost]; omega
  case listed => omega

end Fits

-- What fits after some pieces is what fits together with them.
theorem Tally.fits_iff (h : Tally s t tables new ps) :
    Fits t (tables ++ new) qs ↔ Fits s tables (ps ++ qs) := by
  have hl := h.refers.length_eq
  have hroom : t.entries.length + room (tables ++ new) qs =
      s.entries.length + room tables (ps ++ qs) := by
    rw [h.length, room_append hl, Nat.add_assoc]
  have hcost : t.tokens.issued + cost (tables ++ new) qs =
      s.tokens.issued + cost tables (ps ++ qs) := by
    rw [h.issued, cost_append hl, Nat.add_assoc]
  have hlisted : (tables ++ new).length + (listings qs).length =
      tables.length + (listings (ps ++ qs)).length := by
    rw [listings_append, List.length_append, List.length_append, hl, Nat.add_assoc]
  constructor
  case mp  => exact fun ⟨r, c, l⟩ => ⟨h.capacity ▸ hroom ▸ r, hcost ▸ c, hlisted ▸ l⟩
  case mpr => exact fun ⟨r, c, l⟩ => ⟨h.capacity ▸ hroom ▸ r, hcost ▸ c, hlisted ▸ l⟩

theorem Brings.fits (h : Brings s ps t) (log : TableLog s tables)
    (le : s.entries.length ≤ s.capacity) : Fits s tables ps := by
  have ⟨new, tally⟩ := h.tally log
  have steps : Steps s t := h.rel
  have fits := tally.fits_iff.mp (Fits.nil tally.log (tally.capacity ▸ steps.length_le_capacity le))
  rwa [List.append_nil] at fits

namespace Stops

theorem of_prefix (h : Stops s ps before t) (part : ps <+: qs) : Stops s qs before t where
  brings := h.brings
  full   := by
    have ⟨p, tables, hp, log, full⟩ := h.full
    exact ⟨p, tables, hp.trans part, log, full⟩

theorem after (hb : Brings s ps u) (h : Stops u qs before t) :
    Stops s (ps ++ qs) (ps ++ before) t where
  brings := hb.append h.brings
  full   := by
    have ⟨p, tables, hp, log, full⟩ := h.full
    refine ⟨p, tables, ?_, log, full⟩
    rw [List.append_assoc]
    exact (List.prefix_append_right_inj ps).mpr hp

theorem not_fits (h : Stops s ps before t) (log : TableLog s tables) : ¬Fits s tables ps := by
  intro fits
  have ⟨p, tables', hp, log', full⟩ := h.full
  have ⟨new, tally⟩ := h.brings.tally log
  apply full
  rw [log'.unique tally.log]
  exact tally.fits_iff.mpr (fits.of_prefix hp)

-- A single piece is brought or not at all.
theorem eq_of_short (h : Stops s ps before t) (short : ps.length ≤ 1) : t = s := by
  have ⟨p, _, start, _⟩ := h.full
  have le := start.length_le
  rw [List.length_append, List.length_singleton] at le
  have empty : before = [] := List.length_eq_zero_iff.mp (by omega)
  subst empty
  cases h.brings
  rfl

-- Already the first piece does not fit.
theorem first (log : TableLog s tables) (full : ¬Fits s tables [p]) : Stops s (p :: ps) [] s where
  brings := .nil s
  full   := ⟨p, tables, ⟨ps, rfl⟩, log, full⟩

end Stops

namespace Plan

def bring (ps : List Piece) : Plan :=
  ⟨ps, .done ()⟩

def refuse (e : Status) : Plan :=
  ⟨[], .failed e⟩

def trap : Plan :=
  ⟨[], .trapped⟩

-- The second plan comes after the first, if that ends well.
def next (p q : Plan) : Plan :=
  match p.verdict with
  | .done () => ⟨p.pieces ++ q.pieces, q.verdict⟩
  | verdict  => ⟨p.pieces, verdict⟩

def all (plans : List Plan) : Plan :=
  plans.foldr next (bring [])

theorem bring_next (ps qs : List Piece) : (bring ps).next (bring qs) = bring (ps ++ qs) := rfl

theorem next_nil (ps : List Piece) : (bring ps).next (bring []) = bring ps := by
  rw [bring_next, List.append_nil]

theorem prefix_next (p q : Plan) : p.pieces <+: (p.next q).pieces := by
  rw [next]
  split
  case h_1 => exact List.prefix_append ..
  case h_2 => exact List.prefix_rfl

theorem verdict_refuse (e : Status) : (refuse e).verdict ≠ .done () :=
  nofun

theorem verdict_next {p q : Plan} :
    (p.next q).verdict = .done () ↔ p.verdict = .done () ∧ q.verdict = .done () := by
  rw [next]
  cases p.verdict <;> simp

theorem verdict_all {plans : List Plan} :
    (all plans).verdict = .done () ↔ ∀ p ∈ plans, p.verdict = .done () := by
  induction plans
  case nil => simp [all, bring]
  case cons p rest ih =>
    have hcons : all (p :: rest) = p.next (all rest) := rfl
    rw [hcons, verdict_next, ih, List.forall_mem_cons]

-- Plans that bring something in any case are one such plan together.
theorem all_bring {plan : α → Plan} {pieces : α → List Piece} {items : List α}
    (h : ∀ a ∈ items, plan a = bring (pieces a)) :
    all (items.map plan) = bring (items.flatMap pieces) := by
  induction items
  case nil => rfl
  case cons a rest ih =>
    have ⟨ha, hrest⟩ := List.forall_mem_cons.mp h
    rw [List.map_cons, List.flatMap_cons, ← bring_next, ← ih hrest, ← ha]
    rfl

theorem pieces_all {plans : List Plan} (h : ∀ p ∈ plans, p.verdict = .done ()) :
    (all plans).pieces = plans.flatMap pieces := by
  induction plans
  case nil => rfl
  case cons p rest ih =>
    have hcons : all (p :: rest) = p.next (all rest) := rfl
    have ⟨hp, hrest⟩ := List.forall_mem_cons.mp h
    rw [hcons, next, hp, List.flatMap_cons, ← ih hrest]

-- All pieces of the plan satisfy `φ`.
def Only (φ : Piece → Prop) (plan : Plan) : Prop :=
  ∀ p ∈ plan.pieces, φ p

namespace Only

variable {φ : Piece → Prop}

theorem nothing {verdict : Outcome Unit} : Only φ ⟨[], verdict⟩ :=
  nofun

theorem single (h : φ p) : (bring [p]).Only φ :=
  List.forall_mem_singleton.mpr h

theorem next (h : plan.Only φ) (h' : other.Only φ) : (plan.next other).Only φ := by
  rw [Plan.next]
  split
  case h_1 => exact List.forall_mem_append.mpr ⟨h, h'⟩
  case h_2 => exact h

theorem all {plans : List Plan} (h : ∀ p ∈ plans, p.Only φ) : (Plan.all plans).Only φ := by
  induction plans
  case nil => exact nothing
  case cons p rest ih =>
    have ⟨hp, hrest⟩ := List.forall_mem_cons.mp h
    exact hp.next (ih hrest)

end Only

end Plan

namespace Follows

-- As far as the action got, it has brought pieces of the plan.
theorem brings (h : Follows s plan (outcome, t)) (ret : outcome ≠ .trapped) :
    ∃ ps, ps <+: plan.pieces ∧ Brings s ps t := by
  cases h
  case through h => exact ⟨_, List.prefix_rfl, h⟩
  case refused h =>
    have ⟨_, _, hp, _⟩ := h.full
    exact ⟨_, (List.prefix_append ..).trans hp, h.brings⟩
  case trapped   => exact absurd rfl ret

-- What has been brought is the start of the pieces, and all of them in the end.
theorem stage (h : Follows s plan (outcome, t)) (ret : outcome ≠ .trapped) :
    ∃ n, Brings s (plan.pieces.take n) t ∧
      (outcome = .done () → plan.verdict = .done () ∧ plan.pieces.take n = plan.pieces) := by
  cases h
  case through h => exact ⟨plan.pieces.length, by rwa [List.take_length], fun done =>
    ⟨done, List.take_length⟩⟩
  case refused before h =>
    have ⟨_, _, hp, _⟩ := h.full
    have start := List.prefix_iff_eq_take.mp ((List.prefix_append before _).trans hp)
    exact ⟨before.length, start ▸ h.brings, nofun⟩
  case trapped   => exact absurd rfl ret

theorem done_iff (h : Follows s plan (outcome, t)) (log : TableLog s tables)
    (le : s.entries.length ≤ s.capacity) :
    outcome = .done () ↔ plan.verdict = .done () ∧ Fits s tables plan.pieces := by
  cases h
  case through h => exact ⟨fun hv => ⟨hv, h.fits log le⟩, fun hv => hv.left⟩
  case refused h => exact ⟨nofun, fun hv => absurd hv.right (h.not_fits log)⟩
  case trapped h => exact ⟨nofun, fun hv => absurd hv.right (h.not_fits log)⟩

theorem brings_of_done (h : Follows s plan (outcome, t)) (done : outcome = .done ()) :
    Brings s plan.pieces t := by
  cases h
  case through h => exact h
  case refused   => cases done
  case trapped   => cases done

theorem after {r : Outcome Unit × Store} (hb : Brings s ps t) (h : Follows t plan r) :
    Follows s ((Plan.bring ps).next plan) r := by
  cases h
  case through h   => exact .through (hb.append h)
  case refused h   => exact .refused (.after hb h)
  case trapped h u => exact .trapped (.after hb h) u

theorem next {x : Action Store Unit} {f : Unit → Action Store Unit}
    (hx : Follows s plan (x.result s))
    (hf : ∀ t, Brings s plan.pieces t → Follows t other ((f ()).result t)) :
    Follows s (plan.next other) ((x >>= f).result s) := by
  rw [result_bind]
  generalize x.result s = r at hx
  cases hx
  case refused h   => exact .refused (h.of_prefix (plan.prefix_next other))
  case trapped h u => exact .trapped (h.of_prefix (plan.prefix_next other)) u
  case through t h =>
    obtain ⟨pieces, verdict⟩ := plan
    cases verdict
    case done    => exact .after h (hf t h)
    case failed  => exact .through h
    case trapped => exact .through h

theorem all {f : α → Action Store Unit} {plan : α → Plan} {I : Store → Prop}
    (keep : ∀ {s ps t}, I s → Brings s ps t → I t)
    (h : ∀ a s, I s → Follows s (plan a) ((f a).result s)) (items : List α) (hs : I s) :
    Follows s (.all (items.map plan)) ((items.forM f).result s) := by
  induction items generalizing s
  case nil            => exact .through (.nil s)
  case cons a rest ih => exact (h a s hs).next fun t hb => ih (keep hs hb)

theorem listTable (log : TableLog s tables) (refers : Refers s table l) :
    Follows s (.bring [.listing l]) ((listTable table).result s) := by
  have ends := log.ends table
  cases hr : (Acpi.listTable table).result s with | _ outcome t
  rw [hr] at ends
  cases ends
  case done => exact .through (.cons (.listing refers hr) (.nil t))
  case full none full =>
    refine .refused (.first log fun fits => ?_)
    have hle := fits.room
    rw [room_listing, log.eq_nil none] at hle
    exact absurd (Nat.le_trans hle full) (Nat.not_succ_le_self _)
  case exhausted hp =>
    refine .refused (.first log fun fits => hp (TokenSource.provides_iff.mpr ?_))
    exact cost_listing ▸ fits.cost
  case trapped overflow =>
    have hlt (fits : Fits s tables [.listing l]) : tables.length + 1 < UInt32.size := fits.listed
    exact .trapped (.first log fun fits => absurd (hlt fits) (Nat.not_lt.mpr overflow)) t

theorem add {d : Descriptor} {f : List Token × Token → Action Store Unit}
    (log : TableLog s tables) (plain : d.id ≠ .acpiTableList) (pos : d.count ≠ 0)
    (hf : ∀ a t, (add d.id d.data d.count).result s = (.done a, t) →
      Follows t plan ((f a).result t)) :
    Follows s ((Plan.bring [.object d]).next plan)
      ((Store.add d.id d.data d.count >>= f).result s) := by
  rw [result_bind]
  cases hr : (Store.add d.id d.data d.count).result s with | _ outcome t
  rw [result_add, if_neg pos] at hr
  split at hr
  case isTrue full =>
    cases hr
    refine .refused (.first log fun fits => ?_)
    have hle := room_object ▸ fits.room
    exact absurd (Nat.le_trans hle full) (Nat.not_succ_le_self _)
  case isFalse vacant =>
    split at hr
    case isTrue hp =>
      cases hr
      refine .refused (.first log fun fits => hp (TokenSource.provides_iff.mpr ?_))
      exact cost_object ▸ fits.cost
    case isFalse hp =>
      have ha : (Store.add d.id d.data d.count).result s = (outcome, t) := by
        rw [result_add, if_neg pos, if_neg vacant, if_neg hp, hr]
      cases hr
      exact .after (.cons (.object plain ha) (.nil _)) (hf _ _ ha)

end Follows

end BoardFirmware.Population
