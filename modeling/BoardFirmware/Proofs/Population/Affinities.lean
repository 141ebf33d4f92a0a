import BoardFirmware.Proofs.Population.Decoded
import BoardFirmware.Proofs.Population.PassedOver

/-!
The memory affinity table and its data. The table is listed first, and the structures that it is
made of are stored after that, so a run that is refused in between leaves a table without data. No
other run does, and a refused run leaves one at most.
-/

namespace BoardFirmware.Population

open Acpi Store BoardFirmware.Action

-- The element for the memory affinity table.
def sratEntry (oem : OemIdentity) : TableEntry :=
  .of (.ofChars 'S' 'R' 'A' 'T') 3 .srat oem .null

def IsSrat (table : TableEntry) : Prop :=
  table.signature = (Signature.ofChars 'S' 'R' 'A' 'T').word

instance (table : TableEntry) : Decidable (IsSrat table) := by
  unfold IsSrat
  infer_instance

-- How often the table is listed.
def srats (s : Store) : Nat :=
  ((decoded? s).getD []).countP (IsSrat ·)

-- How many objects with memory affinity structures there are.
def affinityGroups (s : Store) : Nat :=
  (s.entriesOf .memoryAffinity).length

-- What runs over lists of the parsers may come to, and how many of them were refused.
inductive Served (capacity : Nat) : Store → Nat → Prop
  | empty : Served capacity (.empty capacity) 0
  | run {s t : Store} {refusals : Nat} {outcome : Outcome Unit} (env : Surroundings)
      (parsers : List AcpiParser) : Served capacity s refusals →
      (populate env (parsers.map AcpiParser.parser)).result s = (outcome, t) → outcome ≠ .trapped →
      Served capacity t (refusals + if outcome = .done () then 0 else 1)

namespace Piece

def isSrat : Piece → Bool
  | object _  => false
  | listing l => IsSrat l.entry

def isAffinity : Piece → Bool
  | object d  => d.id = .memoryAffinity
  | listing _ => false

-- The piece is neither the table nor its data.
def Apart (p : Piece) : Prop :=
  p.isSrat = false ∧ p.isAffinity = false

end Piece

theorem Tabled.apart {oem : OemIdentity} {signatures : List Signature} {p : Piece}
    (h : Tabled oem signatures p)
    (others : ∀ signature ∈ signatures,
      signature.word ≠ (Signature.ofChars 'S' 'R' 'A' 'T').word) : p.Apart := by
  cases h
  case table         => exact ⟨rfl, rfl⟩
  case listing mem _ => exact ⟨decide_eq_false (others _ mem), rfl⟩

-- Each table is there with its data, but for one that still lacks them.
structure Paired (ps : List Piece) : Prop where
  described : ps.countP Piece.isAffinity ≤ ps.countP Piece.isSrat
  lacking   : ps.countP Piece.isSrat ≤ ps.countP Piece.isAffinity + 1

namespace Paired

theorem nil : Paired [] :=
  ⟨Nat.le_refl _, Nat.zero_le _⟩

-- Pieces that leave nothing open may come before.
theorem after {ps qs : List Piece} (h : Paired qs)
    (whole : ps.countP Piece.isSrat = ps.countP Piece.isAffinity) : Paired (ps ++ qs) := by
  obtain ⟨described, lacking⟩ := h
  constructor
  all_goals
    rw [List.countP_append, List.countP_append]
    omega

end Paired

-- The table without its data.
def sratPiece (oem : OemIdentity) : Piece :=
  .listing (.of (.ofChars 'S' 'R' 'A' 'T') 3 .srat oem none)

theorem counts_described {d : Descriptor} (oem : OemIdentity) (h : d.id = .memoryAffinity) :
    [sratPiece oem, .object d].countP Piece.isSrat = 1 ∧
      [sratPiece oem, .object d].countP Piece.isAffinity = 1 := by
  obtain ⟨id, data, count⟩ := d
  cases h
  exact ⟨rfl, rfl⟩

-- Wherever the plan is broken off, one table lacks its data at most, and none does in the end.
structure Plan.Pairs (plan : Plan) : Prop where
  start : ∀ n, Paired (plan.pieces.take n)
  whole : plan.verdict = .done () →
    plan.pieces.countP Piece.isSrat = plan.pieces.countP Piece.isAffinity

variable {s t u : Store} {tables new : List TableEntry} {ps : List Piece} {plan other : Plan}
variable {env : Surroundings} {p : AcpiParser} {outcome : Outcome Unit} {refusals capacity : Nat}
variable {e : Status}

theorem countP_listings (ps : List Piece) :
    (listings ps).countP (fun l => IsSrat l.entry) = ps.countP Piece.isSrat := by
  rw [listings, List.countP_filterMap]
  exact List.countP_congr fun p _ => by cases p <;> simp [Piece.listing?, Piece.isSrat]

theorem length_objects (ps : List Piece) :
    (objects .memoryAffinity ps).length = ps.countP Piece.isAffinity := by
  rw [objects, List.length_filterMap_eq_countP]
  exact List.countP_congr fun p _ => by cases p <;> simp [Piece.object?, Piece.isAffinity]

-- Elements are listed under the signature of their piece.
theorem countP_of_refers {ls : List Listing} (h : List.Forall₂ (Refers s) new ls) :
    new.countP (IsSrat ·) = ls.countP (fun l => IsSrat l.entry) := by
  induction h
  case nil => rfl
  case cons table l _ _ hr _ ih =>
    have same : IsSrat table ↔ IsSrat l.entry := by cases hr <;> exact Iff.rfl
    rw [List.countP_cons, List.countP_cons, ih, decide_eq_decide.mpr same]

theorem Brings.counts (h : Brings s ps t) (log : TableLog s tables) :
    srats t = srats s + ps.countP Piece.isSrat ∧
      affinityGroups t = affinityGroups s + ps.countP Piece.isAffinity := by
  have ⟨new, tally⟩ := h.tally log
  have hid : ObjectId.memoryAffinity ≠ .acpiTableList := by decide
  have ⟨added, hadded, hds⟩ := h.entriesOf hid
  constructor
  case left  =>
    rw [srats, srats, decoded?_of_tableLog log, decoded?_of_tableLog tally.log, ← countP_listings,
      ← countP_of_refers tally.refers]
    exact List.countP_append
  case right =>
    rw [affinityGroups, affinityGroups, hadded, List.length_append, ← length_objects, ← hds,
      List.length_map]

namespace Plan.Pairs

theorem of_apart (h : plan.Only Piece.Apart) : plan.Pairs := by
  have none {ps : List Piece} (hp : ∀ p ∈ ps, p.Apart) :
      ps.countP Piece.isSrat = 0 ∧ ps.countP Piece.isAffinity = 0 := by
    rw [List.countP_eq_zero, List.countP_eq_zero]
    exact ⟨fun p mem => by simp [(hp p mem).left], fun p mem => by simp [(hp p mem).right]⟩
  constructor
  case start =>
    intro n
    have some : ∀ p ∈ plan.pieces.take n, p.Apart := fun p mem => h p (List.mem_of_mem_take mem)
    have ⟨srat, affinity⟩ := none some
    exact ⟨by omega, by omega⟩
  case whole =>
    have ⟨srat, affinity⟩ := none h
    exact fun _ => srat.trans affinity.symm

theorem next (h : plan.Pairs) (h' : other.Pairs) : (plan.next other).Pairs := by
  rw [Plan.next]
  split
  case h_2 broken => exact ⟨h.start, fun done => absurd done (broken ·)⟩
  case h_1 done =>
    constructor
    case start =>
      intro n
      dsimp only
      rw [List.take_append]
      by_cases le : n ≤ plan.pieces.length
      case pos =>
        rw [Nat.sub_eq_zero_of_le le, List.take_zero, List.append_nil]
        exact h.start n
      case neg =>
        rw [List.take_of_length_le (Nat.le_of_not_le le)]
        exact (h'.start _).after (h.whole done)
    case whole =>
      intro done'
      dsimp only at done' ⊢
      rw [List.countP_append, List.countP_append, h.whole done, h'.whole done']

theorem all {plans : List Plan} (h : ∀ p ∈ plans, p.Pairs) : (Plan.all plans).Pairs := by
  induction plans
  case nil => exact of_apart .nothing
  case cons p rest ih =>
    have ⟨hp, hrest⟩ := List.forall_mem_cons.mp h
    exact hp.next (ih hrest)

end Plan.Pairs

namespace Plan

-- The structures are one piece, or none where the board has no right ones.
theorem ofAffinities_cases (affinities : Option (List MemoryAffinity)) :
    (ofAffinities affinities).pieces = [] ∧ (ofAffinities affinities).verdict ≠ .done () ∨
      ∃ d, d.id = .memoryAffinity ∧ ofAffinities affinities = bring [.object d] := by
  cases affinities
  case none => exact .inl ⟨rfl, nofun⟩
  case some =>
    rw [ofAffinities, ofElements]
    split
    case isTrue  => exact .inl ⟨rfl, verdict_refuse _⟩
    case isFalse => exact .inr ⟨_, rfl, rfl⟩

theorem ofSrat_cases (env : Surroundings) :
    (ofSrat env).pieces = [sratPiece env.oem] ∧ (ofSrat env).verdict ≠ .done () ∨
      ∃ d, d.id = .memoryAffinity ∧ ofSrat env = bring [sratPiece env.oem, .object d] := by
  obtain ⟨pieces, verdict⟩ | ⟨d, hd, heq⟩ := ofAffinities_cases (MemoryAffinity.ofBoard? env.board)
  case inl => exact .inl ⟨congrArg (sratPiece env.oem :: ·) pieces, verdict⟩
  case inr => exact .inr ⟨d, hd, by rw [ofSrat, heq]; rfl⟩

theorem Pairs.ofSrat (env : Surroundings) : (Plan.ofSrat env).Pairs := by
  have listed : Paired [sratPiece env.oem] := ⟨Nat.zero_le _, Nat.le_refl _⟩
  obtain ⟨pieces, verdict⟩ | ⟨d, hd, heq⟩ := ofSrat_cases env
  case inl =>
    refine ⟨fun n => ?_, fun done => absurd done verdict⟩
    rw [pieces]
    cases n
    case zero => exact .nil
    case succ => rwa [List.take_succ_cons, List.take_nil]
  case inr =>
    have ⟨srat, affinity⟩ := counts_described env.oem hd
    refine heq ▸ ⟨fun n => ?_, fun _ => srat.trans affinity.symm⟩
    rcases n with _ | _ | n
    case zero      => exact .nil
    case succ.zero => exact listed
    case succ.succ =>
      have all : (bring [sratPiece env.oem, .object d]).pieces.take (n + 1 + 1) =
          [sratPiece env.oem, .object d] := by simp [bring]
      rw [all]
      exact ⟨by omega, by omega⟩

theorem Pairs.ofParser (env : Surroundings) (p : AcpiParser) : (Plan.ofParser env p).Pairs := by
  cases p
  case tableList => exact of_apart fun p mem => (ofTableList_tabled p mem).apart (by decide)
  case hmat      => exact of_apart fun p mem => (ofHmat_tabled p mem).apart (by decide)
  case srat      => exact ofSrat env

theorem Pairs.ofRun (env : Surroundings) (parsers : List AcpiParser) :
    (Plan.ofRun env parsers).Pairs := by
  refine .all (List.forall_mem_map.mpr fun p _ => ?_)
  have pairs := Pairs.ofParser env p
  rw [ofListed]
  split
  case isTrue  => exact of_apart .nothing
  case isFalse =>
    rw [passing]
    split
    case isFalse     => exact pairs
    case isTrue none =>
      -- A parser that is passed over brings nothing.
      rw [pieces_of_notFound none]
      exact of_apart .nothing

end Plan

theorem Follows.counts (h : Follows s plan (outcome, t)) (log : TableLog s tables)
    (pairs : plan.Pairs) (ret : outcome ≠ .trapped) :
    ∃ a b, srats t = srats s + a ∧ affinityGroups t = affinityGroups s + b ∧ b ≤ a ∧
      a ≤ b + if outcome = .done () then 0 else 1 := by
  have ⟨n, brings, all⟩ := h.stage ret
  have ⟨hs, ha⟩ := brings.counts log
  have ⟨described, lacking⟩ := pairs.start n
  refine ⟨_, _, hs, ha, described, ?_⟩
  split
  case isFalse     => exact lacking
  case isTrue done =>
    have ⟨verdict, whole⟩ := all done
    rw [whole, pairs.whole verdict]
    exact Nat.le_refl _

-- The structures are stored together or not at all.
theorem Follows.eq_of_affinities {affinities : Option (List MemoryAffinity)}
    (h : Follows s (.ofAffinities affinities) (.failed e, t)) : t = s := by
  generalize hplan : Plan.ofAffinities affinities = plan at h
  generalize ho : Outcome.failed e = outcome at h
  have single : plan.pieces = [] ∧ plan.verdict ≠ .done () ∨
      ∃ d, d.id = .memoryAffinity ∧ plan = .bring [.object d] := hplan ▸ Plan.ofAffinities_cases _
  cases h
  case trapped => cases ho
  case through brings =>
    obtain ⟨none, _⟩ | ⟨d, _, rfl⟩ := single
    case inl =>
      rw [none] at brings
      cases brings
      rfl
    case inr => cases ho
  case refused stops =>
    refine stops.eq_of_short ?_
    obtain ⟨none, _⟩ | ⟨d, _, rfl⟩ := single
    case inl => exact none ▸ Nat.zero_le 1
    case inr => exact Nat.le_refl 1

-- A refused run of the parser leaves what listing the table leaves.
theorem listed_of_srat_refused (log : TableLog s tables)
    (h : (sratParser.run env).result s = (.failed e, t)) :
    (listTable (sratEntry env.oem)).result s = (.failed e, t) ∨
      (listTable (sratEntry env.oem)).result s = (.done (), t) := by
  have listed : Follows s (.bring [sratPiece env.oem]) ((listTable (sratEntry env.oem)).result s) :=
    .listTable log refers_null
  rw [sratParser, result_bind, result_explaining] at h
  rw [sratEntry] at listed ⊢
  generalize (listTable (.of (.ofChars 'S' 'R' 'A' 'T') 3 .srat env.oem .null)).result s = r
    at h listed ⊢
  obtain ⟨_ | _ | _, u⟩ := r
  case trapped => cases h
  case failed  => cases h; exact .inl rfl
  case done    =>
    obtain ⟨_, log⟩ := (listed.brings_of_done rfl).log ⟨_, log⟩
    have rest : Follows u (.ofAffinities (MemoryAffinity.ofBoard? env.board)) (.failed e, t) :=
      h ▸ .affinities log _
    exact .inr (by rw [rest.eq_of_affinities])

theorem counts_of_listed {oem : OemIdentity} (log : TableLog s tables)
    (h : (listTable (sratEntry oem)).result s = (outcome, t)) (ret : outcome ≠ .trapped) :
    srats t = srats s + (if outcome = .done () then 1 else 0) ∧
      affinityGroups t = affinityGroups s := by
  have ends := log.ends (sratEntry oem)
  have follows : Follows s (.bring [sratPiece oem]) (outcome, t) := h ▸ .listTable log refers_null
  rw [h] at ends
  cases ends
  case done      => exact (follows.brings_of_done rfl).counts log
  case full      => exact ⟨rfl, rfl⟩
  case exhausted => exact ⟨rfl, rfl⟩
  case trapped   => exact absurd rfl ret

theorem counts_of_srat (log : TableLog s tables)
    (h : (sratParser.run env).result s = (outcome, t)) :
    (outcome = .done () → srats t = srats s + 1 ∧ affinityGroups t = affinityGroups s + 1) ∧
    ∀ e, outcome = .failed e → affinityGroups t = affinityGroups s ∧
      srats t = srats s +
        if ((listTable (sratEntry env.oem)).result s).1 = .done () then 1 else 0 := by
  have follows : Follows s (.ofSrat env) (outcome, t) := h ▸ .srat log
  constructor
  case left =>
    intro done
    have ⟨n, brings, all⟩ := follows.stage (done ▸ nofun)
    have ⟨verdict, whole⟩ := all done
    obtain ⟨_, broken⟩ | ⟨d, hd, heq⟩ := Plan.ofSrat_cases env
    case inl => exact absurd verdict broken
    case inr =>
      have ⟨srat, affinity⟩ := counts_described env.oem hd
      rw [whole, heq] at brings
      have ⟨hs, ha⟩ := brings.counts log
      exact ⟨srat ▸ hs, affinity ▸ ha⟩
  case right =>
    rintro e rfl
    obtain listed | listed := listed_of_srat_refused log h
    all_goals
      rw [listed]
      exact (counts_of_listed log listed nofun).symm

theorem Served.log (h : Served capacity s refusals) : ∃ tables, TableLog s tables := by
  induction h
  case empty => exact ⟨[], .absent rfl⟩
  case run hr ret ih =>
    have ⟨_, log⟩ := ih
    have ⟨_, _, brings⟩ := brings_of_populate log hr ret
    exact brings.log ⟨_, log⟩

theorem Served.counts (h : Served capacity s refusals) :
    affinityGroups s ≤ srats s ∧ srats s ≤ affinityGroups s + refusals := by
  induction h
  case empty => exact ⟨Nat.le_refl _, Nat.le_refl _⟩
  case run env parsers served hr ret ih =>
    have ⟨_, log⟩ := served.log
    have follows : Follows _ (.ofRun env parsers) _ := .run parsers log
    rw [hr] at follows
    have ⟨a, b, hs, ha, described, lacking⟩ := follows.counts log (.ofRun env parsers) ret
    exact ⟨by omega, by omega⟩

theorem srats_described (h : Served capacity s refusals) :
    affinityGroups s ≤ srats s ∧ srats s ≤ affinityGroups s + refusals ∧
    ∀ env outcome t, (sratParser.run env).result s = (outcome, t) →
      (outcome = .done () → srats t = srats s + 1 ∧ affinityGroups t = affinityGroups s + 1) ∧
      ∀ e, outcome = .failed e → affinityGroups t = affinityGroups s ∧
        srats t = srats s +
          if ((listTable (sratEntry env.oem)).result s).1 = .done () then 1 else 0 := by
  have ⟨described, lacking⟩ := h.counts
  have ⟨_, log⟩ := h.log
  exact ⟨described, lacking, fun _ _ _ hr => counts_of_srat log hr⟩

-- The first run finds no memory, and the second one describes only its own table. The store is full
-- then, so a third one lists a table that lacks its data again.
theorem srats_described_between_refusals :
    let near : Numa.Performance := ⟨140, 150, 500, 10⟩
    let env (dram : List MemoryRegion) : Surroundings := {
      board    := ⟨.t234, .silicon, 1, 1, 0, false, dram, [], []⟩
      topology := ⟨[], ⟨near, near, near, near, near, near, near, near⟩⟩
      oem      := ⟨.replicate 6 65, 1, 2, 3, 4⟩
      aml      := ⟨[], []⟩
      skipped  := []
    }
    let full := env [⟨0x80000000, 0x1000⟩]
    ∃ s t, Served 2 s 1 ∧ affinityGroups s = 1 ∧ srats s = 2 ∧
      (sratParser.run full).result s = (.failed .outOfResources, t) ∧
      affinityGroups t = 1 ∧ srats t = 3 := by
  intro near env full
  let r := ((populate (env []) [sratParser]).result (.empty 2)).2
  let s := ((populate full [sratParser]).result r).2
  let t := ((sratParser.run full).result s).2
  have hr : (populate (env []) [sratParser]).result (.empty 2) =
      (.failed .invalidParameter, r) := by
    decide +kernel
  have hs : (populate full [sratParser]).result r = (.done (), s) := by decide +kernel
  have ht : (sratParser.run full).result s = (.failed .outOfResources, t) := by decide +kernel
  have hl : ((listTable (sratEntry full.oem)).result s).1 = .done () := by decide +kernel
  have group : affinityGroups s = 1 := by decide +kernel
  have served : Served 2 s 1 := .run full [.srat] (.run (env []) [.srat] .empty hr nofun) hs nofun
  have two : srats s = 2 := by decide +kernel
  have ⟨_, _, step⟩ := srats_described served
  have ⟨kept, grown⟩ := (step full _ t ht).right .outOfResources rfl
  rw [if_pos hl] at grown
  exact ⟨s, t, served, group, two, ht, kept.trans group, grown.trans (congrArg (· + 1) two)⟩

-- In a store for one entry the list takes the place of the structures.
theorem srat_listed_without_data :
    let near : Numa.Performance := ⟨140, 150, 500, 10⟩
    let env : Surroundings := {
      board    := ⟨.th500, .silicon, 1, 1, 0, false, [⟨0x80000000, 0x40000000⟩], [], []⟩
      topology := ⟨[.ofSocket 0], ⟨near, near, near, near, near, near, near, near⟩⟩
      oem      := ⟨.replicate 6 65, 1, 2, 3, 4⟩
      aml      := ⟨[], []⟩
      skipped  := []
    }
    ∃ t, (populate env [sratParser]).result (.empty 1) = (.failed .outOfResources, t) ∧
      decoded? t = some [sratEntry env.oem] ∧ t.entriesOf .memoryAffinity = [] := by
  intro near env
  exact ⟨((populate env [sratParser]).result (.empty 1)).2, by decide +kernel, by decide +kernel,
    by decide +kernel⟩

end BoardFirmware.Population
