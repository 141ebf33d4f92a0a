import BoardFirmware.Proofs.Population.Decoded
import BoardFirmware.Proofs.Population.Parsers
import BoardFirmware.Proofs.Store.Custody

/-!
The order of the parsers. Each of them brings the same pieces whenever it runs, and whether pieces
fit does not depend on their order, so neither does what a run comes to, but for the places and the
tokens of what it stores.
-/

namespace BoardFirmware.Population

open Acpi Store Numa

variable {s t : Store} {tables : List TableEntry} {env : Surroundings} {ps qs : List Piece}
variable {parsers other : List AcpiParser} {capacity : Nat} {outcome outcome' : Outcome Unit}

theorem room_perm (h : ps.Perm qs) : room tables ps = room tables qs := by
  have hl : (listings ps).length = (listings qs).length := (h.filterMap _).length_eq
  simp only [room, h.countP_eq, ← List.length_eq_zero_iff, hl]

theorem cost_perm (h : ps.Perm qs) : cost tables ps = cost tables qs := by
  rw [cost, cost, room_perm h, (h.map _).sum_nat]

theorem Fits.perm (h : ps.Perm qs) (fits : Fits s tables ps) : Fits s tables qs where
  room   := room_perm h ▸ fits.room
  cost   := cost_perm h ▸ fits.cost
  listed := (h.filterMap Piece.listing?).length_eq ▸ fits.listed

namespace Plan

theorem ofRun_verdict_perm (h : parsers.Perm other)
    (done : (ofRun env parsers).verdict = .done ()) : (ofRun env other).verdict = .done () := by
  rw [ofRun, verdict_all] at done ⊢
  exact fun p mem => done p ((h.map _).mem_iff.mpr mem)

theorem ofRun_pieces_perm (h : parsers.Perm other) (done : (ofRun env parsers).verdict = .done ()) :
    (ofRun env parsers).pieces.Perm (ofRun env other).pieces := by
  have done' := ofRun_verdict_perm h done
  rw [ofRun, verdict_all] at done done'
  rw [ofRun, ofRun, pieces_all done, pieces_all done']
  exact (h.map _).flatMap_right _

theorem ofRun_succeeds_perm (h : parsers.Perm other)
    (succeeds : (ofRun env parsers).verdict = .done () ∧ Fits s tables (ofRun env parsers).pieces) :
    (ofRun env other).verdict = .done () ∧ Fits s tables (ofRun env other).pieces := by
  have ⟨done, fits⟩ := succeeds
  exact ⟨ofRun_verdict_perm h done, fits.perm (ofRun_pieces_perm h done)⟩

theorem objects_of_made {oemId : Vector UInt8 6} {plan : Plan} (h : plan.Only (Made oemId)) :
    objects .memoryAffinity plan.pieces = [] := by
  refine List.filterMap_eq_nil_iff.mpr fun p mem => ?_
  cases h p mem
  case table   => rfl
  case listing => rfl

theorem objects_ofSrat (env : Surroundings) :
    (objects .memoryAffinity (ofListed env .srat).pieces).length ≤ 1 := by
  rw [ofListed]
  split
  case isTrue  => exact Nat.zero_le _
  case isFalse =>
    rw [pieces_passing, ofParser, ofSrat]
    cases MemoryAffinity.ofBoard? env.board
    case none            => exact Nat.zero_le _
    case some affinities =>
      rw [ofAffinities, ofElements]
      split
      case isTrue  => exact Nat.zero_le _
      case isFalse => exact Nat.le_refl _

-- Only one of the parsers adds memory affinity structures, and it adds one object.
theorem objects_ofRun (h : parsers.Perm [.tableList, .hmat, .srat])
    (done : (ofRun env parsers).verdict = .done ()) :
    objects .memoryAffinity (ofRun env parsers).pieces =
      objects .memoryAffinity (ofListed env .srat).pieces := by
  have tableList : objects .memoryAffinity (ofListed env .tableList).pieces = [] :=
    objects_of_made (Only.listed ofTableList_made)
  have hmat : objects .memoryAffinity (ofListed env .hmat).pieces = [] :=
    objects_of_made (Only.listed ofHmat_made)
  have canonical : objects .memoryAffinity (ofRun env [.tableList, .hmat, .srat]).pieces =
      objects .memoryAffinity (ofListed env .srat).pieces := by
    rw [ofRun, pieces_all (verdict_all.mp (ofRun_verdict_perm h done))]
    simp [tableList, hmat]
  have perm : (objects .memoryAffinity (ofRun env parsers).pieces).Perm
      (objects .memoryAffinity (ofListed env .srat).pieces) :=
    canonical ▸ (ofRun_pieces_perm h done).filterMap _
  have le := objects_ofSrat env
  -- Lists of at most one object that are the same up to order are the same.
  cases hs : objects .memoryAffinity (ofListed env .srat).pieces
  case nil         => exact (hs ▸ perm).eq_nil
  case cons d rest =>
    have hrest : rest = [] := by simpa [hs] using le
    exact hrest ▸ (hrest ▸ hs ▸ perm).eq_singleton

end Plan

-- What a store that was empty shows of the pieces in it.
structure Shows (s : Store) (ps : List Piece) : Prop where
  length     : s.entries.length = room [] ps
  affinities : (s.entriesOf .memoryAffinity).map Entry.descriptor = objects .memoryAffinity ps
  resolved   : resolved? s = some (listings ps)

theorem Brings.shows (h : Brings (.empty capacity) ps s) : Shows s ps where
  length     := by
    have ⟨_, tally⟩ := h.tally (.absent rfl)
    exact tally.length.trans (Nat.zero_add _)
  affinities := by
    have hid : ObjectId.memoryAffinity ≠ .acpiTableList := by decide
    have ⟨_, hnew, hds⟩ := h.entriesOf hid
    rw [hnew, List.map_append, hds]
    rfl
  resolved   := by
    have custody : KeepsCustody (.empty capacity) s := h.rel
    have ⟨_, tally⟩ := h.tally (.absent rfl)
    exact resolved?_of_refers (custody [] (.empty capacity)).nodup_stored tally.log tally.refers

-- A run in a new store ends well if its plan does, and all of its pieces fit.
theorem populate_empty
    (h : (populate env (parsers.map AcpiParser.parser)).result (.empty capacity) = (outcome, s)) :
    (outcome = .done () ↔ (Plan.ofRun env parsers).verdict = .done () ∧
      Fits (.empty capacity) [] (Plan.ofRun env parsers).pieces) ∧
    (outcome = .done () → Shows s (Plan.ofRun env parsers).pieces) := by
  have log : TableLog (.empty capacity) [] := .absent rfl
  have follows : Follows (.empty capacity) (.ofRun env parsers) (outcome, s) := h ▸ .run parsers log
  constructor
  case left  => exact follows.done_iff log (Nat.zero_le _)
  case right => exact fun done => (follows.brings_of_done done).shows

theorem populate_order (hp : parsers.Perm [.tableList, .hmat, .srat])
    (hq : other.Perm [.tableList, .hmat, .srat])
    (h : (populate env (parsers.map AcpiParser.parser)).result (.empty capacity) = (outcome, s))
    (h' : (populate env (other.map AcpiParser.parser)).result (.empty capacity) = (outcome', t)) :
    (outcome = .done () ↔ outcome' = .done ()) ∧
    (outcome = .done () → s.entries.length = t.entries.length ∧
      ((lookup .memoryAffinity .null).result s).1 = ((lookup .memoryAffinity .null).result t).1 ∧
      ∃ ls ls', resolved? s = some ls ∧ resolved? t = some ls' ∧ ls.Perm ls') := by
  have perm := hp.trans hq.symm
  have ⟨iff, shows⟩ := populate_empty h
  have ⟨iff', shows'⟩ := populate_empty h'
  have same : outcome = .done () ↔ outcome' = .done () := by
    rw [iff, iff']
    exact ⟨Plan.ofRun_succeeds_perm perm, Plan.ofRun_succeeds_perm perm.symm⟩
  refine ⟨same, fun done => ?_⟩
  have ⟨verdict, _⟩ := iff.mp done
  have ⟨verdict', _⟩ := iff'.mp (same.mp done)
  have shows := shows done
  have shows' := shows' (same.mp done)
  have pieces := Plan.ofRun_pieces_perm perm verdict
  have le := Plan.objects_ofSrat env
  have affinities := shows.affinities.trans (Plan.objects_ofRun hp verdict)
  have affinities' := shows'.affinities.trans (Plan.objects_ofRun hq verdict')
  refine ⟨?_, ?_, _, _, shows.resolved, shows'.resolved, pieces.filterMap _⟩
  case refine_1 => rw [shows.length, shows'.length, room_perm pieces]
  case refine_2 => rw [lookup_null affinities le, lookup_null affinities' le]

-- With the list opened by the first parser or by the last one, a store for four entries is filled.
theorem populate_order_reversed :
    let near : Performance := ⟨140, 150, 500, 10⟩
    let env : Surroundings := {
      board    := ⟨.th500, .silicon, 1, 3, 0, false, [⟨0x80000000, 0x1000⟩], [], []⟩
      topology := ⟨[.ofSocket 0], ⟨near, near, near, near, near, near, near, near⟩⟩
      oem      := ⟨.replicate 6 65, 1, 2, 3, 4⟩
      aml      := ⟨List.replicate 36 0, []⟩
      skipped  := []
    }
    ∃ s t,
      (populate env [tableListParser, hmatParser, sratParser]).result (.empty 4) = (.done (), s) ∧
      (populate env [sratParser, hmatParser, tableListParser]).result (.empty 4) = (.done (), t) ∧
      resolved? s ≠ resolved? t ∧ s.entries.length = t.entries.length ∧
      ((lookup .memoryAffinity .null).result s).1 = ((lookup .memoryAffinity .null).result t).1 ∧
      ∃ ls ls', resolved? s = some ls ∧ resolved? t = some ls' ∧ ls.Perm ls' := by
  intro near env
  let s := ((populate env [tableListParser, hmatParser, sratParser]).result (.empty 4)).2
  let t := ((populate env [sratParser, hmatParser, tableListParser]).result (.empty 4)).2
  have hs : (populate env [tableListParser, hmatParser, sratParser]).result (.empty 4) =
      (.done (), s) := by
    decide +kernel
  have ht : (populate env [sratParser, hmatParser, tableListParser]).result (.empty 4) =
      (.done (), t) := by
    decide +kernel
  have differ : resolved? s ≠ resolved? t := by decide +kernel
  have swap : [AcpiParser.srat, .hmat, .tableList].Perm [.tableList, .hmat, .srat] :=
    List.reverse_perm [AcpiParser.tableList, .hmat, .srat]
  have order := populate_order (.refl [AcpiParser.tableList, .hmat, .srat]) swap hs ht
  exact ⟨s, t, hs, ht, differ, order.right rfl⟩

end BoardFirmware.Population
