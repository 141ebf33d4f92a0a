import BoardFirmware.Proofs.Acpi.Listed
import BoardFirmware.Proofs.Population.Parsers

/-!
Parsers that are passed over. A parser is refused as having nothing to describe only before it has
stored anything. So a run comes to the same as its parsers do one after the other, with those left
out that are turned off or passed over, up to the first one that fails.
-/

namespace BoardFirmware.Population

open Acpi Store Numa BoardFirmware.Action

-- The parsers that count in a run from `s`. A parser that is turned off, or that is refused as
-- having nothing to describe, does not count, and none counts after one that fails otherwise.
def effective (env : Surroundings) (s : Store) : List AcpiParser → List AcpiParser
  | []           => []
  | p :: parsers =>
    if p.parser.IsSkipped env.skipped then
      effective env s parsers
    else
      match (p.parser.run env).result s with
      | (.done (), t)  => p :: effective env t parsers
      | (.failed e, _) => if e = .notFound then effective env s parsers else [p]
      | (.trapped, _)  => [p]

variable {s t : Store} {tables : List TableEntry} {plan other : Plan} {env : Surroundings}
variable {p : AcpiParser} {ps : List Piece} {capacity : Nat}

namespace Plan

-- The plan is not one to be passed over.
def Finds (plan : Plan) : Prop :=
  plan.verdict ≠ .failed .notFound

namespace Finds

theorem bring {ps : List Piece} : (bring ps).Finds :=
  nofun

theorem trap : trap.Finds :=
  nofun

theorem refuse {e : Status} (h : e ≠ .notFound) : (refuse e).Finds :=
  fun hv => h (Outcome.failed.inj hv)

theorem next (h : plan.Finds) (h' : other.Finds) : (plan.next other).Finds := by
  rw [Plan.next]
  split
  case h_1 => exact h'
  case h_2 => exact h

theorem all {plans : List Plan} (h : ∀ p ∈ plans, p.Finds) : (Plan.all plans).Finds := by
  induction plans
  case nil => exact bring
  case cons p rest ih =>
    have ⟨hp, hrest⟩ := List.forall_mem_cons.mp h
    exact hp.next (ih hrest)

theorem storing {oemId : Vector UInt8 6} {table : Bytes} {next : Bytes → Plan}
    (h : ∀ b, (next b).Finds) : (storing (withOemId oemId table) next).Finds := by
  rw [withOemId]
  split
  case isTrue  => exact refuse (by decide)
  case isFalse => exact bring.next (h _)

theorem ofElements (d : Descriptor) : (ofElements d).Finds := by
  rw [Plan.ofElements]
  split
  case isTrue  => exact refuse (by decide)
  case isFalse => exact bring

theorem ofSocket (env : Surroundings) (socket : UInt32) : (ofSocket env socket).Finds := by
  rw [Plan.ofSocket]
  split
  case h_1 => exact refuse (by decide)
  case h_2 => exact storing fun _ => bring

theorem ofTableList (known : env.board.chip ≠ .t186) : (ofTableList env).Finds := by
  rw [Plan.ofTableList, if_neg known]
  refine storing fun dsdt => .next (.all ?_) (.all ?_)
  case refine_1 => exact List.forall_mem_map.mpr fun _ _ => bring
  case refine_2 => exact List.forall_mem_map.mpr fun socket _ => ofSocket env socket

theorem ofHmat {extent : Numa.Extent} (h : env.topology.extent = .ok extent) :
    (ofHmat env).Finds := by
  rw [Plan.ofHmat, h]
  dsimp only
  split
  case isTrue  => exact trap
  case isFalse =>
    split
    case isTrue  => exact refuse (by decide)
    case isFalse => exact bring.next bring

theorem ofSrat (env : Surroundings) : (ofSrat env).Finds := by
  rw [Plan.ofSrat]
  cases MemoryAffinity.ofBoard? env.board
  case none => exact bring.next trap
  case some => exact bring.next (ofElements _)

end Finds

-- There is nothing to describe on an unknown chip, or without domains.
theorem pieces_of_notFound (h : (ofParser env p).verdict = .failed .notFound) :
    (ofParser env p).pieces = [] := by
  cases p
  case tableList =>
    by_cases known : env.board.chip = .t186
    case pos => rw [ofParser, ofTableList, if_pos known]; rfl
    case neg => exact absurd h (Finds.ofTableList known)
  case hmat =>
    cases extent : env.topology.extent
    case error => rw [ofParser, ofHmat, extent]; rfl
    case ok    => exact absurd h (Finds.ofHmat extent)
  case srat => exact absurd h (Finds.ofSrat env)

end Plan

-- Nothing has been stored yet when a parser is refused as having nothing to describe.
theorem state_of_notFound (log : TableLog s tables)
    (h : (p.parser.run env).result s = (.failed .notFound, t)) : t = s := by
  have follows : Follows s (.ofParser env p) ((p.parser.run env).result s) := .parser p log
  rw [h] at follows
  generalize hplan : Plan.ofParser env p = plan at follows
  generalize ho : Outcome.failed Status.notFound = outcome at follows
  cases follows
  case refused => cases ho
  case trapped => cases ho
  case through brings =>
    subst hplan
    rw [Plan.pieces_of_notFound ho.symm] at brings
    cases brings
    rfl

theorem logs_of_done (log : TableLog s tables)
    (h : (p.parser.run env).result s = (.done (), t)) : ∃ tables, TableLog t tables := by
  have follows : Follows s (.ofParser env p) ((p.parser.run env).result s) := .parser p log
  rw [h] at follows
  have ⟨_, _, brings⟩ := follows.brings nofun
  exact brings.log ⟨_, log⟩

theorem result_populate_effective (parsers : List AcpiParser) (log : TableLog s tables) :
    (populate env (parsers.map AcpiParser.parser)).result s =
      ((effective env s parsers).forM fun p => p.parser.run env).result s := by
  rw [result_populate]
  induction parsers generalizing s tables
  case nil => rfl
  case cons p parsers ih =>
    rw [result_forM_cons, result_runListed, effective]
    by_cases skipped : p.parser.IsSkipped env.skipped
    case pos => rw [if_pos skipped, if_pos skipped]; exact ih log
    case neg =>
      rw [if_neg skipped, if_neg skipped]
      rcases hr : (p.parser.run env).result s with ⟨_ | e | _, t⟩ <;> dsimp only
      case done =>
        have ⟨_, log⟩ := logs_of_done log hr
        rw [result_forM_cons, hr]
        exact ih log
      case trapped => rw [result_forM_cons, hr]
      case failed =>
        by_cases he : e = .notFound
        case neg => rw [if_neg he, if_neg he, result_forM_cons, hr]
        case pos =>
          subst he
          rw [if_pos rfl, if_pos rfl, state_of_notFound log hr]
          exact ih log

-- What parsers bring is listed by listing tables only.
theorem Brings.logged (h : Brings s ps t) (logged : Logged capacity s tables) :
    ∃ tables, Logged capacity t tables := by
  induction h generalizing tables
  case nil => exact ⟨_, logged⟩
  case cons adds _ ih =>
    cases adds
    case listing table _ _ h    => exact ih (.list table logged h nofun)
    case object d _ plain h     =>
      have elsewhere : ObjectId.acpiTableList ∉ [d.id] := by simpa using plain.symm
      exact ih (.elsewhere (.operation (.add d.id d.data d.count)) logged h nofun elsewhere)

theorem populate_passes_over (env : Surroundings) (h : Logged capacity s tables) :
    (∀ (p : AcpiParser) t, (p.parser.run env).result s = (.failed .notFound, t) → t = s) ∧
    ∀ (parsers : List AcpiParser) outcome t,
      (populate env (parsers.map AcpiParser.parser)).result s = (outcome, t) →
      ((effective env s parsers).forM fun p => p.parser.run env).result s = (outcome, t) ∧
      (outcome ≠ .trapped → ∃ tables, Logged capacity t tables) := by
  have log := h.tableLog
  constructor
  case left  => exact fun _ _ hr => state_of_notFound log hr
  case right =>
    intro parsers outcome t hr
    constructor
    case left  => rw [← result_populate_effective parsers log, hr]
    case right =>
      intro ret
      have ⟨_, _, brings⟩ := brings_of_populate log hr ret
      exact brings.logged h

-- Without domains there are no memory attributes, before the other tables are listed or after it.
-- The store is full when the memory affinity comes, so the last parser does not run.
theorem populate_passes_over_without_domains :
    let near : Performance := ⟨140, 150, 500, 10⟩
    let env : Surroundings := {
      board    := ⟨.t234, .silicon, 1, 1, 0, false, [⟨0x80000000, 0x1000⟩], [], []⟩
      topology := ⟨[], ⟨near, near, near, near, near, near, near, near⟩⟩
      oem      := ⟨.replicate 6 65, 1, 2, 3, 4⟩
      aml      := ⟨List.replicate 36 0, []⟩
      skipped  := []
    }
    let table := TableEntry.of (.ofChars 'F' 'A' 'C' 'P') 6 .fadt env.oem .null
    ∃ s t, Logged 2 s [table] ∧ (hmatParser.run env).result s = (.failed .notFound, s) ∧
      (populate env
          [hmatParser, tableListParser, hmatParser, sratParser, tableListParser]).result s =
        (.failed .outOfResources, t) ∧
      ([tableListParser, sratParser].forM fun p => p.run env).result s =
        (.failed .outOfResources, t) ∧ ∃ tables, Logged 2 t tables := by
  intro near env table
  let parsers : List AcpiParser := [.hmat, .tableList, .hmat, .srat, .tableList]
  let s := ((listTable table).result (.empty 2)).2
  let t := ((populate env (parsers.map AcpiParser.parser)).result s).2
  have hs : (listTable table).result (.empty 2) = (.done (), s) := by decide +kernel
  have refused : ((hmatParser.run env).result s).1 = .failed .notFound := by decide +kernel
  have ht : (populate env (parsers.map AcpiParser.parser)).result s =
      (.failed .outOfResources, t) := by
    decide +kernel
  have counted : effective env s parsers = [.tableList, .srat] := by decide +kernel
  have logged : Logged 2 s [table] := .list table .empty hs nofun
  have ⟨unchanged, runs⟩ := populate_passes_over env logged
  have ⟨same, ends⟩ := runs parsers _ _ ht
  rw [counted] at same
  refine ⟨s, t, logged, ?_, ht, same, ends nofun⟩
  have hr : (hmatParser.run env).result s = (.failed .notFound, _) := Prod.ext refused rfl
  exact unchanged .hmat _ hr ▸ hr

end BoardFirmware.Population
