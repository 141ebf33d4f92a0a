import BoardFirmware.Proofs.Population.Decoded
import BoardFirmware.Proofs.Population.Parsers
import BoardFirmware.Proofs.Store.Uniqueness

namespace BoardFirmware.Population

open Acpi Store Numa

def listed (s : Store) : Nat :=
  ((decoded? s).getD []).length

-- What runs over lists of the parsers may come to. Each element of the table list has the OEM ID of
-- the run that added it among `makers`.
inductive Populated (capacity : Nat) : Store → List (Vector UInt8 6) → Prop
  | empty : Populated capacity (.empty capacity) []
  | run {s t : Store} {makers : List (Vector UInt8 6)} {outcome : Outcome Unit}
      (env : Surroundings) (parsers : List AcpiParser) : Populated capacity s makers →
      (populate env (parsers.map AcpiParser.parser)).result s = (outcome, t) → outcome ≠ .trapped →
      Populated capacity t (makers ++ List.replicate (listed t - listed s) env.oem.oemId)

variable {s t : Store} {tables : List TableEntry} {table : TableEntry} {env : Surroundings}
variable {ps : List Piece} {oemId maker : Vector UInt8 6} {makers : List (Vector UInt8 6)}
variable {capacity : Nat}

theorem Made.complete {p : Piece} (h : Made oemId p) :
    ∀ l ∈ p.listing?, ∀ b ∈ l.stored, Acpi.Complete oemId b := by
  cases h
  case table     => exact nofun
  case listing h => exact fun _ hl => Option.some.inj hl ▸ h

theorem ofParser_complete (p : AcpiParser) : (Plan.ofParser env p).Only fun piece =>
    ∀ l ∈ piece.listing?, ∀ b ∈ l.stored, Acpi.Complete env.oem.oemId b := by
  intro piece mem
  cases p
  case tableList => exact (Plan.ofTableList_made piece mem).complete
  case hmat      => exact (Plan.ofHmat_made piece mem).complete
  case srat      =>
    cases Plan.ofSrat_made piece mem
    case inl made     => exact made.complete
    case inr affinity =>
      have ⟨_, heq, _⟩ := affinity
      exact heq ▸ nofun

-- Every stored table that a run is to list is complete.
theorem ofRun_complete (parsers : List AcpiParser) :
    ∀ l ∈ listings (Plan.ofRun env parsers).pieces, ∀ b ∈ l.stored,
      Acpi.Complete env.oem.oemId b := by
  intro l hl
  have ⟨piece, mem, hp⟩ := List.mem_filterMap.mp hl
  exact Plan.Only.run ofParser_complete parsers piece mem l hp

-- The element leads to a complete table of the maker, or to none.
def Leads (s : Store) (table : TableEntry) (maker : Vector UInt8 6) : Prop :=
  table.tableData ≠ 0 → ∃ b, Stored s ⟨table.tableData⟩ b ∧ Acpi.Complete maker b

theorem Refers.leads {l : Listing} (h : Refers s table l)
    (complete : ∀ b ∈ l.stored, Acpi.Complete oemId b) : Leads s table oemId := by
  cases h
  case null h     => exact absurd h
  case stored b h => exact fun _ => ⟨b, h, complete b rfl⟩

theorem leads_of_refers {new : List TableEntry} {ls : List Listing}
    (h : List.Forall₂ (Refers s) new ls)
    (complete : ∀ l ∈ ls, ∀ b ∈ l.stored, Acpi.Complete oemId b) :
    List.Forall₂ (Leads s) new (List.replicate new.length oemId) := by
  induction h
  case nil => exact .nil
  case cons hr _ ih =>
    have ⟨hl, hrest⟩ := List.forall_mem_cons.mp complete
    exact .cons (hr.leads hl) (ih hrest)

theorem Brings.leads (h : Brings s ps t) (hl : Leads s table maker) : Leads t table maker := by
  intro hne
  have ⟨b, stored, complete⟩ := hl hne
  exact ⟨b, h.stored stored, complete⟩

namespace Populated

theorem leads (h : Populated capacity s makers) :
    ∃ tables, TableLog s tables ∧ List.Forall₂ (Leads s) tables makers := by
  induction h
  case empty => exact ⟨[], .absent rfl, .nil⟩
  case run s t _ _ env parsers _ hr ret ih =>
    have ⟨tables, log, leads⟩ := ih
    have ⟨ps, part, brings⟩ := brings_of_populate log hr ret
    have ⟨new, tally⟩ := brings.tally log
    have complete : ∀ l ∈ listings ps, ∀ b ∈ l.stored, Acpi.Complete env.oem.oemId b :=
      fun l hl => ofRun_complete parsers l ((part.filterMap _).subset hl)
    have hlength : listed t - listed s = new.length := by
      simp [listed, decoded?_of_tableLog tally.log, decoded?_of_tableLog log]
    refine ⟨tables ++ new, tally.log, List.rel_append ?_ ?_⟩
    case refine_1 => exact leads.imp fun _ _ => brings.leads
    case refine_2 => exact hlength ▸ leads_of_refers tally.refers complete

theorem accounted (h : Populated capacity s makers) : s.Accounted [] := by
  induction h
  case empty => exact .empty capacity
  case run h hr ret ih =>
    have ⟨_, log, _⟩ := h.leads
    have ⟨_, _, brings⟩ := brings_of_populate log hr ret
    have custody : KeepsCustody _ _ := brings.rel
    exact custody [] ih

end Populated

theorem populated_references (h : Populated capacity s makers) :
    (∃ tables, decoded? s = some tables ∧ List.Forall₂ (fun table maker => table.tableData ≠ 0 →
      ∃ d, (lookup .rawTable ⟨table.tableData⟩).result s = (.done d, s) ∧
        Acpi.Complete maker d.data) tables makers) ∧
    sanityCheck.result s = (.done (), s) := by
  have nodup := h.accounted.nodup_stored
  have ⟨tables, log, leads⟩ := h.leads
  constructor
  case left =>
    refine ⟨tables, decoded?_of_tableLog log, leads.imp fun table maker hl hne => ?_⟩
    have ⟨b, stored, complete⟩ := hl hne
    have ⟨d, hd, hb⟩ := stored.lookup nodup
    exact ⟨d, hd, hb ▸ complete⟩
  case right => exact h.accounted.result_sanityCheck

-- The second run has no table for the devices of socket 1. It is refused after it has listed the
-- six tables that every chip has, of which only the fourth is stored.
theorem populated_references_refused :
    let near : Performance := ⟨140, 150, 500, 10⟩
    let env (maker : Vector UInt8 6) : Surroundings := {
      board    := ⟨.th500, .silicon, 2, 3, 0, false, [], [], []⟩
      topology := ⟨[.ofSocket 0], ⟨near, near, near, near, near, near, near, near⟩⟩
      oem      := ⟨maker, 1, 2, 3, 4⟩
      aml      := ⟨List.replicate 36 0, []⟩
      skipped  := []
    }
    let makers : List (Vector UInt8 6) := .replicate 6 65 :: List.replicate 6 (.replicate 6 66)
    ∃ s t, (populate (env (.replicate 6 66)) [tableListParser]).result s =
        (.failed .invalidParameter, t) ∧
      Populated 3 t makers ∧ sanityCheck.result t = (.done (), t) ∧
      ∃ tables, decoded? t = some tables ∧ List.Forall₂ (fun table maker => table.tableData ≠ 0 →
        ∃ d, (lookup .rawTable ⟨table.tableData⟩).result t = (.done d, t) ∧
          Acpi.Complete maker d.data) tables makers := by
  intro near env makers
  let s := ((populate (env (.replicate 6 65)) [hmatParser]).result (.empty 3)).2
  let t := ((populate (env (.replicate 6 66)) [tableListParser]).result s).2
  have hs : (populate (env (.replicate 6 65)) [hmatParser]).result (.empty 3) = (.done (), s) := by
    decide +kernel
  have ht : (populate (env (.replicate 6 66)) [tableListParser]).result s =
      (.failed .invalidParameter, t) := by
    decide +kernel
  have one : listed s - listed (.empty 3) = 1 := by decide +kernel
  have six : listed t - listed s = 6 := by decide +kernel
  have h₁ := Populated.run (env (.replicate 6 65)) [.hmat] .empty hs nofun
  have h₂ := Populated.run (env (.replicate 6 66)) [.tableList] h₁ ht nofun
  rw [one, six] at h₂
  have ⟨references, sane⟩ := populated_references h₂
  exact ⟨s, t, ht, h₂, sane, references⟩

end BoardFirmware.Population
