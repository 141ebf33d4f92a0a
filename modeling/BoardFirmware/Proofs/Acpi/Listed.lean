import BoardFirmware.Proofs.Acpi.TableLog
import BoardFirmware.Proofs.Store.Totality

namespace BoardFirmware.Acpi

open Store

-- What a client may come to that writes to the list by listing tables only. It has listed `tables`.
inductive Logged (capacity : Nat) : Store → List TableEntry → Prop
  | empty : Logged capacity (.empty capacity) []
  | list (table : TableEntry) : Logged capacity s tables →
      (listTable table).result s = (outcome, t) → outcome ≠ .trapped →
      Logged capacity t (if outcome.isOk then tables ++ [table] else tables)
  | elsewhere (r : Request α) : Logged capacity s tables →
      r.perform.result s = (outcome, t) → outcome ≠ .trapped → .acpiTableList ∉ r.ids →
      Logged capacity t tables
  -- A request that names the list, but is refused or only reads.
  | idle (r : Request α) : Logged capacity s tables →
      r.perform.result s = (outcome, t) → outcome ≠ .trapped → Keeps .acpiTableList s t →
      Logged capacity t tables

variable {s : Store} {tables : List TableEntry} {capacity : Nat}

namespace Logged

theorem reachable (h : Logged capacity s tables) : Reachable capacity s := by
  have step : ∀ {α : Type} {s t : Store} {outcome : Outcome α} (r : Request α),
      Reachable capacity s → r.perform.result s = (outcome, t) → outcome ≠ .trapped →
      Reachable capacity t := by
    intro α s t outcome r reach hr ret
    have := reach.request r (by rw [hr]; exact ret)
    rwa [hr] at this
  induction h
  case empty                         => exact .empty
  case list table _ hr ret ih        => exact step (.listTable table) ih hr ret
  case elsewhere r _ hr ret _ ih     => exact step r ih hr ret
  case idle r _ hr ret _ ih          => exact step r ih hr ret

theorem tableLog (h : Logged capacity s tables) : TableLog s tables := by
  induction h
  case empty                         => exact .absent rfl
  case idle keeps ih                 => exact ih.keeps keeps
  case elsewhere r _ hr ret hid ih   =>
    have keeps := r.keeps hid _ (by rw [hr]; exact ret)
    rw [hr] at keeps
    exact ih.keeps keeps
  case list table _ hr ret ih        =>
    have ends := ih.ends table
    rw [hr] at ends
    exact ends.tableLog ih ret

end Logged

theorem logged_faithful (h : Logged capacity s tables) :
    (s.entriesOf .acpiTableList = [] ∧ tables = [] ∨
      ∃ e, s.entriesOf .acpiTableList = [e] ∧
        (lookup .acpiTableList .null).result s = (.done e.descriptor, s) ∧
        e.descriptor.elements TableEntry = .ok tables) ∧
    ∀ table outcome t, (listTable table).result s = (outcome, t) →
      (∀ status, outcome = .failed status → t.entries = s.entries ∧
        (s.entriesOf .acpiTableList = [] ∧ capacity ≤ s.entries.length ∨
          ¬s.tokens.Provides (opening tables + 1))) ∧
      (outcome = .trapped → UInt32.size ≤ tables.length + 1) := by
  have log := h.tableLog
  constructor
  case left =>
    cases log
    case absent none => exact .inl ⟨none, rfl⟩
    case listed only _ _ _ =>
      have ⟨k, hk, he⟩ := indexOf?_null_of_only only
      exact .inr ⟨_, only, result_lookup_of_whole hk he (.inl rfl), h.tableLog.elements only⟩
  case right =>
    intro table outcome t hr
    have hc : s.capacity = capacity := h.reachable.steps.grows.capacity
    have ends := log.ends table
    rw [hr] at ends
    cases ends
    case done             => exact ⟨nofun, nofun⟩
    case full none full   => exact ⟨fun _ _ => ⟨rfl, .inl ⟨none, hc ▸ full⟩⟩, nofun⟩
    case exhausted hp     => exact ⟨fun _ _ => ⟨rfl, .inr hp⟩, nofun⟩
    case trapped overflow => exact ⟨nofun, fun _ => overflow⟩

-- The list still grows when the store is full, but it is not created then.
theorem logged_faithful_full :
    let table := TableEntry.of (.ofChars 'F' 'A' 'C' 'P') 6 .fadt ⟨.replicate 6 0, 1, 2, 3, 4⟩ .null
    (∃ s, Logged 2 s [table, table] ∧ s.entries.length = 2 ∧ ∃ e,
      s.entriesOf .acpiTableList = [e] ∧ e.descriptor.elements TableEntry = .ok [table, table]) ∧
    ∃ s, Logged 1 s [] ∧ (listTable table).result s = (.failed .outOfResources, s) ∧
      s.entriesOf .acpiTableList = [] ∧ 1 ≤ s.entries.length := by
  intro table
  let other : Request Token := .addSingle .memoryRange [7]
  constructor
  case left =>
    let s₁ := ((listTable table).result (.empty 2)).2
    let s₂ := (other.perform.result s₁).2
    let s₃ := ((listTable table).result s₂).2
    have h₁ : (listTable table).result (.empty 2) = (.done (), s₁) := by decide +kernel
    have h₂ : other.perform.result s₁ = (.done ⟨4⟩, s₂) := by decide +kernel
    have h₃ : (listTable table).result s₂ = (.done (), s₃) := by decide +kernel
    have h : Logged 2 s₃ [table, table] :=
      .list table (.elsewhere other (.list table .empty h₁ nofun) h₂ nofun (by decide)) h₃ nofun
    refine ⟨s₃, h, by decide +kernel, ?_⟩
    cases (logged_faithful h).left
    case inl none => exact absurd none.right nofun
    case inr list =>
      have ⟨e, only, _, elements⟩ := list
      exact ⟨e, only, elements⟩
  case right =>
    let s := (other.perform.result (.empty 1)).2
    have h₁ : other.perform.result (.empty 1) = (.done ⟨2⟩, s) := by decide +kernel
    have h₂ : (listTable table).result s = (.failed .outOfResources, s) := by decide +kernel
    have h : Logged 1 s [] := .elsewhere other .empty h₁ nofun (by decide)
    have ⟨failed, _⟩ := (logged_faithful h).right table _ _ h₂
    have ⟨_, why⟩ := failed .outOfResources rfl
    exact ⟨s, h, h₂, why.resolve_right (by decide +kernel)⟩

end BoardFirmware.Acpi
