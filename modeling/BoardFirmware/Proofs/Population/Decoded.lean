import BoardFirmware.Proofs.Population.Piece

namespace BoardFirmware.Population

open Acpi Store

-- What the table list decodes to. Without a list there are no tables.
def decoded? (s : Store) : Option (List TableEntry) :=
  match ((lookup .acpiTableList .null).result s).1 with
  | .done d           => (d.elements TableEntry).toOption
  | .failed .notFound => some []
  | _                 => none

-- The element with its token replaced by the bytes of the table that it leads to.
def resolve? (s : Store) (table : TableEntry) : Option Listing :=
  if table.tableData = 0 then
    some ⟨{ table with tableData := 0 }, none⟩
  else
    match ((lookup .rawTable ⟨table.tableData⟩).result s).1 with
    | .done d => some ⟨{ table with tableData := 0 }, some d.data⟩
    | _       => none

def resolved? (s : Store) : Option (List Listing) := do
  (← decoded? s).mapM (resolve? s)

variable {s : Store} {tables : List TableEntry} {table : TableEntry} {l : Listing} {token : Token}
variable {b : Bytes} {ls : List Listing} {id : ObjectId}

theorem decoded?_of_tableLog (h : TableLog s tables) : decoded? s = some tables := by
  cases h
  case absent none =>
    rw [decoded?, result_lookup_of_none (indexOf?_of_entriesOf_nil none .null)]
  case listed only pos count data =>
    have ⟨_, hk, he⟩ := indexOf?_null_of_only only
    have elements := (TableLog.listed only pos count data).elements only
    rw [decoded?, result_lookup_of_whole hk he (.inl rfl)]
    simp only [elements, Except.toOption]

section

variable (nodup : s.stored.Nodup)
include nodup

theorem Stored.lookup (h : Stored s token b) :
    ∃ d, (lookup .rawTable token).result s = (.done d, s) ∧ d.data = b := by
  have ⟨e, mem, ht, hb⟩ := h.entry
  have ⟨mem, hid⟩ := mem_entriesOf.mp mem
  have ⟨k, hk⟩ := List.mem_iff_getElem?.mp mem
  subst ht
  exact ⟨e.descriptor, hid ▸ result_lookup_of_token nodup hk h.proper, hb⟩

theorem Refers.resolve? (h : Refers s table l) : resolve? s table = some l := by
  cases h
  case null h     => rw [Population.resolve?, if_pos h]
  case stored b h =>
    have ⟨d, hd, hb⟩ := h.lookup nodup
    have hne : table.tableData ≠ 0 := by simpa [Token.isNull, Token.null] using h.proper
    subst hb
    rw [Population.resolve?, if_neg hne, hd]

theorem resolved?_of_refers (log : TableLog s tables) (h : List.Forall₂ (Refers s) tables ls) :
    resolved? s = some ls := by
  have all : tables.mapM (resolve? s) = some ls := by
    clear log
    induction h
    case nil           => rfl
    case cons hr _ ih  => simp [List.mapM_cons, hr.resolve? nodup, ih]
  rw [resolved?, decoded?_of_tableLog log]
  exact all

end

-- Without a token the only entry of its kind is found.
theorem lookup_null {ds : List Descriptor} (h : (s.entriesOf id).map Entry.descriptor = ds)
    (le : ds.length ≤ 1) :
    ((lookup id .null).result s).1 = ds.head?.elim (.failed .notFound) .done := by
  subst h
  cases he : s.entriesOf id
  case nil => rw [result_lookup_of_none (indexOf?_of_entriesOf_nil he .null)]; rfl
  case cons e rest =>
    have hrest : rest = [] := by simpa [he] using le
    subst hrest
    have ⟨_, hk, he⟩ := indexOf?_null_of_only he
    rw [result_lookup_of_whole hk he (.inl rfl)]
    rfl

end BoardFirmware.Population
