import BoardFirmware.Proofs.Acpi.TableLog
import BoardFirmware.Proofs.Store.Totality
import Mathlib.Algebra.GroupWithZero.Nat

namespace BoardFirmware.Population

open Acpi Store

-- An element of the table list. Its token is only known in a store, so the table it refers to is
-- given instead.
structure Listing where
  entry  : TableEntry
  stored : Option Bytes
  deriving DecidableEq

-- What a parser brings into a store: an object under new tokens, or an element of the table list,
-- which may refer to a stored table.
inductive Piece
  | object (d : Descriptor)
  | listing (l : Listing)

namespace Piece

-- How many tokens the elements of the piece take.
def elements : Piece → Nat
  | object d  => d.count.toNat
  | listing _ => 1

def listing? : Piece → Option Listing
  | object _  => none
  | listing l => some l

def object? (id : ObjectId) : Piece → Option Descriptor
  | object d  => if d.id = id then some d else none
  | listing _ => none

def isObject : Piece → Bool
  | object _  => true
  | listing _ => false

end Piece

def listings (ps : List Piece) : List Listing :=
  ps.filterMap Piece.listing?

def objects (id : ObjectId) (ps : List Piece) : List Descriptor :=
  ps.filterMap (Piece.object? id)

-- The table `b` is stored under the token.
structure Stored (s : Store) (token : Token) (b : Bytes) : Prop where
  proper : token.isNull = false
  entry  : ∃ e ∈ s.entriesOf .rawTable, e.token = token ∧ e.data = b

-- The element as it is stored.
inductive Refers (s : Store) : TableEntry → Listing → Prop
  | null {table : TableEntry} (h : table.tableData = 0) :
      Refers s table ⟨{ table with tableData := 0 }, none⟩
  | stored {table : TableEntry} {b : Bytes} (h : Stored s ⟨table.tableData⟩ b) :
      Refers s table ⟨{ table with tableData := 0 }, some b⟩

-- The piece is added to `s`, which becomes `t`.
inductive Adds (s : Store) : Piece → Store → Prop
  | object {d : Descriptor} {a : List Token × Token} {t : Store} (plain : d.id ≠ .acpiTableList)
      (h : (add d.id d.data d.count).result s = (.done a, t)) : Adds s (.object d) t
  | listing {table : TableEntry} {l : Listing} {t : Store} (refers : Refers s table l)
      (h : (listTable table).result s = (.done (), t)) : Adds s (.listing l) t

inductive Brings : Store → List Piece → Store → Prop
  | nil (s : Store) : Brings s [] s
  | cons {s u t : Store} {p : Piece} {ps : List Piece} :
      Adds s p u → Brings u ps t → Brings s (p :: ps) t

-- How many entries the pieces take, where `tables` are listed already.
def room (tables : List TableEntry) (ps : List Piece) : Nat :=
  ps.countP Piece.isObject + if listings ps = [] then 0 else opening tables

-- How many tokens the pieces take.
def cost (tables : List TableEntry) (ps : List Piece) : Nat :=
  (ps.map Piece.elements).sum + room tables ps

-- What a store with `tables` in its list has become with the pieces.
structure Tally (s t : Store) (tables new : List TableEntry) (ps : List Piece) : Prop where
  log      : TableLog t (tables ++ new)
  refers   : List.Forall₂ (Refers t) new (listings ps)
  capacity : t.capacity = s.capacity
  length   : t.entries.length = s.entries.length + room tables ps
  issued   : t.tokens.issued = s.tokens.issued + cost tables ps

variable {s t u : Store} {p : Piece} {ps qs : List Piece} {tables new : List TableEntry}
variable {table : TableEntry} {l : Listing} {token : Token} {b : Bytes} {id : ObjectId}
variable {d : Descriptor}

@[simp] theorem listings_append : listings (ps ++ qs) = listings ps ++ listings qs :=
  List.filterMap_append

@[simp] theorem objects_append : objects id (ps ++ qs) = objects id ps ++ objects id qs :=
  List.filterMap_append

theorem room_object : room tables [.object d] = 1 := by
  simp [room, listings, Piece.listing?, Piece.isObject]

theorem room_listing : room tables [.listing l] = opening tables := by
  simp [room, listings, Piece.listing?, Piece.isObject]

theorem cost_object : cost tables [.object d] = d.count.toNat + 1 := by
  simp [cost, room_object, Piece.elements]

theorem cost_listing : cost tables [.listing l] = opening tables + 1 := by
  simp [cost, room_listing, Piece.elements, Nat.add_comm]

theorem room_append (h : new.length = (listings ps).length) :
    room tables (ps ++ qs) = room tables ps + room (tables ++ new) qs := by
  cases hl : listings ps
  case nil =>
    have hn : new = [] := List.length_eq_zero_iff.mp (by rw [h, hl]; rfl)
    simp [room, hl, hn, Nat.add_assoc]
  case cons =>
    have hn : new ≠ [] := List.ne_nil_of_length_pos (by rw [h, hl]; exact Nat.succ_pos _)
    simp [room, hl, hn, opening, Nat.add_right_comm]

theorem cost_append (h : new.length = (listings ps).length) :
    cost tables (ps ++ qs) = cost tables ps + cost (tables ++ new) qs := by
  simp only [cost, room_append h, List.map_append, List.sum_append]
  omega

namespace Adds

-- What is kept whenever something is added is kept by every piece.
theorem rel {R : Store → Store → Prop} [Stable R] (h : Adds s p t) : R s t := by
  cases h
  case object h  => exact (Stable.add (R := R) _ _ _).rel h nofun
  case listing h => exact Stable.listTable.rel h nofun

-- Only objects with the identifier are added to those that are there.
theorem entriesOf (h : Adds s p t) (hid : id ≠ .acpiTableList) :
    ∃ new, t.entriesOf id = s.entriesOf id ++ new ∧
      new.map Entry.descriptor = objects id [p] := by
  cases h
  case listing h =>
    have := Keeps.stableAt hid
    have keeps : Keeps id s t := Stable.listTable.rel h nofun
    exact ⟨[], keeps.trans (List.append_nil _).symm, rfl⟩
  case object d a plain h  =>
    have ⟨_, _, _, _, ht⟩ := add_of_done h
    by_cases hd : d.id = id
    case pos =>
      refine ⟨[s.newEntry d.id d.data d.count], ?_, ?_⟩
      case refine_1 => rw [ht, entriesOf_push_of_eq (by exact hd), entriesOf_advance]
      case refine_2 => subst hd; simp [objects, Piece.object?, newEntry, Entry.descriptor]
    case neg =>
      have keeps : Keeps id s t := .of_add h (Ne.symm hd)
      exact ⟨[], keeps.trans (List.append_nil _).symm, by simp [objects, Piece.object?, hd]⟩

theorem stored (h : Adds s p t) (hs : Stored s token b) : Stored t token b where
  proper := hs.proper
  entry  := by
    have ⟨e, he, h'⟩ := hs.entry
    have ⟨new, hnew, _⟩ := h.entriesOf (show ObjectId.rawTable ≠ .acpiTableList by decide)
    exact ⟨e, hnew ▸ List.mem_append_left _ he, h'⟩

theorem refers (h : Adds s p t) (hr : Refers s table l) : Refers t table l := by
  cases hr
  case null hn   => exact .null hn
  case stored hs => exact .stored (h.stored hs)

theorem tally (h : Adds s p t) (log : TableLog s tables) :
    ∃ new, Tally s t tables new [p] := by
  cases h
  case object d a plain h =>
    have ⟨_, _, hp, _, ht⟩ := add_of_done h
    have keeps : Keeps .acpiTableList s t := .of_add h plain.symm
    refine ⟨[], ?_, .nil, ?_, ?_, ?_⟩
    case refine_1 => simpa using log.keeps keeps
    case refine_2 => rw [ht]; rfl
    case refine_3 => simp [ht, room_object]
    case refine_4 =>
      rw [ht, push_tokens, advance_tokens, TokenSource.issued_advance hp, cost_object]
  case listing table l refers h =>
    have ends := log.ends table
    rw [h] at ends
    cases ends
    case done _ hp log' length capacity tokens =>
      refine ⟨[table], log', ?_, capacity, ?_, ?_⟩
      case refine_1 => exact .cons ((Adds.listing refers h).refers refers) .nil
      case refine_2 => rw [length, room_listing]
      case refine_3 => rw [tokens, TokenSource.issued_advance hp, cost_listing]

end Adds

namespace Tally

theorem trans {new' : List TableEntry} (h : Tally s u tables new ps)
    (h' : Tally u t (tables ++ new) new' qs) (refers : List.Forall₂ (Refers t) new (listings ps)) :
    Tally s t tables (new ++ new') (ps ++ qs) where
  log      := List.append_assoc .. ▸ h'.log
  refers   := listings_append ▸ List.rel_append refers h'.refers
  capacity := h'.capacity.trans h.capacity
  length   := by rw [h'.length, h.length, room_append h.refers.length_eq, Nat.add_assoc]
  issued   := by rw [h'.issued, h.issued, cost_append h.refers.length_eq, Nat.add_assoc]

end Tally

namespace Brings

theorem append (h : Brings s ps u) (h' : Brings u qs t) : Brings s (ps ++ qs) t := by
  induction h
  case nil            => exact h'
  case cons adds _ ih => exact .cons adds (ih h')

theorem rel {R : Store → Store → Prop} [Stable R] (h : Brings s ps t) : R s t := by
  induction h
  case nil s          => exact Std.Refl.refl s
  case cons adds _ ih => exact IsTrans.trans _ _ _ adds.rel ih

theorem entriesOf (h : Brings s ps t) (hid : id ≠ .acpiTableList) :
    ∃ new, t.entriesOf id = s.entriesOf id ++ new ∧ new.map Entry.descriptor = objects id ps := by
  induction h
  case nil s => exact ⟨[], by simp, rfl⟩
  case cons p ps adds _ ih =>
    have ⟨new, h, hnew⟩ := adds.entriesOf hid
    have ⟨new', h', hnew'⟩ := ih
    refine ⟨new ++ new', by rw [h', h, List.append_assoc], ?_⟩
    rw [List.map_append, hnew, hnew', ← objects_append, List.singleton_append]

theorem stored (h : Brings s ps t) (hs : Stored s token b) : Stored t token b := by
  induction h
  case nil            => exact hs
  case cons adds _ ih => exact ih (adds.stored hs)

theorem refers (h : Brings s ps t) (hr : Refers s table l) : Refers t table l := by
  induction h
  case nil           => exact hr
  case cons adds _ ih => exact ih (adds.refers hr)

theorem tally (h : Brings s ps t) (log : TableLog s tables) : ∃ new, Tally s t tables new ps := by
  induction h generalizing tables
  case nil s =>
    exact ⟨[], by simpa using log, .nil, rfl, rfl, rfl⟩
  case cons adds rest ih =>
    have ⟨new, h⟩ := adds.tally log
    have ⟨new', h'⟩ := ih h.log
    exact ⟨new ++ new', h.trans h' (h.refers.imp fun _ _ => rest.refers)⟩

theorem log (h : Brings s ps t) (log : ∃ tables, TableLog s tables) :
    ∃ tables, TableLog t tables := by
  have ⟨_, log⟩ := log
  have ⟨_, tally⟩ := h.tally log
  exact ⟨_, tally.log⟩

end Brings

end BoardFirmware.Population
