import BoardFirmware.Proofs.Acpi.Listed
import BoardFirmware.Proofs.Population.Decoded
import BoardFirmware.Proofs.Population.Parsers
import BoardFirmware.Proofs.Store.Custody
import BoardFirmware.Proofs.Store.Offence

namespace BoardFirmware.Population

open Acpi Store Numa

-- The compiled tables of the board have headers. There is one for each secondary socket.
structure Available (env : Surroundings) : Prop where
  dsdt  : Header.size ≤ env.aml.dsdt.length
  ssdts : ∀ socket ∈ secondarySockets env.board,
    ∃ ssdt ∈ env.aml.socketSsdts[socket.toNat - 1]?, Header.size ≤ ssdt.length

-- What is listed for a chip, in order, and the compiled tables that are stored with it.
def chipTables (env : Surroundings) : List (CommonTable × Option Bytes) :=
  [ (⟨.ofChars 'F' 'A' 'C' 'P', 6, .fadt⟩, none),
    (⟨.ofChars 'G' 'T' 'D' 'T', 3, .gtdt⟩, none),
    (⟨.ofChars 'A' 'P' 'I' 'C', 6, .madt⟩, none),
    (⟨.ofChars 'D' 'S' 'D' 'T', 2, .dsdt⟩, some env.aml.dsdt),
    (⟨.ofChars 'P' 'P' 'T' 'T', 3, .pptt⟩, none),
    (⟨.ofChars 'S' 'S' 'D' 'T', 2, .cpuTopology⟩, none) ] ++
  (secondarySockets env.board).map fun socket =>
    (⟨.ofChars 'S' 'S' 'D' 'T', 2, .ssdt⟩, env.aml.socketSsdts[socket.toNat - 1]?)

-- What an element of the list leads to: nothing, or `compiled` under the maker's OEM ID.
def LeadsTo (s : Store) (oemId : Vector UInt8 6) (table : TableEntry) : Option Bytes → Prop
  | none          => table.tableData = 0
  | some compiled => ∃ d, (lookup .rawTable ⟨table.tableData⟩).result s = (.done d, s) ∧
    Relabels oemId compiled d.data

-- The element is the one for a table of the chip.
structure Presents (s : Store) (oem : OemIdentity) (table : TableEntry)
    (chip : CommonTable × Option Bytes) : Prop where
  entry : { table with tableData := 0 } =
    TableEntry.of chip.1.signature chip.1.revision chip.1.generator oem .null
  data  : LeadsTo s oem.oemId table chip.2

variable {s t : Store} {tables : List TableEntry} {table : TableEntry} {l : Listing}
variable {env : Surroundings} {socket : UInt32} {capacity : Nat} {outcome : Outcome Unit}
variable {ps qs : List Piece}

theorem refers_iff : Refers s table l ↔ { table with tableData := 0 } = l.entry ∧
    match l.stored with
    | none   => table.tableData = 0
    | some b => Stored s ⟨table.tableData⟩ b := by
  constructor
  case mp  => rintro (h | h) <;> exact ⟨rfl, h⟩
  case mpr =>
    obtain ⟨entry, _ | b⟩ := l
    case none => rintro ⟨rfl, h⟩; exact .null h
    case some => rintro ⟨rfl, h⟩; exact .stored h

-- The sockets are those that are enabled, but for the first, in their order.
theorem secondarySockets_increasing (b : Board) : (secondarySockets b).Pairwise (· < ·) := by
  have increasing : Board.sockets.Pairwise (· < ·) := by decide
  rw [secondarySockets]
  split
  case isTrue  => exact (increasing.filter _).filter _
  case isFalse => exact .nil

theorem mem_secondarySockets_iff {b : Board} :
    socket ∈ secondarySockets b ↔ b.chip = .th500 ∧ 1 ≤ socket ∧ b.IsEnabled socket := by
  have pos : socket ≠ 0 ↔ 1 ≤ socket := by
    rw [ne_eq, ← UInt32.toNat_inj, UInt32.le_iff_toNat_le]
    exact Nat.pos_iff_ne_zero.symm
  rw [secondarySockets]
  split
  case isTrue th500  => simp [th500, Board.mem_enabledSockets_iff, pos, and_comm]
  case isFalse other => simp [other]

namespace Plan

theorem verdict_storing {oemId : Vector UInt8 6} {b : Bytes} {next : Bytes → Plan} :
    (storing (withOemId oemId b) next).verdict = .done () ↔
      Header.size ≤ b.length ∧ (next (relabelled oemId b)).verdict = .done () := by
  by_cases long : Header.size ≤ b.length
  case pos =>
    rw [withOemId_of_le long, storing, verdict_next]
    exact and_congr_left fun _ => ⟨fun _ => long, fun _ => rfl⟩
  case neg =>
    rw [withOemId_of_lt (Nat.not_le.mp long)]
    exact ⟨fun done => absurd done (verdict_refuse _), fun h => absurd h.left long⟩

theorem verdict_ofSocket : (ofSocket env socket).verdict = .done () ↔
    ∃ ssdt ∈ env.aml.socketSsdts[socket.toNat - 1]?, Header.size ≤ ssdt.length := by
  rw [ofSocket]
  cases env.aml.socketSsdts[socket.toNat - 1]?
  case none => simp [verdict_refuse]
  case some => simp [verdict_storing, bring]

theorem verdict_ofTableList (known : env.board.chip ≠ .t186) :
    (ofTableList env).verdict = .done () ↔ Available env := by
  rw [ofTableList, if_neg known, verdict_storing, verdict_next, verdict_all, verdict_all]
  simp only [List.forall_mem_map, verdict_ofSocket]
  constructor
  case mp  => exact fun done => ⟨done.left, done.right.right⟩
  case mpr => exact fun available => ⟨available.dsdt, fun _ _ => rfl, available.ssdts⟩

end Plan

-- The element for a table of the chip, and the table that is stored for it.
def Listing.ofChip (oem : OemIdentity) (chip : CommonTable × Option Bytes) : Listing :=
  .of chip.1.signature chip.1.revision chip.1.generator oem (chip.2.map (relabelled oem.oemId))

-- What the table for the devices of a socket brings.
def socketPieces (env : Surroundings) (socket : UInt32) : List Piece :=
  (env.aml.socketSsdts[socket.toNat - 1]?.toList.map fun ssdt =>
    Piece.table (relabelled env.oem.oemId ssdt)) ++
  [.listing (.ofChip env.oem
    (⟨.ofChars 'S' 'S' 'D' 'T', 2, .ssdt⟩, env.aml.socketSsdts[socket.toNat - 1]?))]

-- What all tables of the chip bring. The DSDT is stored before anything is listed.
def tablePieces (env : Surroundings) : List Piece :=
  .table (relabelled env.oem.oemId env.aml.dsdt) ::
    ((chipTables env).take commonTables.length).map (fun chip => .listing (.ofChip env.oem chip)) ++
    (secondarySockets env.board).flatMap (socketPieces env)

namespace Plan

theorem ofSocket_of_available {ssdt : Bytes}
    (h : ssdt ∈ env.aml.socketSsdts[socket.toNat - 1]?) (long : Header.size ≤ ssdt.length) :
    ofSocket env socket = bring (socketPieces env socket) := by
  rw [Option.mem_def] at h
  rw [ofSocket, socketPieces, h]
  dsimp only
  rw [withOemId_of_le long]
  rfl

theorem ofTableList_of_available (known : env.board.chip ≠ .t186) (h : Available env) :
    ofTableList env = bring (tablePieces env) := by
  have sockets : all ((secondarySockets env.board).map (ofSocket env)) =
      bring ((secondarySockets env.board).flatMap (socketPieces env)) := by
    refine all_bring fun socket mem => ?_
    have ⟨ssdt, hs, long⟩ := h.ssdts socket mem
    exact ofSocket_of_available hs long
  rw [ofTableList, if_neg known, withOemId_of_le h.dsdt, storing, sockets]
  rfl

end Plan

section

variable {sockets : List UInt32}

theorem listings_socketPieces (sockets : List UInt32) :
    listings (sockets.flatMap (socketPieces env)) = sockets.map fun socket => .ofChip env.oem
      (⟨.ofChars 'S' 'S' 'D' 'T', 2, .ssdt⟩, env.aml.socketSsdts[socket.toNat - 1]?) := by
  induction sockets
  case nil => rfl
  case cons socket rest ih =>
    rw [List.flatMap_cons, listings_append, ih, List.map_cons, socketPieces]
    cases env.aml.socketSsdts[socket.toNat - 1]? <;> rfl

-- Each of the sockets brings a table and an element of the list.
theorem counts_socketPieces
    (h : ∀ socket ∈ sockets, ∃ ssdt, ssdt ∈ env.aml.socketSsdts[socket.toNat - 1]?) :
    (sockets.flatMap (socketPieces env)).countP Piece.isObject = sockets.length ∧
    ((sockets.flatMap (socketPieces env)).map Piece.elements).sum = 2 * sockets.length := by
  induction sockets
  case nil => exact ⟨rfl, rfl⟩
  case cons socket rest ih =>
    have ⟨⟨ssdt, hs⟩, hrest⟩ := List.forall_mem_cons.mp h
    have ⟨objects, elements⟩ := ih hrest
    rw [Option.mem_def] at hs
    have one : (socketPieces env socket).countP Piece.isObject = 1 := by
      rw [socketPieces, hs]
      rfl
    have two : ((socketPieces env socket).map Piece.elements).sum = 2 := by
      rw [socketPieces, hs]
      rfl
    rw [List.flatMap_cons, List.countP_append, List.map_append, List.sum_append, objects, elements,
      one, two, List.length_cons, Nat.add_comm 1, Nat.mul_succ, Nat.add_comm 2]
    exact ⟨rfl, rfl⟩

end

theorem listings_tablePieces (env : Surroundings) :
    listings (tablePieces env) = (chipTables env).map (.ofChip env.oem) := by
  rw [tablePieces, listings_append, listings_socketPieces, chipTables, List.map_append,
    List.map_map]
  rfl

section

variable (h : Available env)
include h

theorem room_tablePieces : room tables (tablePieces env) =
    1 + (secondarySockets env.board).length + opening tables := by
  have ⟨objects, _⟩ := counts_socketPieces fun socket mem =>
    (h.ssdts socket mem).imp fun _ hs => hs.left
  have some : listings (tablePieces env) ≠ [] := by rw [listings_tablePieces]; nofun
  rw [room, if_neg some, tablePieces, List.countP_append, objects]
  rfl

theorem cost_tablePieces : cost tables (tablePieces env) =
    8 + 3 * (secondarySockets env.board).length + opening tables := by
  have ⟨_, elements⟩ := counts_socketPieces fun socket mem =>
    (h.ssdts socket mem).imp fun _ hs => hs.left
  have common : ((.table (relabelled env.oem.oemId env.aml.dsdt) ::
      ((chipTables env).take commonTables.length).map
        fun chip => Piece.listing (.ofChip env.oem chip)).map Piece.elements).sum = 7 := rfl
  rw [cost, room_tablePieces h, tablePieces, List.map_append, List.sum_append, common, elements]
  omega

theorem fits_tablePieces_iff : Fits s tables (tablePieces env) ↔
    s.entries.length + (1 + (secondarySockets env.board).length + opening tables) ≤ s.capacity ∧
    s.tokens.issued + (8 + 3 * (secondarySockets env.board).length + opening tables) <
      UInt64.size ∧
    tables.length + (6 + (secondarySockets env.board).length) < UInt32.size := by
  have listed : (listings (tablePieces env)).length = 6 + (secondarySockets env.board).length := by
    rw [listings_tablePieces, chipTables, List.length_map, List.length_append, List.length_map]
    rfl
  rw [← room_tablePieces h, ← cost_tablePieces h, ← listed]
  exact ⟨fun ⟨room, cost, listed⟩ => ⟨room, cost, listed⟩,
    fun ⟨room, cost, listed⟩ => ⟨room, cost, listed⟩⟩

-- The compiled tables of the chip are there.
theorem Available.compiled {chip : CommonTable × Option Bytes} (mem : chip ∈ chipTables env) :
    ∀ b ∈ chip.2, Header.size ≤ b.length := by
  obtain mem | mem := List.mem_append.mp mem
  case inl =>
    have dsdt : ∀ b ∈ some env.aml.dsdt, Header.size ≤ b.length :=
      fun _ hb => Option.some.inj hb ▸ h.dsdt
    simp only [List.mem_cons, List.not_mem_nil, or_false] at mem
    rcases mem with rfl | rfl | rfl | rfl | rfl | rfl <;> first | exact dsdt | exact nofun
  case inr =>
    obtain ⟨socket, secondary, rfl⟩ := List.mem_map.mp mem
    have ⟨ssdt, hs, long⟩ := h.ssdts socket secondary
    exact fun b hb => Option.some.inj (hs.symm.trans hb) ▸ long

end

theorem presents_of_refers {oem : OemIdentity} {chip : CommonTable × Option Bytes}
    (nodup : s.stored.Nodup) (compiled : ∀ b ∈ chip.2, Header.size ≤ b.length)
    (h : Refers s table (.ofChip oem chip)) : Presents s oem table chip := by
  have ⟨entry, stored⟩ := refers_iff.mp h
  refine ⟨entry, ?_⟩
  obtain ⟨t, _ | b⟩ := chip
  case none => exact stored
  case some =>
    have stored : Stored s ⟨table.tableData⟩ (relabelled oem.oemId b) := stored
    have ⟨d, hd, hb⟩ := stored.lookup nodup
    exact ⟨d, hd, hb ▸ relabels_relabelled (compiled b rfl)⟩

theorem accounted_of_sane (sane : sanityCheck.result s = (.done (), s)) : s.Accounted [] := by
  have flawless := outcome_sanityCheck_eq_done_iff.mp (congrArg Prod.fst sane)
  exact ⟨(List.append_nil _).symm ▸ flawless.nodup, (List.append_nil _).symm ▸ flawless.issued⟩

end BoardFirmware.Population
