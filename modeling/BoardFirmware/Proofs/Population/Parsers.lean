import BoardFirmware.Population.Acpi
import BoardFirmware.Proofs.Acpi.Hmat.Decode
import BoardFirmware.Proofs.Population.Plan

namespace BoardFirmware.Population

open Acpi Store BoardFirmware.Action

inductive AcpiParser where
  | tableList
  | hmat
  | srat
  deriving DecidableEq

def AcpiParser.parser : AcpiParser → HardwareParser
  | tableList => tableListParser
  | hmat      => hmatParser
  | srat      => sratParser

def Listing.of (signature : Signature) (revision : UInt8) (generator : Generator)
    (oem : OemIdentity) (stored : Option Bytes) : Listing :=
  ⟨.of signature revision generator oem .null, stored⟩

def Piece.table (b : Bytes) : Piece :=
  object ⟨.rawTable, b, 1⟩

namespace Plan

-- A table to be stored, if there is one, and what follows.
def storing (table : Except Status Bytes) (next : Bytes → Plan) : Plan :=
  match table with
  | .ok b    => (bring [.table b]).next (next b)
  | .error e => refuse e

def ofCommonTable (env : Surroundings) (dsdt : Bytes) (t : CommonTable) : Plan :=
  bring [.listing (.of t.signature t.revision t.generator env.oem
    (if t.generator = .dsdt then some dsdt else none))]

def ofSocket (env : Surroundings) (socket : UInt32) : Plan :=
  match env.aml.socketSsdts[socket.toNat - 1]? with
  | none      => refuse .invalidParameter
  | some ssdt => storing (withOemId env.oem.oemId ssdt) fun table =>
    bring [.listing (.of (.ofChars 'S' 'S' 'D' 'T') 2 .ssdt env.oem (some table))]

def ofTableList (env : Surroundings) : Plan :=
  if env.board.chip = .t186 then
    refuse .notFound
  else
    storing (withOemId env.oem.oemId env.aml.dsdt) fun dsdt =>
      (all (commonTables.map (ofCommonTable env dsdt))).next
        (all ((secondarySockets env.board).map (ofSocket env)))

def ofHmat (env : Surroundings) : Plan :=
  let table := Hmat.encode env.topology env.oem
  match env.topology.extent with
  | .error e   => refuse e
  | .ok extent =>
    if ¬extent.Fits then
      trap
    else if UInt32.size ≤
        Hmat.tableSize (Hmat.initiators env.topology).length (Hmat.targets env.topology).length then
      refuse .outOfResources
    else
      (bring [.table table]).next
        (bring [.listing (.of Hmat.signature Hmat.revision .raw env.oem (some table))])

-- Elements to be stored together, if they divide evenly.
def ofElements (d : Descriptor) : Plan :=
  if d.count = 0 ∨ d.data.length % d.count.toNat ≠ 0 then
    refuse .invalidParameter
  else
    bring [.object d]

def ofAffinities : Option (List MemoryAffinity) → Plan
  | none            => trap
  | some affinities =>
    ofElements ⟨.memoryAffinity, Layout.writeAll affinities, UInt32.ofNat affinities.length⟩

def ofSrat (env : Surroundings) : Plan :=
  (bring [.listing (.of (.ofChars 'S' 'R' 'A' 'T') 3 .srat env.oem none)]).next
    (ofAffinities (MemoryAffinity.ofBoard? env.board))

def ofParser (env : Surroundings) : AcpiParser → Plan
  | .tableList => ofTableList env
  | .hmat      => ofHmat env
  | .srat      => ofSrat env

-- A parser with nothing to describe is passed over.
def passing (p : Plan) : Plan :=
  if p.verdict = .failed .notFound then bring p.pieces else p

def ofListed (env : Surroundings) (p : AcpiParser) : Plan :=
  if p.parser.IsSkipped env.skipped then bring [] else (ofParser env p).passing

def ofRun (env : Surroundings) (parsers : List AcpiParser) : Plan :=
  all (parsers.map (ofListed env))

end Plan

variable {s t : Store} {tables : List TableEntry} {plan : Plan} {env : Surroundings} {b : Bytes}
variable {token : Token} {signature : Signature} {revision : UInt8} {generator : Generator}
variable {oem : OemIdentity} {p : AcpiParser}

-- A complete table of the maker, or an element of the list that refers to no other table.
inductive Made (oemId : Vector UInt8 6) : Piece → Prop
  | table {b : Bytes} (h : Complete oemId b) : Made oemId (.table b)
  | listing {l : Listing} (h : ∀ b ∈ l.stored, Complete oemId b) : Made oemId (.listing l)

-- A complete table of the maker, or an element of the list under one of the signatures.
inductive Tabled (oem : OemIdentity) (signatures : List Signature) : Piece → Prop
  | table {b : Bytes} (h : Complete oem.oemId b) : Tabled oem signatures (.table b)
  | listing {signature : Signature} {revision : UInt8} {generator : Generator}
      {stored : Option Bytes} (mem : signature ∈ signatures)
      (h : ∀ b ∈ stored, Complete oem.oemId b) :
      Tabled oem signatures (.listing (.of signature revision generator oem stored))

theorem Tabled.made {signatures : List Signature} {p : Piece} (h : Tabled oem signatures p) :
    Made oem.oemId p := by
  cases h
  case table h     => exact .table h
  case listing _ h => exact .listing h

namespace Plan

variable {φ : Piece → Prop}

theorem Only.storing {x : Except Status Bytes} {next : Bytes → Plan}
    (h : ∀ b, x = .ok b → φ (.table b) ∧ (next b).Only φ) : (storing x next).Only φ := by
  cases x
  case error e => exact nothing
  case ok b    => exact (single (h b rfl).left).next (h b rfl).right

theorem pieces_passing (plan : Plan) : plan.passing.pieces = plan.pieces := by
  rw [passing]
  split <;> rfl

theorem Only.passing (h : plan.Only φ) : plan.passing.Only φ := by
  rw [Only, pieces_passing]
  exact h

theorem Only.listed (h : (ofParser env p).Only φ) : (ofListed env p).Only φ := by
  rw [ofListed]
  split
  case isTrue  => exact nothing
  case isFalse => exact h.passing

theorem Only.run (h : ∀ p, (ofParser env p).Only φ) (parsers : List AcpiParser) :
    (ofRun env parsers).Only φ :=
  .all (List.forall_mem_map.mpr fun p _ => (h p).listed)

-- The signatures of what is listed for every chip. The sockets come under the last one.
def listSignatures : List Signature :=
  commonTables.map CommonTable.signature

theorem ofCommonTable_tabled {t : CommonTable} (mem : t ∈ commonTables)
    (h : Complete env.oem.oemId b) :
    (ofCommonTable env b t).Only (Tabled env.oem listSignatures) := by
  refine .single (.listing (List.mem_map_of_mem mem) fun b' hb => ?_)
  split at hb
  case isTrue  => cases hb; exact h
  case isFalse => cases hb

theorem ofSocket_tabled {socket : UInt32} :
    (ofSocket env socket).Only (Tabled env.oem listSignatures) := by
  have ssdt : Signature.ofChars 'S' 'S' 'D' 'T' ∈ listSignatures := by decide
  rw [ofSocket]
  split
  case h_1 => exact .nothing
  case h_2 =>
    refine .storing fun table h => ?_
    have complete := complete_of_withOemId h
    exact ⟨.table complete, .single (.listing ssdt fun _ hb => Option.some.inj hb ▸ complete)⟩

theorem ofTableList_tabled : (ofTableList env).Only (Tabled env.oem listSignatures) := by
  rw [ofTableList]
  split
  case isTrue  => exact .nothing
  case isFalse =>
    refine .storing fun dsdt h => ?_
    have complete := complete_of_withOemId h
    refine ⟨.table complete, .next (.all ?_) (.all ?_)⟩
    case refine_1 => exact List.forall_mem_map.mpr fun _ mem => ofCommonTable_tabled mem complete
    case refine_2 => exact List.forall_mem_map.mpr fun _ _ => ofSocket_tabled

theorem ofTableList_made : (ofTableList env).Only (Made env.oem.oemId) :=
  fun p mem => (ofTableList_tabled p mem).made

theorem ofHmat_tabled : (ofHmat env).Only (Tabled env.oem [Hmat.signature]) := by
  have complete := Hmat.encode_complete env.topology env.oem
  rw [ofHmat]
  cases env.topology.extent
  case error     => exact .nothing
  case ok extent =>
    dsimp only
    split
    case isTrue  => exact .nothing
    case isFalse =>
      split
      case isTrue  => exact .nothing
      case isFalse =>
        exact .next (.single (.table complete))
          (.single (.listing List.mem_cons_self fun _ hb => Option.some.inj hb ▸ complete))

theorem ofHmat_made : (ofHmat env).Only (Made env.oem.oemId) :=
  fun p mem => (ofHmat_tabled p mem).made

-- Only the memory affinity structures are not about tables.
theorem ofSrat_made :
    (ofSrat env).Only fun p =>
      Made env.oem.oemId p ∨ ∃ d, p = .object d ∧ d.id = .memoryAffinity := by
  refine .next (.single (.inl (.listing nofun))) ?_
  cases MemoryAffinity.ofBoard? env.board
  case none            => exact .nothing
  case some affinities =>
    rw [ofAffinities, ofElements]
    split
    case isTrue  => exact .nothing
    case isFalse => exact .single (.inr ⟨_, rfl, rfl⟩)

end Plan

theorem refers_of_stored (h : Stored s token b) :
    Refers s (.of signature revision generator oem token)
      (.of signature revision generator oem (some b)) :=
  .stored h

theorem refers_null :
    Refers s (.of signature revision generator oem .null)
      (.of signature revision generator oem none) :=
  .null rfl

theorem stored_of_add {a : List Token × Token}
    (h : (add .rawTable b 1).result s = (.done a, t)) : Stored t a.2 b := by
  have ⟨_, _, hp, ha, ht⟩ := add_of_done h
  have mem : a.2 ∈ s.tokens.upcoming 2 := by
    rw [TokenSource.upcoming_succ, ha]
    exact List.mem_append_right _ List.mem_cons_self
  constructor
  case proper => exact (TokenSource.issued_of_mem_upcoming hp mem).not_isNull
  case entry  =>
    refine ⟨s.newEntry .rawTable b 1, ?_, by rw [ha], rfl⟩
    have hid : (s.newEntry .rawTable b 1).id = .rawTable := rfl
    rw [ht, entriesOf_push_of_eq hid]
    exact List.mem_append_right _ List.mem_cons_self

theorem result_runListed (p : HardwareParser) (env : Surroundings) (index : Nat) (s : Store) :
    (p.runListed env index).result s =
      if p.IsSkipped env.skipped then (.done (), s)
      else
        match (p.run env).result s with
        | (.failed e, t) => (if e = .notFound then .done () else .failed e, t)
        | r              => r := by
  rw [HardwareParser.runListed, result_ite]
  split
  case isTrue  => rfl
  case isFalse =>
    rw [result_tryCatch]
    cases (p.run env).result s with | _ outcome t
    cases outcome
    case done    => rfl
    case trapped => rfl
    case failed e => by_cases he : e = .notFound <;> simp [he, result_bind]

-- A parser does not depend on its place in the list, but for the records.
theorem result_populate (env : Surroundings) (parsers : List AcpiParser) (s : Store) :
    (populate env (parsers.map AcpiParser.parser)).result s =
      (parsers.forM fun p => p.parser.runListed env 0).result s := by
  have hmap : (parsers.map AcpiParser.parser).forM (fun p => p.runListed env 0) =
      parsers.forM fun p => p.parser.runListed env 0 := List.forM_map
  rw [← hmap]
  exact result_forM_zipIdx (fun _ _ => by simp only [result_runListed]) ..

namespace Follows

theorem addTable {f : Token → Action Store Unit} (log : TableLog s tables)
    (hf : ∀ token t, TableLog t tables → Stored t token b → Follows t plan ((f token).result t)) :
    Follows s ((Plan.bring [.table b]).next plan) ((addSingle .rawTable b >>= f).result s) := by
  have hid : ObjectId.rawTable ≠ .references := by decide
  have heq : (addSingle .rawTable b >>= f) = (Store.add .rawTable b 1 >>= fun a => f a.2) := by
    simp [addSingle, hid]
  have hne : ObjectId.acpiTableList ≠ .rawTable := by decide
  have hpos : (1 : UInt32) ≠ 0 := by decide
  rw [heq]
  refine add (d := ⟨.rawTable, b, 1⟩) log hne.symm hpos fun a t h => ?_
  have keeps : Keeps .acpiTableList s t := .of_add h hne
  exact hf a.2 t (log.keeps keeps) (stored_of_add h)

theorem storeTable {f : Token → Action Store Unit} {plan : Bytes → Plan} (log : TableLog s tables)
    (hf : ∀ table token t, TableLog t tables → Stored t token table →
      Follows t (plan table) ((f token).result t)) :
    Follows s (.storing (withOemId oem.oemId b) plan) ((storeTable b oem >>= f).result s) := by
  cases hw : withOemId oem.oemId b
  case error e =>
    have heq : (Acpi.storeTable b oem >>= f).result s = (.failed e, s) := by
      simp [Acpi.storeTable, hw, result_bind]
    exact heq ▸ .through (.nil s)
  case ok table =>
    have heq : (Acpi.storeTable b oem >>= f).result s =
        (addSingle .rawTable table >>= f).result s := by
      simp [Acpi.storeTable, hw, result_bind]
    exact heq ▸ addTable log fun token t => hf table token t

theorem listCommonTables {dsdt : Token} (log : TableLog s tables) (hs : Stored s dsdt b) :
    Follows s (.all (commonTables.map (Plan.ofCommonTable env b)))
      ((listCommonTables env.oem dsdt).result s) := by
  refine all (I := fun s => (∃ tables, TableLog s tables) ∧ Stored s dsdt b) ?_ ?_ _ ⟨⟨_, log⟩, hs⟩
  case refine_1 => exact fun ⟨log, hs⟩ hb => ⟨hb.log log, hb.stored hs⟩
  case refine_2 =>
    rintro t s ⟨⟨tables, log⟩, hs⟩
    rw [result_explaining, Plan.ofCommonTable]
    by_cases h : t.generator = .dsdt
    case pos => simpa [h] using listTable log (refers_of_stored hs)
    case neg => simpa [h] using listTable log refers_null

theorem listSocketTable {socket : UInt32} (log : TableLog s tables) :
    Follows s (.ofSocket env socket) ((listSocketTable env socket).result s) := by
  rw [Plan.ofSocket, Acpi.listSocketTable]
  cases env.aml.socketSsdts[socket.toNat - 1]?
  case none      => exact .through (.nil s)
  case some ssdt =>
    dsimp only
    rw [result_bind_of_done (result_debug _ s)]
    refine storeTable log fun table token t log hs => ?_
    rw [result_explaining]
    exact listTable log (refers_of_stored hs)

theorem tableList (log : TableLog s tables) :
    Follows s (.ofTableList env) ((tableListParser.run env).result s) := by
  have hrun : (tableListParser.run env).result s =
      if env.board.chip = .t186 then (.failed .notFound, s)
      else (Acpi.storeTable env.aml.dsdt env.oem >>= fun dsdt =>
        Acpi.listCommonTables env.oem dsdt >>= fun _ =>
          (secondarySockets env.board).forM (Acpi.listSocketTable env)).result s := by
    by_cases h : env.board.chip = .t186 <;> simp [tableListParser, h, result_bind]
  rw [hrun, Plan.ofTableList]
  split
  case isTrue  => exact .through (.nil s)
  case isFalse =>
    refine storeTable log fun dsdt token t log hs => ?_
    refine (listCommonTables log hs).next fun u hb => ?_
    refine all (I := fun s => ∃ tables, TableLog s tables) ?_ ?_ _ (hb.log ⟨_, log⟩)
    case refine_1 => exact fun log hb => hb.log log
    case refine_2 => exact fun _ _ ⟨_, log⟩ => listSocketTable log

theorem hmat (log : TableLog s tables) :
    Follows s (.ofHmat env) ((hmatParser.run env).result s) := by
  rw [hmatParser, result_bind, Hmat.result_buildHmat, Plan.ofHmat]
  cases env.topology.extent
  case error     => exact .through (.nil s)
  case ok extent =>
    dsimp only
    split
    case isTrue  => exact .through (.nil s)
    case isFalse =>
      split
      case isTrue  => exact .through (.nil s)
      case isFalse =>
        refine addTable log fun token t log hs => ?_
        rw [result_explaining]
        exact listTable log (refers_of_stored hs)

theorem affinities (log : TableLog s tables) (affinities : Option (List MemoryAffinity)) :
    Follows s (.ofAffinities affinities)
      ((do
        let affinities ← checked affinities
        debug s!"Adding {affinities.length} memory affinity structures"
        let d ← Descriptor.ofElements .memoryAffinity (UInt32.ofNat affinities.length)
          (Layout.writeAll affinities)
        let _ ← addGroup d : Action Store Unit).result s) := by
  cases affinities
  case none            => exact .through (.nil s)
  case some affinities =>
    rw [result_bind_of_done (result_checked_some ..), result_bind_of_done (result_debug ..),
      result_bind, result_ofElements, Plan.ofAffinities, Plan.ofElements]
    split
    case isTrue        => exact .through (.nil s)
    case isFalse right =>
      have hpos := (not_or.mp right).left
      have hne : ObjectId.memoryAffinity ≠ .acpiTableList := by decide
      simp only [addGroup, checkDescriptor, hpos, if_false, pure_bind]
      rw [← Plan.next_nil]
      exact add log hne hpos fun _ t _ => .through (.nil t)

theorem srat (log : TableLog s tables) :
    Follows s (.ofSrat env) ((sratParser.run env).result s) := by
  rw [sratParser, Plan.ofSrat]
  refine next ?_ fun t hb => ?_
  case refine_1 =>
    rw [result_explaining]
    exact listTable log refers_null
  case refine_2 =>
    have ⟨_, log⟩ := hb.log ⟨_, log⟩
    exact affinities log _

theorem parser (p : AcpiParser) (log : TableLog s tables) :
    Follows s (.ofParser env p) ((p.parser.run env).result s) := by
  cases p
  case tableList => exact tableList log
  case hmat      => exact hmat log
  case srat      => exact srat log

theorem passing {outcome : Outcome Unit} (h : Follows s plan (outcome, t)) :
    Follows s plan.passing (if outcome = .failed .notFound then .done () else outcome, t) := by
  have pieces := plan.pieces_passing
  have verdict : plan.passing.verdict =
      if plan.verdict = .failed .notFound then .done () else plan.verdict := by
    rw [Plan.passing]
    split <;> rfl
  cases h
  case through h => exact verdict ▸ .through (pieces ▸ h)
  case refused h => exact .refused (pieces ▸ h)
  case trapped h => exact .trapped (pieces ▸ h) t

theorem listed (p : AcpiParser) (log : TableLog s tables) (index : Nat) :
    Follows s (.ofListed env p) ((p.parser.runListed env index).result s) := by
  rw [result_runListed, Plan.ofListed]
  split
  case isTrue  => exact .through (.nil s)
  case isFalse =>
    have h : Follows s (.ofParser env p) ((p.parser.run env).result s) := parser p log
    cases hr : (p.parser.run env).result s with | _ outcome t
    have h' := (hr ▸ h).passing
    cases outcome
    case done     => exact h'
    case failed e => simpa only [Outcome.failed.injEq] using h'
    case trapped  => exact h'

theorem run (parsers : List AcpiParser) (log : TableLog s tables) :
    Follows s (.ofRun env parsers) ((populate env (parsers.map AcpiParser.parser)).result s) := by
  rw [result_populate, Plan.ofRun]
  refine all (I := fun s => ∃ tables, TableLog s tables) ?_ ?_ _ ⟨_, log⟩
  case refine_1 => exact fun log hb => hb.log log
  case refine_2 => exact fun p _ ⟨_, log⟩ => listed p log 0

end Follows

-- Wherever a run stops, it has brought the first pieces of its plan.
theorem brings_of_populate {parsers : List AcpiParser} {outcome : Outcome Unit}
    (log : TableLog s tables)
    (h : (populate env (parsers.map AcpiParser.parser)).result s = (outcome, t))
    (ret : outcome ≠ .trapped) : ∃ ps, ps <+: (Plan.ofRun env parsers).pieces ∧ Brings s ps t := by
  have follows : Follows s (.ofRun env parsers) _ := .run parsers log
  rw [h] at follows
  exact follows.brings ret

end BoardFirmware.Population
