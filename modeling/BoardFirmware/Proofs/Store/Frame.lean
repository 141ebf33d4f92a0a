import BoardFirmware.Proofs.Store.Steps

namespace BoardFirmware.Store

variable {s t : Store} {e e' : Entry} {id : ObjectId} {k : Nat}

-- The entries of one kind, in the order in which they were added.
def entriesOf (s : Store) (id : ObjectId) : List Entry :=
  s.entries.filter (·.id = id)

theorem mem_entriesOf : e ∈ s.entriesOf id ↔ e ∈ s.entries ∧ e.id = id := by
  simp [entriesOf]

theorem entriesOf_advance (n : Nat) : (s.advance n).entriesOf id = s.entriesOf id := rfl

theorem entriesOf_push_of_eq (h : e.id = id) : (s.push e).entriesOf id = s.entriesOf id ++ [e] := by
  simp [entriesOf, h]

theorem entriesOf_push_of_ne (h : e.id ≠ id) : (s.push e).entriesOf id = s.entriesOf id := by
  simp [entriesOf, h]

theorem entriesOf_growAt_of_ne (he : s.entries[k]? = some e) (hne : e.id ≠ id) (data : Bytes)
    (new : List Token) (total : UInt32) :
    (s.growAt k data new total).entriesOf id = s.entriesOf id := by
  obtain ⟨entries, _, _⟩ := s
  simp only [entriesOf, growAt]
  induction entries generalizing k
  case nil => simp at he
  case cons e' rest ih =>
    cases k
    case zero =>
      cases he
      simp [Entry.grown, hne]
    case succ k => simp [List.filter_cons, ih he]

-- Where an entry is the only one of its kind, it stays the only one.
theorem entriesOf_growAt_of_only (he : s.entries[k]? = some e) (only : s.entriesOf e.id = [e'])
    (data : Bytes) (new : List Token) (total : UInt32) :
    (s.growAt k data new total).entriesOf e.id = [e'.grown data new total] := by
  obtain ⟨entries, _, _⟩ := s
  simp only [entriesOf, growAt] at only ⊢
  induction entries generalizing k
  case nil => simp at he
  case cons e'' rest ih =>
    by_cases hid : e''.id = e.id
    case neg =>
      cases k
      case zero   => cases he; exact absurd rfl hid
      case succ k => simpa [hid] using ih he (by simpa [hid] using only)
    case pos =>
      obtain ⟨rfl, hrest⟩ : e'' = e' ∧ rest.filter (·.id = e.id) = [] := by simpa [hid] using only
      cases k
      case zero   => simpa [Entry.grown, hid] using hrest
      case succ k => simpa using List.filter_eq_nil_iff.mp hrest e (List.mem_of_getElem? he)

-- The request that leads from `s` to `t` has left the entries with the identifier alone.
def Keeps (id : ObjectId) (s t : Store) : Prop :=
  t.entriesOf id = s.entriesOf id

instance : IsPreorder Store (Keeps id) where
  refl  := fun _ => rfl
  trans := fun _ _ _ h₁ h₂ => h₂.trans h₁

-- The identifier that an operation stores elements under.
def Operation.ids : Operation α → List ObjectId
  | allocate _                    => []
  | add id ..
  | addWithTokens id ..
  | addWithElementTokens id ..
  | extend id ..                  => [id]

theorem Operation.keeps (o : Operation α) (h : id ∉ o.ids) : o.perform.Respects (Keeps id) := by
  intro s ret
  have ends := o.ends s
  cases hr : o.perform.result s with | _ outcome t
  rw [hr] at ret ends
  have ne : ∀ {id' : ObjectId}, id ∉ [id'] → id' ≠ id := fun h => (List.ne_of_not_mem_cons h).symm
  cases ends
  case refused                => rfl
  case trapped                => exact absurd rfl ret
  case allocated              => rfl
  case usedUp                 => rfl
  case added                  => exact entriesOf_push_of_ne (ne h)
  case addedWithTokens        => exact entriesOf_push_of_ne (ne h)
  case addedWithElementTokens => exact entriesOf_push_of_ne (ne h)
  case addedReplacing         => exact entriesOf_push_of_ne (ne h)
  case extended he hm _ _     => exact entriesOf_growAt_of_ne he (hm.left ▸ ne h) _ _ _

theorem Keeps.stableAt {id' : ObjectId} (h : id ≠ id') : StableAt (Keeps id) id' where
  add    := fun data count =>
    Operation.keeps (.add id' data count) (by simpa [Operation.ids] using h)
  extend := fun data count token =>
    Operation.keeps (.extend id' data count token) (by simpa [Operation.ids] using h)

theorem Keeps.of_add {id' : ObjectId} {data : Bytes} {count : UInt32} {a : List Token × Token}
    (h : (add id' data count).result s = (.done a, t)) (hne : id ≠ id') : Keeps id s t :=
  ((Keeps.stableAt hne).add data count).rel h nofun

namespace Request

-- The identifiers that a request may store elements under.
def ids : Request α → List ObjectId
  | operation o         => o.ids
  | addSingle id _      => [id]
  | addGroup d
  | addReserved d ..
  | extendGroup d _     => [d.id]
  | addReferenced d _   => [d.id, .references]
  | addMemoryRanges ..  => [.memoryRange]
  | addInterrupts ..    => [.interrupt]
  | listTable _         => [.acpiTableList]
  | _                   => []

theorem addReserved_keeps {d : Descriptor} (h : id ≠ d.id) (elementTokens : List Token)
    (token : Token) : (Store.addReserved d elementTokens token).Respects (Keeps id) :=
  .bind Stable.checkDescriptor fun _ =>
    Operation.keeps (.addWithElementTokens d.id d.data d.count elementTokens token)
      (by simpa [Operation.ids] using h)

theorem keeps (r : Request α) (h : id ∉ r.ids) : r.perform.Respects (Keeps id) := by
  have stableAt : ∀ id' ∈ r.ids, StableAt (Keeps id) id' :=
    fun id' mem => Keeps.stableAt fun eq => h (eq ▸ mem)
  cases r
  case operation o           => exact o.keeps h
  case find                  => exact Stable.find
  case lookup                => exact Stable.lookup
  case lookupLogged          => exact Stable.lookupLogged
  case sanityCheck           => exact Stable.sanityCheck
  case reserve               => exact Stable.reserve fun n => Operation.keeps (.allocate n) nofun
  case addSingle id' _       =>
    have := stableAt id' (by simp [ids])
    exact Stable.addSingle
  case addGroup d            =>
    have := stableAt d.id (by simp [ids])
    exact Stable.addGroup
  case addReserved d _ _     => exact addReserved_keeps (by simpa [ids] using h) _ _
  case addReferenced d _     =>
    have := stableAt d.id (by simp [ids])
    have := stableAt .references (by simp [ids])
    exact Stable.addReferenced fun _ _ => addReserved_keeps (fun eq => h (by simp [ids, eq])) _ _
  case extendGroup d _       =>
    have := stableAt d.id (by simp [ids])
    exact Stable.extendGroup
  case addMemoryRanges       =>
    have := stableAt .memoryRange (by simp [ids])
    exact Stable.addMemoryRanges
  case addInterrupts         =>
    have := stableAt .interrupt (by simp [ids])
    exact Stable.addInterrupts
  case listTable             =>
    have := stableAt .acpiTableList (by simp [ids])
    exact Stable.listTable

end Request

end BoardFirmware.Store
