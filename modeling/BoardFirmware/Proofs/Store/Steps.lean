import BoardFirmware.Proofs.Store.Request
import Mathlib.Logic.Relation

namespace BoardFirmware.Store

open BoardFirmware.Action

-- What is left to do for a list of references once its elements have been added.
def listReserved (d : Descriptor) (reserved : List Token) : Action Store Token := do
  if reserved.length < d.count.toNat then
    throw .invalidParameter
  return (← add .references (Token.bytesOf (reserved.take d.count.toNat)) d.count).2

theorem addReferenced_some (d : Descriptor) (reserved : List Token) :
    addReferenced d (some reserved) =
      addReserved d reserved .null >>= fun _ => listReserved d reserved := by
  by_cases h : reserved.length < d.count.toNat <;>
    simp [addReferenced, addReserved, addElements, listReserved, h]

theorem result_ofElements (s : Store) (id : ObjectId) (count : UInt32) (data : Bytes) :
    (Descriptor.ofElements id count data : Action Store Descriptor).result s =
      if count = 0 ∨ data.length % count.toNat ≠ 0 then (.failed .invalidParameter, s)
      else (.done ⟨id, data, count⟩, s) := by
  by_cases h : count = 0
  case pos => simp [Descriptor.ofElements, result_bind, h]
  by_cases hd : data.length % count.toNat = 0 <;>
    simp [Descriptor.ofElements, result_bind, result_map, h, hd]

-- A relation between stores that holds whenever tokens are given out, an entry is added under new
-- tokens, or an entry grows.
class Stable (R : Store → Store → Prop) : Prop extends IsPreorder Store R where
  allocate : ∀ n, (allocate n).Respects R
  add      : ∀ id data count, (add id data count).Respects R
  extend   : ∀ id data count token, (extend id data count token).Respects R

-- A relation that holds whenever something is added under the one identifier.
class StableAt (R : Store → Store → Prop) (id : ObjectId) : Prop where
  add    : ∀ data count, (add id data count).Respects R
  extend : ∀ data count token, (extend id data count token).Respects R

instance {R : Store → Store → Prop} [Stable R] {id : ObjectId} : StableAt R id where
  add    := Stable.add id
  extend := Stable.extend id

namespace Stable

variable {R : Store → Store → Prop} [IsPreorder Store R] {id : ObjectId} {token : Token}

theorem find : (find id token).Respects R := by
  refine .of_state_eq fun s => ?_
  cases s.indexOf?_cases id token
  case inl h => rw [result_find_of_none h]
  case inr h =>
    have ⟨k, e, hk, he, _⟩ := h
    rw [result_find_of_some hk he]

theorem checked {x : Option α} : (checked x : Action Store α).Respects R := by
  cases x
  case none => exact fun _ h => absurd rfl h
  case some => exact .pure

theorem lookup : (lookup id token).Respects R := by
  refine .bind find fun e => .ite .pure ?_
  split
  case h_1 => exact .throw
  case h_2 => exact .bind checked fun _ => .ite .pure .throw

theorem lookupLogged : (lookupLogged id token).Respects R := by
  refine .bind (.attempt lookup) fun result => .bind .log fun _ => ?_
  cases result
  case ok    => exact .pure
  case error => exact .throw

theorem sanityCheck : sanityCheck.Respects R :=
  .of_state_eq fun s => by simp [Store.sanityCheck, result_bind]

theorem addSingle [StableAt R id] {data : Bytes} : (addSingle id data).Respects R :=
  .bind (StableAt.add _ _) fun _ => .pure

theorem checkDescriptor {d : Descriptor} : (checkDescriptor d).Respects R :=
  .ite (.bind .log fun _ => .throw) .pure

theorem addGroup {d : Descriptor} [StableAt R d.id] : (addGroup d).Respects R :=
  .bind checkDescriptor fun _ => StableAt.add _ _

omit [IsPreorder Store R] in
theorem extendGroup {d : Descriptor} [StableAt R d.id] : (extendGroup d token).Respects R :=
  StableAt.extend _ _ _

theorem reserve {count : UInt32} (h : ∀ n, (Store.allocate n).Respects R) :
    (reserve count).Respects R :=
  .ite (.bind .log fun _ => .bind .throw fun _ => h _) (h _)

theorem ofElements {count : UInt32} {data : Bytes} :
    (Descriptor.ofElements id count data : Action Store Descriptor).Respects R :=
  .of_state_eq fun s => by rw [result_ofElements]; split <;> rfl

theorem addItems [Layout α] [StableAt R id] {items : List α} : (addItems id items).Respects R := by
  refine .bind_of_done ofElements fun d s t h => .bind ?_ fun _ => .pure
  rw [result_ofElements] at h
  split at h <;> cases h
  exact addGroup

theorem addMemoryRanges [StableAt R .memoryRange] {regions : List MemoryRegion} {limit : Nat} :
    (addMemoryRanges regions limit).Respects R :=
  .bind addItems fun _ => .pure

theorem addInterrupts [StableAt R .interrupt] {lines : List InterruptLine} {limit : Nat} :
    (addInterrupts lines limit).Respects R := by
  unfold Store.addInterrupts
  split
  case h_1 => exact .throw
  case h_2 => exact .bind addItems fun _ => .pure

theorem listTable [StableAt R .acpiTableList] {table : Acpi.TableEntry} :
    (Acpi.listTable table).Respects R := by
  refine .bind (.attempt extendGroup) fun result => ?_
  split
  case h_1 => exact .pure
  case h_2 => exact .bind addGroup fun _ => .pure
  case h_3 => exact .throw

theorem listReserved [StableAt R .references] {d : Descriptor} {reserved : List Token} :
    (listReserved d reserved).Respects R :=
  have add := .bind (StableAt.add _ _) fun _ => .pure
  .ite (.bind .throw fun _ => add) add

-- Only here does the caller choose tokens.
theorem addReferenced {d : Descriptor} [StableAt R d.id] [StableAt R .references]
    {reserved : Option (List Token)}
    (h : ∀ tokens ∈ reserved, (addReserved d tokens .null).Respects R) :
    (addReferenced d reserved).Respects R := by
  cases reserved
  case none =>
    refine .bind checkDescriptor fun _ => .bind ?_ fun _ => .bind (StableAt.add _ _) fun _ => .pure
    exact .bind (StableAt.add _ _) fun _ => .pure
  case some tokens =>
    rw [addReferenced_some]
    exact .bind (h tokens rfl) fun _ => listReserved

end Stable

-- What a request does to a store is made of such steps.
inductive Step (s : Store) : Store → Prop
  | advance {n : Nat} (h : s.tokens.Provides n) : Step s (s.advance n)
  | push {e : Entry} (room : s.entries.length < s.capacity) (sound : e.Sound) : Step s (s.push e)
  | grow {k : Nat} {e : Entry} {data : Bytes} {count total : UInt32} {new : List Token}
      (he : s.entries[k]? = some e) (acc : e.Accepts data count total)
      (hn : new.length = count.toNat) : Step s (s.growAt k data new total)

def Steps : Store → Store → Prop :=
  Relation.ReflTransGen Step

variable {s s' t : Store} {id : ObjectId} {data : Bytes} {count : UInt32} {token : Token}
variable {elementTokens : List Token}

namespace Steps

theorem refl (s : Store) : Steps s s :=
  Relation.ReflTransGen.refl

theorem trans (h₁ : Steps s s') (h₂ : Steps s' t) : Steps s t :=
  Relation.ReflTransGen.trans h₁ h₂

theorem single (h : Step s t) : Steps s t :=
  Relation.ReflTransGen.single h

end Steps

theorem newEntry_sound (s : Store) (pos : count ≠ 0) : (s.newEntry id data count).Sound :=
  ⟨pos, List.length_take_of_le (by simpa using tokensNeeded_le pos)⟩

theorem Operation.Ends.steps {o : Operation α} (h : o.Ends s (outcome, t))
    (ret : outcome ≠ .trapped) : Steps s t := by
  cases h
  case refused                => exact .refl s
  case trapped                => exact absurd rfl ret
  case allocated hp           => exact .single (.advance hp)
  case usedUp hp              => exact .single (.advance hp)
  case added pos room hp      =>
    exact .trans (.single (.advance hp)) (.single (.push room (newEntry_sound s pos)))
  case addedWithTokens pos room enough          =>
    exact .single (.push room ⟨pos, List.length_take_of_le enough⟩)
  case addedWithElementTokens pos room enough _ =>
    exact .single (.push room ⟨pos, List.length_take_of_le enough⟩)
  case addedReplacing pos room enough _ hp      =>
    exact .trans (.single (.advance hp)) (.single (.push room ⟨pos, List.length_take_of_le enough⟩))
  case extended he _ acc hp                     =>
    exact .trans (.single (.advance hp)) (.single (.grow he acc (TokenSource.length_upcoming ..)))

namespace Steps

theorem operation (o : Operation α) : o.perform.Respects Steps :=
  fun s ret => (o.ends s).steps ret

instance : Stable Steps where
  refl     := refl
  trans    := fun _ _ _ => trans
  allocate := fun n => operation (.allocate n)
  add      := fun id data count => operation (.add id data count)
  extend   := fun id data count token => operation (.extend id data count token)

theorem addReserved {d : Descriptor} : (addReserved d elementTokens token).Respects Steps :=
  .bind Stable.checkDescriptor fun _ =>
    operation (.addWithElementTokens d.id d.data d.count elementTokens token)

theorem request : (r : Request α) → r.perform.Respects Steps
  | .operation o        => operation o
  | .find ..            => Stable.find
  | .lookup ..          => Stable.lookup
  | .lookupLogged ..    => Stable.lookupLogged
  | .sanityCheck        => Stable.sanityCheck
  | .addSingle ..       => Stable.addSingle
  | .addGroup _         => Stable.addGroup
  | .addReserved ..     => addReserved
  | .addReferenced ..   => Stable.addReferenced fun _ _ => addReserved
  | .reserve _          => Stable.reserve Stable.allocate
  | .extendGroup ..     => Stable.extendGroup
  | .addMemoryRanges .. => Stable.addMemoryRanges
  | .addInterrupts ..   => Stable.addInterrupts
  | .listTable _        => Stable.listTable

end Steps

theorem Reachable.steps {capacity : Nat} (h : Reachable capacity s) :
    Steps (.empty capacity) s := by
  induction h
  case empty              => exact .refl _
  case request r _ ret ih => exact ih.trans (Steps.request r _ ret)

theorem Later.steps (h : Later s t) : Steps s t := by
  induction h
  case refl               => exact .refl s
  case request r _ ret ih => exact ih.trans (Steps.request r _ ret)

end BoardFirmware.Store
