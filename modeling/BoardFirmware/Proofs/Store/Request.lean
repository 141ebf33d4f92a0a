import BoardFirmware.Acpi.TableList
import BoardFirmware.Proofs.Store.Operation
import BoardFirmware.Store.Audit
import BoardFirmware.Store.Resource

namespace BoardFirmware.Store

-- All that a client can ask of a store. Some requests only read it, others are made of operations.
inductive Request : Type → Type 1
  | operation (o : Operation α) : Request α
  | find (id : ObjectId) (token : Token) : Request Entry
  | lookup (id : ObjectId) (token : Token) : Request Descriptor
  | lookupLogged (id : ObjectId) (token : Token) : Request Descriptor
  | sanityCheck : Request Unit
  | addSingle (id : ObjectId) (data : Bytes) : Request Token
  | addGroup (d : Descriptor) : Request (List Token × Token)
  | addReserved (d : Descriptor) (elementTokens : List Token) (token : Token) : Request Token
  | addReferenced (d : Descriptor) (reserved : Option (List Token)) : Request Token
  | reserve (count : UInt32) : Request (List Token)
  | extendGroup (d : Descriptor) (token : Token) : Request (List Token)
  | addMemoryRanges (regions : List MemoryRegion) (limit : Nat) :
      Request (List MemoryRange × Token)
  | addInterrupts (lines : List InterruptLine) (limit : Nat) : Request (List Interrupt × Token)
  | listTable (table : Acpi.TableEntry) : Request Unit

def Request.perform : Request α → Action Store α
  | operation o                          => o.perform
  | find id token                        => Store.find id token
  | lookup id token                      => Store.lookup id token
  | lookupLogged id token                => Store.lookupLogged id token
  | sanityCheck                          => Store.sanityCheck
  | addSingle id data                    => Store.addSingle id data
  | addGroup d                           => Store.addGroup d
  | addReserved d elementTokens token    => Store.addReserved d elementTokens token
  | addReferenced d reserved             => Store.addReferenced d reserved
  | reserve count                        => Store.reserve count
  | extendGroup d token                  => Store.extendGroup d token
  | addMemoryRanges regions limit        => Store.addMemoryRanges regions limit
  | addInterrupts lines limit            => Store.addInterrupts lines limit
  | listTable table                      => Acpi.listTable table

-- Requests are made in any order and with any arguments. Each one may be refused, but none traps.
inductive Reachable (capacity : Nat) : Store → Prop
  | empty : Reachable capacity (.empty capacity)
  | request (r : Request α) : Reachable capacity s → (r.perform.result s).1 ≠ .trapped →
      Reachable capacity (r.perform.result s).2

-- What may become of `s` by further requests.
inductive Later (s : Store) : Store → Prop
  | refl : Later s s
  | request (r : Request α) : Later s t → (r.perform.result t).1 ≠ .trapped →
      Later s (r.perform.result t).2

end BoardFirmware.Store
