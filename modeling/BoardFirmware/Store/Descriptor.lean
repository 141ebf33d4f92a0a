import BoardFirmware.Store.Basic

namespace BoardFirmware

-- Describes `count` elements of equal size that lie back to back in `data`.
def Descriptor.ofElements (id : ObjectId) (count : UInt32) (data : Bytes) :
    Action σ Descriptor := do
  if count = 0 then
    Action.error "Count can't be 0"
    throw .invalidParameter
  if data.length % count.toNat ≠ 0 then
    let length := data.length
    Action.error s!"{length} bytes of {id.describe} can't be split into {count} elements"
    throw .invalidParameter
  return ⟨id, data, count⟩

-- The bytes of a list of references.
def Token.bytesOf (tokens : List Token) : Bytes :=
  Layout.writeAll (tokens.map value)

namespace Store

def checkDescriptor (d : Descriptor) : Action Store Unit := do
  if d.count = 0 then
    Action.error "Descriptor count can't be 0"
    throw .invalidParameter

-- Adds a single object. A list of references has as many elements as it has tokens.
def addSingle (id : ObjectId) (data : Bytes) : Action Store Token := do
  let count := if id = .references then UInt32.ofNat (data.length / 8) else 1
  return (← add id data count).2

def addGroup (d : Descriptor) : Action Store (List Token × Token) := do
  checkDescriptor d
  add d.id d.data d.count

-- Adds elements under tokens that were allocated before. A null entry token is replaced.
def addReserved (d : Descriptor) (elementTokens : List Token) (token : Token) :
    Action Store Token := do
  checkDescriptor d
  addWithElementTokens d.id d.data d.count elementTokens token

-- Adds elements, under the given tokens if there are any, and returns the tokens they have.
def addElements (d : Descriptor) : Option (List Token) → Action Store (List Token)
  | none => return (← add d.id d.data d.count).1
  | some reserved => do
    let _ ← addWithElementTokens d.id d.data d.count reserved .null
    -- A list of references was content with one token, but here each element needs one.
    if reserved.length < d.count.toNat then
      throw .invalidParameter
    return reserved.take d.count.toNat

-- Adds elements and a list of references to them, and returns the token of the list.
def addReferenced (d : Descriptor) (reserved : Option (List Token)) : Action Store Token := do
  checkDescriptor d
  let tokens ← addElements d reserved
  return (← add .references (Token.bytesOf tokens) d.count).2

def reserve (count : UInt32) : Action Store (List Token) := do
  if count = 0 then
    Action.error "Count can't be 0"
    throw .invalidParameter
  allocate count.toNat

def extendGroup (d : Descriptor) (token : Token) : Action Store (List Token) :=
  extend d.id d.data d.count token

-- Finds an object and tells what came of it.
def lookupLogged (id : ObjectId) (token : Token) : Action Store Descriptor := do
  let result ← (lookup id token).attempt
  let found := match result with
    | .ok d    => s!"Ok({d.count})"
    | .error e => s!"Err({e.name})"
  Action.debug s!"Finding {id.describe} with token {token} returned {found}"
  Action.ofExcept result

end Store

end BoardFirmware
