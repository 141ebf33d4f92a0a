import BoardFirmware.Bytes.Layout
import BoardFirmware.Store.ObjectId
import BoardFirmware.Store.Token
import BoardFirmware.Word

namespace BoardFirmware

-- Elements of equal size back to back. They are found by the identifier and a token: that of the
-- entry, or that of an element.
structure Entry where
  id            : ObjectId
  data          : Bytes
  count         : UInt32
  token         : Token
  elementTokens : List Token
  deriving DecidableEq

-- A view of stored elements, or of elements to be stored.
structure Descriptor where
  id    : ObjectId
  data  : Bytes
  count : UInt32
  deriving DecidableEq

namespace Descriptor

-- The number of bytes of all elements.
def size (d : Descriptor) : Nat :=
  d.data.length

-- The elements as values of a fixed layout.
def elements (α : Type) [Layout α] (d : Descriptor) : Except Status (List α) :=
  Layout.readAll d.data

end Descriptor

namespace Entry

def descriptor (e : Entry) : Descriptor :=
  ⟨e.id, e.data, e.count⟩

-- The bytes of one element, rounded down. There is no such number without elements.
def elementSize? (e : Entry) : Option Nat :=
  if e.count = 0 then none else some (e.data.length / e.count.toNat)

-- Whether the entry is found by `id` and `token`. The null token stands for any token.
def Matches (e : Entry) (id : ObjectId) (token : Token) : Prop :=
  e.id = id ∧ (token.isNull ∨ token = e.token ∨ token ∈ e.elementTokens)

instance (e : Entry) (id : ObjectId) (token : Token) : Decidable (e.Matches id token) := by
  unfold Matches
  infer_instance

-- The entry with more elements at its end, `count` of them in all.
def grown (e : Entry) (data : Bytes) (tokens : List Token) (count : UInt32) : Entry :=
  { e with data := e.data ++ data, elementTokens := e.elementTokens ++ tokens, count }

end Entry

structure Store where
  entries  : List Entry
  capacity : Nat
  tokens   : TokenSource
  deriving DecidableEq

namespace Store

def empty (capacity : Nat) : Store :=
  ⟨[], capacity, {}⟩

-- The index of the first entry found by `id` and `token`.
def indexOf? (s : Store) (id : ObjectId) (token : Token) : Option Nat :=
  s.entries.findIdx? (·.Matches id token)

-- How many tokens the elements of a new entry need. References are found by the token of the whole
-- list, so they need one however many they are.
def tokensNeeded (id : ObjectId) (count : UInt32) : Nat :=
  if id = .references then 1 else count.toNat

def allocate (count : Nat) : Action Store (List Token) :=
  .within tokens (fun t s => { s with tokens := t }) (TokenSource.allocate count)

def allocateOne : Action Store Token := do
  match ← allocate 1 with
  | token :: _ => return token
  | []         => throw .outOfResources

def checkRoom (count : UInt32) : Action Store Unit := do
  let s ← get
  if count = 0 then
    Action.error "Object count can't be 0"
    throw .invalidParameter
  if s.capacity ≤ s.entries.length then
    let current := s.entries.length
    Action.error
      s!"Can't add a new entry (current entries = {current}, max entries = {s.capacity})"
    throw .outOfResources

-- Adds an entry under tokens that the caller chose. Surplus element tokens are left out.
def addWithTokens (id : ObjectId) (data : Bytes) (count : UInt32) (elementTokens : List Token)
    (token : Token) : Action Store Unit := do
  checkRoom count
  let needed := tokensNeeded id count
  if elementTokens.length < needed then
    let given := elementTokens.length
    Action.error s!"Token map for {id.describe} has {given} tokens but {needed} are needed"
    throw .invalidParameter
  modify fun s =>
    { s with entries := s.entries ++ [⟨id, data, count, token, elementTokens.take needed⟩] }

-- Adds an entry under new tokens: one for each element, and the last one for the entry.
def add (id : ObjectId) (data : Bytes) (count : UInt32) : Action Store (List Token × Token) := do
  checkRoom count
  let tokens ← allocate (count.toNat + 1)
  match tokens.getLast? with
  | none       => throw .outOfResources
  | some token =>
    -- There are no fewer tokens than elements, so the entry is not refused any more.
    let elementTokens := tokens.dropLast
    addWithTokens id data count elementTokens token
    return (elementTokens, token)

-- Adds an entry whose elements have tokens already. A null entry token is replaced by a new one,
-- which is used up even if the entry is refused.
def addWithElementTokens (id : ObjectId) (data : Bytes) (count : UInt32)
    (elementTokens : List Token) (token : Token) : Action Store Token := do
  let token ← if token.isNull then allocateOne else pure token
  addWithTokens id data count elementTokens token
  return token

-- Refuses a look-up that found nothing.
def refuseMissing (id : ObjectId) (token : Token) : Action Store α := do
  Action.info s!"Failed to find an entry with ID {id}, token {token}"
  let s ← get
  s.entries.zipIdx.forM fun (e, index) => Action.debug s!"Entry[{index}] has ID {e.id}"
  throw .notFound

-- The first entry found by `id` and `token`, with its index.
def findIndexed (id : ObjectId) (token : Token) : Action Store (Nat × Entry) := do
  let s ← get
  match s.indexOf? id token with
  | none       => refuseMissing id token
  | some index =>
    match s.entries[index]? with
    | none   => refuseMissing id token
    | some e => return (index, e)

def find (id : ObjectId) (token : Token) : Action Store Entry := do
  return (← findIndexed id token).2

-- The object that `id` and `token` refer to: one element if the token is that of an element, and
-- the whole entry otherwise. A list of references is never taken apart.
def lookup (id : ObjectId) (token : Token) : Action Store Descriptor := do
  let e ← find id token
  if token.isNull ∨ token = e.token ∨ e.id = .references then
    return e.descriptor
  match e.elementTokens.idxOf? token with
  | none       => throw .notFound
  | some index =>
    -- Elements lie in the order of their tokens.
    let size ← Action.checked e.elementSize?
    if (index + 1) * size ≤ e.data.length then
      return ⟨id, e.data.slice (index * size) size, 1⟩
    else
      throw .notFound

-- Adds `count` elements at the end of the entry that `id` and `token` find. They must have the size
-- of those already there. Returns their tokens.
def extend (id : ObjectId) (data : Bytes) (count : UInt32) (token : Token) :
    Action Store (List Token) := do
  if count = 0 then
    Action.error s!"Can't extend {id.describe} by 0 elements"
    throw .invalidParameter
  if id = .references then
    Action.error "Can't extend CmRef objects"
    throw .invalidParameter
  let (index, e) ← findIndexed id token
  -- Both sizes are rounded down.
  let size ← Action.checked e.elementSize?
  let newSize := data.length / count.toNat
  if size ≠ newSize then
    Action.error <|
      s!"Previous element size of {id.describe} is {size}, " ++
      s!"but extended element size is {newSize}"
    throw .invalidParameter
  -- Nothing has changed so far, and after this there is no more refusal.
  let tokens ← allocate count.toNat
  let total ← Action.checked (Word.add32? e.count count)
  modify fun s => { s with entries := s.entries.modify index (·.grown data tokens total) }
  return tokens

end Store

end BoardFirmware
