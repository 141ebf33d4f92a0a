import BoardFirmware.Action

namespace BoardFirmware

-- Refers to a stored object.
structure Token where
  value : UInt64
  deriving DecidableEq

namespace Token

def null : Token := ⟨0⟩

def isNull (t : Token) : Bool :=
  t.value == null.value

instance : ToString Token := ⟨fun t => toString t.value⟩

def describe (t : Token) : String :=
  s!"CmToken({t.value})"

-- The first token given out.
def first : Token := ⟨1⟩

end Token

-- Gives out tokens, the lowest first. When all are out, the next one is null.
structure TokenSource where
  next : UInt64 := Token.first.value
  deriving DecidableEq

namespace TokenSource

-- Whether `count` more tokens can be given out before null would be reached.
def Provides (s : TokenSource) (count : Nat) : Prop :=
  count = 0 ∨ s.next ≠ Token.null.value ∧ s.next.toNat + count ≤ UInt64.size

instance (s : TokenSource) (count : Nat) : Decidable (s.Provides count) := by
  unfold Provides
  infer_instance

-- The next `count` tokens.
def upcoming (s : TokenSource) (count : Nat) : List Token :=
  (List.range count).map fun i => ⟨s.next + UInt64.ofNat i⟩

def advance (s : TokenSource) (count : Nat) : TokenSource :=
  ⟨s.next + UInt64.ofNat count⟩

-- The most tokens that are given out at once. They come as one piece of memory with eight bytes for
-- each, and there are no pieces of 2⁶³ bytes.
def maxRequest : Nat := 0x0fffffffffffffff

-- Gives out `count` consecutive tokens, or none at all.
def allocate (count : Nat) : Action TokenSource (List Token) := do
  let s ← get
  if ¬s.Provides count then
    Action.error
      s!"Requested {count} tokens, but allocating them after {s.next} would overflow the null token"
    throw .outOfResources
  if maxRequest < count then
    Action.trap
  set (s.advance count)
  return s.upcoming count

@[simp] theorem length_upcoming (s : TokenSource) (count : Nat) :
    (s.upcoming count).length = count := by
  simp [upcoming]

end TokenSource

end BoardFirmware
