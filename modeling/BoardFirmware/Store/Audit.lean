import BoardFirmware.Store.Basic
import BoardFirmware.Store.Bitmap

namespace BoardFirmware

structure Audit where
  -- The last token given out.
  last : UInt64
  -- The tokens that were met.
  seen : Bitmap
  deriving DecidableEq

namespace Audit

-- An audit that has met no token yet.
def start (source : TokenSource) : Audit :=
  let last := source.next - 1
  ⟨last, .clear (last - Token.first.value + 1)⟩

def check (token : Token) : Action Audit Unit := do
  unless token.isNull do
    let a ← get
    if token.value < Token.first.value ∨ a.last < token.value then
      Action.error s!"Token {token} is out of range"
      throw .invalidParameter
    let bit := token.value - Token.first.value
    match a.seen.test? bit with
    -- The bitmap reaches up to the last token, so there is always a word for the bit.
    | none       => Action.trap
    | some true  =>
      Action.error s!"Token {token} has already been seen"
      throw .deviceError
    | some false => set { a with seen := a.seen.mark bit }

def checkEntry (e : Entry) (index : Nat) : Action Audit Unit := do
  (check e.token).explaining fun status => s!"Got {status} for entry {index}"
  e.elementTokens.zipIdx.forM fun (token, element) =>
    (check token).explaining fun status => s!"Got {status} for entry {index} element {element}"

def checkEntries (entries : List Entry) : Action Audit Unit :=
  entries.zipIdx.forM fun (e, index) => checkEntry e index

end Audit

namespace Store

-- Refuses as soon as a token is met that was never given out, or that is stored twice.
def sanityCheck : Action Store Unit := do
  let s ← get
  let audit := Audit.start s.tokens
  Action.log .trace s!"Sanity checking tokens {Token.first} to {audit.last}"
  Action.within (fun _ => audit) (fun _ s => s) (Audit.checkEntries s.entries)

end Store

end BoardFirmware
