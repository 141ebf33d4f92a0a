import BoardFirmware.Proofs.Action.Result
import BoardFirmware.Proofs.Power.Requests

namespace BoardFirmware.Power

open BoardFirmware.Action

-- A channel on which every request is put down, with its code.
structure Recorded (χ : Type) where
  peer     : χ
  requests : List (UInt32 × Bytes)

instance [IpcChannel χ] : IpcChannel (Recorded χ) where
  communicate code request length r :=
    let (answer, peer) := IpcChannel.communicate code request length r.peer
    (answer, ⟨peer, r.requests ++ [(code, request)]⟩)

-- An operation on a clock, and what it is given.
inductive Operation where
  | rate (clock : UInt32)
  | setRate (clock : UInt32) (rate : UInt64)
  | setEnabled (clock : UInt32) (enabled : Bool)
  | setParent (clock parent : UInt32)
  | parent (clock : UInt32)
  | parents (clock : UInt32)
  | checkParent (clock parent : UInt32)
  | attributes (clock : UInt32)
  deriving DecidableEq

namespace Operation

def clock : Operation → UInt32
  | rate clock | setRate clock _ | setEnabled clock _ | setParent clock _ => clock
  | parent clock | parents clock | checkParent clock _ | attributes clock => clock

-- The commands that make up the operation.
def commands : Operation → List ClockCommand
  | rate _               => [.getRate]
  | setRate _ _          => [.setRate]
  | setEnabled _ enabled => [if enabled then .enable else .disable]
  | setParent _ _        => [.setParent]
  | parent _             => [.getParent]
  | parents _            => [.describe]
  | checkParent _ _      => [.describe]
  | attributes _         => [.isEnabled, .describe]

theorem commands_ne_nil (o : Operation) : o.commands ≠ [] := by
  cases o <;> exact List.cons_ne_nil _ _

-- The parent and the rate that go with the commands, if there is room for them.
def arguments : Operation → Option (UInt32 × UInt64)
  | setRate _ hertz   => some (0, hertz)
  | setParent _ other => some (other, 0)
  | parent _          => some (0, 0)
  | _                 => none

-- What the operation asks the processor for.
def requests (o : Operation) : List ClockRequest :=
  o.commands.map fun c => ⟨c.number, o.clock, o.arguments⟩

-- The operation changes the clock.
def Sets : Operation → Prop
  | setRate _ _ | setEnabled _ _ | setParent _ _ => True
  | _                                            => False

-- The change of a clock that a request asks for.
def ofRequest? (r : ClockRequest) : Option Operation :=
  if r.command = ClockCommand.setRate.number then
    r.arguments.map fun a => setRate r.clock a.2
  else if r.command = ClockCommand.setParent.number then
    r.arguments.map fun a => setParent r.clock a.1
  else if r.command = ClockCommand.enable.number then
    some (setEnabled r.clock true)
  else if r.command = ClockCommand.disable.number then
    some (setEnabled r.clock false)
  else
    none

-- A change of a clock can be told from its request.
theorem Sets.map_ofRequest? {o : Operation} (h : o.Sets) :
    o.requests.map ofRequest? = [some o] := by
  cases o
  case setRate                  => rfl
  case setParent                => rfl
  case setEnabled clock enabled => cases enabled <;> rfl
  all_goals exact h.elim

end Operation

namespace ClockTree

variable [IpcChannel χ]

-- Carries out the operation. What it returns is of no interest.
def perform : Operation → Action (ClockTree χ) Unit
  | .rate clock               => do let _ ← rate clock
  | .setRate clock rate       => setRate clock rate
  | .setEnabled clock enabled => setEnabled clock enabled
  | .setParent clock parent   => setParent clock parent
  | .parent clock             => do let _ ← parent clock
  | .parents clock            => do let _ ← parents clock
  | .checkParent clock parent => checkParent clock parent
  | .attributes clock         => do let _ ← attributes clock

-- Whatever the answers are, these are the requests that are sent, or the first of them if one is
-- refused.
def Sends (x : Action (ClockTree (Recorded χ)) α) (requests : List Bytes) : Prop :=
  ∀ t, ∃ sent, sent <+: requests ∧ (sent = [] → requests = []) ∧
    (x.result t).2.channel.requests = t.channel.requests ++ sent.map (clockRequests, ·) ∧
    ∀ a, (x.result t).1 = .done a → sent = requests

namespace Sends

variable {x : Action (ClockTree (Recorded χ)) α} {requests more : List Bytes}

section Quiet

omit [IpcChannel χ]

theorem of_state_eq (h : ∀ t, (x.result t).2 = t) : Sends x [] := by
  intro t
  refine ⟨[], List.prefix_rfl, fun _ => rfl, ?_, fun _ _ => rfl⟩
  rw [h t, List.map_nil, List.append_nil]

theorem pure (a : α) : Sends (pure a : Action (ClockTree (Recorded χ)) α) [] :=
  of_state_eq fun _ => rfl

theorem throw (e : Status) : Sends (throw e : Action (ClockTree (Recorded χ)) α) [] :=
  of_state_eq fun _ => rfl

theorem log (level : Level) (text : String) :
    Sends (Action.log level text : Action (ClockTree (Recorded χ)) Unit) [] :=
  of_state_eq fun _ => rfl

-- An operation that does not start with a request must not send one later either.
theorem bind {f : α → Action (ClockTree (Recorded χ)) β} (hx : Sends x requests)
    (hf : ∀ a, Sends (f a) more) (starts : requests = [] → more = []) :
    Sends (x >>= f) (requests ++ more) := by
  intro t
  have ⟨sent, first, started, after, complete⟩ := hx t
  have stopped : sent <+: requests ++ more ∧ (sent = [] → requests ++ more = []) := by
    refine ⟨first.trans (List.prefix_append ..), fun nothing => ?_⟩
    rw [started nothing, starts (started nothing), List.append_nil]
  rw [result_bind]
  rcases h : x.result t with ⟨_ | _ | _, u⟩ <;> rw [h] at after complete <;> dsimp only
  case done a =>
    have ⟨sent', first', started', after', complete'⟩ := hf a u
    obtain rfl := complete a rfl
    refine ⟨sent ++ sent', (List.prefix_append_right_inj sent).mpr first', fun nothing => ?_, ?_,
      fun b done => by rw [complete' b done]⟩
    · obtain ⟨rfl, rfl⟩ := List.append_eq_nil_iff.mp nothing
      rw [started' rfl, List.append_nil]
    · rw [after', after, List.map_append, List.append_assoc]
  case failed  => exact ⟨sent, stopped.1, stopped.2, after, fun _ => nofun⟩
  case trapped => exact ⟨sent, stopped.1, stopped.2, after, fun _ => nofun⟩

theorem ofOption (a : Option α) : Sends (Action.checked a : Action (ClockTree (Recorded χ)) α) [] :=
  of_state_eq fun _ => by cases a <;> rfl

theorem ite {p : Prop} [Decidable p] {y : Action (ClockTree (Recorded χ)) α}
    (hx : Sends x requests) (hy : Sends y requests) : Sends (if p then x else y) requests := by
  split
  case isTrue  => exact hx
  case isFalse => exact hy

-- What is done with the answer to a single request sends nothing more.
theorem then_nothing {request : Bytes} {f : α → Action (ClockTree (Recorded χ)) β}
    (hx : Sends x [request]) (hf : ∀ a, Sends (f a) []) : Sends (x >>= f) [request] :=
  hx.bind hf nofun

-- An operation on a clock that exists goes beyond the check.
theorem checked {clock : UInt32} (h : clock < maxClocks) (hx : Sends x requests) :
    Sends (checkClock clock >>= fun _ => x) requests := by
  rw [checkClock_of_lt h, pure_bind]
  exact hx

end Quiet

theorem send (request : Bytes) (length : Nat) :
    Sends (send request length : Action (ClockTree (Recorded χ)) Bytes) [request] := by
  intro t
  refine ⟨[request], List.prefix_rfl, nofun, ?_, fun _ _ => rfl⟩
  rw [ClockTree.send, result_bind_of_done (result_modifyGet ..)]
  cases IpcChannel.communicate clockRequests request length t.channel.peer |>.1
  case ok    => rfl
  case error => rfl

end Sends

-- The bytes that a command of the operation is sent as.
def bytesOf (o : Operation) (c : ClockCommand) : Bytes :=
  match o.arguments with
  | none           => Layout.encode (c.word o.clock)
  | some arguments => Layout.encode (c.word o.clock, arguments)

section Operations

variable {clock : UInt32} (valid : clock < maxClocks)

theorem sends_describe (clock : UInt32) :
    Sends (describe clock : Action (ClockTree (Recorded χ)) ClockDescription)
      [Layout.encode (ClockCommand.describe.word clock)] :=
  (Sends.send _ _).then_nothing fun _ => Sends.pure _

include valid

theorem sends_rate :
    Sends (rate clock : Action (ClockTree (Recorded χ)) UInt64)
      [Layout.encode (ClockCommand.getRate.word clock)] :=
  Sends.checked valid <| (Sends.send _ _).then_nothing fun _ => Sends.pure _

theorem sends_setRate (rate : UInt64) :
    Sends (setRate clock rate : Action (ClockTree (Recorded χ)) Unit)
      [Layout.encode (ClockCommand.setRate.word clock, (0 : UInt32), rate)] :=
  Sends.checked valid <| (Sends.send _ _).then_nothing fun _ =>
    Sends.ite (Sends.log _ _) (Sends.pure _)

theorem sends_setEnabled (enabled : Bool) :
    Sends (setEnabled clock enabled : Action (ClockTree (Recorded χ)) Unit)
      [Layout.encode ((if enabled then .enable else .disable : ClockCommand).word clock)] :=
  Sends.checked valid <| (Sends.send _ _).then_nothing fun _ => Sends.pure _

theorem sends_setParent (parent : UInt32) :
    Sends (setParent clock parent : Action (ClockTree (Recorded χ)) Unit)
      [Layout.encode (ClockCommand.setParent.word clock, parent, (0 : UInt64))] :=
  Sends.checked valid <| (Sends.send _ _).then_nothing fun _ => Sends.pure _

theorem sends_parent :
    Sends (parent clock : Action (ClockTree (Recorded χ)) UInt32)
      [Layout.encode (ClockCommand.getParent.word clock, (0 : UInt32), (0 : UInt64))] :=
  Sends.checked valid <| (Sends.send _ _).then_nothing fun _ => Sends.pure _

theorem sends_parents :
    Sends (parents clock : Action (ClockTree (Recorded χ)) (List UInt32))
      [Layout.encode (ClockCommand.describe.word clock)] :=
  Sends.checked valid <| (sends_describe clock).then_nothing fun _ => Sends.ofOption _

theorem sends_checkParent (parent : UInt32) :
    Sends (checkParent clock parent : Action (ClockTree (Recorded χ)) Unit)
      [Layout.encode (ClockCommand.describe.word clock)] :=
  (sends_parents valid).then_nothing fun _ => Sends.ite (Sends.pure _) (Sends.throw _)

theorem sends_attributes :
    Sends (attributes clock : Action (ClockTree (Recorded χ)) ClockAttributes)
      [Layout.encode (ClockCommand.isEnabled.word clock),
        Layout.encode (ClockCommand.describe.word clock)] := by
  refine Sends.checked valid <| (Sends.send _ _).bind (fun _ => ?_) nofun
  refine (sends_describe clock).then_nothing fun _ => ?_
  refine (Sends.ofOption _).bind (fun _ => ?_) fun _ => rfl
  refine (Sends.ofOption _).bind (fun _ => Sends.ite ?_ (Sends.pure _)) fun _ => rfl
  exact (Sends.log _ _).bind (fun _ => Sends.pure _) fun _ => rfl

end Operations

variable {o : Operation}

theorem sends_perform (valid : o.clock < maxClocks) :
    Sends (perform o : Action (ClockTree (Recorded χ)) Unit) (o.commands.map (bytesOf o)) := by
  cases o
  case rate        => exact (sends_rate valid).then_nothing fun _ => Sends.pure _
  case setRate     => exact sends_setRate valid _
  case setEnabled  => exact sends_setEnabled valid _
  case setParent   => exact sends_setParent valid _
  case parent      => exact (sends_parent valid).then_nothing fun _ => Sends.pure _
  case parents     => exact (sends_parents valid).then_nothing fun _ => Sends.pure _
  case checkParent => exact sends_checkParent valid _
  case attributes  =>
    exact (sends_attributes valid).bind (fun _ => Sends.pure _) nofun

theorem ofBytes?_bytesOf (valid : o.clock < maxClocks) (c : ClockCommand) :
    ClockRequest.ofBytes? (bytesOf o c) = some ⟨c.number, o.clock, o.arguments⟩ := by
  have small : o.clock.toNat < 0x1000000 := by
    have lt : o.clock.toNat < 0xffff := valid
    omega
  rw [bytesOf]
  cases o.arguments
  case none           => exact c.ofBytes?_encode small
  case some arguments => exact c.ofBytes?_encode_arguments small arguments.1 arguments.2

theorem result_perform_of_not_valid (invalid : maxClocks ≤ o.clock) (t : ClockTree χ) :
    (perform o).result t = (.failed .invalidParameter, t) := by
  have refused : ∀ clock, maxClocks ≤ clock →
      (checkClock clock : Action (ClockTree χ) Unit) = throw .invalidParameter :=
    fun _ h => if_pos h
  cases o
  case rate clock             => rw [perform, rate, refused clock invalid]; rfl
  case setRate clock rate     => rw [perform, setRate, refused clock invalid]; rfl
  case setEnabled clock _     => rw [perform, setEnabled, refused clock invalid]; rfl
  case setParent clock parent => rw [perform, setParent, refused clock invalid]; rfl
  case parent clock           => rw [perform, parent, refused clock invalid]; rfl
  case parents clock          => rw [perform, parents, refused clock invalid]; rfl
  case checkParent clock _    => rw [perform, checkParent, parents, refused clock invalid]; rfl
  case attributes clock       => rw [perform, attributes, refused clock invalid]; rfl

-- What the operation sends, each time with its code.
def sent (o : Operation) (peer : χ) : List (UInt32 × Bytes) :=
  ((perform o).run (⟨⟨peer, []⟩⟩ : ClockTree (Recorded χ))).state.channel.requests

-- What the processor reads.
def readAs (sent : List (UInt32 × Bytes)) : List (UInt32 × Option ClockRequest) :=
  sent.map fun (code, request) => (code, ClockRequest.ofBytes? request)

theorem readAs_sent (valid : o.clock < maxClocks) (peer : χ) :
    sent o peer ≠ [] ∧
      readAs (sent o peer) <+: o.requests.map fun request => (clockRequests, some request) := by
  have ⟨requests, first, started, after, _⟩ :=
    sends_perform valid (⟨⟨peer, []⟩⟩ : ClockTree (Recorded χ))
  have sent_eq : sent o peer = requests.map (clockRequests, ·) := after
  have read : readAs (sent o peer) =
      requests.map fun request => (clockRequests, ClockRequest.ofBytes? request) := by
    rw [sent_eq, readAs, List.map_map]
    rfl
  refine ⟨fun nothing => ?_, ?_⟩
  · rw [sent_eq, List.map_eq_nil_iff] at nothing
    exact o.commands_ne_nil (List.map_eq_nil_iff.mp (started nothing))
  · have planned : (o.commands.map (bytesOf o)).map
        (fun request => (clockRequests, ClockRequest.ofBytes? request)) =
        o.requests.map fun request => (clockRequests, some request) := by
      rw [Operation.requests, List.map_map, List.map_map]
      exact List.map_congr_left fun c _ =>
        congrArg (Prod.mk clockRequests) (ofBytes?_bytesOf valid c)
    rw [read, ← planned]
    exact first.map _

theorem readAs_sent_of_sets (sets : o.Sets) (valid : o.clock < maxClocks) (peer : χ) :
    readAs (sent o peer) = o.requests.map fun request => (clockRequests, some request) := by
  have ⟨ne, first⟩ := readAs_sent valid peer
  refine first.eq_of_length_le ?_
  have one : o.requests.length = 1 := by
    have told := congrArg List.length sets.map_ofRequest?
    rwa [List.length_map] at told
  rw [List.length_map, one, readAs, List.length_map]
  exact List.length_pos_iff.mpr ne

-- The processor is asked for what the caller wants: the requests have the numbers that the caller
-- gave, and two changes of clocks that are sent as the same bytes are the same. Nothing is sent for
-- a clock that can't exist.
theorem requests_faithful (o : Operation) (peer : χ) :
    (o.clock < maxClocks →
      sent o peer ≠ [] ∧
      readAs (sent o peer) <+: o.requests.map fun request => (clockRequests, some request)) ∧
    (∀ (o' : Operation) (peer' : χ), o.Sets → o'.Sets → o.clock < maxClocks →
      o'.clock < maxClocks → sent o peer = sent o' peer' → o = o') ∧
    (maxClocks ≤ o.clock →
      (perform o).result (⟨⟨peer, []⟩⟩ : ClockTree (Recorded χ)) =
        (.failed .invalidParameter, ⟨⟨peer, []⟩⟩)) := by
  refine ⟨fun valid => readAs_sent valid peer, ?_,
    fun invalid => result_perform_of_not_valid invalid _⟩
  intro o' peer' sets sets' valid valid' same
  have read : o.requests.map (fun request => (clockRequests, some request)) =
      o'.requests.map fun request => (clockRequests, some request) := by
    rw [← readAs_sent_of_sets sets valid peer, same, readAs_sent_of_sets sets' valid' peer']
  have requests_eq : o.requests = o'.requests :=
    (List.map_inj_right fun _ _ eq => Option.some.inj (Prod.mk.inj eq).2).mp read
  have told := sets.map_ofRequest?
  rw [requests_eq, sets'.map_ofRequest?] at told
  exact (Option.some.inj (List.cons.inj told).1).symm

-- A processor that refuses every request.
structure Refusing where

instance : IpcChannel Refusing where
  communicate _ _ _ r := (.error (.message IpcError.invalidArgument), r)

-- The last clock that there can be, a clock that is turned on or off, and the first one that there
-- can't be.
theorem requests_faithful_refused :
    (sent (.setRate 0xfffe 204000123) Refusing.mk ≠ [] ∧
      readAs (sent (.setRate 0xfffe 204000123) Refusing.mk) <+:
        [(22, some ⟨2, 0xfffe, some (0, 204000123)⟩)]) ∧
    sent (.setEnabled 1 true) Refusing.mk ≠ sent (.setEnabled 1 false) Refusing.mk ∧
    (perform (.setEnabled 0xffff true)).result (⟨⟨⟨⟩, []⟩⟩ : ClockTree (Recorded Refusing)) =
      (.failed .invalidParameter, ⟨⟨⟨⟩, []⟩⟩) := by
  refine ⟨?_, fun same => ?_, ?_⟩
  · exact (requests_faithful (.setRate 0xfffe 204000123) Refusing.mk).1 (by decide)
  · have eq := (requests_faithful (.setEnabled 1 true) Refusing.mk).2.1 (.setEnabled 1 false)
      Refusing.mk trivial trivial (by decide) (by decide) same
    cases eq
  · exact (requests_faithful (.setEnabled 0xffff true) Refusing.mk).2.2 (by decide)

end ClockTree

end BoardFirmware.Power
