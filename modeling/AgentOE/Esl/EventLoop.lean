import AgentOE.Esl.Client

/-! The event loop runs the event handler itself, so while a handler sends a
command nobody reads the connection. The loop's own commands are the calls of
`none`, those of the other goroutines the calls of `some c`. -/
namespace AgentOE.Esl.EventLoop
open Transition Client

/-- What the handlers read of the session store. A Redis store that does not
answer refuses every session. -/
structure Store where
  known : List Bytes
  active : Nat
  maxSessions : Nat
  available : Bool
  deriving DecidableEq

namespace Store

def getByFSUUID (store : Store) (fsUUID : Bytes) : Bool := decide (fsUUID ∈ store.known)

/-- `none` when the session is refused. -/
def addIfUnderCapacity (store : Store) (fsUUID : Bytes) : Option Store :=
  if store.available ∧ store.active < store.maxSessions then
    some { store with
      known := if fsUUID = [] then store.known else fsUUID :: store.known
      active := store.active + 1 }
  else none

def release (store : Store) (fsUUID : Bytes) : Store :=
  { store with known := store.known.erase fsUUID, active := store.active - 1 }

end Store

/-- The store after the handler, and the channel it kills before it returns. -/
def onChannelCreate (store : Store) (event : Event) : Store × Option Bytes :=
  if store.getByFSUUID event.uuid then (store, none)
  else match store.addIfUnderCapacity event.uuid with
    | some next => (next, none)
    | none => (store, some event.uuid)

def onChannelHangup (store : Store) (event : Event) : Store :=
  if store.getByFSUUID event.uuid then store.release event.uuid else store

/-- The other handlers leave the store alone and send no command themselves:
the IVR of a parked channel runs in goroutines of its own. -/
def handleESLEvent (store : Store) (event : Event) : Store × Option Bytes :=
  if event.name = ascii "CHANNEL_CREATE" then onChannelCreate store event
  else if event.name = ascii "CHANNEL_HANGUP_COMPLETE" then (onChannelHangup store event, none)
  else (store, none)

/-- `killing` is the channel that the running handler wants to kill. -/
structure State (C : Type) where
  client : Client.State (Option C)
  killing : Option Bytes
  store : Store

def State.initial (C : Type) (store : Store) : State C := ⟨.initial (Option C), none, store⟩

inductive Action (C : Type) where
  | client (action : Client.Action (Option C))
  /-- Other goroutines and other nodes add and release sessions. -/
  | storeChanges (store : Store)

variable {C : Type} [DecidableEq C]

/-- Whose turn an action is: reading and reconnecting belong to the loop between
two handlers, the calls of `none` to the handler. -/
def Turn (killing : Option Bytes) : Client.Action (Option C) → Bool
  | .call none _ | .receive none | .abandon none => killing.isSome
  | .reply _ | .notice _ | .read | .dial => killing.isNone
  | _ => true

/-- Whether the handler is through with its command. -/
def killed (client : Client.State (Option C)) : Bool :=
  match client.status none with
  | .returned _ => true
  | _ => false

def step (σ : State C) : Action C → Option (State C)
  | .client action =>
    if Turn σ.killing action then
      match stepEvent σ.client action with
      | none => none
      | some (client, some event) =>
        let (store, killing) := handleESLEvent σ.store event
        some ⟨client, killing, store⟩
      | some (client, none) => match action with
        | .call none _ | .receive none | .abandon none =>
          some ⟨client, if killed client then none else σ.killing, σ.store⟩
        | _ => some { σ with client := client }
    else none
  | .storeChanges store => some { σ with store := store }

/-- The handler waits for `apiRespCh`, or for the mutex of a caller that does,
and there is nothing to receive. -/
def Blocked (σ : State C) : Prop :=
  σ.killing.isSome ∧ σ.client.apiRespCh = [] ∧
    (σ.client.status none = .waiting ∨ ∃ c, σ.client.mu = some (some c))

/-- If the event announces a channel without a session, the store has room for it. -/
def Store.admits (store : Store) (event : Event) : Bool :=
  event.name ≠ ascii "CHANNEL_CREATE" || store.getByFSUUID event.uuid ||
    (store.addIfUnderCapacity event.uuid).isSome

/-- The store admits the event that this action hands to the handler, if any. -/
def roomForInbound (σ : State C) : Action C → Bool
  | .client action => match stepEvent σ.client action with
    | some (_, some event) => σ.store.admits event
    | _ => true
  | .storeChanges _ => true

theorem handleESLEvent_no_kill {store : Store} {event : Event}
    (admits : store.admits event = true) : (handleESLEvent store event).2 = none := by
  unfold handleESLEvent
  split
  · rename_i create
    unfold onChannelCreate
    split
    · rfl
    · rename_i unknown
      have room : (store.addIfUnderCapacity event.uuid).isSome = true := by
        simpa [Store.admits, create, unknown] using admits
      obtain ⟨next, added⟩ := Option.isSome_iff_exists.mp room
      rw [added]
  · split <;> rfl

def Idle (σ : State C) : Prop := σ.killing = none

theorem step_idle {σ τ : State C} {action : Action C} (idle : Idle σ)
    (room : roomForInbound σ action = true) (stepped : step σ action = some τ) : Idle τ := by
  cases action with
  | storeChanges store =>
    cases Option.some.inj stepped
    exact idle
  | client action =>
    simp only [step] at stepped
    split at stepped
    · split at stepped
      · cases stepped
      · rename_i client event result
        cases Option.some.inj stepped
        simp only [roomForInbound, result] at room
        exact handleESLEvent_no_kill room
      · unfold Idle at idle
        split at stepped
        all_goals
          cases Option.some.inj stepped
          simp [Idle, idle]
    · cases stepped

/-- As long as inbound channels find room, the loop never sends a command. -/
theorem eventLoop_never_blocked (store : Store) (actions : List (Action C)) (σ : State C)
    (room : Along step (roomForInbound · · = true) (State.initial C store) actions)
    (reached : exec step (State.initial C store) actions = some σ) : ¬Blocked σ := by
  have idle : Idle σ := exec_invariant step_idle room reached rfl
  rintro ⟨killing, -⟩
  rw [idle] at killing
  cases killing

def inboundCall : Bytes := ascii "Event-Name: CHANNEL_CREATE\nUnique-ID: 6ba7b810\n\n"

/-- A call comes in while another goroutine waits for its reply. -/
def callDuringRequest : List (Client.Action (Option Unit)) :=
  handshake ++ [Client.Action.call (some ()) .sent, Client.Action.notice inboundCall]

def callRejected : List (Client.Action (Option Unit)) :=
  handshake ++ [Client.Action.notice inboundCall, Client.Action.call none .sent]

theorem eventLoop_never_blocked_with_room :
    ∃ σ, exec step (State.initial Unit ⟨[], 0, 1, true⟩) (callDuringRequest.map .client) = some σ ∧
      σ.store.active = 1 ∧ ¬Blocked σ := by
  have result : (exec step (State.initial Unit ⟨[], 0, 1, true⟩)
      (callDuringRequest.map .client)).map (·.store.active) = some 1 := by
    decide +kernel
  obtain ⟨σ, reached, active⟩ := Option.map_eq_some_iff.mp result
  refine ⟨σ, reached, active, eventLoop_never_blocked _ _ σ ?_ reached⟩
  decide +kernel

/-- The same call meets a full store: the loop waits for the mutex of the
request whose reply it should read. Without the request it waits for its own. -/
theorem eventLoop_blocked_at_capacity :
    (∃ σ, exec step (State.initial Unit ⟨[], 1, 1, true⟩) (callDuringRequest.map .client) =
      some σ ∧ Blocked σ) ∧
    ∃ σ, exec step (State.initial Unit ⟨[], 1, 1, true⟩) (callRejected.map .client) =
      some σ ∧ Blocked σ := by
  constructor
  · have result : (exec step (State.initial Unit ⟨[], 1, 1, true⟩)
        (callDuringRequest.map .client)).map
        (fun σ => (σ.killing.isSome, σ.client.apiRespCh, σ.client.mu)) =
        some (true, [], some (some ())) := by
      decide +kernel
    obtain ⟨σ, reached, state⟩ := Option.map_eq_some_iff.mp result
    obtain ⟨killing, channel⟩ := Prod.mk.inj state
    obtain ⟨empty, locked⟩ := Prod.mk.inj channel
    exact ⟨σ, reached, killing, empty, .inr ⟨(), locked⟩⟩
  · have result : (exec step (State.initial Unit ⟨[], 1, 1, true⟩) (callRejected.map .client)).map
        (fun σ => (σ.killing.isSome, σ.client.apiRespCh, σ.client.status none)) =
        some (true, [], .waiting) := by
      decide +kernel
    obtain ⟨σ, reached, state⟩ := Option.map_eq_some_iff.mp result
    obtain ⟨killing, channel⟩ := Prod.mk.inj state
    obtain ⟨empty, waiting⟩ := Prod.mk.inj channel
    exact ⟨σ, reached, killing, empty, .inl waiting⟩

end AgentOE.Esl.EventLoop
