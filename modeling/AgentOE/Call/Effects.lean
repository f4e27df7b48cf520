import AgentOE.Coroutine
import AgentOE.Session.Restore

/-! A live call: the orchestrator's own state, and the log of what it asked of the
vendors, the CTI and the repository. How each of these ends is told beforehand.
Tasks are not cancelled here, and a call reads the clock once. -/
namespace AgentOE.Call
open Session Coroutine

/-- `serviceName` is set for a `CircuitBreakerOpenError`. -/
structure Exc where
  message : String
  serviceName : Option String
  deriving DecidableEq, Repr

inductive TransferReason where
  | g4Policy
  | g5Policy
  | customerRequest
  | repeatedFailure
  | toolTimeout
  | manual
  deriving DecidableEq, Repr

def TransferReason.value : TransferReason → String
  | .g4Policy => "G4_POLICY"
  | .g5Policy => "G5_POLICY"
  | .customerRequest => "CUSTOMER_REQUEST"
  | .repeatedFailure => "REPEATED_FAILURE"
  | .toolTimeout => "TOOL_TIMEOUT"
  | .manual => "MANUAL"

def transferReasons : List TransferReason :=
  [.g4Policy, .g5Policy, .customerRequest, .repeatedFailure, .toolTimeout, .manual]

structure TransferRequest where
  sessionId : String
  tenantId : String
  reason : TransferReason
  contextSummary : String
  policyLevel : String
  priority : Nat
  requestedAt : Nat
  deriving DecidableEq, Repr

/-- What the code asks of the outside. `requestTransfer` is the call of the
transfer service itself. -/
inductive Effect where
  | transcribe (audio : List UInt8)
  | complete (text : String) (history : List Message)
  | synthesize (text : String)
  | requestTransfer (request : TransferRequest)
  | dispatch (request : TransferRequest)
  | saveTransferInfo (request : TransferRequest) (retryCount : Nat)
  | updateState (state : SessionState) (extra : Dict) (fsm : SessionFSM)
  | saveTurn (turn : List Message) (latency : Dict) (policyLevel : String) (fsm : SessionFSM)
  | endSession (reason : String) (fsm : SessionFSM)
  deriving DecidableEq, Repr

/-- `emitted` are the events that the public methods have returned so far. -/
structure World where
  orchestrator : Orchestrator
  effects : List Effect
  emitted : List OutboundEvent
  deriving DecidableEq, Repr

def World.new (orchestrator : Orchestrator) : World := ⟨orchestrator, [], []⟩

abbrev World.fsm (σ : World) : SessionFSM := σ.orchestrator.fsm

abbrev World.state (σ : World) : SessionState := σ.orchestrator.fsm.state

def World.setFsm (σ : World) (fsm : SessionFSM) : World :=
  { σ with orchestrator := { σ.orchestrator with fsm := fsm } }

def World.log (σ : World) (effect : Effect) : World := { σ with effects := σ.effects ++ [effect] }

abbrev Running := Coroutine World Exc

/-- The text of the `ValueError`. Python leaves the order of a printed set open;
it is the order of the table here. -/
def invalidTransition (fromState toState : SessionState) : Exc where
  message :=
    let name (state : SessionState) :=
      "<SessionState." ++ state.value ++ ": '" ++ state.value ++ "'>"
    let allowed := match SessionFSM.validTransitions fromState with
      | [] => "set()"
      | states => "\x7b" ++ ", ".intercalate (states.map name) ++ "\x7d"
    "Invalid transition: " ++ fromState.value ++ " → " ++ toState.value ++ ". Allowed: " ++ allowed
  serviceName := none

def transition (toState : SessionState) (now : Nat) (metadata : Dict) : Running Unit := fun σ =>
  match σ.fsm.transition toState now metadata with
  | some fsm => (.ok (), σ.setFsm fsm)
  | none => (.error (invalidTransition σ.state toState), σ)

def recordEvent (eventType : SessionEventType) (now : Nat) (metadata : Dict) : Running Unit :=
  modify fun σ => σ.setFsm (σ.fsm.recordEvent eventType now metadata)

/-- An await with an effect outside, and how it ends. -/
def perform (effect : Effect) (result : Except Exc α) : Running α := fun σ => (result, σ.log effect)

/-- The world after code that changes only the state machine and asks for more. -/
def World.after (σ : World) (fsm : SessionFSM) (effects : List Effect) : World :=
  { σ with orchestrator := { σ.orchestrator with fsm := fsm }, effects := σ.effects ++ effects }

/-! What the primitive steps do, with `after` as the normal form. -/

section Primitives
variable {σ : World}

@[simp] theorem after_fsm : (σ.after fsm effects).orchestrator.fsm = fsm := rfl

@[simp] theorem after_state : (σ.after fsm effects).state = fsm.state := rfl

@[simp] theorem after_effects : (σ.after fsm effects).effects = σ.effects ++ effects := rfl

@[simp] theorem after_after : (σ.after fsm effects).after fsm' effects' =
    σ.after fsm' (effects ++ effects') := by
  simp [World.after]

theorem after_self : σ.after σ.fsm [] = σ := by
  simp [World.after]

theorem setFsm_eq_after : σ.setFsm fsm = σ.after fsm [] := by
  simp [World.setFsm, World.after]

theorem recordEvent_apply : recordEvent eventType now metadata σ =
    (.ok (), σ.after (σ.fsm.recordEvent eventType now metadata) []) := by
  simp [recordEvent, setFsm_eq_after]

theorem perform_apply (effect : Effect) (result : Except Exc α) :
    perform effect result σ = (result, σ.after σ.fsm [effect]) := rfl

theorem perform_bind_ok (effect : Effect) (f : α → Running β) (returned : result = .ok a) :
    (perform effect result >>= f) σ = f a (σ.after σ.fsm [effect]) :=
  bind_ok f (by rw [perform_apply, returned])

theorem perform_bind_error (effect : Effect) (f : α → Running β) (failed : result = .error e) :
    (perform effect result >>= f) σ = (.error e, σ.after σ.fsm [effect]) :=
  bind_error f (by rw [perform_apply, failed])

/-- The machine after a transition that the table allows. -/
def moved (fsm : SessionFSM) (toState : SessionState) (now : Nat) (metadata : Dict) : SessionFSM :=
  ⟨toState, fsm.events ++ [⟨.stateChanged, some fsm.state, some toState, now, metadata⟩]⟩

@[simp] theorem moved_state : (moved fsm toState now metadata).state = toState := rfl

theorem transition_allowed (allowed : toState ∈ SessionFSM.validTransitions σ.state) :
    transition toState now metadata σ = (.ok (),
      σ.after (moved σ.fsm toState now metadata) []) := by
  simp [transition, SessionFSM.transition, SessionFSM.canTransition, allowed, moved,
    setFsm_eq_after]

theorem transition_refused (refused : toState ∉ SessionFSM.validTransitions σ.state) :
    transition toState now metadata σ = (.error (invalidTransition σ.state toState), σ) := by
  simp [transition, SessionFSM.transition, SessionFSM.canTransition, refused]

end Primitives

end AgentOE.Call
