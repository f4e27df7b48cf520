import Mathlib.Logic.Function.Basic

/-! The voice session state machine and its snapshot. Timestamps are inputs: a
snapshot stores them as ISO text and reads the same instant back. -/
namespace AgentOE.Session

/-- Scalar values of the dictionaries kept with events and payloads. -/
inductive Value where
  | null
  | bool (b : Bool)
  | int (n : Int)
  | str (s : String)
  deriving DecidableEq, Repr

abbrev Dict := List (String × Value)

inductive SessionState where
  | idle
  | listening
  | speakingDetected
  | processing
  | inferring
  | responding
  | transferRequested
  | transferAccepted
  | transferFailed
  | ended
  deriving DecidableEq, Repr

def SessionState.value : SessionState → String
  | .idle => "IDLE"
  | .listening => "LISTENING"
  | .speakingDetected => "SPEAKING_DETECTED"
  | .processing => "PROCESSING"
  | .inferring => "INFERRING"
  | .responding => "RESPONDING"
  | .transferRequested => "TRANSFER_REQUESTED"
  | .transferAccepted => "TRANSFER_ACCEPTED"
  | .transferFailed => "TRANSFER_FAILED"
  | .ended => "ENDED"

inductive SessionEventType where
  | stateChanged
  | callbackScheduled
  | toolTimeout
  | policyBlocked
  | killSwitchTriggered
  | vendorDegraded
  | sessionRestored
  | transferQueued
  deriving DecidableEq, Repr

structure SessionEvent where
  eventType : SessionEventType
  fromState : Option SessionState
  toState : Option SessionState
  timestamp : Nat
  metadata : Dict
  deriving DecidableEq, Repr

structure SessionFSM where
  state : SessionState
  events : List SessionEvent
  deriving DecidableEq, Repr

namespace SessionFSM

def new (initial : SessionState) : SessionFSM := ⟨initial, []⟩

def validTransitions : SessionState → List SessionState
  | .idle => [.listening, .ended]
  | .listening => [.speakingDetected, .idle, .transferRequested, .ended]
  | .speakingDetected => [.processing, .listening, .transferRequested, .ended]
  | .processing => [.inferring, .listening, .transferRequested, .ended]
  | .inferring => [.responding, .listening, .transferRequested, .ended]
  | .responding => [.listening, .idle, .transferRequested, .ended]
  | .transferRequested => [.transferAccepted, .transferFailed, .ended]
  | .transferAccepted => [.ended]
  | .transferFailed => [.listening, .ended]
  | .ended => []

def canTransition (fsm : SessionFSM) (toState : SessionState) : Bool :=
  decide (toState ∈ validTransitions fsm.state)

/-- `none` is the `ValueError` of a transition outside the table. -/
def transition (fsm : SessionFSM) (toState : SessionState) (now : Nat) (metadata : Dict) :
    Option SessionFSM :=
  if fsm.canTransition toState then
    some ⟨toState, fsm.events ++ [⟨.stateChanged, some fsm.state, some toState, now, metadata⟩]⟩
  else none

def recordEvent (fsm : SessionFSM) (eventType : SessionEventType) (now : Nat) (metadata : Dict) :
    SessionFSM :=
  { fsm with events := fsm.events ++ [⟨eventType, some fsm.state, none, now, metadata⟩] }

end SessionFSM

structure Snapshot where
  state : SessionState
  events : List SessionEvent
  deriving DecidableEq, Repr

/-- The default that `create` stores and that a missing field reads as. -/
def Snapshot.initial : Snapshot := ⟨.idle, []⟩

namespace SessionFSM

/-- Only the most recent fifty events are stored. -/
def toSnapshot (fsm : SessionFSM) : Snapshot :=
  ⟨fsm.state, fsm.events.drop (fsm.events.length - 50)⟩

def fromSnapshot (snapshot : Snapshot) (now : Nat) : SessionFSM :=
  recordEvent ⟨snapshot.state, snapshot.events⟩ .sessionRestored now
    [("restored_from", .str "snapshot")]

end SessionFSM
end AgentOE.Session
