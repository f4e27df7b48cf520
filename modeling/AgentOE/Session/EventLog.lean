import Mathlib.Data.List.Chain
import AgentOE.Transition
import AgentOE.Session.Fsm

/-! The event log of the state machine over transitions, overlay events, and snapshots that
are written as text and read back at any later time. -/
namespace AgentOE.Session
open Transition

def SessionEventType.value : SessionEventType → String
  | .stateChanged => "STATE_CHANGED"
  | .callbackScheduled => "CALLBACK_SCHEDULED"
  | .toolTimeout => "TOOL_TIMEOUT"
  | .policyBlocked => "POLICY_BLOCKED"
  | .killSwitchTriggered => "KILL_SWITCH_TRIGGERED"
  | .vendorDegraded => "VENDOR_DEGRADED"
  | .sessionRestored => "SESSION_RESTORED"
  | .transferQueued => "TRANSFER_QUEUED"

namespace EventLog

def sessionStates : List SessionState :=
  [.idle, .listening, .speakingDetected, .processing, .inferring, .responding, .transferRequested,
    .transferAccepted, .transferFailed, .ended]

def sessionEventTypes : List SessionEventType :=
  [.stateChanged, .callbackScheduled, .toolTimeout, .policyBlocked, .killSwitchTriggered,
    .vendorDegraded, .sessionRestored, .transferQueued]

/-- `SessionState(text)`; `none` is the `ValueError`. -/
def readState (text : String) : Option SessionState := sessionStates.find? (·.value = text)

def readEventType (text : String) : Option SessionEventType :=
  sessionEventTypes.find? (·.value = text)

structure RawEvent where
  eventType : String
  fromState : Option String
  toState : Option String
  timestamp : String
  metadata : Option Dict
  deriving DecidableEq, Repr

/-- A missing field is `none`. -/
structure RawSnapshot where
  state : Option String
  events : Option (List RawEvent)
  deriving DecidableEq, Repr

/-- `SessionState(raw[key]) if raw.get(key) else None`. -/
def readOptional : Option String → Option (Option SessionState)
  | none => some none
  | some text => if text = "" then some none else (readState text).map some

section Snapshots
variable (isoformat : Nat → String) (fromisoformat : String → Option Nat)

def writeEvent (e : SessionEvent) : RawEvent where
  eventType := e.eventType.value
  fromState := e.fromState.map SessionState.value
  toState := e.toState.map SessionState.value
  timestamp := isoformat e.timestamp
  metadata := some e.metadata

def toSnapshot (fsm : SessionFSM) : RawSnapshot where
  state := some fsm.state.value
  events := some ((fsm.events.drop (fsm.events.length - 50)).map (writeEvent isoformat))

def readEvent (raw : RawEvent) : Option SessionEvent := do
  let eventType ← readEventType raw.eventType
  let fromState ← readOptional raw.fromState
  let toState ← readOptional raw.toState
  let timestamp ← fromisoformat raw.timestamp
  pure ⟨eventType, fromState, toState, timestamp, raw.metadata.getD []⟩

def fromSnapshot (raw : RawSnapshot) (now : Nat) : Option SessionFSM := do
  let state ← readState (raw.state.getD SessionState.idle.value)
  let events ← (raw.events.getD []).mapM (readEvent fromisoformat)
  pure (SessionFSM.recordEvent ⟨state, events⟩ .sessionRestored now
    [("restored_from", .str "snapshot")])

theorem readState_value (state : SessionState) : readState state.value = some state := by
  cases state <;> decide

theorem readOptional_value (state : Option SessionState) :
    readOptional (state.map SessionState.value) = some state := by
  cases state with
  | none => rfl
  | some state => cases state <;> decide

theorem readEventType_value (eventType : SessionEventType) :
    readEventType eventType.value = some eventType := by
  cases eventType <;> decide

variable {isoformat fromisoformat}

theorem readEvent_writeEvent (inverts : ∀ t, fromisoformat (isoformat t) = some t)
    (e : SessionEvent) : readEvent fromisoformat (writeEvent isoformat e) = some e := by
  simp [readEvent, writeEvent, readEventType_value, readOptional_value, inverts]

theorem readEvents_writeEvents (inverts : ∀ t, fromisoformat (isoformat t) = some t)
    (events : List SessionEvent) :
    (events.map (writeEvent isoformat)).mapM (readEvent fromisoformat) = some events := by
  induction events with
  | nil => rfl
  | cons e events ih => simp [List.mapM_cons, readEvent_writeEvent inverts, ih]

/-- What is read back of a snapshot is what the abstract snapshot says. -/
theorem fromSnapshot_toSnapshot (inverts : ∀ t, fromisoformat (isoformat t) = some t)
    (fsm : SessionFSM) (now : Nat) : fromSnapshot fromisoformat (toSnapshot isoformat fsm) now =
      some (SessionFSM.fromSnapshot fsm.toSnapshot now) := by
  simp only [fromSnapshot, toSnapshot, Option.getD_some, readState_value,
    readEvents_writeEvents inverts]
  rfl

end Snapshots

/-- The machine, and the snapshots that have been saved of it. -/
structure State where
  fsm : SessionFSM
  saved : List RawSnapshot
  deriving DecidableEq, Repr

inductive Label where
  | transition (toState : SessionState) (now : Nat) (metadata : Dict)
  /-- Of any type but `stateChanged`. -/
  | recordEvent (eventType : SessionEventType) (now : Nat) (metadata : Dict)
  | snapshot
  /-- From the snapshot at that place, with everything since then forgotten. -/
  | restore (place : Nat) (now : Nat)
  deriving DecidableEq, Repr

section Log
variable (isoformat : Nat → String) (fromisoformat : String → Option Nat)

/-- The caller of a transition that raises goes on with the machine as it is. -/
def step (σ : State) : Label → Option State
  | .transition toState now metadata =>
    some { σ with fsm := (σ.fsm.transition toState now metadata).getD σ.fsm }
  | .recordEvent eventType now metadata =>
    if eventType = .stateChanged then none
    else some { σ with fsm := σ.fsm.recordEvent eventType now metadata }
  | .snapshot => some { σ with saved := σ.saved ++ [toSnapshot isoformat σ.fsm] }
  | .restore place now =>
    σ.saved[place]?.bind fun raw => (fromSnapshot fromisoformat raw now).map fun fsm =>
      { σ with fsm }

end Log

/-- The state changes that the log still has. -/
def changes (events : List SessionEvent) : List SessionEvent :=
  events.filter (·.eventType = .stateChanged)

def LegalChange (e : SessionEvent) : Prop :=
  ∃ s t, e.fromState = some s ∧ e.toState = some t ∧ t ∈ SessionFSM.validTransitions s

/-- The changes are legal, each goes on where the one before it ended, and the last one ends in
the current state. -/
structure Chained (state : SessionState) (events : List SessionEvent) : Prop where
  legal : ∀ e ∈ changes events, LegalChange e
  linked : (changes events).IsChain fun e next => next.fromState = e.toState
  current : ∀ e, (changes events).getLast? = some e → e.toState = some state

namespace Chained

theorem nil (state : SessionState) : Chained state [] where
  legal := by simp [changes]
  linked := .nil
  current := by simp [changes]

theorem change (before : Chained state events)
    (allowed : toState ∈ SessionFSM.validTransitions state) (now : Nat) (metadata : Dict) :
    Chained toState (events ++ [⟨.stateChanged, some state, some toState, now, metadata⟩]) := by
  have grown : changes (events ++ [⟨.stateChanged, some state, some toState, now, metadata⟩]) =
      changes events ++ [⟨.stateChanged, some state, some toState, now, metadata⟩] := by
        simp [changes]
  constructor
  · rw [grown]
    intro e mem
    rcases List.mem_append.mp mem with mem | mem
    · exact before.legal e mem
    · obtain rfl := List.mem_singleton.mp mem
      exact ⟨state, toState, rfl, rfl, allowed⟩
  · rw [grown]
    refine before.linked.append (.singleton _) ?_
    intro last isLast next isNext
    obtain rfl := Option.some.inj isNext
    exact (before.current last isLast).symm
  · rw [grown]
    intro e isLast
    rw [List.getLast?_append, List.getLast?_singleton, Option.some_or] at isLast
    obtain rfl := Option.some.inj isLast
    rfl

theorem overlay (before : Chained state events) (e : SessionEvent)
    (other : e.eventType ≠ .stateChanged) :
    Chained state (events ++ [e]) := by
  have same : changes (events ++ [e]) = changes events := by simp [changes, other]
  exact ⟨same ▸ before.legal, same ▸ before.linked, same ▸ before.current⟩

/-- The log may be cut anywhere in front. -/
theorem truncate (before : Chained state events) (n : Nat) : Chained state (events.drop n) := by
  have suffix : changes (events.drop n) <:+ changes events := (List.drop_suffix n events).filter _
  refine ⟨fun e mem => before.legal e (suffix.subset mem), before.linked.suffix suffix,
    fun e isLast => ?_⟩
  obtain ⟨front, whole⟩ := suffix
  refine before.current e ?_
  rw [← whole, List.getLast?_append, isLast, Option.some_or]

end Chained

abbrev Logged (fsm : SessionFSM) : Prop := Chained fsm.state fsm.events

def Inv (isoformat : Nat → String) (σ : State) : Prop :=
  Logged σ.fsm ∧ ∀ raw ∈ σ.saved, ∃ fsm, raw = toSnapshot isoformat fsm ∧ Logged fsm

theorem transition_eq_none {fsm : SessionFSM} : fsm.transition toState now metadata = none ↔
    toState ∉ SessionFSM.validTransitions fsm.state := by
  simp [SessionFSM.transition, SessionFSM.canTransition]

theorem transition_logged (before : Logged fsm)
    (taken : fsm.transition toState now metadata = some next) :
    Logged next := by
  simp only [SessionFSM.transition, SessionFSM.canTransition, decide_eq_true_eq,
    Option.ite_none_right_eq_some, Option.some.injEq] at taken
  obtain ⟨allowed, rfl⟩ := taken
  exact before.change allowed now metadata

section Runs
variable {isoformat : Nat → String} {fromisoformat : String → Option Nat}

theorem step_inv (inverts : ∀ t, fromisoformat (isoformat t) = some t) (before : Inv isoformat σ)
    (stepped : step isoformat fromisoformat σ l = some τ) : Inv isoformat τ := by
  obtain ⟨logged, saved⟩ := before
  cases l with
  | transition toState now metadata =>
    cases stepped
    refine ⟨?_, saved⟩
    cases taken : σ.fsm.transition toState now metadata with
    | none => exact logged
    | some next => exact transition_logged logged taken
  | recordEvent eventType now metadata =>
    simp only [step, Option.ite_none_left_eq_some, Option.some.injEq] at stepped
    obtain ⟨other, rfl⟩ := stepped
    exact ⟨logged.overlay _ other, saved⟩
  | snapshot =>
    cases stepped
    refine ⟨logged, fun raw mem => ?_⟩
    rcases List.mem_append.mp mem with mem | mem
    · exact saved raw mem
    · exact ⟨σ.fsm, List.mem_singleton.mp mem, logged⟩
  | restore place now =>
    obtain ⟨raw, found, stepped⟩ := Option.bind_eq_some_iff.mp stepped
    obtain ⟨fsm, rfl, whole⟩ := saved raw (List.mem_of_getElem? found)
    rw [fromSnapshot_toSnapshot inverts, Option.map_some] at stepped
    cases stepped
    exact ⟨(whole.truncate _).overlay _
      (show SessionEventType.sessionRestored ≠ .stateChanged by decide), saved⟩

/-- The event log of every run, what an illegal transition does to it, and what a snapshot keeps. -/
theorem event_log (inverts : ∀ t, fromisoformat (isoformat t) = some t) (initial : SessionState)
    (ls : List Label)
    (run : exec (step isoformat fromisoformat) ⟨SessionFSM.new initial, []⟩ ls = some σ) :
    Chained σ.fsm.state σ.fsm.events ∧
    (∀ toState now metadata, toState ∉ SessionFSM.validTransitions σ.fsm.state →
      σ.fsm.transition toState now metadata = none ∧
      step isoformat fromisoformat σ (.transition toState now metadata) = some σ) ∧
    ∀ (fsm : SessionFSM) (now : Nat), fromSnapshot fromisoformat
      (toSnapshot isoformat fsm) now = some
      ⟨fsm.state, fsm.events.drop (fsm.events.length - 50) ++
        [⟨.sessionRestored, some fsm.state, none, now, [("restored_from", .str "snapshot")]⟩]⟩ := by
  refine ⟨?_, fun toState now metadata illegal => ?_, fun fsm now => ?_⟩
  · have start : Inv isoformat ⟨SessionFSM.new initial, []⟩ := ⟨.nil initial, by simp⟩
    exact (exec_preserves (Inv isoformat) (fun _ _ _ => step_inv inverts) run start).1
  · have refused : σ.fsm.transition toState now metadata = none := transition_eq_none.mpr illegal
    exact ⟨refused, by simp only [step, refused, Option.getD_none]⟩
  · exact fromSnapshot_toSnapshot inverts fsm now

end Runs

/-- The text of the one instant at which the run below takes place. -/
def epochFormat (t : Nat) : String :=
  if t = 0 then "1970-01-01T00:00:00+00:00" else String.ofList (List.replicate t 'x')

def epochRead (text : String) : Option Nat :=
  if text = "1970-01-01T00:00:00+00:00" then some 0 else some text.toList.length

theorem epochRead_epochFormat (t : Nat) : epochRead (epochFormat t) = some t := by
  unfold epochRead epochFormat
  split
  · simp_all
  · rename_i positive
    rw [if_neg, String.toList_ofList, List.length_replicate]
    intro same
    have first := congrArg (·.toList.head?) same
    simp [List.head?_replicate, positive] at first

/-- A call whose machine is saved, moves on, and is restored. -/
def recovered : List Label :=
  [.transition .listening 0 [], .recordEvent .vendorDegraded 0 [], .snapshot,
    .transition .responding 0 [], .transition .speakingDetected 0 [], .restore 0 0]

theorem recovered_logged : ∃ σ, exec (step epochFormat epochRead)
    ⟨SessionFSM.new .idle, []⟩ recovered = some σ ∧
    Chained σ.fsm.state σ.fsm.events := by
  have complete :
      (exec (step epochFormat epochRead) ⟨SessionFSM.new .idle, []⟩ recovered).isSome = true := by
    decide +kernel
  exact ⟨_, (Option.some_get complete).symm,
    (event_log epochRead_epochFormat .idle recovered (Option.some_get complete).symm).1⟩

end EventLog

end AgentOE.Session
