import AgentOE.Transition
import AgentOE.Esl.Control

/-! Several orchestrator nodes over one Redis. A node works on its own sessions in
its local map and on copies of the others, and some of its endpoints hand a
command for a foreign session to the node that owns it. The HTTP notices to the
media bridge and the timestamps of a session are left out. -/
namespace AgentOE.Esl.Cluster
open Transition

inductive IvrEvent where
  | dtmf (digit : Bytes)
  | hangup
  deriving DecidableEq

/-- `ivrEventCh` holds what is in the channel's buffer, `none` for a nil channel. -/
structure SessionState where
  nodeId : String
  sessionId : Bytes
  fsUUID : Bytes
  aiPaused : Bool
  recordPath : Bytes
  bridgedWith : Bytes
  ivrEventCh : Option (List IvrEvent)
  ctxDone : Bool
  deriving DecidableEq

/-- The JSON of a session. -/
structure Record where
  nodeId : String
  sessionId : Bytes
  fsUUID : Bytes
  aiPaused : Bool
  recordPath : Bytes
  bridgedWith : Bytes
  deriving DecidableEq

def newSession (nodeId : String) (sessionId fsUUID : Bytes) : SessionState :=
  ⟨nodeId, sessionId, fsUUID, false, [], [], none, false⟩

def SessionState.record (s : SessionState) : Record :=
  ⟨s.nodeId, s.sessionId, s.fsUUID, s.aiPaused, s.recordPath, s.bridgedWith⟩

def Record.session (r : Record) : SessionState :=
  ⟨r.nodeId, r.sessionId, r.fsUUID, r.aiPaused, r.recordPath, r.bridgedWith, none, false⟩

inductive EslCommand where
  | command (command : Command)
  /-- `uuid_transfer` of both legs to `park`. -/
  | unbridge (uuid : Bytes)
  deriving DecidableEq

/-- `esl` is what each node has sent on its ESL connection. -/
structure State where
  locals : String → Bytes → Option SessionState
  redis : Bytes → Option Record
  esl : String → List EslCommand

def State.empty : State := ⟨fun _ _ => none, fun _ => none, fun _ => []⟩

/-- How what a node calls ends. Where both cases of a `select` are ready, either is
taken. -/
structure Environment where
  eslOk : String → EslCommand → Bool
  publishOk : Bool
  saveOk : Bool
  preferDone : Bool

namespace State
variable (σ : State)

def get (node : String) (sessionId : Bytes) : Option SessionState :=
  match σ.locals node sessionId with
  | some s => some s
  | none => (σ.redis sessionId).map Record.session

/-- A setter on what `get` returned. One on a copy is lost. -/
def modify (node : String) (sessionId : Bytes) (set : SessionState → SessionState) : State :=
  { σ with
    locals := Function.update σ.locals node
      (Function.update (σ.locals node) sessionId ((σ.locals node sessionId).map set)) }

def issue (node : String) (command : EslCommand) : State :=
  { σ with esl := Function.update σ.esl node (σ.esl node ++ [command]) }

def saveSession (env : Environment) (s : SessionState) : State :=
  if env.saveOk then { σ with redis := Function.update σ.redis s.sessionId (some s.record) } else σ

end State

namespace SessionState
variable (s : SessionState)

def setAIPaused (v : Bool) : SessionState := { s with aiPaused := v }

def setRecordPath (v : Bytes) : SessionState := { s with recordPath := v }

def setBridgedWith (v : Bytes) : SessionState := { s with bridgedWith := v }

/-- The capacity of the channel is 16. -/
def sendHangup (env : Environment) : SessionState :=
  match s.ivrEventCh with
  | none => s
  | some events =>
    if 16 ≤ events.length ∨ s.ctxDone = true ∧ env.preferDone = true then s
    else { s with ivrEventCh := some (events ++ [.hangup]) }

end SessionState

/-- The status of a reply, and the message that went out before it. -/
structure Reply where
  status : Nat
  published : Option (String × CommandMsg)

def Reply.of (status : Nat) : Reply := ⟨status, none⟩

def Reply.Accepted (reply : Reply) : Prop := reply.status = 200

inductive ControlRequest where
  | sendDtmf (callID : Bytes) (digits : Option Bytes)
  | transfer (callID : Bytes) (target : Option Bytes)
  | recordStart (callID : Bytes)
  | recordStop (callID : Bytes)
  | bridgeCalls (fields : Option (Bytes × Bytes))
  | unbridgeCalls (fields : Option (Bytes × Bytes))

section Endpoints
variable (env : Environment) (σ : State) (node : String)

def publishCommand (target : String) (message : CommandMsg) : Reply :=
  if env.publishOk then ⟨200, some (target, message)⟩ else .of 500

/-- `json.Decode` failed, or the field is empty. -/
def missing (field : Option Bytes) : Bool := field.getD [] = []

def sendDtmf (callID : Bytes) (digits : Option Bytes) : State × Reply :=
  match σ.get node callID with
  | none => (σ, .of 404)
  | some s =>
    if missing digits then (σ, .of 400)
    else if s.nodeId ≠ node then (σ, publishCommand env s.nodeId ⟨callID, .dtmf digits⟩)
    else if !dtmfPattern (digits.getD []) then (σ, .of 400)
    else
      let command := .command (.sendDtmf s.fsUUID (digits.getD []))
      (σ.issue node command, .of (if env.eslOk node command then 200 else 500))

def transfer (callID : Bytes) (target : Option Bytes) : State × Reply :=
  match σ.get node callID with
  | none => (σ, .of 404)
  | some s =>
    if missing target then (σ, .of 400)
    else if !sipTargetPattern (target.getD []) then (σ, .of 400)
    else if s.nodeId ≠ node then (σ, publishCommand env s.nodeId ⟨callID, .transfer target⟩)
    else
      let command := .command (.transfer s.fsUUID (target.getD []))
      if env.eslOk node command then
        ((σ.issue node command).modify node callID (·.sendHangup env), .of 200)
      else (σ.issue node command, .of 500)

def recordStart (callID : Bytes) : State × Reply :=
  match σ.get node callID with
  | none => (σ, .of 404)
  | some s =>
    if s.nodeId ≠ node then (σ, publishCommand env s.nodeId ⟨callID, .recordStart⟩)
    else
      let path := Node.recordPath callID
      let command := .command (.recordStart s.fsUUID path)
      if env.eslOk node command then
        ((σ.issue node command).modify node callID (·.setRecordPath path), .of 200)
      else (σ.issue node command, .of 500)

/-- Sent on this node's own connection, whoever owns the session. -/
def recordStop (callID : Bytes) : State × Reply :=
  match σ.get node callID with
  | none => (σ, .of 404)
  | some s =>
    let command := .command (.recordStop s.fsUUID)
    if env.eslOk node command then
      ((σ.issue node command).modify node callID (·.setRecordPath []), .of 200)
    else (σ.issue node command, .of 500)

def bridgeCalls (fields : Option (Bytes × Bytes)) : State × Reply :=
  match fields with
  | none => (σ, .of 400)
  | some (callID1, callID2) => match σ.get node callID1, σ.get node callID2 with
    | some sA, some sB =>
      let paused := σ.modify node callID1 (·.setAIPaused true)
      let command := .command (.bridge sA.fsUUID sB.fsUUID)
      if env.eslOk node command then
        (((paused.issue node command).modify node callID1 (·.setBridgedWith sB.sessionId)).modify
          node callID2 (·.setBridgedWith sA.sessionId), .of 200)
      else ((paused.issue node command).modify node callID1 (·.setAIPaused false), .of 500)
    | _, _ => (σ, .of 404)

def unbridgeCalls (fields : Option (Bytes × Bytes)) : State × Reply :=
  match fields with
  | none => (σ, .of 400)
  | some (callID1, callID2) => match σ.get node callID1, σ.get node callID2 with
    | some sA, some _ =>
      let command := .unbridge sA.fsUUID
      if env.eslOk node command then
        ((((σ.issue node command).modify node callID1 (·.setAIPaused false)).modify
          node callID1 (·.setBridgedWith [])).modify node callID2 (·.setBridgedWith []), .of 200)
      else (σ.issue node command, .of 500)
    | _, _ => (σ, .of 404)

def serve : ControlRequest → State × Reply
  | .sendDtmf callID digits => sendDtmf env σ node callID digits
  | .transfer callID target => transfer env σ node callID target
  | .recordStart callID => recordStart env σ node callID
  | .recordStop callID => recordStop env σ node callID
  | .bridgeCalls fields => bridgeCalls env σ node fields
  | .unbridgeCalls fields => unbridgeCalls env σ node fields

/-- The message arrives at its node. The event goes to the IVR whether or not the
transfer succeeded. -/
def handleLocalCommand (message : CommandMsg) : State :=
  match σ.get node message.sessionId with
  | none => σ
  | some s => match message.action with
    | .dtmf (some digits) => σ.issue node (.command (.sendDtmf s.fsUUID digits))
    | .transfer (some target) =>
      (σ.issue node (.command (.transfer s.fsUUID target))).modify node message.sessionId
        (·.sendHangup env)
    | .recordStart =>
      let path := Node.recordPath s.sessionId
      let command := .command (.recordStart s.fsUUID path)
      if env.eslOk node command then
        ((σ.issue node command).modify node message.sessionId
          (·.setRecordPath path)).saveSession env (s.setRecordPath path)
      else σ.issue node command
    | .recordStop =>
      let command := .command (.recordStop s.fsUUID)
      if env.eslOk node command then
        (σ.issue node command).modify node message.sessionId (·.setRecordPath [])
      else σ.issue node command
    | .dtmf none | .transfer none | .unknown _ => σ

/-- A request on a node, with the message that it publishes. -/
def handle (request : ControlRequest) : State × Reply :=
  let (τ, reply) := serve env σ node request
  match reply.published with
  | none => (τ, reply)
  | some (target, message) => (handleLocalCommand env τ target message, reply)

end Endpoints

/-! The endpoints decide as the model of a single node does. -/

/-- `single` knows the sessions that `node` gets. -/
structure Mirrors (single : Node) (σ : State) (node : String) : Prop where
  nodeId : single.nodeId = node
  sessions : ∀ callID, (single.get callID).map (fun s => (s.nodeId, s.fsUUID.text)) =
    (σ.get node callID).map fun s => (s.nodeId, s.fsUUID)

/-- The endpoint has carried out the decision. -/
def Decided (env : Environment) (σ : State) (node : String) (decision : Outcome)
    (served : State × Reply) : Prop :=
  match decision with
  | .rejected status _ => served = (σ, .of status)
  | .published target message => served = (σ, publishCommand env target message)
  | .send command =>
    served.1.esl node = σ.esl node ++ [.command command] ∧ served.2.published = none
  | .dropped => False

namespace Mirrors
variable {single : Node} {env : Environment} {σ : State} {node : String}

/-- The session is missing in both, or found in both. -/
theorem found (mirrors : Mirrors single σ node) (callID : Bytes) :
    single.get callID = none ∧ σ.get node callID = none ∨
      ∃ s t, single.get callID = some s ∧ σ.get node callID = some t ∧ s.nodeId = t.nodeId ∧
        s.fsUUID.text = t.fsUUID := by
  have same := mirrors.sessions callID
  cases here : single.get callID <;> cases there : σ.get node callID <;>
    simp_all

theorem sendDtmf (mirrors : Mirrors single σ node) (callID : Bytes) (digits : Option Bytes) :
    Decided env σ node (single.sendDtmf callID digits) (sendDtmf env σ node callID digits) := by
  rcases mirrors.found callID with ⟨here, there⟩ | ⟨s, t, here, there, nodeId, fsUUID⟩
  · simp [Node.sendDtmf, Node.withSession, here, Cluster.sendDtmf, there, Decided]
  cases digits with
  | none => simp [Node.sendDtmf, Node.withSession, Node.required, here, Cluster.sendDtmf, there,
      missing, Decided]
  | some text =>
    by_cases empty : text = []
    · simp [Node.sendDtmf, Node.withSession, Node.required, here, Cluster.sendDtmf, there, missing,
        empty, Decided]
    by_cases away : t.nodeId = node
    · cases valid : dtmfPattern text <;>
        simp [Node.sendDtmf, Node.withSession, Node.required, here, Cluster.sendDtmf, there,
          missing, empty, away, valid, nodeId, fsUUID, mirrors.nodeId, Decided, State.issue,
          Reply.of]
    · simp [Node.sendDtmf, Node.withSession, Node.required, here, Cluster.sendDtmf, there, missing,
        empty, away, nodeId, mirrors.nodeId, Decided]

theorem transfer (mirrors : Mirrors single σ node) (callID : Bytes) (target : Option Bytes) :
    Decided env σ node (single.transfer callID target) (transfer env σ node callID target) := by
  rcases mirrors.found callID with ⟨here, there⟩ | ⟨s, t, here, there, nodeId, fsUUID⟩
  · simp [Node.transfer, Node.withSession, here, Cluster.transfer, there, Decided]
  cases target with
  | none => simp [Node.transfer, Node.withSession, Node.required, here, Cluster.transfer, there,
      missing, Decided]
  | some text =>
    by_cases empty : text = []
    · simp [Node.transfer, Node.withSession, Node.required, here, Cluster.transfer, there, missing,
        empty, Decided]
    cases valid : sipTargetPattern text with
    | false => simp [Node.transfer, Node.withSession, Node.required, here, Cluster.transfer, there,
        missing, empty, valid, Decided]
    | true =>
      by_cases away : t.nodeId = node
      · cases ok : env.eslOk node (.command (.transfer t.fsUUID text)) <;>
          simp [Node.transfer, Node.withSession, Node.required, here, Cluster.transfer, there,
            missing, empty, valid, away, ok, nodeId, fsUUID, mirrors.nodeId, Decided, State.issue,
            State.modify, Reply.of]
      · simp [Node.transfer, Node.withSession, Node.required, here, Cluster.transfer, there,
          missing, empty, valid, away, nodeId, mirrors.nodeId, Decided]

theorem recordStart (mirrors : Mirrors single σ node) (callID : Bytes) :
    Decided env σ node (single.recordStart callID) (recordStart env σ node callID) := by
  rcases mirrors.found callID with ⟨here, there⟩ | ⟨s, t, here, there, nodeId, fsUUID⟩
  · simp [Node.recordStart, Node.withSession, here, Cluster.recordStart, there, Decided]
  by_cases away : t.nodeId = node
  · cases ok : env.eslOk node (.command (.recordStart t.fsUUID (Node.recordPath callID))) <;>
      simp [Node.recordStart, Node.withSession, here, Cluster.recordStart, there, away, ok, nodeId,
        fsUUID, mirrors.nodeId, Decided, State.issue, State.modify, Reply.of]
  · simp [Node.recordStart, Node.withSession, here, Cluster.recordStart, there, away, nodeId,
      mirrors.nodeId, Decided]

theorem bridgeCalls (mirrors : Mirrors single σ node) (fields : Option (Bytes × Bytes)) :
    Decided env σ node (single.bridgeCalls fields) (bridgeCalls env σ node fields) := by
  cases fields with
  | none => simp [Node.bridgeCalls, Cluster.bridgeCalls, Decided]
  | some ids =>
    obtain ⟨callID1, callID2⟩ := ids
    rcases mirrors.found callID1 with ⟨here, there⟩ | ⟨sA, tA, hereA, thereA, -, fsUUIDA⟩
    · simp [Node.bridgeCalls, Cluster.bridgeCalls, here, there, Decided]
    rcases mirrors.found callID2 with ⟨here, there⟩ | ⟨sB, tB, hereB, thereB, -, fsUUIDB⟩
    · simp [Node.bridgeCalls, Cluster.bridgeCalls, hereA, thereA, here, there, Decided]
    cases ok : env.eslOk node (.command (.bridge tA.fsUUID tB.fsUUID)) <;>
      simp [Node.bridgeCalls, Cluster.bridgeCalls, hereA, thereA, hereB, thereB, fsUUIDA, fsUUIDB,
        ok, Decided, State.issue, State.modify, Reply.of]

/-- Each endpoint that the model of a single node has is refined here. -/
theorem serve (mirrors : Mirrors single σ node) (env : Environment) :
    (∀ callID digits, Decided env σ node (single.serve (.sendDtmf callID digits))
      (serve env σ node (.sendDtmf callID digits))) ∧
    (∀ callID target, Decided env σ node (single.serve (.transfer callID target))
      (Cluster.serve env σ node (.transfer callID target))) ∧
    (∀ callID, Decided env σ node (single.serve (.recordStart callID))
      (Cluster.serve env σ node (.recordStart callID))) ∧
    ∀ fields, Decided env σ node (single.serve (.bridge fields))
      (Cluster.serve env σ node (.bridgeCalls fields)) :=
  ⟨mirrors.sendDtmf, mirrors.transfer, mirrors.recordStart, mirrors.bridgeCalls⟩

end Mirrors

/-! The cluster as a system of nodes. -/

inductive Label where
  | add (node : String) (sessionId fsUUID : Bytes)
  /-- `deleted` unless the pipeline fails. -/
  | release (node : String) (sessionId : Bytes) (deleted : Bool)
  /-- The key's time to live runs out. -/
  | expire (sessionId : Bytes)
  | startIvr (node : String) (sessionId : Bytes)
  | sendDigit (node : String) (sessionId digit : Bytes)
  | takeEvent (node : String) (sessionId : Bytes)
  | handle (env : Environment) (node : String) (request : ControlRequest)

def SessionState.startIvr (s : SessionState) : SessionState := { s with ivrEventCh := some [] }

def SessionState.sendDigit (s : SessionState) (digit : Bytes) : SessionState :=
  { s with ivrEventCh := s.ivrEventCh.map fun events =>
      if events.length < 16 then events ++ [.dtmf digit] else events }

def SessionState.takeEvent (s : SessionState) : SessionState :=
  { s with ivrEventCh := s.ivrEventCh.map List.tail }

def State.add (σ : State) (s : SessionState) : State :=
  { σ with
    locals := Function.update σ.locals s.nodeId
      (Function.update (σ.locals s.nodeId) s.sessionId (some s))
    redis := Function.update σ.redis s.sessionId (some s.record) }

def State.release (σ : State) (node : String) (sessionId : Bytes) (deleted : Bool) : State :=
  { σ with
    locals := Function.update σ.locals node (Function.update (σ.locals node) sessionId none)
    redis := if deleted then Function.update σ.redis sessionId none else σ.redis }

def step (σ : State) : Label → Option State
  | .add node sessionId fsUUID => some (σ.add (newSession node sessionId fsUUID))
  | .release node sessionId deleted =>
    if (σ.locals node sessionId).isSome then some (σ.release node sessionId deleted) else none
  | .expire sessionId => some { σ with redis := Function.update σ.redis sessionId none }
  | .startIvr node sessionId => some (σ.modify node sessionId (·.startIvr))
  | .sendDigit node sessionId digit => some (σ.modify node sessionId (·.sendDigit digit))
  | .takeEvent node sessionId => some (σ.modify node sessionId (·.takeEvent))
  | .handle env node request => some (handle env σ node request).1

/-- A new session has an id that no node uses: it is a fresh UUID. -/
def Fresh (σ : State) (label : Label) : Prop :=
  match label with
  | .add _ sessionId _ => ∀ node, σ.locals node sessionId = none
  | _ => True

/-- What the nodes and Redis agree on. -/
structure Valid (σ : State) : Prop where
  owned : ∀ {node c s}, σ.locals node c = some s → s.nodeId = node ∧ s.sessionId = c
  unique : ∀ {node other c s t}, σ.locals node c = some s → σ.locals other c = some t → node = other
  keyed : ∀ {c r}, σ.redis c = some r → r.sessionId = c
  recorded : ∀ {node c s r}, σ.locals node c = some s → σ.redis c = some r →
    r.nodeId = node ∧ r.fsUUID = s.fsUUID

/-- Two views of one session. -/
structure SameCall (s t : SessionState) : Prop where
  nodeId : s.nodeId = t.nodeId
  sessionId : s.sessionId = t.sessionId
  fsUUID : s.fsUUID = t.fsUUID

/-- All that the endpoints do to the cluster. -/
inductive Changes (σ : State) : State → Prop where
  | refl : Changes σ σ
  | issue : Changes σ τ → Changes σ (τ.issue node command)
  | modify : Changes σ τ → (∀ s, SameCall (setter s) s) →
    Changes σ (τ.modify node c setter)
  | save : Changes σ τ → τ.get node c = some t → SameCall s t → Changes σ (τ.saveSession env s)

theorem of_update_none {K A : Type} [DecidableEq K] {f : K → Option A} {k j : K} {a : A}
    (present : Function.update f k none j = some a) : f j = some a := by
  rw [Function.update_apply] at present
  split at present
  · cases present
  · exact present

namespace Valid
variable {σ τ : State}

/-- Whatever a node gets of a session agrees with its owner. -/
theorem get (valid : Valid σ) (found : σ.get node c = some t) : t.sessionId = c ∧
    ∀ owner s, σ.locals owner c = some s → t.nodeId = owner ∧ t.fsUUID = s.fsUUID := by
  simp only [State.get] at found
  split at found
  case h_1 here =>
    cases Option.some.inj found
    refine ⟨(valid.owned here).2, fun owner s owned => ?_⟩
    cases valid.unique here owned
    cases Option.some.inj (here.symm.trans owned)
    exact ⟨(valid.owned owned).1, rfl⟩
  case h_2 =>
    obtain ⟨r, isRecord, rfl⟩ := Option.map_eq_some_iff.mp found
    exact ⟨valid.keyed isRecord, fun owner s owned => valid.recorded owned isRecord⟩

theorem modify (valid : Valid σ) (same : ∀ s, SameCall (setter s) s) :
    Valid (σ.modify node c setter) := by
  have origin {m d s} (found : (σ.modify node c setter).locals m d = some s) :
      ∃ t, σ.locals m d = some t ∧ SameCall s t := by
    simp only [State.modify, Function.update_apply] at found
    split at found
    case isFalse => exact ⟨s, found, rfl, rfl, rfl⟩
    case isTrue isNode =>
      subst isNode
      simp only [Function.update_apply] at found
      split at found
      case isFalse => exact ⟨s, found, rfl, rfl, rfl⟩
      case isTrue isCall =>
        subst isCall
        obtain ⟨t, before, rfl⟩ := Option.map_eq_some_iff.mp found
        exact ⟨t, before, same t⟩
  constructor
  case owned =>
    intro m d s found
    obtain ⟨t, before, call⟩ := origin found
    rw [call.nodeId, call.sessionId]
    exact valid.owned before
  case unique =>
    intro m other d s t found also
    obtain ⟨_, before, -⟩ := origin found
    obtain ⟨_, alsoBefore, -⟩ := origin also
    exact valid.unique before alsoBefore
  case keyed => exact valid.keyed
  case recorded =>
    intro m d s r found isRecord
    obtain ⟨t, before, call⟩ := origin found
    rw [call.fsUUID]
    exact valid.recorded before isRecord

/-- A record is saved by its owner, or rewritten from itself. -/
theorem save (valid : Valid σ) (found : σ.get node c = some t) (same : SameCall s t) :
    Valid (σ.saveSession env s) := by
  obtain ⟨id, agrees⟩ := valid.get found
  unfold State.saveSession
  split
  case isFalse => exact valid
  constructor
  case owned => exact valid.owned
  case unique => exact valid.unique
  case keyed =>
    intro d r isRecord
    simp only [Function.update_apply] at isRecord
    split at isRecord
    case isTrue isCall =>
      cases Option.some.inj isRecord
      exact isCall.symm
    case isFalse => exact valid.keyed isRecord
  case recorded =>
    intro m d u r owned isRecord
    simp only [Function.update_apply] at isRecord
    split at isRecord
    case isFalse => exact valid.recorded owned isRecord
    case isTrue isCall =>
      cases Option.some.inj isRecord
      rw [isCall, same.sessionId, id] at owned
      simpa only [SessionState.record, same.nodeId, same.fsUUID] using agrees m u owned

/-- Nothing has to be there. -/
theorem shrink (valid : Valid σ)
    (locals : ∀ {node c s}, τ.locals node c = some s → σ.locals node c = some s)
    (redis : ∀ {c r}, τ.redis c = some r → σ.redis c = some r) : Valid τ where
  owned found := valid.owned (locals found)
  unique found also := valid.unique (locals found) (locals also)
  keyed isRecord := valid.keyed (redis isRecord)
  recorded found isRecord := valid.recorded (locals found) (redis isRecord)

theorem release (valid : Valid σ) : Valid (σ.release node c deleted) := by
  apply valid.shrink
  · intro m d s found
    simp only [State.release, Function.update_apply σ.locals] at found
    split at found
    case isFalse => exact found
    case isTrue isNode =>
      subst isNode
      exact of_update_none found
  · intro d r isRecord
    simp only [State.release] at isRecord
    split at isRecord
    · exact of_update_none isRecord
    · exact isRecord

theorem expire (valid : Valid σ) : Valid { σ with redis := Function.update σ.redis c none } :=
  valid.shrink id of_update_none

theorem add (valid : Valid σ) (s : SessionState)
    (fresh : ∀ node, σ.locals node s.sessionId = none) :
    Valid (σ.add s) := by
  have origin {m d t} (found : (σ.add s).locals m d = some t) :
      m = s.nodeId ∧ d = s.sessionId ∧ t = s ∨ d ≠ s.sessionId ∧ σ.locals m d = some t := by
    simp only [State.add, Function.update_apply] at found
    split at found
    case isFalse =>
      right
      refine ⟨?_, found⟩
      rintro rfl
      rw [fresh] at found
      cases found
    case isTrue isNode =>
      subst isNode
      simp only [Function.update_apply] at found
      split at found
      case isTrue isCall => exact .inl ⟨rfl, isCall, (Option.some.inj found).symm⟩
      case isFalse other => exact .inr ⟨other, found⟩
  have kept {d r} (isRecord : (σ.add s).redis d = some r) :
      d = s.sessionId ∧ r = s.record ∨ d ≠ s.sessionId ∧ σ.redis d = some r := by
    simp only [State.add, Function.update_apply] at isRecord
    split at isRecord
    case isTrue isCall => exact .inl ⟨isCall, (Option.some.inj isRecord).symm⟩
    case isFalse other => exact .inr ⟨other, isRecord⟩
  constructor
  case owned =>
    intro m d t found
    rcases origin found with ⟨rfl, rfl, rfl⟩ | ⟨-, before⟩
    · exact ⟨rfl, rfl⟩
    · exact valid.owned before
  case unique =>
    intro m other d t u found also
    rcases origin found with ⟨rfl, rfl, -⟩ | ⟨elsewhere, before⟩
    · rcases origin also with ⟨rfl, -, -⟩ | ⟨different, -⟩
      · rfl
      · exact absurd rfl different
    · rcases origin also with ⟨-, same, -⟩ | ⟨-, alsoBefore⟩
      · exact absurd same elsewhere
      · exact valid.unique before alsoBefore
  case keyed =>
    intro d r isRecord
    rcases kept isRecord with ⟨rfl, rfl⟩ | ⟨-, before⟩
    · rfl
    · exact valid.keyed before
  case recorded =>
    intro m d t r found isRecord
    rcases origin found with ⟨rfl, rfl, rfl⟩ | ⟨elsewhere, before⟩
    · rcases kept isRecord with ⟨-, rfl⟩ | ⟨different, -⟩
      · exact ⟨rfl, rfl⟩
      · exact absurd rfl different
    · rcases kept isRecord with ⟨same, -⟩ | ⟨-, recordBefore⟩
      · exact absurd same elsewhere
      · exact valid.recorded before recordBefore

theorem changes (valid : Valid σ) (changed : Changes σ τ) : Valid τ := by
  induction changed with
  | refl => exact valid
  | issue _ before => exact before.shrink id id
  | modify _ same before => exact before.modify same
  | save _ found same before => exact before.save found same

end Valid

theorem Changes.trans {σ τ ρ : State} (first : Changes σ τ) (rest : Changes τ ρ) : Changes σ ρ := by
  induction rest with
  | refl => exact first
  | issue _ before => exact .issue before
  | modify _ same before => exact .modify before same
  | save _ found same before => exact .save before found same

theorem sameCall_sendHangup (env : Environment) (s : SessionState) :
    SameCall (s.sendHangup env) s := by
  unfold SessionState.sendHangup
  split
  · exact ⟨rfl, rfl, rfl⟩
  · split <;> exact ⟨rfl, rfl, rfl⟩

section Changes
variable {env : Environment} {σ : State} {node : String}

theorem sendDtmf_changes : Changes σ (sendDtmf env σ node callID digits).1 := by
  unfold sendDtmf
  split
  · exact .refl
  split
  · exact .refl
  split
  · exact .refl
  split
  · exact .refl
  · exact .issue .refl

theorem transfer_changes : Changes σ (transfer env σ node callID target).1 := by
  unfold transfer
  split
  · exact .refl
  split
  · exact .refl
  split
  · exact .refl
  split
  · exact .refl
  dsimp only
  split
  · exact .modify (.issue .refl) (sameCall_sendHangup env)
  · exact .issue .refl

theorem recordStart_changes : Changes σ (recordStart env σ node callID).1 := by
  unfold recordStart
  split
  · exact .refl
  split
  · exact .refl
  dsimp only
  split
  · exact .modify (.issue .refl) fun _ => ⟨rfl, rfl, rfl⟩
  · exact .issue .refl

theorem recordStop_changes : Changes σ (recordStop env σ node callID).1 := by
  unfold recordStop
  split
  · exact .refl
  dsimp only
  split
  · exact .modify (.issue .refl) fun _ => ⟨rfl, rfl, rfl⟩
  · exact .issue .refl

theorem bridgeCalls_changes : Changes σ (bridgeCalls env σ node fields).1 := by
  unfold bridgeCalls
  split
  · exact .refl
  split
  · dsimp only
    split
    · refine .modify (.modify (.issue (.modify .refl ?_)) ?_) ?_ <;> exact fun _ => ⟨rfl, rfl, rfl⟩
    · refine .modify (.issue (.modify .refl ?_)) ?_ <;> exact fun _ => ⟨rfl, rfl, rfl⟩
  · exact .refl

theorem unbridgeCalls_changes : Changes σ (unbridgeCalls env σ node fields).1 := by
  unfold unbridgeCalls
  split
  · exact .refl
  split
  · dsimp only
    split
    · refine .modify (.modify (.modify (.issue .refl) ?_) ?_) ?_ <;> exact fun _ => ⟨rfl, rfl, rfl⟩
    · exact .issue .refl
  · exact .refl

theorem serve_changes (env : Environment) (σ : State) (node : String) (request : ControlRequest) :
    Changes σ (serve env σ node request).1 := by
  cases request with
  | sendDtmf => exact sendDtmf_changes
  | transfer => exact transfer_changes
  | recordStart => exact recordStart_changes
  | recordStop => exact recordStop_changes
  | bridgeCalls => exact bridgeCalls_changes
  | unbridgeCalls => exact unbridgeCalls_changes

/-- A setter leaves the node with the same call. -/
theorem get_modify (setter : SessionState → SessionState) (same : ∀ s, SameCall (setter s) s)
    (found : σ.get node c = some s) :
    ∃ t, (σ.modify node c setter).get node c = some t ∧ SameCall t s := by
  cases here : σ.locals node c with
  | some t =>
    simp only [State.get, here, Option.some.injEq] at found
    subst found
    exact ⟨setter t, by simp [State.get, State.modify, here], same t⟩
  | none =>
    refine ⟨s, ?_, rfl, rfl, rfl⟩
    simpa [State.get, State.modify, here] using found

theorem handleLocalCommand_changes (message : CommandMsg) :
    Changes σ (handleLocalCommand env σ node message) := by
  unfold handleLocalCommand
  split
  · exact .refl
  rename_i s found
  split
  · exact .issue .refl
  · exact .modify (.issue .refl) (sameCall_sendHangup env)
  · dsimp only
    split
    · have found : (σ.issue node (.command (.recordStart s.fsUUID
          (Node.recordPath s.sessionId)))).get node message.sessionId = some s := found
      obtain ⟨t, after, same⟩ := get_modify (·.setRecordPath (Node.recordPath s.sessionId))
        (fun _ => ⟨rfl, rfl, rfl⟩) found
      exact .save (.modify (.issue .refl) fun _ => ⟨rfl, rfl, rfl⟩) after
        ⟨same.nodeId.symm, same.sessionId.symm, same.fsUUID.symm⟩
    · exact .issue .refl
  · dsimp only
    split
    · exact .modify (.issue .refl) fun _ => ⟨rfl, rfl, rfl⟩
    · exact .issue .refl
  all_goals exact .refl

theorem handle_changes (env : Environment) (σ : State) (node : String) (request : ControlRequest) :
    Changes σ (handle env σ node request).1 := by
  have changed := serve_changes env σ node request
  rcases served : serve env σ node request with ⟨τ, reply⟩
  rw [served] at changed
  simp only [handle, served]
  split
  · exact changed
  · exact changed.trans (handleLocalCommand_changes _)

end Changes

theorem Valid.step {σ τ : State} {label : Label} (valid : Valid σ) (fresh : Fresh σ label)
    (stepped : step σ label = some τ) : Valid τ := by
  cases label with
  | add node sessionId fsUUID =>
    cases Option.some.inj stepped
    exact valid.add (newSession node sessionId fsUUID) fresh
  | release node sessionId deleted =>
    simp only [Cluster.step] at stepped
    split at stepped
    · cases Option.some.inj stepped
      exact valid.release
    · cases stepped
  | expire sessionId =>
    cases Option.some.inj stepped
    exact valid.expire
  | startIvr | sendDigit | takeEvent =>
    cases Option.some.inj stepped
    exact valid.modify fun _ => ⟨rfl, rfl, rfl⟩
  | handle env node request =>
    cases Option.some.inj stepped
    exact valid.changes (handle_changes env σ node request)

theorem reachable_valid (fresh : Along step Fresh State.empty labels)
    (run : exec step State.empty labels = some σ) : Valid σ := by
  have initial : Valid State.empty := ⟨nofun, nofun, nofun, nofun⟩
  exact exec_invariant Valid.step fresh run initial

/-! Handling on another node against handling on the owner. -/

def SessionState.observed (s : SessionState) : Bytes × Bytes × Bool × Option (List IvrEvent) :=
  (s.recordPath, s.bridgedWith, s.aiPaused, s.ivrEventCh)

/-- The request does on `node` what it does on `owner`. -/
structure Refines (env : Environment) (σ : State) (owner node : String) (request : ControlRequest) :
    Prop where
  accepted : (handle env σ node request).2.Accepted ↔ (handle env σ owner request).2.Accepted
  commands : (handle env σ node request).1.esl owner = (handle env σ owner request).1.esl owner
  sessions : ∀ c, ((handle env σ node request).1.locals owner c).map SessionState.observed =
    ((handle env σ owner request).1.locals owner c).map SessionState.observed

/-- The session, or one of the two, that the request is about. -/
def ControlRequest.Concerns (request : ControlRequest) (c : Bytes) : Prop :=
  match request with
  | .sendDtmf callID _ | .transfer callID _ | .recordStart callID | .recordStop callID => callID = c
  | .bridgeCalls (some (callID1, callID2)) | .unbridgeCalls (some (callID1, callID2)) =>
    callID1 = c ∨ callID2 = c
  | .bridgeCalls none | .unbridgeCalls none => True

/-- Another node finds the session and its message goes out. -/
def Routed (env : Environment) (σ : State) (c : Bytes) : Prop :=
  (σ.redis c).isSome = true ∧ env.publishOk = true

/-- Neither node gets as far as a command that succeeds. -/
def Refused (env : Environment) (σ : State) (owner node : String) (callID1 callID2 : Bytes)
    (command : SessionState → SessionState → EslCommand) : Prop :=
  (σ.get owner callID1 = none ∨ σ.get owner callID2 = none) ∧
    ∀ sA ∈ σ.get node callID1, ∀ sB ∈ σ.get node callID2, env.eslOk node (command sA sB) = false

/-- When it does. -/
def Routes (env : Environment) (σ : State) (owner node : String) (request : ControlRequest) :
    Prop :=
  let succeeds (c : Bytes) (command : SessionState → Command) : Prop :=
    ∀ s ∈ σ.get owner c, env.eslOk owner (.command (command s)) = true
  match request with
  | .sendDtmf c digits => missing digits = false →
    if dtmfPattern (digits.getD []) then
      Routed env σ c ∧ succeeds c fun s => .sendDtmf s.fsUUID (digits.getD [])
    else ¬Routed env σ c
  | .transfer c target => missing target = false → sipTargetPattern (target.getD []) = true →
    Routed env σ c ∧ succeeds c fun s => .transfer s.fsUUID (target.getD [])
  | .recordStart c =>
    Routed env σ c ∧ succeeds c fun s => .recordStart s.fsUUID (Node.recordPath c)
  | .recordStop _ => False
  | .bridgeCalls none | .unbridgeCalls none => True
  | .bridgeCalls (some (callID1, callID2)) =>
    Refused env σ owner node callID1 callID2 fun sA sB => .command (.bridge sA.fsUUID sB.fsUUID)
  | .unbridgeCalls (some (callID1, callID2)) =>
    Refused env σ owner node callID1 callID2 fun sA _ => .unbridge sA.fsUUID

section Routing
variable {env : Environment} {σ : State} {owner node : String} {c : Bytes} {s : SessionState}

@[simp] theorem modify_esl : (σ.modify node c setter).esl = σ.esl := rfl

@[simp] theorem issue_locals : (σ.issue node command).locals = σ.locals := rfl

@[simp] theorem saveSession_esl : (σ.saveSession env s).esl = σ.esl := by
  unfold State.saveSession
  split <;> rfl

@[simp] theorem saveSession_locals : (σ.saveSession env s).locals = σ.locals := by
  unfold State.saveSession
  split <;> rfl

@[simp] theorem issue_esl : (σ.issue node command).esl node = σ.esl node ++ [command] := by
  simp [State.issue]

@[simp] theorem issue_esl_other (other : owner ≠ node) :
    (σ.issue node command).esl owner = σ.esl owner := by
  simp [State.issue, other]

@[simp] theorem modify_locals_other (other : owner ≠ node) :
    (σ.modify node c setter).locals owner = σ.locals owner := by
  simp [State.modify, other]

theorem refines_iff : Refines env σ owner node request ↔
    ((handle env σ node request).2.Accepted ↔ (handle env σ owner request).2.Accepted) ∧
      (handle env σ node request).1.esl owner = (handle env σ owner request).1.esl owner ∧
      ∀ c, ((handle env σ node request).1.locals owner c).map SessionState.observed =
        ((handle env σ owner request).1.locals owner c).map SessionState.observed :=
  ⟨fun refines => ⟨refines.accepted, refines.commands, refines.sessions⟩,
    fun ⟨accepted, commands, sessions⟩ => ⟨accepted, commands, sessions⟩⟩

theorem handle_of (served : serve env σ node request = (τ, .of status)) :
    handle env σ node request = (τ, .of status) := by
  simp only [handle, served, Reply.of]

/-- A published message is carried out by its node. -/
theorem handle_publish
    (served : serve env σ node request = (σ, publishCommand env target message)) :
    handle env σ node request = if env.publishOk then
      (handleLocalCommand env σ target message, ⟨200, some (target, message)⟩) else
        (σ, .of 500) := by
  cases published : env.publishOk <;> simp [handle, served, publishCommand, published, Reply.of]

/-- The owner finds its session, and another node the record of it. -/
structure Split (σ : State) (owner node : String) (c : Bytes) (s : SessionState) : Prop where
  here : σ.get owner c = some s
  nodeId : s.nodeId = owner
  sessionId : s.sessionId = c
  there : σ.get node c = (σ.redis c).map Record.session
  routes : ∀ r, σ.redis c = some r → r.nodeId = owner
  other : owner ≠ node

theorem Valid.split (valid : Valid σ) (owned : σ.locals owner c = some s)
    (foreign : σ.locals node c = none) : Split σ owner node c s where
  here := by simp [State.get, owned]
  nodeId := (valid.owned owned).1
  sessionId := (valid.owned owned).2
  there := by simp [State.get, foreign]
  routes r isRecord := (valid.recorded owned isRecord).1
  other := by
    rintro rfl
    rw [foreign] at owned
    cases owned

/-- A node that does not own the session reports it missing or passes the request
on, and changes nothing itself. -/
theorem handle_foreign (absent : σ.redis c = none → serve env σ node request = (σ, .of 404))
    (present : ∀ r, σ.redis c = some r →
      serve env σ node request = (σ, publishCommand env target message)) :
    (Routed env σ c → handle env σ node request =
      (handleLocalCommand env σ target message, ⟨200, some (target, message)⟩)) ∧
    (¬Routed env σ c → ∃ status, status ≠ 200 ∧ handle env σ node request = (σ, .of status)) := by
  cases isRecord : σ.redis c with
  | none =>
    refine ⟨fun routed => ?_, fun _ => ⟨404, by decide, handle_of (absent isRecord)⟩⟩
    simp [Routed, isRecord] at routed
  | some r =>
    have handled := handle_publish (present r isRecord)
    cases published : env.publishOk with
    | false =>
      rw [published] at handled
      refine ⟨fun routed => ?_, fun _ => ⟨500, by decide, handled⟩⟩
      simp [Routed, published] at routed
    | true =>
      rw [published] at handled
      refine ⟨fun _ => handled, fun unrouted => ?_⟩
      simp [Routed, isRecord, published] at unrouted

/-- Where neither node accepts the request, nothing happens on either. -/
theorem refines_of_refused (there : handle env σ node request = (σ, .of status))
    (here : handle env σ owner request = (σ, .of status')) (refused : status ≠ 200)
    (refused' : status' ≠ 200) : Refines env σ owner node request := by
  simp [refines_iff, there, here, Reply.Accepted, Reply.of, refused, refused']

/-- A request that no node accepts. -/
theorem refines_malformed (here : serve env σ owner request = (σ, .of 400))
    (absent : σ.redis c = none → serve env σ node request = (σ, .of 404))
    (present : ∀ r, σ.redis c = some r → serve env σ node request = (σ, .of 400)) :
    Refines env σ owner node request := by
  cases isRecord : σ.redis c with
  | none =>
    exact refines_of_refused (handle_of (absent isRecord)) (handle_of here) (by decide) (by decide)
  | some r =>
    exact refines_of_refused (handle_of (present r isRecord)) (handle_of here) (by decide)
      (by decide)

/-- An endpoint that sends one command on the owner and is passed on by others. -/
theorem refines_passed (here : handle env σ owner request =
      if env.eslOk owner command then (done, .of 200) else (σ.issue owner command, .of 500))
    (sent : done.esl owner = σ.esl owner ++ [command])
    (routed : Routed env σ c → (handle env σ node request).2.Accepted ∧
      (env.eslOk owner command = true →
        (handle env σ node request).1.esl owner = done.esl owner ∧
        (handle env σ node request).1.locals owner = done.locals owner))
    (unrouted : ¬Routed env σ c → (handle env σ node request).1.esl owner = σ.esl owner) :
    Refines env σ owner node request ↔ Routed env σ c ∧ env.eslOk owner command = true := by
  rw [refines_iff, here]
  by_cases isRouted : Routed env σ c
  case neg =>
    rw [unrouted isRouted]
    cases env.eslOk owner command <;> simp [isRouted, sent]
  obtain ⟨accepted, same⟩ := routed isRouted
  simp only [Reply.Accepted] at accepted
  cases ok : env.eslOk owner command with
  | false => simp [accepted, Reply.Accepted, Reply.of]
  | true =>
    obtain ⟨commands, sessions⟩ := same ok
    simp [isRouted, accepted, Reply.Accepted, Reply.of, commands, sessions]

theorem sendDtmf_refines (split : Split σ owner node c s) (digits : Option Bytes) :
    Refines env σ owner node (.sendDtmf c digits) ↔
      Routes env σ owner node (.sendDtmf c digits) := by
  have absent (isRecord : σ.redis c = none) :
      serve env σ node (.sendDtmf c digits) = (σ, .of 404) := by
    simp [serve, sendDtmf, split.there, isRecord]
  cases lacking : missing digits with
  | true =>
    have refined : Refines env σ owner node (.sendDtmf c digits) := by
      refine refines_malformed ?_ absent fun r isRecord => ?_
      · simp [serve, sendDtmf, split.here, lacking]
      · simp [serve, sendDtmf, split.there, isRecord, lacking]
    simp [refined, Routes, lacking]
  | false =>
    obtain ⟨text, rfl⟩ : ∃ text, digits = some text := by
      cases digits with
      | none => cases lacking
      | some text => exact ⟨text, rfl⟩
    have present (r : Record) (isRecord : σ.redis c = some r) :
        serve env σ node (.sendDtmf c (some text)) =
          (σ, publishCommand env owner ⟨c, .dtmf (some text)⟩) := by
      have away : r.session.nodeId = owner := split.routes r isRecord
      simp [serve, sendDtmf, split.there, isRecord, lacking, away, split.other]
    obtain ⟨passed, kept⟩ := handle_foreign absent present
    have delivered : handleLocalCommand env σ owner ⟨c, .dtmf (some text)⟩ =
        σ.issue owner (.command (.sendDtmf s.fsUUID text)) := by
      simp [handleLocalCommand, split.here]
    cases valid : dtmfPattern text with
    | true =>
      have here : handle env σ owner (.sendDtmf c (some text)) =
          if env.eslOk owner (.command (.sendDtmf s.fsUUID text)) then
            (σ.issue owner (.command (.sendDtmf s.fsUUID text)), .of 200)
          else (σ.issue owner (.command (.sendDtmf s.fsUUID text)), .of 500) := by
        cases ok : env.eslOk owner (.command (.sendDtmf s.fsUUID text)) <;> apply handle_of <;>
          simp [serve, sendDtmf, split.here, split.nodeId, lacking, valid, ok]
      have passedOn : Refines env σ owner node (.sendDtmf c (some text)) ↔ Routed env σ c ∧
          env.eslOk owner (.command (.sendDtmf s.fsUUID text)) = true := by
        refine refines_passed here (by simp) (fun routed => ?_) fun unrouted => ?_
        · simp [passed routed, Reply.Accepted, delivered]
        · obtain ⟨status, -, handled⟩ := kept unrouted
          rw [handled]
      simpa [Routes, lacking, valid, split.here] using passedOn
    | false =>
      have here : handle env σ owner (.sendDtmf c (some text)) = (σ, .of 400) := by
        apply handle_of
        simp [serve, sendDtmf, split.here, split.nodeId, lacking, valid]
      by_cases routed : Routed env σ c
      · simp [refines_iff, passed routed, here, Reply.Accepted, Reply.of, Routes, lacking,
          valid, routed]
      · obtain ⟨status, refused, there⟩ := kept routed
        have refined := refines_of_refused there here refused (by decide)
        simp [refined, Routes, lacking, valid, routed]

theorem transfer_refines (split : Split σ owner node c s) (target : Option Bytes) :
    Refines env σ owner node (.transfer c target) ↔
      Routes env σ owner node (.transfer c target) := by
  have absent (isRecord : σ.redis c = none) :
      serve env σ node (.transfer c target) = (σ, .of 404) := by
    simp [serve, transfer, split.there, isRecord]
  by_cases malformed : missing target = true ∨ sipTargetPattern (target.getD []) = false
  case pos =>
    have refined : Refines env σ owner node (.transfer c target) := by
      refine refines_malformed ?_ absent fun r isRecord => ?_
      · rcases malformed with lacking | invalid
        · simp [serve, transfer, split.here, lacking]
        · simp [serve, transfer, split.here, invalid]
      · rcases malformed with lacking | invalid
        · simp [serve, transfer, split.there, isRecord, lacking]
        · simp [serve, transfer, split.there, isRecord, invalid]
    rcases malformed with lacking | invalid
    · simp [refined, Routes, lacking]
    · simp [refined, Routes, invalid]
  case neg =>
    obtain ⟨lacking, valid⟩ : missing target = false ∧
        sipTargetPattern (target.getD []) = true := by
      simpa using malformed
    obtain ⟨text, rfl⟩ : ∃ text, target = some text := by
      cases target with
      | none => cases lacking
      | some text => exact ⟨text, rfl⟩
    simp only [Option.getD_some] at valid
    have present (r : Record) (isRecord : σ.redis c = some r) :
        serve env σ node (.transfer c (some text)) =
          (σ, publishCommand env owner ⟨c, .transfer (some text)⟩) := by
      have away : r.session.nodeId = owner := split.routes r isRecord
      simp [serve, transfer, split.there, isRecord, lacking, valid, away, split.other]
    obtain ⟨passed, kept⟩ := handle_foreign absent present
    have delivered : handleLocalCommand env σ owner ⟨c, .transfer (some text)⟩ =
        (σ.issue owner (.command (.transfer s.fsUUID text))).modify owner c (·.sendHangup env) := by
      simp [handleLocalCommand, split.here]
    have here : handle env σ owner (.transfer c (some text)) =
        if env.eslOk owner (.command (.transfer s.fsUUID text)) then
          ((σ.issue owner (.command (.transfer s.fsUUID text))).modify owner c (·.sendHangup env),
            .of 200)
        else (σ.issue owner (.command (.transfer s.fsUUID text)), .of 500) := by
      cases ok : env.eslOk owner (.command (.transfer s.fsUUID text)) <;> apply handle_of <;>
        simp [serve, transfer, split.here, split.nodeId, lacking, valid, ok]
    have passedOn : Refines env σ owner node (.transfer c (some text)) ↔ Routed env σ c ∧
        env.eslOk owner (.command (.transfer s.fsUUID text)) = true := by
      refine refines_passed here (by simp) (fun routed => ?_) fun unrouted => ?_
      · simp [passed routed, Reply.Accepted, delivered]
      · obtain ⟨status, -, handled⟩ := kept unrouted
        rw [handled]
    simpa [Routes, lacking, valid, split.here] using passedOn

theorem recordStart_refines (split : Split σ owner node c s) :
    Refines env σ owner node (.recordStart c) ↔ Routes env σ owner node (.recordStart c) := by
  have absent (isRecord : σ.redis c = none) : serve env σ node (.recordStart c) = (σ, .of 404) := by
    simp [serve, recordStart, split.there, isRecord]
  have present (r : Record) (isRecord : σ.redis c = some r) :
      serve env σ node (.recordStart c) = (σ, publishCommand env owner ⟨c, .recordStart⟩) := by
    have away : r.session.nodeId = owner := split.routes r isRecord
    simp [serve, recordStart, split.there, isRecord, away, split.other]
  obtain ⟨passed, kept⟩ := handle_foreign absent present
  have here : handle env σ owner (.recordStart c) =
      if env.eslOk owner (.command (.recordStart s.fsUUID (Node.recordPath c))) then
        ((σ.issue owner (.command (.recordStart s.fsUUID (Node.recordPath c)))).modify owner c
          (·.setRecordPath (Node.recordPath c)), .of 200)
      else (σ.issue owner (.command (.recordStart s.fsUUID (Node.recordPath c))), .of 500) := by
    cases ok : env.eslOk owner (.command (.recordStart s.fsUUID (Node.recordPath c))) <;>
      apply handle_of <;> simp [serve, recordStart, split.here, split.nodeId, ok]
  have passedOn : Refines env σ owner node (.recordStart c) ↔ Routed env σ c ∧
      env.eslOk owner (.command (.recordStart s.fsUUID (Node.recordPath c))) = true := by
    refine refines_passed here (by simp) (fun routed => ?_) fun unrouted => ?_
    · refine ⟨by simp [passed routed, Reply.Accepted], fun ok => ?_⟩
      simp [passed routed, handleLocalCommand, split.here, split.sessionId, ok]
    · obtain ⟨status, -, handled⟩ := kept unrouted
      rw [handled]
  simpa [Routes, split.here] using passedOn

/-- An endpoint that sends its command on the node it runs on. -/
theorem not_refines_elsewhere (here : (handle env σ owner request).1.esl owner =
      σ.esl owner ++ [command])
    (there : (handle env σ node request).1.esl owner = σ.esl owner) :
    ¬Refines env σ owner node request := by
  intro refines
  have same := refines.commands
  simp [here, there] at same

theorem recordStop_refines (split : Split σ owner node c s) :
    Refines env σ owner node (.recordStop c) ↔ Routes env σ owner node (.recordStop c) := by
  have here : (handle env σ owner (.recordStop c)).1.esl owner =
      σ.esl owner ++ [.command (.recordStop s.fsUUID)] := by
    cases ok : env.eslOk owner (.command (.recordStop s.fsUUID)) <;>
      simp [handle, serve, recordStop, split.here, ok, Reply.of]
  have there : (handle env σ node (.recordStop c)).1.esl owner = σ.esl owner := by
    cases isRecord : σ.redis c with
    | none => simp [handle, serve, recordStop, split.there, isRecord, Reply.of]
    | some r =>
      cases ok : env.eslOk node (.command (.recordStop r.session.fsUUID)) <;>
        simp [handle, serve, recordStop, split.there, isRecord, ok, Reply.of, split.other]
  simp [not_refines_elsewhere here there, Routes]

/-- What the two endpoints for a pair of sessions do on each node. -/
structure PairEndpoint (env : Environment) (σ : State) (callID1 callID2 : Bytes)
    (command : SessionState → SessionState → EslCommand) (request : ControlRequest) : Prop where
  unknown : ∀ node, σ.get node callID1 = none ∨ σ.get node callID2 = none →
    handle env σ node request = (σ, .of 404)
  sent : ∀ {node sA sB}, σ.get node callID1 = some sA → σ.get node callID2 = some sB →
    (handle env σ node request).1.esl node = σ.esl node ++ [command sA sB]
  accepted : ∀ {node sA sB}, σ.get node callID1 = some sA → σ.get node callID2 = some sB →
    ((handle env σ node request).2.Accepted ↔ env.eslOk node (command sA sB) = true)
  apart : ∀ {owner node sA sB}, owner ≠ node →
    σ.get node callID1 = some sA → σ.get node callID2 = some sB →
    (handle env σ node request).1.esl owner = σ.esl owner ∧
      (handle env σ node request).1.locals owner = σ.locals owner

theorem PairEndpoint.elsewhere {command : SessionState → SessionState → EslCommand}
    (paired : PairEndpoint env σ callID1 callID2 command request) (other : owner ≠ node) :
    (handle env σ node request).1.esl owner = σ.esl owner ∧
      (handle env σ node request).1.locals owner = σ.locals owner := by
  cases foundA : σ.get node callID1 with
  | none => simp [paired.unknown node (.inl foundA)]
  | some sA =>
    cases foundB : σ.get node callID2 with
    | none => simp [paired.unknown node (.inr foundB)]
    | some sB => exact paired.apart other foundA foundB

theorem PairEndpoint.refines {command : SessionState → SessionState → EslCommand}
    (paired : PairEndpoint env σ callID1 callID2 command request) (other : owner ≠ node) :
    Refines env σ owner node request ↔ Refused env σ owner node callID1 callID2 command := by
  obtain ⟨commands, sessions⟩ := paired.elsewhere other
  by_cases known : σ.get owner callID1 = none ∨ σ.get owner callID2 = none
  case neg =>
    obtain ⟨⟨sA, foundA⟩, ⟨sB, foundB⟩⟩ :
        (∃ sA, σ.get owner callID1 = some sA) ∧ ∃ sB, σ.get owner callID2 = some sB := by
      simpa only [not_or, ← ne_eq, Option.ne_none_iff_exists'] using known
    have differs := not_refines_elsewhere (paired.sent foundA foundB) commands
    simp [differs, Refused, foundA, foundB]
  case pos =>
    have here := paired.unknown owner known
    rw [refines_iff, here, commands, sessions]
    have refused : ¬(Reply.of 404).Accepted := by simp [Reply.Accepted, Reply.of]
    simp only [refused, iff_false, forall_const, and_true, Refused, known, true_and]
    cases foundA : σ.get node callID1 with
    | none => simp [paired.unknown node (.inl foundA), Reply.Accepted, Reply.of]
    | some sA =>
      cases foundB : σ.get node callID2 with
      | none => simp [paired.unknown node (.inr foundB), Reply.Accepted, Reply.of]
      | some sB => simp [paired.accepted foundA foundB]

theorem bridgeCalls_paired : PairEndpoint env σ callID1 callID2
    (fun sA sB => .command (.bridge sA.fsUUID sB.fsUUID))
      (.bridgeCalls (some (callID1, callID2))) := by
  constructor
  case unknown =>
    intro node missing
    apply handle_of
    rcases missing with missing | missing
    · simp [serve, bridgeCalls, missing]
    · simp [serve, bridgeCalls, missing]
  case sent =>
    intro node sA sB foundA foundB
    cases ok : env.eslOk node (.command (.bridge sA.fsUUID sB.fsUUID)) <;>
      simp [handle, serve, bridgeCalls, foundA, foundB, ok, Reply.of]
  case accepted =>
    intro node sA sB foundA foundB
    cases ok : env.eslOk node (.command (.bridge sA.fsUUID sB.fsUUID)) <;>
      simp [handle, serve, bridgeCalls, foundA, foundB, ok, Reply.of, Reply.Accepted]
  case apart =>
    intro owner node sA sB other foundA foundB
    cases ok : env.eslOk node (.command (.bridge sA.fsUUID sB.fsUUID)) <;>
      simp [handle, serve, bridgeCalls, foundA, foundB, ok, Reply.of, other]

theorem unbridgeCalls_paired : PairEndpoint env σ callID1 callID2 (fun sA _ => .unbridge sA.fsUUID)
    (.unbridgeCalls (some (callID1, callID2))) := by
  constructor
  case unknown =>
    intro node missing
    apply handle_of
    rcases missing with missing | missing
    · simp [serve, unbridgeCalls, missing]
    · simp [serve, unbridgeCalls, missing]
  case sent =>
    intro node sA sB foundA foundB
    cases ok : env.eslOk node (.unbridge sA.fsUUID) <;>
      simp [handle, serve, unbridgeCalls, foundA, foundB, ok, Reply.of]
  case accepted =>
    intro node sA sB foundA foundB
    cases ok : env.eslOk node (.unbridge sA.fsUUID) <;>
      simp [handle, serve, unbridgeCalls, foundA, foundB, ok, Reply.of, Reply.Accepted]
  case apart =>
    intro owner node sA sB other foundA foundB
    cases ok : env.eslOk node (.unbridge sA.fsUUID) <;>
      simp [handle, serve, unbridgeCalls, foundA, foundB, ok, Reply.of, other]

/-- A body that does not decode is refused everywhere. -/
theorem refines_undecoded (everywhere : ∀ node, serve env σ node request = (σ, .of 400)) :
    Refines env σ owner node request :=
  refines_of_refused (handle_of (everywhere node)) (handle_of (everywhere owner)) (by decide)
    (by decide)

/-- In every reachable cluster, a control request on a node that does not own the
session does what it does on the owner exactly when `Routes` holds. -/
theorem routed_command_refines_iff (env : Environment) (labels : List Label) (σ : State)
    (fresh : Along step Fresh State.empty labels) (run : exec step State.empty labels = some σ)
    (request : ControlRequest) (c : Bytes) (s : SessionState) (owner node : String)
    (concerns : request.Concerns c) (owned : σ.locals owner c = some s)
    (foreign : σ.locals node c = none) :
    Refines env σ owner node request ↔ Routes env σ owner node request := by
  have split := (reachable_valid fresh run).split owned foreign
  cases request with
  | sendDtmf callID digits =>
    cases concerns
    exact sendDtmf_refines split digits
  | transfer callID target =>
    cases concerns
    exact transfer_refines split target
  | recordStart callID =>
    cases concerns
    exact recordStart_refines split
  | recordStop callID =>
    cases concerns
    exact recordStop_refines split
  | bridgeCalls fields =>
    cases fields with
    | none => exact iff_of_true (refines_undecoded fun _ => rfl) trivial
    | some ids => exact bridgeCalls_paired.refines split.other
  | unbridgeCalls fields =>
    cases fields with
    | none => exact iff_of_true (refines_undecoded fun _ => rfl) trivial
    | some ids => exact unbridgeCalls_paired.refines split.other

end Routing

/-- Every call of the environment succeeds. -/
def faultless : Environment := ⟨fun _ _ => true, true, true, false⟩

def incoming : List Label :=
  [.add "node-a" (ascii "5d1f") (ascii "77c0"), .startIvr "node-a" (ascii "5d1f")]

def running : State :=
  (State.empty.add (newSession "node-a" (ascii "5d1f") (ascii "77c0"))).modify "node-a"
    (ascii "5d1f") (·.startIvr)

theorem routed_transfer_refines :
    Refines faultless running "node-a" "node-b"
      (.transfer (ascii "5d1f") (some (ascii "1001"))) := by
  refine (routed_command_refines_iff faultless incoming running ⟨fun _ => rfl, ?_⟩ rfl
    (.transfer (ascii "5d1f") (some (ascii "1001"))) (ascii "5d1f")
    (newSession "node-a" (ascii "5d1f") (ascii "77c0")).startIvr "node-a" "node-b" rfl ?_ ?_).mpr ?_
  · exact fun _ _ => ⟨trivial, fun _ _ => trivial⟩
  · decide +kernel
  · decide +kernel
  · exact fun _ _ => ⟨⟨by decide +kernel, rfl⟩, fun _ _ => rfl⟩

/-- `record/stop` on another node reaches the wrong FreeSWITCH, and digits that the
owner refuses are sent by it all the same. -/
theorem record_stop_not_routed : exec step State.empty incoming = some running ∧
    Along step Fresh State.empty incoming ∧
    (running.locals "node-a" (ascii "5d1f")).isSome = true ∧
    running.locals "node-b" (ascii "5d1f") = none ∧
    ¬Refines faultless running "node-a" "node-b" (.recordStop (ascii "5d1f")) ∧
    ¬Refines faultless running "node-a" "node-b"
      (.sendDtmf (ascii "5d1f") (some (ascii "1 2"))) := by
  refine ⟨rfl, ⟨fun _ => rfl, fun _ _ => ⟨trivial, fun _ _ => trivial⟩⟩, by decide +kernel,
    by decide +kernel, ?_, ?_⟩
  · intro refines
    have same := refines.commands
    revert same
    decide +kernel
  · intro refines
    have same := refines.commands
    revert same
    decide +kernel

end AgentOE.Esl.Cluster
