import AgentOE.Collection
import AgentOE.Session.Fsm

/-! The session repository: a MongoDB document and history per session, and a
Redis hot-state in front of them. Operations run to completion here; each takes
the instant at which it runs. Redis commands succeed. -/
namespace AgentOE.Session
open Collection

/-- `sessionIdUnique` records whether the index migration that declares
`session_id` unique has been applied to the database. -/
structure Config where
  redisKeyNamespace : String
  redisTenantScopedKeys : Bool
  sessionIdUnique : Bool

/-- The shipped settings, on a database without the migration. -/
def Config.default : Config := ⟨"agentoe", true, false⟩

def scopedKey (cfg : Config) (kind : String) (parts : List String) (tenantId : Option String) :
    String :=
  let tenant := match tenantId with
    | some t => if t ≠ "" ∧ cfg.redisTenantScopedKeys then ["t", t] else []
    | none => []
  ":".intercalate ([cfg.redisKeyNamespace] ++ tenant ++ [kind] ++ parts)

inductive Role where
  | user
  | assistant
  deriving DecidableEq, Repr

structure Message where
  role : Role
  content : String
  deriving DecidableEq, Repr

structure SessionDoc where
  sessionId : String
  tenantId : String
  clientId : String
  status : SessionState
  fsmSnapshot : Snapshot
  historyCount : Nat
  createdAt : Nat
  updatedAt : Nat
  endedAt : Option Nat
  endReason : Option String
  /-- Fields written through `extra`, under the dotted path they are set with. -/
  extra : Dict
  deriving DecidableEq, Repr

structure TurnDoc where
  sessionId : String
  turnIndex : Nat
  userText : String
  aiText : String
  policyLevel : String
  latency : Dict
  createdAt : Nat
  deriving DecidableEq, Repr

/-- The JSON object cached in Redis. A writer that finds no entry starts from
the empty object, so every field may be missing. -/
structure HotState where
  status : Option SessionState
  fsmSnapshot : Option Snapshot
  history : Option (List Message)
  tenantId : Option String
  clientId : Option String
  extra : Dict
  deriving DecidableEq, Repr

def HotState.empty : HotState := ⟨none, none, none, none, none, []⟩

structure Store where
  sessions : List SessionDoc
  history : List TurnDoc
  redis : String → Option HotState

def Store.empty : Store := ⟨[], [], fun _ => none⟩

inductive RepoError where
  | sessionNotFound (sessionId : String)
  | duplicateKey (sessionId : String)
  deriving DecidableEq, Repr

def redisHistoryTurns : Nat := 20

/-! Redis hot-state. The repository never passes a tenant to these. -/

def sessionKey (cfg : Config) (sessionId : String) : String :=
  scopedKey cfg "session" [sessionId] none

def setSessionState (cfg : Config) (σ : Store) (sessionId : String) (state : HotState) : Store :=
  { σ with redis := Function.update σ.redis (sessionKey cfg sessionId) (some state) }

def getSessionState (cfg : Config) (σ : Store) (sessionId : String) : Option HotState :=
  σ.redis (sessionKey cfg sessionId)

def deleteSessionState (cfg : Config) (σ : Store) (sessionId : String) : Store :=
  { σ with redis := Function.update σ.redis (sessionKey cfg sessionId) none }

/-! MongoDB documents. -/

def bySession (sessionId : String) (doc : SessionDoc) : Bool := doc.sessionId == sessionId

def getById (σ : Store) (sessionId : String) : Except RepoError SessionDoc :=
  match findOne (bySession sessionId) σ.sessions with
  | some doc => .ok doc
  | none => .error (.sessionNotFound sessionId)

/-- The newest `limit` turns, oldest first, as the language model reads them. -/
def getRecentHistory (σ : Store) (sessionId : String) (limit : Nat) : List Message :=
  let turns := (σ.history.filter (·.sessionId == sessionId)).mergeSort
    (fun a b => b.turnIndex ≤ a.turnIndex)
  (turns.take limit).reverse.flatMap fun t => [⟨.user, t.userText⟩, ⟨.assistant, t.aiText⟩]

/-- The dictionary `create` is called with by the session factory. -/
structure SessionData where
  sessionId : String
  tenantId : String
  clientId : String
  status : SessionState

def create (cfg : Config) (σ : Store) (data : SessionData) (now : Nat) :
    Except RepoError Unit × Store :=
  if cfg.sessionIdUnique ∧ (findOne (bySession data.sessionId) σ.sessions).isSome then
    (.error (.duplicateKey data.sessionId), σ)
  else
    let doc : SessionDoc := ⟨data.sessionId, data.tenantId, data.clientId, data.status, .initial,
      0, now, now, none, none, []⟩
    let σ := { σ with sessions := insertOne doc σ.sessions }
    (.ok (), setSessionState cfg σ data.sessionId
      ⟨some data.status, some .initial, some [], some data.tenantId, some data.clientId, []⟩)

/-- A Redis hit wins. An ended session and an unknown one both answer `none`. -/
def restoreHotState (cfg : Config) (σ : Store) (sessionId : String) : Option HotState × Store :=
  match (getSessionState cfg σ sessionId).filter (· ≠ .empty) with
  | some hot => if hot.status = some .ended then (none, σ) else (some hot, σ)
  | none =>
    match getById σ sessionId with
    | .error _ => (none, σ)
    | .ok doc =>
      if doc.status = .ended then (none, σ)
      else
        let hot : HotState := ⟨some doc.status, some doc.fsmSnapshot,
          some (getRecentHistory σ sessionId redisHistoryTurns), some doc.tenantId,
          some doc.clientId, []⟩
        (some hot, setSessionState cfg σ sessionId hot)

structure Turn where
  userText : String
  aiText : String
  latency : Dict
  policyLevel : String

/-- The document update is an update only: a missing session still gets its
turn, under index zero. -/
def saveTurn (cfg : Config) (σ : Store) (sessionId : String) (fsm : SessionFSM) (turn : Turn)
    (now : Nat) : Store :=
  let before := findOne (bySession sessionId) σ.sessions
  let sessions := updateOne (bySession sessionId) (fun doc => { doc with
    status := fsm.state, fsmSnapshot := fsm.toSnapshot, updatedAt := now,
    historyCount := doc.historyCount + 1 }) σ.sessions
  let turnIndex := (before.map SessionDoc.historyCount).getD 0
  let doc : TurnDoc := ⟨sessionId, turnIndex, turn.userText, turn.aiText, turn.policyLevel,
    turn.latency, now⟩
  let hot := (getSessionState cfg σ sessionId).getD .empty
  let history := hot.history.getD [] ++
    [⟨.user, turn.userText⟩, ⟨.assistant, turn.aiText⟩]
  let history := if history.length > redisHistoryTurns * 2
    then history.drop (history.length - redisHistoryTurns * 2) else history
  setSessionState cfg { σ with sessions := sessions, history := insertOne doc σ.history } sessionId
    { hot with history := some history, status := some fsm.state,
               fsmSnapshot := some fsm.toSnapshot }

/-- `dict.update`: a key that is present keeps its place. -/
def updateDict (d : Dict) (entries : Dict) : Dict :=
  entries.foldl (fun d e => if d.any (·.1 == e.1)
    then d.map (fun x => if x.1 == e.1 then e else x) else d ++ [e]) d

def updateState (cfg : Config) (σ : Store) (sessionId : String) (state : SessionState)
    (extra : Dict) (fsm : Option SessionFSM) (now : Nat) : Except RepoError Unit × Store :=
  match findOne (bySession sessionId) σ.sessions with
  | none => (.error (.sessionNotFound sessionId), σ)
  | some _ =>
    let sessions := updateOne (bySession sessionId) (fun doc => { doc with
      status := state, updatedAt := now, extra := updateDict doc.extra extra,
      fsmSnapshot := (fsm.map SessionFSM.toSnapshot).getD doc.fsmSnapshot }) σ.sessions
    let hot := (getSessionState cfg σ sessionId).getD .empty
    (.ok (), setSessionState cfg { σ with sessions := sessions } sessionId
      { hot with status := some state, extra := updateDict hot.extra extra,
                 fsmSnapshot := (fsm.map SessionFSM.toSnapshot).or hot.fsmSnapshot })

def endSession (cfg : Config) (σ : Store) (sessionId : String) (reason : String)
    (fsm : Option SessionFSM) (now : Nat) : Store :=
  let sessions := updateOne (bySession sessionId) (fun doc => { doc with
    status := .ended, endedAt := some now, updatedAt := now, endReason := some reason,
    fsmSnapshot := (fsm.map SessionFSM.toSnapshot).getD doc.fsmSnapshot }) σ.sessions
  deleteSessionState cfg { σ with sessions := sessions } sessionId

end AgentOE.Session
