import AgentOE.Session.Store

/-! Session recovery on (re)connect, and the store as the connections drive it.
A stored snapshot is typed here, so the recovery's own fallback for a snapshot
that does not parse cannot be taken. -/
namespace AgentOE.Session
open Collection

inductive PolicyLevel where
  | g1
  | g2
  | g3
  | g4
  | g5
  deriving DecidableEq, Repr

structure OutboundEvent where
  name : String
  payload : Dict
  deriving DecidableEq, Repr

structure Orchestrator where
  sessionId : String
  tenantId : String
  clientId : String
  fsm : SessionFSM
  history : List Message
  policyLevel : PolicyLevel
  audioBuffer : List UInt8
  listening : Bool
  lastActivity : Nat
  closed : Bool
  shouldClose : Bool
  pipelineFailureCount : Nat
  deriving DecidableEq, Repr

def Orchestrator.new (sessionId tenantId clientId : String) (fsm : SessionFSM)
    (history : List Message) (policyLevel : PolicyLevel) (now : Nat) : Orchestrator :=
  ⟨sessionId, tenantId, clientId, fsm, history, policyLevel, [], false, now, false, false, 0⟩

def safeStates : List SessionState := [.idle, .listening, .ended]

/-- Unstable states fall back to `LISTENING` when the table allows it. -/
def restoreFsm (snapshot : Snapshot) (now : Nat) : SessionFSM :=
  let fsm := SessionFSM.fromSnapshot snapshot now
  if fsm.state ∉ safeStates then (fsm.transition .listening now []).getD fsm else fsm

abbrev Connection := Except RepoError (Option Orchestrator × List OutboundEvent)

def restoreOrCreateOrchestrator (cfg : Config) (σ : Store) (sessionId tenantId clientId : String)
    (policyLevel : PolicyLevel) (now : Nat) : Connection × Store :=
  match restoreHotState cfg σ sessionId with
  | (none, σ) =>
    match create cfg σ ⟨sessionId, tenantId, clientId, .idle⟩ now with
    | (.error e, σ) => (.error e, σ)
    | (.ok (), σ) =>
      (.ok (some (.new sessionId tenantId clientId (.new .idle) [] policyLevel now),
        [⟨"connected", [("session_id", .str sessionId), ("reconnected", .bool false)]⟩]), σ)
  | (some hot, σ) =>
    if hot.status = some .ended then (.ok (none, []), σ)
    else
      let fsm := restoreFsm (hot.fsmSnapshot.getD .initial) now
      let history := hot.history.getD []
      (.ok (some (.new sessionId tenantId clientId fsm history policyLevel now),
        [⟨"reconnected", [("session_id", .str sessionId),
          ("turns_restored", .int (history.length / 2)), ("state", .str fsm.state.value)]⟩]), σ)

/-- What connections do to the store. Every action but a cache expiry is made
by a connection of one tenant. -/
inductive Action where
  | connect (tenantId clientId sessionId : String) (policyLevel : PolicyLevel) (now : Nat)
  | saveTurn (tenantId sessionId : String) (fsm : SessionFSM) (turn : Turn) (now : Nat)
  | updateState (tenantId sessionId : String) (state : SessionState) (extra : Dict)
      (fsm : Option SessionFSM) (now : Nat)
  | endSession (tenantId sessionId : String) (reason : String) (fsm : Option SessionFSM)
      (now : Nat)
  | expire (sessionId : String)

def Action.sessionId : Action → String
  | .connect _ _ s _ _ | .saveTurn _ s _ _ _ | .updateState _ s _ _ _ _
  | .endSession _ s _ _ _ | .expire s => s

def Action.tenantId : Action → Option String
  | .connect t _ _ _ _ | .saveTurn t _ _ _ _ | .updateState t _ _ _ _ _
  | .endSession t _ _ _ _ => some t
  | .expire _ => none

def perform (cfg : Config) (σ : Store) : Action → Store
  | .connect tenant client s policy now =>
    (restoreOrCreateOrchestrator cfg σ s tenant client policy now).2
  | .saveTurn _ s fsm turn now => saveTurn cfg σ s fsm turn now
  | .updateState _ s state extra fsm now => (updateState cfg σ s state extra fsm now).2
  | .endSession _ s reason fsm now => endSession cfg σ s reason fsm now
  | .expire s => deleteSessionState cfg σ s

def performAll (cfg : Config) (σ : Store) (actions : List Action) : Store :=
  actions.foldl (perform cfg) σ

def Reachable (cfg : Config) (σ : Store) : Prop := ∃ actions, performAll cfg .empty actions = σ

/-- A hot-state handed to the factory is never marked ended: both layers have
already turned that status into `none`. -/
theorem restoreHotState_not_ended (restored : restoreHotState cfg σ s = (some hot, τ)) :
    hot.status ≠ some .ended := by
  unfold restoreHotState at restored
  split at restored
  · split at restored
    · simp at restored
    · rename_i live
      cases restored
      exact live
  · split at restored
    · simp at restored
    · split at restored
      · simp at restored
      · rename_i live
        cases restored
        simpa using live

/-- Hence the refusal branch of the factory is dead code. -/
theorem restoreOrCreate_ne_refusal (cfg : Config) (σ : Store) (s tenant client : String)
    (policy : PolicyLevel) (now : Nat) :
    (restoreOrCreateOrchestrator cfg σ s tenant client policy now).1 ≠ .ok (none, []) := by
  unfold restoreOrCreateOrchestrator
  split
  · split <;> simp
  · rename_i hot τ restored
    rw [if_neg (restoreHotState_not_ended restored)]
    simp

/-- The answer an ended session has to give to every reconnect. -/
def RefusesReconnect (cfg : Config) (σ : Store) (s tenant client : String)
    (policy : PolicyLevel) (now : Nat) : Prop :=
  restoreOrCreateOrchestrator cfg σ s tenant client policy now = (.ok (none, []), σ)

def Ended (σ : Store) (s : String) : Prop :=
  ∃ doc, findOne (bySession s) σ.sessions = some doc ∧ doc.status = .ended

/-- The factory meets its contract for no ended session, whatever the cache
holds. -/
theorem ended_session_never_refused (cfg : Config) (σ : Store) (s tenant client : String)
    (policy : PolicyLevel) (now : Nat) (_ended : Ended σ s) :
    ¬ RefusesReconnect cfg σ s tenant client policy now := by
  intro refused
  exact restoreOrCreate_ne_refusal cfg σ s tenant client policy now (congrArg Prod.fst refused)

def endedCall : List Action :=
  [.connect "t_acme" "c1" "call-1" .g1 0, .endSession "t_acme" "call-1" "client_hangup" none 1]

theorem endedCall_ended (cfg : Config) : Ended (performAll cfg .empty endedCall) "call-1" := by
  refine ⟨⟨"call-1", "t_acme", "c1", .ended, .initial, 0, 0, 1, some 1, some "client_hangup", []⟩,
    ?_, rfl⟩
  obtain ⟨keyNamespace, tenantKeys, unique⟩ := cfg
  cases unique <;> rfl

theorem ended_session_never_refused_call :
    Ended (performAll .default .empty endedCall) "call-1" ∧
      ¬ RefusesReconnect .default (performAll .default .empty endedCall) "call-1" "t_acme" "c1"
        .g1 2 :=
  ⟨endedCall_ended _, ended_session_never_refused _ _ _ _ _ _ _ (endedCall_ended _)⟩

/-- A call that was hung up, its cache entry deleted with it, is accepted again. -/
theorem ended_session_resurrected :
    ¬ ∀ (cfg : Config) (σ : Store) (s tenant client : String) (policy : PolicyLevel) (now : Nat),
      Reachable cfg σ → Ended σ s → RefusesReconnect cfg σ s tenant client policy now := by
  intro contract
  have refused := contract .default _ "call-1" "t_acme" "c1" .g1 2
    ⟨endedCall, rfl⟩ (endedCall_ended _)
  exact restoreOrCreate_ne_refusal _ _ _ _ _ _ _ (congrArg Prod.fst refused)

end AgentOE.Session
