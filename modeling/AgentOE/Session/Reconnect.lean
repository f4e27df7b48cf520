import AgentOE.Session.Cache

/-! A call whose transport drops. Both handlers answer the end of the transport
with the orchestrator's `end_session`, so a later connection meets what that has
left in the store. -/
namespace AgentOE.Session.Reconnect
open Transition Collection Cache

inductive Transport where
  | websocket
  | grpc
  deriving DecidableEq, Repr

/-- The reason that the handler's cleanup passes on. -/
def Transport.dropReason : Transport → String
  | .websocket => "connection_closed"
  | .grpc => "client_hangup"

/-- How far the repository's `end_session` gets before the next connection. -/
inductive Cleanup where
  /-- The document update raised, or has not run. -/
  | notWritten
  /-- The document is ENDED. The delete failed, or has not run. -/
  | notDeleted
  | complete
  deriving DecidableEq, Repr

def persistEnd (cfg : Config) (σ : Store) (sessionId reason : String) (fsm : SessionFSM)
    (cleanup : Cleanup) (now : Nat) : Store :=
  match cleanup with
  | .notWritten => σ
  | .notDeleted => { endSession cfg σ sessionId reason (some fsm) now with redis := σ.redis }
  | .complete => endSession cfg σ sessionId reason (some fsm) now

/-- The orchestrator's own `end_session`. An exception of the repository is
logged and dropped. -/
def closeOrchestrator (cfg : Config) (orchestrator : Orchestrator) (σ : Store) (reason : String)
    (cleanup : Cleanup) (now : Nat) : Orchestrator × Store :=
  if orchestrator.closed then (orchestrator, σ)
  else
    let fsm := (orchestrator.fsm.transition .ended now []).getD orchestrator.fsm
    ({ orchestrator with closed := true, shouldClose := true, fsm := fsm },
      persistEnd cfg σ orchestrator.sessionId reason fsm cleanup now)

/-- The transport ends without a hangup, whatever the orchestrator was doing. -/
def drop (cfg : Config) (transport : Transport) (orchestrator : Orchestrator) (σ : Store)
    (cleanup : Cleanup) (now : Nat) : Store :=
  (closeOrchestrator cfg orchestrator σ transport.dropReason cleanup now).2

/-- The answer of a recovery that carries the conversation on. -/
def Continues (answer : Connection) (history : List Message) : Prop :=
  ∃ orchestrator payload, answer = .ok (some orchestrator, [⟨"reconnected", payload⟩]) ∧
    orchestrator.history = history

/-- What the next connection can still find. -/
def Survives (cfg : Config) (s : String) (σ : Store) (expired : Bool) : Cleanup → Prop
  | .notWritten => True
  | .notDeleted => (getSessionState cfg σ s).isSome = true ∧ expired = false
  | .complete => False

/-- The time until the next connection may outlast the cache entry. -/
def wait (cfg : Config) (s : String) (expired : Bool) (σ : Store) : Store :=
  if expired then deleteSessionState cfg σ s else σ

variable {cfg : Config} {s : String}

theorem continues_of_restored {conversation : List Message}
    (restored : (restoreHotState cfg σ s).1 = some hot)
    (live : hot.status ≠ some .ended) (history : hot.history = some conversation) :
    Continues (restoreOrCreateOrchestrator cfg σ s tenantId clientId policy now).1 conversation := by
  generalize answered : restoreHotState cfg σ s = result at restored
  obtain ⟨found, τ⟩ := result
  obtain rfl : found = some hot := restored
  have answer : ∃ payload, (restoreOrCreateOrchestrator cfg σ s tenantId clientId policy now).1 =
      .ok (some (.new s tenantId clientId (restoreFsm
        (hot.fsmSnapshot.getD .initial) now) conversation
        policy now), [⟨"reconnected", payload⟩]) := by
    simp only [restoreOrCreateOrchestrator, answered, live, if_false, history, Option.getD_some]
    exact ⟨_, rfl⟩
  obtain ⟨payload, answer⟩ := answer
  exact ⟨_, payload, answer, rfl⟩

theorem not_continues_of_missing {conversation : List Message}
    (missing : (restoreHotState cfg σ s).1 = none) :
    ¬ Continues (restoreOrCreateOrchestrator cfg σ s tenantId clientId policy now).1 conversation := by
  rintro ⟨orchestrator, payload, answer, -⟩
  generalize answered : restoreHotState cfg σ s = result at missing
  obtain ⟨found, τ⟩ := result
  obtain rfl : found = none := missing
  simp only [restoreOrCreateOrchestrator, answered] at answer
  split at answer
  · cases answer
  · simp at answer

/-- A cached entry that mirrors a live document answers for it, even when the
document itself has moved on. -/
theorem continues_from_entry (entry : getSessionState cfg τ s = some hot)
    (mirrors : Mirrors s σ doc hot) (live : doc.status ≠ .ended) :
    Continues (restoreOrCreateOrchestrator cfg τ s tenantId clientId policy now).1
      (newest (redisHistoryTurns * 2) (log s σ)) := by
  have present : hot ≠ .empty := by
    intro empty
    have status := mirrors.status
    rw [empty] at status
    cases status
  have notEnded : hot.status ≠ some .ended := by
    rw [mirrors.status]
    exact fun ended => live (Option.some.inj ended)
  have restored : (restoreHotState cfg τ s).1 = some hot := by
    rw [restoreHotState_hit entry present, if_neg notEnded]
  exact continues_of_restored restored notEnded mirrors.history

theorem continues_of_inv (inv : Inv cfg s σ) (found : findOne (bySession s) σ.sessions = some doc)
    (live : doc.status ≠ .ended) :
    Continues (restoreOrCreateOrchestrator cfg σ s tenantId clientId policy now).1
      (newest (redisHistoryTurns * 2) (log s σ)) := by
  cases entry : getSessionState cfg σ s with
  | some hot =>
    obtain ⟨doc', found', mirrors⟩ := inv.mirrored hot entry
    obtain rfl : doc = doc' := Option.some.inj (found.symm.trans found')
    exact continues_from_entry entry mirrors live
  | none =>
    have byId : getById σ s = .ok doc := by simp [getById, found]
    have restored := restoreHotState_miss entry byId
    rw [if_neg live] at restored
    apply continues_of_restored restored
    · exact fun ended => live (Option.some.inj ended)
    · rw [recentHistory_eq inv.numbered]

theorem missing_of_ended (entry : getSessionState cfg σ s = none)
    (found : findOne (bySession s) σ.sessions = some doc) (ended : doc.status = .ended) :
    (restoreHotState cfg σ s).1 = none := by
  have byId : getById σ s = .ok doc := by simp [getById, found]
  rw [restoreHotState_miss entry byId, if_pos ended]

theorem wait_sessions (expired : Bool) (σ : Store) :
    (wait cfg s expired σ).sessions = σ.sessions := by
  unfold wait
  split <;> rfl

theorem endSession_document (found : findOne (bySession s) σ.sessions = some doc) :
    ∃ ended, findOne (bySession s) (endSession cfg σ s reason fsm now).sessions = some ended ∧
      ended.status = .ended := by
  have updated : findOne (bySession s) (endSession cfg σ s reason fsm now).sessions =
      (findOne (bySession s) σ.sessions).map _ := findOne_updateOne fun _ matched => matched
  rw [found] at updated
  exact ⟨_, updated, rfl⟩

/-- Whatever the cache has been through: an ended document is recovered from a
left-over entry only. -/
theorem survives_of_continues {conversation : List Message}
    (found : findOne (bySession s) σ.sessions = some doc)
    (continues : Continues (restoreOrCreateOrchestrator cfg (wait cfg s expired
      (persistEnd cfg σ s reason fsm cleanup ended)) s tenantId clientId policy now).1 conversation) :
    Survives cfg s σ expired cleanup := by
  obtain ⟨closed, foundClosed, isEnded⟩ : ∃ closed, findOne (bySession s)
      (endSession cfg σ s reason (some fsm) ended).sessions = some closed ∧
          closed.status = .ended := endSession_document found
  cases cleanup with
  | notWritten => trivial
  | notDeleted =>
    cases expired with
    | true =>
      apply absurd continues
      apply not_continues_of_missing
      exact missing_of_ended (getSessionState_delete cfg _ s) foundClosed isEnded
    | false =>
      cases entry : getSessionState cfg σ s with
      | none =>
        apply absurd continues
        apply not_continues_of_missing
        exact missing_of_ended entry foundClosed isEnded
      | some hot => exact ⟨by simp [entry], rfl⟩
  | complete =>
    have gone : getSessionState cfg (wait cfg s expired
        (endSession cfg σ s reason (some fsm) ended)) s = none := by
      unfold wait
      split
      · exact getSessionState_delete cfg _ s
      · exact getSessionState_delete cfg _ s
    apply absurd continues
    apply not_continues_of_missing
    exact missing_of_ended gone ((wait_sessions expired _).symm ▸ foundClosed) isEnded

theorem continues_of_survives (inv : Inv cfg s σ)
    (found : findOne (bySession s) σ.sessions = some doc) (live : doc.status ≠ .ended)
    (survives : Survives cfg s σ expired cleanup) :
    Continues (restoreOrCreateOrchestrator cfg (wait cfg s expired
      (persistEnd cfg σ s reason fsm cleanup ended)) s tenantId clientId policy now).1
      (newest (redisHistoryTurns * 2) (log s σ)) := by
  cases cleanup with
  | notWritten =>
    cases expired with
    | false => exact continues_of_inv inv found live
    | true => exact continues_of_inv inv.expire found live
  | notDeleted =>
    obtain ⟨present, rfl⟩ := survives
    obtain ⟨hot, entry⟩ := Option.isSome_iff_exists.mp present
    obtain ⟨doc', found', mirrors⟩ := inv.mirrored hot entry
    obtain rfl : doc = doc' := Option.some.inj (found.symm.trans found')
    exact continues_from_entry entry mirrors live
  | complete => cases survives

/-- A dropped call is taken up by the next connection only where the handler's own
cleanup did not get to end it, and there, if the cache entry stayed complete, it
always is. -/
theorem dropped_call_continues_iff (unknown : Unknown cfg s σ)
    (run : exec (step cfg s) σ operations = some τ)
    (found : findOne (bySession s) τ.sessions = some doc) (live : doc.status ≠ .ended)
    {orchestrator : Orchestrator} (serves : orchestrator.sessionId = s)
    (opened : orchestrator.closed = false) :
    let answer := (restoreOrCreateOrchestrator cfg (wait cfg s expired
      (drop cfg transport orchestrator τ cleanup ended)) s tenantId clientId policy now).1
    let lastTurns := newest (redisHistoryTurns * 2) (log s τ)
    (Continues answer lastTurns → Survives cfg s τ expired cleanup) ∧
    (Along (step cfg s) (Clean cfg s) σ operations →
      (Continues answer lastTurns ↔ Survives cfg s τ expired cleanup)) := by
  have dropped : drop cfg transport orchestrator τ cleanup ended = persistEnd cfg τ s
      transport.dropReason ((orchestrator.fsm.transition .ended ended []).getD orchestrator.fsm)
      cleanup ended := by
    simp [drop, closeOrchestrator, opened, serves]
  simp only [dropped]
  refine ⟨survives_of_continues found, fun clean => ⟨survives_of_continues found, ?_⟩⟩
  exact continues_of_survives (exec_invariant step_inv clean run unknown.inv) found live

/-- A call of one turn on a fresh store. -/
def oneTurn : List (Operation × Faults) :=
  [(.create "t_acme" "c1" .idle 1, .none),
    (.saveTurn (.new .listening) Interleaving.hello 2, .none)]

def afterOneTurn : Store :=
  Cache.perform .default "call-1"
    (Cache.perform .default "call-1" .empty .none (.create "t_acme" "c1" .idle 1))
    .none (.saveTurn (.new .listening) Interleaving.hello 2)

def caller : Orchestrator := .new "call-1" "t_acme" "c1" (.new .listening) [] .g1 1

theorem dropped_call_continues_not_written :
    Continues (restoreOrCreateOrchestrator .default (wait .default "call-1" false
      (drop .default .websocket caller afterOneTurn .notWritten 3)) "call-1" "t_acme" "c1" .g1 4).1
      (newest (redisHistoryTurns * 2) (log "call-1" afterOneTurn)) := by
  have unknown : Unknown .default "call-1" .empty := ⟨rfl, rfl, rfl⟩
  have run : exec (step .default "call-1") .empty oneTurn = some afterOneTurn := rfl
  have clean : Along (step .default "call-1") (Clean .default "call-1") .empty oneTurn := by
    decide +kernel
  have found : ∃ doc, findOne (bySession "call-1") afterOneTurn.sessions = some doc ∧
      doc.status ≠ .ended := ⟨_, rfl, by decide⟩
  obtain ⟨doc, found, live⟩ := found
  have serves : caller.sessionId = "call-1" := rfl
  have opened : caller.closed = false := rfl
  exact ((dropped_call_continues_iff unknown run found live serves opened).2 clean).mpr trivial

/-- The WebSocket drops, the handler's cleanup completes, and the same client
connects again: it gets a new session without its turn. -/
theorem dropped_call_forgotten :
    exec (step .default "call-1") .empty oneTurn = some afterOneTurn ∧
    log "call-1" afterOneTurn = [⟨.user, "hello"⟩, ⟨.assistant, "how can I help?"⟩] ∧
    ∃ orchestrator, (restoreOrCreateOrchestrator .default (wait .default "call-1" false
      (drop .default .websocket caller afterOneTurn .complete 3)) "call-1" "t_acme" "c1" .g1 4).1 =
      .ok (some orchestrator,
        [⟨"connected", [("session_id", .str "call-1"), ("reconnected", .bool false)]⟩]) ∧
      orchestrator.history = [] :=
  ⟨rfl, rfl, .new "call-1" "t_acme" "c1" (.new .idle) [] .g1 4, rfl, rfl⟩

end AgentOE.Session.Reconnect
