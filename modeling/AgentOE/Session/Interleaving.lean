import AgentOE.Transition
import AgentOE.Session.Isolation
import Mathlib.Data.Fintype.Basic

/-! The writers of one session, interleaved between their MongoDB and Redis
operations. Uninterrupted, each call is the operation of the same name on the
store. -/
namespace AgentOE.Session.Interleaving
open Transition Collection

/-- What a writer does to the hot state it has read. -/
inductive Edit where
  | turn (turn : Turn) (snapshot : Snapshot)
  | state (state : SessionState) (extra : Dict) (withFsm : Bool)

/-- A call between two of its store operations. -/
inductive Call where
  | idle
  | saving (turn : Turn) (fsm : SessionFSM) (now : Nat)
  | inserting (doc : TurnDoc) (edit : Edit)
  | updating (state : SessionState) (extra : Dict) (fsm : Option SessionFSM) (now : Nat)
  | reading (edit : Edit)
  | writing (hot : HotState)
  | ending (reason : String) (fsm : Option SessionFSM) (now : Nat)
  | deleting
  | ended
  | returned
  | raised (error : RepoError)

structure State (C : Type) where
  store : Store
  call : C → Call

inductive Action (C : Type) where
  | saveTurn (c : C) (turn : Turn) (fsm : SessionFSM) (now : Nat)
  | updateState (c : C) (state : SessionState) (extra : Dict) (fsm : Option SessionFSM) (now : Nat)
  | endSession (c : C) (reason : String) (fsm : Option SessionFSM) (now : Nat)
  /-- The call's next operation, and what the caller's state machine is by then. -/
  | next (c : C) (fsm : SessionFSM)
  | expire

variable {C : Type} [DecidableEq C] (cfg : Config) (s : String)

def State.moveTo (σ : State C) (store : Store) (c : C) (call : Call) : State C :=
  ⟨store, Function.update σ.call c call⟩

/-- The snapshot of a turn is the one taken when the call started. The status and
the snapshot of a state update are read again from the state machine. -/
def Edit.apply (edit : Edit) (fsm : SessionFSM) (hot : HotState) : HotState :=
  match edit with
  | .turn said snapshot =>
    let history := hot.history.getD [] ++ [⟨.user, said.userText⟩, ⟨.assistant, said.aiText⟩]
    let history := if history.length > redisHistoryTurns * 2
      then history.drop (history.length - redisHistoryTurns * 2) else history
    { hot with history := some history, status := some fsm.state, fsmSnapshot := some snapshot }
  | .state target extra withFsm =>
    { hot with status := some target, extra := updateDict hot.extra extra,
               fsmSnapshot := (if withFsm then some fsm.toSnapshot else none).or hot.fsmSnapshot }

def advance (σ : State C) (c : C) (fsm : SessionFSM) : Call → Option (State C)
  | .saving turn saved now =>
    let before := findOne (bySession s) σ.store.sessions
    let sessions := updateOne (bySession s) (fun doc => { doc with
      status := saved.state, fsmSnapshot := saved.toSnapshot, updatedAt := now,
      historyCount := doc.historyCount + 1 }) σ.store.sessions
    let doc : TurnDoc := ⟨s, (before.map SessionDoc.historyCount).getD 0, turn.userText,
      turn.aiText, turn.policyLevel, turn.latency, now⟩
    some (σ.moveTo { σ.store with sessions := sessions } c
      (.inserting doc (.turn turn saved.toSnapshot)))
  | .inserting doc edit =>
    some (σ.moveTo { σ.store with history := insertOne doc σ.store.history } c (.reading edit))
  | .updating state extra saved now =>
    match findOne (bySession s) σ.store.sessions with
    | none => some (σ.moveTo σ.store c (.raised (.sessionNotFound s)))
    | some _ =>
      let sessions := updateOne (bySession s) (fun doc => { doc with
        status := state, updatedAt := now, extra := updateDict doc.extra extra,
        fsmSnapshot := (saved.map SessionFSM.toSnapshot).getD doc.fsmSnapshot }) σ.store.sessions
      some (σ.moveTo { σ.store with sessions := sessions } c
        (.reading (.state state extra saved.isSome)))
  | .reading edit =>
    let hot := (getSessionState cfg σ.store s).getD .empty
    some (σ.moveTo σ.store c (.writing (edit.apply fsm hot)))
  | .writing hot => some (σ.moveTo (setSessionState cfg σ.store s hot) c .returned)
  | .ending reason saved now =>
    let sessions := updateOne (bySession s) (fun doc => { doc with
      status := .ended, endedAt := some now, updatedAt := now, endReason := some reason,
      fsmSnapshot := (saved.map SessionFSM.toSnapshot).getD doc.fsmSnapshot }) σ.store.sessions
    some (σ.moveTo { σ.store with sessions := sessions } c .deleting)
  | .deleting => some (σ.moveTo (deleteSessionState cfg σ.store s) c .ended)
  | .idle | .ended | .returned | .raised _ => none

def start (σ : State C) (c : C) (call : Call) : Option (State C) :=
  match σ.call c with
  | .idle => some (σ.moveTo σ.store c call)
  | _ => none

def step (σ : State C) : Action C → Option (State C)
  | .saveTurn c turn fsm now => start σ c (.saving turn fsm now)
  | .updateState c state extra fsm now => start σ c (.updating state extra fsm now)
  | .endSession c reason fsm now => start σ c (.ending reason fsm now)
  | .next c fsm => advance cfg s σ c fsm (σ.call c)
  | .expire => some ⟨deleteSessionState cfg σ.store s, σ.call⟩

/-! Without interference the calls are the store's own operations. -/

@[simp] theorem moveTo_store (σ : State C) : (σ.moveTo store c call).store = store := rfl

theorem moveTo_call (σ : State C) (store : Store) (c d : C) (call : Call) :
    (σ.moveTo store c call).call d = if d = c then call else σ.call d := by
  simp [State.moveTo, Function.update_apply]

section Uninterrupted
variable {σ : State C} {c : C}

theorem exec_start (started : step cfg s σ l = start σ c call) (idle : σ.call c = .idle) :
    exec (step cfg s) σ (l :: ls) = exec (step cfg s) (σ.moveTo σ.store c call) ls := by
  simp only [exec, started, start, idle, Option.bind_some]

theorem exec_next (store : Store) (call : Call) (fsm : SessionFSM) :
    exec (step cfg s) (σ.moveTo store c call) (.next c fsm :: ls) =
      (advance cfg s (σ.moveTo store c call) c fsm call).bind (exec (step cfg s) · ls) := by
  simp only [exec, step, moveTo_call, if_true]

variable (idle : σ.call c = .idle)
include idle

theorem saveTurn_uninterrupted (turn : Turn) (fsm : SessionFSM) (now : Nat) :
    (exec (step cfg s) σ (.saveTurn c turn fsm now :: List.replicate 4
      (.next c fsm))).map State.store = some (saveTurn cfg σ.store s fsm turn now) := by
  rw [exec_start cfg s rfl idle]
  simp only [List.replicate, exec_next, advance, Option.bind_some]
  rfl

theorem updateState_uninterrupted (state : SessionState) (extra : Dict) (fsm : SessionFSM)
    (withFsm : Bool) (now : Nat) (exists_ : (findOne (bySession s) σ.store.sessions).isSome) :
    (exec (step cfg s) σ (.updateState c state extra (if withFsm then some fsm else none) now ::
      List.replicate 3 (.next c fsm))).map State.store =
      some (updateState cfg σ.store s state extra (if withFsm then some fsm else none) now).2 := by
  obtain ⟨doc, found⟩ := Option.isSome_iff_exists.mp exists_
  rw [exec_start cfg s rfl idle]
  simp only [List.replicate, exec_next, advance, moveTo_store, found, Option.bind_some, updateState]
  cases withFsm <;> rfl

theorem endSession_uninterrupted (reason : String) (saved : Option SessionFSM) (fsm : SessionFSM)
    (now : Nat) :
    (exec (step cfg s) σ (.endSession c reason saved now :: List.replicate 2 (.next c fsm))).map
      State.store = some (endSession cfg σ.store s reason saved now) := by
  rw [exec_start cfg s rfl idle]
  simp only [List.replicate, exec_next, advance, Option.bind_some]
  rfl

end Uninterrupted

/-- The status that the call's next MongoDB operation sets, `end_session` apart. -/
def Call.status : Call → Option SessionState
  | .saving _ fsm _ => some fsm.state
  | .updating state _ _ _ => some state
  | _ => none

/-- The entry that the call's next operation caches. -/
def Call.cached : Call → Option HotState
  | .writing hot => some hot
  | _ => none

/-- `end_session` between its first and its last operation. -/
def Call.isEnding : Call → Bool
  | .ending .. | .deleting => true
  | _ => false

/-- `end_session` after its MongoDB write. -/
def Call.hasEnded : Call → Bool
  | .deleting | .ended => true
  | _ => false

def Call.isEnded : Call → Bool
  | .ended => true
  | _ => false

def Call.isQuiet : Call → Bool
  | .idle | .ended | .returned | .raised _ => true
  | _ => false

/-- Every step, with the operation on the session's document or cache entry. -/
inductive Takes (σ : State C) : Action C → State C → Prop where
  | move : (σ.call c).isEnding = false → (σ.call c).hasEnded = false → call.hasEnded = false →
      Takes σ l (σ.moveTo σ.store c call)
  | update : (σ.call c).status = some status → (∀ doc, (f doc).sessionId = doc.sessionId) →
      (∀ doc, (f doc).status = status) → call.isEnding = false → call.hasEnded = false →
      Takes σ (.next c fsm) (σ.moveTo
        { σ.store with sessions := updateOne (bySession s) f σ.store.sessions } c call)
  | insert : σ.call c = .inserting doc edit →
      Takes σ (.next c fsm) (σ.moveTo
        { σ.store with history := insertOne doc σ.store.history } c (.reading edit))
  | set : σ.call c = .writing hot →
      Takes σ (.next c fsm) (σ.moveTo (setSessionState cfg σ.store s hot) c .returned)
  | finish : σ.call c = .ending reason saved now → (∀ doc, (f doc).sessionId = doc.sessionId) →
      (∀ doc, (f doc).status = .ended) →
      Takes σ (.next c fsm) (σ.moveTo
        { σ.store with sessions := updateOne (bySession s) f σ.store.sessions } c .deleting)
  | delete : σ.call c = .deleting →
      Takes σ (.next c fsm) (σ.moveTo (deleteSessionState cfg σ.store s) c .ended)
  | expire : Takes σ .expire ⟨deleteSessionState cfg σ.store s, σ.call⟩

variable {cfg s}

theorem advance_takes {σ τ : State C} {c : C}
    (stepped : advance cfg s σ c fsm (σ.call c) = some τ) :
    Takes cfg s σ (.next c fsm) τ := by
  cases call : σ.call c with
  | idle | ended | returned | raised =>
    rw [call] at stepped
    cases stepped
  | saving turn saved now =>
    rw [call] at stepped
    cases stepped
    exact .update (by rw [call]; rfl) (fun _ => rfl) (fun _ => rfl) rfl rfl
  | inserting doc edit =>
    rw [call] at stepped
    cases stepped
    exact .insert call
  | updating state extra saved now =>
    rw [call] at stepped
    simp only [advance] at stepped
    split at stepped <;> cases stepped
    · exact .move (by rw [call]; rfl) (by rw [call]; rfl) rfl
    · exact .update (by rw [call]; rfl) (fun _ => rfl) (fun _ => rfl) rfl rfl
  | reading edit =>
    rw [call] at stepped
    cases stepped
    exact .move (by rw [call]; rfl) (by rw [call]; rfl) rfl
  | writing hot =>
    rw [call] at stepped
    cases stepped
    exact .set call
  | ending reason saved now =>
    rw [call] at stepped
    cases stepped
    exact .finish call (fun _ => rfl) (fun _ => rfl)
  | deleting =>
    rw [call] at stepped
    cases stepped
    exact .delete call

theorem start_takes {σ τ : State C} {c : C} (fresh : call.hasEnded = false)
    (stepped : start σ c call = some τ) : Takes cfg s σ l τ := by
  unfold start at stepped
  split at stepped
  · rename_i idle
    cases stepped
    exact .move (by rw [idle]; rfl) (by rw [idle]; rfl) fresh
  · cases stepped

theorem step_takes {σ τ : State C} (stepped : step cfg s σ l = some τ) : Takes cfg s σ l τ := by
  cases l with
  | saveTurn => exact start_takes rfl stepped
  | updateState => exact start_takes rfl stepped
  | endSession => exact start_takes rfl stepped
  | next c fsm => exact advance_takes stepped
  | expire =>
    cases stepped
    exact .expire

/-- A call that carries a status other than ENDED updates the document before
any `end_session` does, and writes the cache while no `end_session` has returned
or another one is still to delete the entry. -/
def KeepsEnded (s : String) (σ : State C) : Action C → Prop
  | .next c _ =>
    (∀ status ∈ (σ.call c).status, status ≠ .ended →
      (findOne (bySession s) σ.store.sessions).isSome = true → ∀ e, (σ.call e).hasEnded = false) ∧
    (∀ hot ∈ (σ.call c).cached, hot.status ≠ some .ended →
      (∃ e, (σ.call e).isEnded = true) → ∃ e, (σ.call e).isEnding = true)
  | _ => True

/-- The document of a session on which `end_session` has written. -/
def DocEnded (s : String) (σ : State C) : Prop :=
  (∃ e, (σ.call e).hasEnded = true) →
    ∀ doc, findOne (bySession s) σ.store.sessions = some doc → doc.status = .ended

/-- The cache entry once an `end_session` has returned and none is under way. -/
def CacheEnded (cfg : Config) (s : String) (σ : State C) : Prop :=
  (∃ e, (σ.call e).isEnded = true) → (∀ e, (σ.call e).isEnding = false) →
    ∀ hot, getSessionState cfg σ.store s = some hot → hot.status = some .ended

theorem findOne_update_session {f : SessionDoc → SessionDoc}
    (keeps : ∀ doc, (f doc).sessionId = doc.sessionId)
    (found : findOne (bySession s) (updateOne (bySession s) f docs) = some doc) :
    ∃ before, findOne (bySession s) docs = some before ∧ f before = doc := by
  rw [findOne_updateOne fun doc matched => by simpa only [bySession, keeps doc] using matched]
    at found
  exact Option.map_eq_some_iff.mp found

/-- A call that moves on without the mark leaves it to another one. -/
theorem marked_before {σ : State C} {c : C} (mark : Call → Bool) (unmarked : mark call = false)
    (marked : ∃ e, mark ((σ.moveTo store c call).call e) = true) : ∃ e, mark (σ.call e) = true := by
  obtain ⟨e, marked⟩ := marked
  rw [moveTo_call] at marked
  split at marked
  · rw [unmarked] at marked
    cases marked
  · exact ⟨e, marked⟩

theorem step_docEnded {σ τ : State C} (before : DocEnded s σ) (keeps : KeepsEnded s σ l)
    (stepped : step cfg s σ l = some τ) : DocEnded s τ := by
  intro ended doc found
  cases step_takes stepped with
  | move _ _ fresh => exact before (marked_before Call.hasEnded fresh ended) doc found
  | @update c status f call fsm writes keepsId sets _ fresh =>
    have earlier := marked_before Call.hasEnded fresh ended
    obtain ⟨old, stored, rfl⟩ := findOne_update_session keepsId found
    rw [sets]
    by_contra open_
    obtain ⟨e, past⟩ := earlier
    have unended := keeps.1 status writes open_ (by simp [stored]) e
    rw [past] at unended
    cases unended
  | insert _ => exact before (marked_before Call.hasEnded rfl ended) doc found
  | set _ => exact before (marked_before Call.hasEnded rfl ended) doc found
  | finish _ keepsId sets =>
    obtain ⟨old, -, rfl⟩ := findOne_update_session keepsId found
    exact sets old
  | @delete c fsm deleting =>
    exact before ⟨c, by rw [deleting]; rfl⟩ doc found
  | expire => exact before ended doc found

theorem unending_before {σ : State C} {c : C} (own : (σ.call c).isEnding = false)
    (unending : ∀ e, ((σ.moveTo store c call).call e).isEnding = false) :
    ∀ e, (σ.call e).isEnding = false := by
  intro e
  by_cases same : e = c
  · rwa [same]
  · have after := unending e
    rwa [moveTo_call, if_neg same] at after

theorem isEnded_of_hasEnded {call : Call} (fresh : call.hasEnded = false) :
    call.isEnded = false := by
  cases call <;> first | rfl | cases fresh

theorem unending_of_status {call : Call} (writes : call.status = some status) :
    call.isEnding = false := by
  cases call <;> first | rfl | cases writes

theorem step_cacheEnded {σ τ : State C} (before : CacheEnded cfg s σ) (keeps : KeepsEnded s σ l)
    (stepped : step cfg s σ l = some τ) : CacheEnded cfg s τ := by
  intro ended unending hot cached
  cases step_takes stepped with
  | move own _ fresh =>
    exact before (marked_before Call.isEnded (isEnded_of_hasEnded fresh) ended)
      (unending_before own unending) hot cached
  | update writes _ _ _ fresh =>
    exact before (marked_before Call.isEnded (isEnded_of_hasEnded fresh) ended)
      (unending_before (unending_of_status writes) unending) hot cached
  | insert inserting =>
    exact before (marked_before Call.isEnded rfl ended)
      (unending_before (by rw [inserting]; rfl) unending) hot cached
  | @set c written fsm writing =>
    have quiet := unending_before (by rw [writing]; rfl) unending
    obtain rfl : written = hot := by
      have same : getSessionState cfg (setSessionState cfg σ.store s written) s = some hot := cached
      rw [getSessionState_set] at same
      exact Option.some.inj same
    by_contra open_
    have earlier := marked_before Call.isEnded rfl ended
    obtain ⟨e, ending⟩ := keeps.2 written (by rw [writing]; rfl) open_ earlier
    rw [quiet e] at ending
    cases ending
  | @finish c =>
    have busy := unending c
    rw [moveTo_call, if_pos rfl] at busy
    cases busy
  | delete _ =>
    have gone : getSessionState cfg (deleteSessionState cfg σ.store s) s = some hot := cached
    rw [getSessionState_delete] at gone
    cases gone
  | expire =>
    have gone : getSessionState cfg (deleteSessionState cfg σ.store s) s = some hot := cached
    rw [getSessionState_delete] at gone
    cases gone

theorem unending_of_quiet {call : Call} (quiet : call.isQuiet = true) : call.isEnding = false := by
  cases call <;> first | rfl | cases quiet

/-- From any store on which no call is under way. -/
theorem ended_is_final {store : Store} {σ : State C}
    (run : exec (step cfg s) ⟨store, fun _ => .idle⟩ labels = some σ)
    (keeps : Along (step cfg s) (KeepsEnded s) ⟨store, fun _ => .idle⟩ labels) :
    ((∃ e, (σ.call e).hasEnded = true) →
      ∀ doc, findOne (bySession s) σ.store.sessions = some doc → doc.status = .ended) ∧
    ((∀ c, (σ.call c).isQuiet = true) → (∃ e, (σ.call e).isEnded = true) →
      ∀ hot, getSessionState cfg σ.store s = some hot → hot.status = some .ended) := by
  have docEnded : DocEnded s σ := by
    apply exec_invariant step_docEnded keeps run
    rintro ⟨e, ended⟩
    cases ended
  have cacheEnded : CacheEnded cfg s σ := by
    apply exec_invariant step_cacheEnded keeps run
    rintro ⟨e, ended⟩
    cases ended
  refine ⟨docEnded, fun quiet ended => cacheEnded ended fun e => unending_of_quiet (quiet e)⟩

instance [Fintype C] (s : String) (σ : State C) : (l : Action C) → Decidable (KeepsEnded s σ l)
  | .next .. => inferInstanceAs (Decidable (_ ∧ _))
  | .saveTurn .. | .updateState .. | .endSession .. | .expire => isTrue trivial

def callStore : Store :=
  (create .default .empty ⟨"call-1", "t_acme", "c1", .listening⟩ 1).2

def listening : SessionFSM := .new .listening

def hello : Turn := ⟨"hello", "how can I help?", [], "G1"⟩

/-- The turn's cache write lands between the two operations of `end_session`. -/
def endDuringTurn : List (Action (Fin 2)) :=
  [.saveTurn 0 hello listening 2, .next 0 listening, .next 0 listening, .next 0 listening,
    .endSession 1 "normal" none 3, .next 1 listening, .next 0 listening, .next 1 listening]

theorem ended_is_final_during_turn :
    ∃ σ, exec (step .default "call-1") ⟨callStore, fun _ => .idle⟩ endDuringTurn = some σ ∧
      (∀ c, (σ.call c).isQuiet = true) ∧ (σ.call 1).isEnded = true ∧
      ∀ hot, getSessionState .default σ.store "call-1" = some hot → hot.status = some .ended := by
  have reached : (exec (step .default "call-1") ⟨callStore, fun _ => .idle⟩ endDuringTurn).map
      (fun σ => decide ((∀ c, (σ.call c).isQuiet = true) ∧ (σ.call 1).isEnded = true)) =
          some true := by
    decide +kernel
  obtain ⟨σ, run, checked⟩ := Option.map_eq_some_iff.mp reached
  obtain ⟨quiet, ended⟩ := of_decide_eq_true checked
  have keeps : Along (step .default "call-1") (KeepsEnded "call-1") ⟨callStore, fun _ => .idle⟩
      endDuringTurn := by decide +kernel
  exact ⟨σ, run, quiet, ended, (ended_is_final run keeps).2 quiet ⟨1, ended⟩⟩

/-- The session is ended beside a live call, which then completes a turn. -/
def turnAfterEnd : List (Action (Fin 2)) :=
  Action.endSession 1 "normal" none 2 :: List.replicate 2 (Action.next 1 listening) ++
    Action.saveTurn 0 hello listening 3 :: List.replicate 4 (Action.next 0 listening)

theorem ended_session_reopened :
    ∃ σ, exec (step .default "call-1") ⟨callStore, fun _ => .idle⟩ turnAfterEnd = some σ ∧
      (∀ c, (σ.call c).isQuiet = true) ∧ (σ.call 1).isEnded = true ∧
      (∃ doc, findOne (bySession "call-1") σ.store.sessions = some doc ∧ doc.status = .listening) ∧
      ∃ hot, getSessionState .default σ.store "call-1" = some hot ∧
        hot.status = some .listening := by
  have reached : (exec (step .default "call-1") ⟨callStore, fun _ => .idle⟩ turnAfterEnd).map
      (fun σ => decide ((∀ c, (σ.call c).isQuiet = true) ∧ (σ.call 1).isEnded = true ∧
        (findOne (bySession "call-1") σ.store.sessions).map SessionDoc.status = some .listening ∧
        (getSessionState .default σ.store "call-1").map HotState.status = some (some .listening))) =
      some true := by
    decide +kernel
  obtain ⟨σ, run, checked⟩ := Option.map_eq_some_iff.mp reached
  obtain ⟨quiet, ended, doc, hot⟩ := of_decide_eq_true checked
  exact ⟨σ, run, quiet, ended, Option.map_eq_some_iff.mp doc, Option.map_eq_some_iff.mp hot⟩

end AgentOE.Session.Interleaving
