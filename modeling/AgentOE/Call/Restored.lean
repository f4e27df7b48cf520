import AgentOE.Call.Frame
import AgentOE.Session.Cache
import AgentOE.Transition

/-! The orchestrator that a reconnect gets, and what it makes of the audio that follows. -/
namespace AgentOE.Call
open Session Coroutine Transition Collection
open Session.Cache (restoreHotState_hit restoreHotState_miss)
variable {σ τ : World}

/-! The machine's events are only added to. -/

def Logged (σ τ : World) : Prop := σ.fsm.events <+: τ.fsm.events

instance : IsPreorder World Logged where
  refl σ := List.prefix_refl σ.fsm.events
  trans _ _ _ := List.IsPrefix.trans

abbrev Logs (x : Running α) : Prop := Follows Logged x

theorem logs_perform (effect : Effect) (result : Except Exc α) : Logs (perform effect result) :=
  fun σ => List.prefix_refl σ.fsm.events

theorem logs_recordEvent (eventType : SessionEventType) (now : Nat) (metadata : Dict) :
    Logs (recordEvent eventType now metadata) := follows_modify fun _ => List.prefix_append _ _

theorem logs_transition (toState : SessionState) (now : Nat) (metadata : Dict) :
    Logs (transition toState now metadata) := by
  intro σ
  by_cases allowed : toState ∈ SessionFSM.validTransitions σ.state
  · rw [transition_allowed allowed]
    exact List.prefix_append _ _
  · rw [transition_refused allowed]
    exact List.prefix_refl _

/-- What the orchestrator keeps beside its machine is no event. -/
theorem logs_update {f : Orchestrator → Orchestrator} (keeps : ∀ o, (f o).fsm = o.fsm) :
    Logs (modify fun σ => σ.update f) := by
  refine follows_modify fun σ => ?_
  simp only [Logged, World.fsm, update_orchestrator, keeps]
  exact List.prefix_refl _

theorem logs_doTransition (state : SessionState) (now : Nat) : Logs (doTransition state now) := by
  refine follows_get_bind fun σ => ?_
  split
  · exact (logs_transition _ _ _).bind fun _ => follows_pure _
  · exact follows_pure _

theorem logs_endSession (outcomes : Outcomes) (reason : String) :
    Logs (endSession outcomes reason) := by
  refine follows_get_bind fun σ => ?_
  split
  · exact follows_pure _
  refine (logs_update (by exact fun _ => rfl)).bind fun _ =>
    (logs_doTransition _ _).bind fun _ => ?_
  exact follows_get_bind fun _ => (logs_perform _ _).attempt.bind fun _ => follows_pure _

theorem logs_updateState (state : SessionState) (extra : Dict) (ends : Except Exc Unit) :
    Logs (updateState state extra ends) := follows_get_bind fun _ => logs_perform _ _

theorem logs_onTransferFailed (attempt : Attempt) (result : TransferResult)
    (fallback : TransferFallback) (now : Nat) {again : Option (Running TransferResult)}
    (next : ∀ x ∈ again, Logs x) : Logs (onTransferFailed attempt result fallback now again) := by
  unfold onTransferFailed
  split
  · exact (logs_transition _ _ _).bind fun _ => (logs_transition _ _ _).bind fun _ => next _ rfl
  refine (logs_transition _ _ _).bind fun _ => ?_
  split
  · exact (logs_transition _ _ _).bind fun _ => (logs_updateState _ _ _).bind fun _ =>
      follows_pure _
  · exact (logs_recordEvent _ _ _).bind fun _ => (logs_updateState _ _ _).bind fun _ =>
      follows_pure _

theorem logs_requestOnce (attempt : Attempt) (request : TransferRequest)
    (fallback : TransferFallback) (retryCount now : Nat) {again : Option (Running TransferResult)}
    (next : ∀ x ∈ again, Logs x) :
    Logs (requestOnce attempt request fallback retryCount now again) := by
  refine (logs_transition _ _ _).attempt.bind fun entered => ?_
  cases entered with
  | error exc => exact follows_pure _
  | ok _ =>
    refine (logs_perform _ _).bind fun _ => (logs_updateState _ _ _).bind fun _ => ?_
    have dispatched : Logs (dispatchToCti attempt.cti request) := by
      unfold dispatchToCti
      split
      · exact follows_pure _
      · exact logs_perform _ _
    refine dispatched.bind fun result => ?_
    split
    · exact (logs_transition _ _ _).bind fun _ => (logs_updateState _ _ _).bind fun _ =>
        follows_pure _
    · exact logs_onTransferFailed _ _ _ _ next

theorem logs_requestWith (attempts : Nat → Attempt) (request : TransferRequest)
    (fallback : TransferFallback) (now left : Nat) :
    Logs (requestWith attempts request fallback now left) := by
  induction left with
  | zero => exact logs_requestOnce _ _ _ _ _ (by simp)
  | succ left ih =>
    refine logs_requestOnce _ _ _ _ _ fun x mem => ?_
    cases Option.some.inj mem
    exact ih

theorem logs_triggerTransfer (outcomes : Outcomes) (reason : TransferReason) (hint : String) :
    Logs (triggerTransfer outcomes reason hint) := by
  refine follows_get_bind fun σ => (logs_perform _ _).bind fun _ => ?_
  refine (logs_requestWith _ _ _ _ _).bind fun result => ?_
  split
  · exact (logs_endSession _ _).bind fun _ => follows_pure _
  split
  · exact follows_get_bind fun _ => follows_pure _
  · exact follows_pure _

theorem logs_process (vendors : Vendors) (audio : List UInt8) (level : PolicyLevel)
    (auth : Option AuthState) (now : Nat) : Logs (process vendors audio level auth now) := by
  have inferred (text : String) : Logs (infer vendors text now) := by
    refine follows_get_bind fun σ => (logs_perform _ _).attempt.bind fun answer => ?_
    cases answer with
    | ok completion => exact follows_pure _
    | error exc => exact (logs_recordEvent _ _ _).bind fun _ => follows_pure _
  have spoken (text : String) (skipped : Bool) : Logs (synthesize vendors text skipped now) := by
    unfold synthesize
    split
    · exact follows_pure _
    refine (logs_perform _ _).attempt.bind fun answer => ?_
    cases answer with
    | ok audio => exact follows_pure _
    | error exc => exact (logs_recordEvent _ _ _).bind fun _ => follows_pure _
  refine (logs_transition _ _ _).bind fun _ => (logs_perform _ _).attempt.bind fun heard => ?_
  cases heard with
  | error exc => exact (logs_recordEvent _ _ _).bind fun _ => follows_pure _
  | ok text =>
    simp only
    split
    · exact (logs_transition _ _ _).bind fun _ => follows_pure _
    refine (logs_transition _ _ _).bind fun _ => (inferred _).bind fun completed => ?_
    exact (logs_transition _ _ _).bind fun _ => (spoken _ _).bind fun _ => follows_pure _

theorem logs_failTurn (outcomes : Outcomes) (exc : Exc) : Logs (failTurn outcomes exc) := by
  refine (logs_update (by exact fun _ => rfl)).bind fun _ => ?_
  have checked : Logs (checkAutoTransfer outcomes) := by
    refine follows_get_bind fun σ => ?_
    simp only
    split
    · exact (logs_recordEvent _ _ _).bind fun _ => logs_triggerTransfer _ _ _
    · exact follows_pure _
  exact checked.bind fun _ => (logs_doTransition _ _).bind fun _ => follows_pure _

theorem logs_finishTurn (outcomes : Outcomes) (result : PipelineResult) :
    Logs (finishTurn outcomes result) := by
  have answered : Logs (answerTurn outcomes result) := by
    refine (logs_update (by exact fun _ => rfl)).bind fun _ => ?_
    have persisted (turn : List Message) : Logs
        (persistTurn outcomes turn result.latency result.policyLevel) :=
      follows_get_bind fun _ => (logs_perform _ _).attempt.bind fun _ => follows_pure _
    exact (persisted _).bind fun _ => (logs_doTransition _ _).bind fun _ => follows_pure _
  have blocked : Logs (blockTurn outcomes result) := by
    unfold blockTurn
    split
    · exact logs_triggerTransfer _ _ _
    split
    · exact logs_triggerTransfer _ _ _
    · exact (logs_doTransition _ _).bind fun _ => follows_pure _
  unfold finishTurn
  split
  · exact (logs_triggerTransfer _ _ _).bind fun _ => follows_pure _
  split
  · exact blocked.bind fun _ => follows_pure _
  · exact answered.bind fun _ => follows_pure _

/-- A turn adds to the events of its first transition. -/
theorem runPipeline_logged (outcomes : Outcomes) (audio : List UInt8) (σ : World) :
    Logged (doTransition .speakingDetected outcomes.now σ).2 (runPipeline outcomes audio σ).2 := by
  obtain ⟨event, fsm, tried, -⟩ := doTransition_spec .speakingDetected outcomes.now σ
  rw [runPipeline, bind_ok _ tried, tried]
  refine follows_get_bind (R := Logged) (fun τ => ?_) _
  split
  · exact follows_pure _
  refine (logs_process _ _ _ _ _).attempt.bind fun result => ?_
  cases result with
  | error exc => exact (logs_failTurn _ _).bind fun _ => follows_pure _
  | ok result =>
    exact (logs_update (by exact fun _ => rfl)).bind fun _ => (logs_finishTurn _ _).bind fun _ =>
      follows_pure _

theorem logs_runPipeline (outcomes : Outcomes) (audio : List UInt8) :
    Logs (runPipeline outcomes audio) :=
  fun σ => trans_of Logged (logs_doTransition .speakingDetected outcomes.now σ)
    (runPipeline_logged outcomes audio σ)

theorem logs_flush (outcomes : Outcomes) : Logs (flush outcomes) :=
  follows_get_bind fun _ => (logs_update (by exact fun _ => rfl)).bind fun _ => logs_runPipeline _ _

theorem logs_handle (outcomes : Outcomes) (input : Input) : Logs (handle outcomes input) := by
  cases input with
  | endSession reason => exact logs_endSession outcomes reason
  | audio data =>
    refine (logs_update (by exact fun _ => rfl)).bind fun _ => follows_get_bind fun σ => ?_
    split
    · exact follows_pure _
    refine (logs_update (by exact fun _ => rfl)).bind fun _ => follows_get_bind fun σ => ?_
    split
    · exact logs_flush _
    · exact follows_pure _
  | control msg =>
    refine (logs_update (by exact fun _ => rfl)).bind fun _ => ?_
    split
    · exact (logs_update (by exact fun _ => rfl)).bind fun _ =>
        (logs_doTransition _ _).bind fun _ => follows_pure _
    split
    · refine (logs_update (by exact fun _ => rfl)).bind fun _ => follows_get_bind fun σ => ?_
      split
      · exact logs_flush _
      · exact follows_pure _
    split
    · exact logs_endSession _ _
    split
    · exact follows_pure _
    split
    · exact logs_triggerTransfer _ _ _
    · exact follows_pure _

/-- What `step` adds to a call is no event of the machine. -/
theorem step_events (stepped : step σ (input, outcomes) = some τ) :
    τ.fsm.events = (handle outcomes input σ).2.fsm.events := by
  simp only [step] at stepped
  split at stepped <;> rename_i ended <;> cases stepped <;> rw [ended]

theorem step_logged (event : Event) (stepped : step σ event = some τ) : Logged σ τ := by
  rw [Logged, step_events stepped]
  exact logs_handle event.2 event.1 σ

theorem exec_logged (events : List Event) (run : exec step σ events = some τ) : Logged σ τ :=
  exec_preserves (Logged σ) (fun _ event _ before stepped =>
    trans_of Logged before (step_logged event stepped)) run
    (refl_of Logged σ)

/-! From the snapshot to the audio. -/

def Ready (fsm : SessionFSM) : Prop := fsm.state = .idle ∨ fsm.state = .listening

def speech (audio : List (List UInt8 × Outcomes)) : List Event :=
  audio.map fun chunk => (.audio chunk.1, chunk.2)

/-- After `start_listening`, audio that is enough for a turn takes the machine to
`SPEAKING_DETECTED`, in however many chunks it comes. -/
def Hears (o : Orchestrator) : Prop :=
  ∀ (outcomes : Outcomes) (audio : List (List UInt8 × Outcomes)) (σ τ : World),
    step (.new o) (control "start_listening", outcomes) = some σ →
      exec step σ (speech audio) = some τ →
    minAudioBytes ≤ (audio.flatMap Prod.fst).length →
    ∃ now, σ.fsm.events ++
      [⟨.stateChanged, some .listening, some .speakingDetected, now, []⟩] <+: τ.fsm.events

theorem turn_detected (state : σ.state = .listening) (running : runs σ input = true)
    (stepped : step σ (input, outcomes) = some τ) :
    σ.fsm.events ++ [⟨.stateChanged, some .listening, some .speakingDetected, outcomes.now, []⟩] <+:
      τ.fsm.events := by
  have logged := runPipeline_logged outcomes (handed σ input)
    (σ.within ⟨[], hears input, outcomes.now, σ.emitted⟩)
  have tried := doTransition_allowed (σ := σ.within
    ⟨[], hears input, outcomes.now, σ.emitted⟩) outcomes.now
    (can_speak.mpr state)
  have entry : (moved σ.fsm .speakingDetected outcomes.now []).events = σ.fsm.events ++
      [⟨.stateChanged, some .listening, some .speakingDetected, outcomes.now, []⟩] := by
    rw [moved, show σ.fsm.state = .listening from state]
  rw [tried, ← handle_runs outcomes running] at logged
  rw [step_events stepped, ← entry]
  exact logged

theorem speech_detected (state : σ.state = .listening) (hearing : σ.orchestrator.listening = true)
    (short : σ.orchestrator.audioBuffer.length < minAudioBytes)
    (run : exec step σ (speech audio) = some τ)
    (enough : minAudioBytes ≤ (σ.orchestrator.audioBuffer ++ audio.flatMap Prod.fst).length) :
    ∃ now, σ.fsm.events ++
      [⟨.stateChanged, some .listening, some .speakingDetected, now, []⟩] <+: τ.fsm.events := by
  induction audio generalizing σ with
  | nil =>
    simp only [List.flatMap_nil, List.append_nil] at enough
    omega
  | cons chunk audio ih =>
    obtain ⟨data, outcomes⟩ := chunk
    obtain ⟨ρ, stepped, rest⟩ := exec_cons.mp run
    by_cases waits : (σ.orchestrator.audioBuffer ++ data).length < minAudioBytes
    · have ended := handle_audio_waits outcomes hearing waits
      simp only [step, ended, Option.some.injEq] at stepped
      subst stepped
      exact ih (σ := { σ.within ⟨σ.orchestrator.audioBuffer ++ data, true, outcomes.now, σ.emitted⟩ with
        emitted := _ }) state rfl waits rest
          (by simpa [World.within, List.append_assoc] using enough)
    · have running : runs σ (.audio data) = true := by
        simp only [runs, hearing, Bool.true_and, decide_eq_true_eq]
        omega
      have detected := turn_detected state running stepped
      exact ⟨outcomes.now, detected.trans (exec_logged _ rest)⟩

theorem Ready.hears {o : Orchestrator} (ready : Ready o.fsm) : Hears o := by
  intro outcomes audio σ τ started run enough
  obtain ⟨event, fsm, tried, -, moves⟩ := doTransition_spec .listening outcomes.now
    ((World.new o).within ⟨[], true, outcomes.now, []⟩)
  have ran : handle outcomes (control "start_listening") (.new o) = (.ok event.toList,
      ((World.new o).within ⟨[], true, outcomes.now, []⟩).after fsm []) := bind_ok _ tried
  have state : fsm.state = .listening := by
    rcases moves with ⟨made, -⟩ | ⟨-, rfl, barred⟩
    · exact made
    · rcases ready with idle | listening
      · exact absurd (show .listening ∈
          SessionFSM.validTransitions o.fsm.state by rw [idle]; decide) barred
      · exact listening
  simp only [step, ran, Option.some.injEq] at started
  subst started
  have empty : 0 < minAudioBytes := by decide
  exact speech_detected state rfl empty run (by simpa [World.within, World.after] using enough)

theorem restoreFsm_state (snapshot : Snapshot) (now : Nat) : (restoreFsm snapshot now).state =
    match snapshot.state with
    | .idle => .idle
    | .transferRequested => .transferRequested
    | .transferAccepted => .transferAccepted
    | .ended => .ended
    | _ => .listening := by
  obtain ⟨state, events⟩ := snapshot
  cases state <;> rfl

theorem restoreFsm_ready_iff (snapshot : Snapshot) (now : Nat) : Ready (restoreFsm snapshot now) ↔
    snapshot.state ∉ [SessionState.transferRequested, .transferAccepted, .ended] := by
  rw [Ready, restoreFsm_state]
  cases snapshot.state <;> decide

/-- What a write of the repository leaves as the session's snapshot. -/
inductive Written (cfg : Config) (s : String) : Store → Snapshot → Prop where
  | create : findOne (bySession s) store.sessions = none →
      Written cfg s (create cfg store ⟨s, tenant, client, status⟩ now).2 .initial
  | saveTurn : Written cfg s (saveTurn cfg store s fsm turn now) fsm.toSnapshot
  | updateState : Session.updateState cfg store s state extra (some fsm) now = (.ok (), store') →
      Written cfg s store' fsm.toSnapshot

section Reconnect
variable {cfg : Config} {store store' : Store} {s : String} {hot : HotState}

theorem restoreOrCreate_restored (restored : restoreHotState cfg store s = (some hot, store')) :
    ∃ events, restoreOrCreateOrchestrator cfg store s tenant client policy now =
      (.ok (some (.new s tenant client (restoreFsm (hot.fsmSnapshot.getD .initial) now)
        (hot.history.getD [])
        policy now), events), store') := by
  rw [restoreOrCreateOrchestrator, restored]
  simp only [if_neg (restoreHotState_not_ended restored)]
  exact ⟨_, rfl⟩

/-- The cache entry that a write leaves, and the document of the session. -/
theorem Written.stored (written : Written cfg s store snapshot) :
    (∃ hot, getSessionState cfg store s = some hot ∧ hot.fsmSnapshot = some snapshot) ∧
      ∀ doc, findOne (bySession s) store.sessions = some doc → doc.fsmSnapshot = snapshot := by
  cases written with
  | @create store tenant client status now absent =>
    have new : (findOne (bySession s) store.sessions).isSome = false := by rw [absent]; rfl
    rw [Session.create, if_neg (by simp [new])]
    refine ⟨⟨_, getSessionState_set .., rfl⟩, fun doc found => ?_⟩
    change findOne (bySession s) (insertOne _ store.sessions) = some doc at found
    rw [findOne_insertOne, absent] at found
    simp only [bySession, beq_self_eq_true, if_true, Option.none_or, Option.some.injEq] at found
    rw [← found]
  | saveTurn =>
    refine ⟨⟨_, getSessionState_set .., rfl⟩, fun doc found => ?_⟩
    obtain ⟨_, -, rfl⟩ := Interleaving.findOne_update_session (by exact fun _ => rfl) found
    rfl
  | @updateState store state extra fsm now _ updated =>
    rw [Session.updateState] at updated
    split at updated
    · cases updated
    · cases updated
      refine ⟨⟨_, getSessionState_set .., rfl⟩, fun doc found => ?_⟩
      obtain ⟨_, -, rfl⟩ := Interleaving.findOne_update_session (by exact fun _ => rfl) found
      rfl

/-- A reconnect finds the snapshot written last, in the cache or without it. -/
theorem Written.restored (written : Written cfg s store snapshot)
    {lost : Bool} (found : restoreHotState cfg (if lost then deleteSessionState cfg store s
      else store) s = (some hot, store')) :
    hot.fsmSnapshot.getD .initial = snapshot := by
  obtain ⟨⟨cached, entry, holds⟩, documents⟩ := written.stored
  cases lost with
  | false =>
    have present : cached ≠ .empty := by
      rintro rfl
      cases holds
    have answer := restoreHotState_hit entry present
    rw [if_neg (by decide : ¬false = true)] at found
    rw [found] at answer
    split at answer <;> cases answer
    rw [holds]
    rfl
  | true =>
    rw [if_pos rfl] at found
    cases byId : getById (deleteSessionState cfg store s) s with
    | error e =>
      rw [restoreHotState, getSessionState_delete, byId] at found
      cases found
    | ok doc =>
      have answer := restoreHotState_miss (getSessionState_delete cfg store s) byId
      rw [found] at answer
      split at answer <;> cases answer
      rw [getById] at byId
      split at byId <;> cases byId
      rename_i same
      exact documents doc same

/-- A reconnect to a session that has not ended can go on just when its snapshot is of no
transfer under way (and of no machine that has ended). -/
theorem restored_ready_iff (restored : restoreHotState cfg store s = (some hot, store')) :
    ∃ o events, restoreOrCreateOrchestrator cfg store s tenant client policy now =
      (.ok (some o, events), store') ∧
      (Ready o.fsm ∧ Hears o ↔ (hot.fsmSnapshot.getD .initial).state ∉
        [SessionState.transferRequested, .transferAccepted, .ended]) := by
  obtain ⟨events, answered⟩ : ∃ events,
      restoreOrCreateOrchestrator cfg store s tenant client policy now =
      (.ok (some (.new s tenant client (restoreFsm (hot.fsmSnapshot.getD .initial) now)
        (hot.history.getD [])
        policy now), events), store') := restoreOrCreate_restored restored
  refine ⟨_, events, answered, ?_⟩
  rw [← restoreFsm_ready_iff _ now]
  exact ⟨And.left, fun ready => ⟨ready, Ready.hears ready⟩⟩

end Reconnect

/-- A call whose last write is of the state `state`. -/
def brokenOff (state : SessionState) : Store :=
  performAll .default .empty [.connect "t_acme" "c1" "call-1" .g1 1,
    .updateState "t_acme" "call-1" state [] (some (.new state)) 2]

theorem inferring_restored : ∃ o events,
    (restoreOrCreateOrchestrator .default (brokenOff .inferring) "call-1" "t_acme" "c1" .g1 3).1 =
      .ok (some o, events) ∧ Ready o.fsm ∧ Hears o := by
  obtain ⟨hot, store', found⟩ : ∃ hot store',
      restoreHotState .default (brokenOff .inferring) "call-1" =
    (some hot, store') := ⟨_, _, rfl⟩
  obtain ⟨o, events, answered, ready⟩ : ∃ o events,
      restoreOrCreateOrchestrator .default (brokenOff .inferring) "call-1" "t_acme" "c1" .g1 3 =
        (.ok (some o, events), store') ∧ (Ready o.fsm ∧ Hears o ↔
          (hot.fsmSnapshot.getD .initial).state ∉
          [SessionState.transferRequested, .transferAccepted, .ended]) := restored_ready_iff found
  cases found
  exact ⟨o, events, congrArg Prod.fst answered, ready.mpr (by decide)⟩

/-- A crash during a request for an agent: the caller who comes back is told to wait, for good. -/
theorem requested_not_restored : ∃ o events,
    (restoreOrCreateOrchestrator .default
      (brokenOff .transferRequested) "call-1" "t_acme" "c1" .g1 3).1 =
      .ok (some o, events) ∧ o.fsm.state = .transferRequested ∧ ¬Ready o.fsm := by
  refine ⟨_, _, rfl, rfl, ?_⟩
  rintro (idle | listening)
  · cases idle
  · cases listening

end AgentOE.Call
