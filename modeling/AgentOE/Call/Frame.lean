import AgentOE.Call.Methods

/-! What a turn does not look at: the buffered audio, the listening flag, the clock
of the last activity and what was returned before. -/
namespace AgentOE.Call
open Session Coroutine
variable {outcomes : Outcomes} {σ τ : World}

structure Frame where
  audioBuffer : List UInt8
  listening : Bool
  lastActivity : Nat
  emitted : List OutboundEvent

def World.frame (σ : World) : Frame :=
  ⟨σ.orchestrator.audioBuffer, σ.orchestrator.listening, σ.orchestrator.lastActivity, σ.emitted⟩

def World.within (σ : World) (frame : Frame) : World :=
  { σ with
    orchestrator := { σ.orchestrator with
      audioBuffer := frame.audioBuffer, listening := frame.listening,
        lastActivity := frame.lastActivity }
    emitted := frame.emitted }

theorem within_frame (σ : World) : σ.within σ.frame = σ := rfl

@[simp] theorem frame_within (σ : World) (frame : Frame) : (σ.within frame).frame = frame := rfl

/-- The code works the same in every frame, and leaves it as it was. -/
abbrev Framed (x : Running α) : Prop := ∀ frame, Commutes (World.within · frame) x

theorem framed_pure (a : α) : Framed (pure a : Running α) := fun _ => commutes_pure a

theorem Framed.bind {x : Running α} {f : α → Running β} (first : Framed x)
    (rest : ∀ a, Framed (f a)) : Framed (x >>= f) :=
  fun frame => (first frame).bind fun a => rest a frame

theorem Framed.attempt {x : Running α} (inner : Framed x) : Framed (attempt x) :=
  fun frame => (inner frame).attempt

theorem Framed.within {x : Running α} (framed : Framed x) (σ : World) (frame : Frame) :
    x (σ.within frame) = ((x σ).1, (x σ).2.within frame) := framed frame σ

theorem Framed.frame {x : Running α} (framed : Framed x) (σ : World) : (x σ).2.frame = σ.frame := by
  have same := framed.within σ σ.frame
  rw [within_frame] at same
  rw [same, frame_within]

/-- What is read of the world is not part of the frame. -/
theorem framed_get_bind {f : World → Running β} (blind : ∀ frame σ, f (World.within σ frame) = f σ)
    (rest : ∀ σ, Framed (f σ)) : Framed (get >>= f) :=
  fun frame => commutes_get_bind (blind frame) fun σ => rest σ frame

theorem framed_modify {h : World → World}
    (swap : ∀ frame σ, h (World.within σ frame) = World.within (h σ) frame) : Framed (modify h) :=
  fun frame => commutes_modify (swap frame)

theorem framed_perform (effect : Effect) (result : Except Exc α) : Framed (perform effect result) :=
  fun _ _ => rfl

theorem framed_transition (toState : SessionState) (now : Nat) (metadata : Dict) :
    Framed (transition toState now metadata) := by
  intro frame σ
  by_cases allowed : toState ∈ SessionFSM.validTransitions σ.state
  · rw [transition_allowed allowed, transition_allowed (σ := σ.within frame) allowed]
    rfl
  · rw [transition_refused allowed, transition_refused (σ := σ.within frame) allowed]
    rfl

theorem framed_recordEvent (eventType : SessionEventType) (now : Nat) (metadata : Dict) :
    Framed (recordEvent eventType now metadata) := framed_modify fun _ _ => rfl

theorem framed_doTransition (state : SessionState) (now : Nat) :
    Framed (doTransition state now) := by
  refine framed_get_bind (fun _ _ => rfl) fun σ => ?_
  split
  · exact (framed_transition _ _ _).bind fun _ => framed_pure _
  · exact framed_pure _

theorem framed_endSession (outcomes : Outcomes) (reason : String) :
    Framed (endSession outcomes reason) := by
  refine framed_get_bind (fun _ _ => rfl) fun σ => ?_
  split
  · exact framed_pure _
  refine (framed_modify fun _ _ => rfl).bind fun _ => (framed_doTransition _ _).bind fun _ => ?_
  refine framed_get_bind (fun _ _ => rfl) fun _ => ?_
  exact (framed_perform _ _).attempt.bind fun _ => framed_pure _

/-! A request for an agent. -/

theorem framed_updateState (state : SessionState) (extra : Dict) (ends : Except Exc Unit) :
    Framed (updateState state extra ends) :=
  framed_get_bind (fun _ _ => rfl) fun _ => framed_perform _ _

theorem framed_dispatchToCti (cti : Cti) (request : TransferRequest) :
    Framed (dispatchToCti cti request) := by
  unfold dispatchToCti
  split
  · exact framed_pure _
  · exact framed_perform _ _

theorem framed_onTransferAccepted (attempt : Attempt) (result : TransferResult) (now : Nat) :
    Framed (onTransferAccepted attempt result now) :=
  (framed_transition _ _ _).bind fun _ => (framed_updateState _ _ _).bind fun _ => framed_pure _

theorem framed_onTransferFailed (attempt : Attempt) (result : TransferResult)
    (fallback : TransferFallback) (now : Nat) {again : Option (Running TransferResult)}
    (next : ∀ x ∈ again, Framed x) :
    Framed (onTransferFailed attempt result fallback now again) := by
  unfold onTransferFailed
  split
  · exact (framed_transition _ _ _).bind fun _ => (framed_transition _ _ _).bind fun _ => next _ rfl
  refine (framed_transition _ _ _).bind fun _ => ?_
  split
  · exact (framed_transition _ _ _).bind fun _ =>
      (framed_updateState _ _ _).bind fun _ => framed_pure _
  · exact (framed_recordEvent _ _ _).bind fun _ =>
      (framed_updateState _ _ _).bind fun _ => framed_pure _

theorem framed_requestOnce (attempt : Attempt) (request : TransferRequest)
    (fallback : TransferFallback) (retryCount now : Nat) {again : Option (Running TransferResult)}
    (next : ∀ x ∈ again, Framed x) :
    Framed (requestOnce attempt request fallback retryCount now again) := by
  refine (framed_transition _ _ _).attempt.bind fun entered => ?_
  cases entered with
  | error exc => exact framed_pure _
  | ok _ =>
    refine (framed_perform _ _).bind fun _ => (framed_updateState _ _ _).bind fun _ => ?_
    refine (framed_dispatchToCti _ _).bind fun result => ?_
    split
    · exact framed_onTransferAccepted _ _ _
    · exact framed_onTransferFailed _ _ _ _ next

theorem framed_requestWith (attempts : Nat → Attempt) (request : TransferRequest)
    (fallback : TransferFallback) (now left : Nat) :
    Framed (requestWith attempts request fallback now left) := by
  induction left with
  | zero => exact framed_requestOnce _ _ _ _ _ (by simp)
  | succ left ih =>
    refine framed_requestOnce _ _ _ _ _ fun x mem => ?_
    cases Option.some.inj mem
    exact ih

theorem framed_triggerTransfer (outcomes : Outcomes) (reason : TransferReason) (hint : String) :
    Framed (triggerTransfer outcomes reason hint) := by
  refine framed_get_bind (fun _ _ => rfl) fun σ => (framed_perform _ _).bind fun _ => ?_
  refine (framed_requestWith _ _ _ _ _).bind fun result => ?_
  split
  · exact (framed_endSession _ _).bind fun _ => framed_pure _
  split
  · exact framed_get_bind (fun _ _ => rfl) fun _ => framed_pure _
  · exact framed_pure _

/-! The pipeline and the turn around it. -/

theorem framed_infer (vendors : Vendors) (text : String) (now : Nat) :
    Framed (infer vendors text now) := by
  refine framed_get_bind (fun _ _ => rfl) fun σ =>
    (framed_perform _ _).attempt.bind fun answer => ?_
  cases answer with
  | ok completion => exact framed_pure _
  | error exc => exact (framed_recordEvent _ _ _).bind fun _ => framed_pure _

theorem framed_synthesize (vendors : Vendors) (text : String) (degraded : Bool) (now : Nat) :
    Framed (synthesize vendors text degraded now) := by
  unfold synthesize
  split
  · exact framed_pure _
  refine (framed_perform _ _).attempt.bind fun answer => ?_
  cases answer with
  | ok audio => exact framed_pure _
  | error exc => exact (framed_recordEvent _ _ _).bind fun _ => framed_pure _

theorem framed_process (vendors : Vendors) (audio : List UInt8) (level : PolicyLevel)
    (auth : Option AuthState) (now : Nat) : Framed (process vendors audio level auth now) := by
  refine (framed_transition _ _ _).bind fun _ => (framed_perform _ _).attempt.bind fun heard => ?_
  cases heard with
  | error exc => exact (framed_recordEvent _ _ _).bind fun _ => framed_pure _
  | ok text =>
    simp only
    split
    · exact (framed_transition _ _ _).bind fun _ => framed_pure _
    refine (framed_transition _ _ _).bind fun _ => (framed_infer _ _ _).bind fun inferred => ?_
    refine (framed_transition _ _ _).bind fun _ => (framed_synthesize _ _ _ _).bind fun _ => ?_
    exact framed_pure _

theorem framed_failTurn (outcomes : Outcomes) (exc : Exc) : Framed (failTurn outcomes exc) := by
  refine (framed_modify fun _ _ => rfl).bind fun _ => ?_
  have checked : Framed (checkAutoTransfer outcomes) := by
    refine framed_get_bind (fun _ _ => rfl) fun σ => ?_
    simp only
    split
    · exact (framed_recordEvent _ _ _).bind fun _ => framed_triggerTransfer _ _ _
    · exact framed_pure _
  exact checked.bind fun _ => (framed_doTransition _ _).bind fun _ => framed_pure _

theorem framed_answerTurn (outcomes : Outcomes) (result : PipelineResult) :
    Framed (answerTurn outcomes result) := by
  refine (framed_modify fun _ _ => rfl).bind fun _ => ?_
  have persisted (turn : List Message) : Framed
      (persistTurn outcomes turn result.latency result.policyLevel) :=
    framed_get_bind (fun _ _ => rfl) fun _ => (framed_perform _ _).attempt.bind fun _ =>
      framed_pure _
  exact (persisted _).bind fun _ => (framed_doTransition _ _).bind fun _ => framed_pure _

theorem framed_finishTurn (outcomes : Outcomes) (result : PipelineResult) :
    Framed (finishTurn outcomes result) := by
  unfold finishTurn
  split
  · exact (framed_triggerTransfer _ _ _).bind fun _ => framed_pure _
  split
  · refine Framed.bind ?_ fun _ => framed_pure _
    unfold blockTurn
    split
    · exact framed_triggerTransfer _ _ _
    split
    · exact framed_triggerTransfer _ _ _
    · exact (framed_doTransition _ _).bind fun _ => framed_pure _
  · exact (framed_answerTurn _ _).bind fun _ => framed_pure _

theorem framed_runPipeline (outcomes : Outcomes) (audio : List UInt8) :
    Framed (runPipeline outcomes audio) := by
  refine (framed_doTransition _ _).bind fun speaking => framed_get_bind (fun _ _ => rfl) fun σ => ?_
  split
  · exact framed_pure _
  refine (framed_process _ _ _ _ _).attempt.bind fun result => ?_
  cases result with
  | error exc => exact (framed_failTurn _ _).bind fun _ => framed_pure _
  | ok result =>
    exact (framed_modify fun _ _ => rfl).bind fun _ =>
      (framed_finishTurn _ _).bind fun _ => framed_pure _

/-! The calls that a stream makes, by what they do to the frame. -/

/-- The audio that a call hands to the pipeline, if it does. -/
def handed (σ : World) : Input → List UInt8
  | .audio data => σ.orchestrator.audioBuffer ++ data
  | _ => σ.orchestrator.audioBuffer

/-- The listening flag under which a turn runs. -/
def hears : Input → Bool
  | .audio _ => true
  | _ => false

theorem handle_runs (outcomes : Outcomes) (running : runs σ input = true) :
    handle outcomes input σ = runPipeline outcomes (handed σ input)
      (σ.within ⟨[], hears input, outcomes.now, σ.emitted⟩) := by
  cases input with
  | audio data =>
    obtain ⟨hearing, full⟩ := Bool.and_eq_true_iff.mp running
    have full : minAudioBytes ≤ σ.orchestrator.audioBuffer.length + data.length := by
      simpa using full
    simp only [handle, handleAudio, modify_bind_apply, get_bind_apply, update_orchestrator, hearing,
      Bool.not_true, Bool.false_eq_true, if_false, List.length_append, full, if_true, flush]
    simp [World.within, World.update, handed, hears, hearing]
  | control msg =>
    obtain ⟨stop, filled⟩ := Bool.and_eq_true_iff.mp running
    have stop : msg.action.getD (.text "") = .text "stop_listening" := by
      simpa [Control.isAction] using stop
    have filled : σ.orchestrator.audioBuffer ≠ [] := by simpa using filled
    have other : (Field.text "stop_listening" = .text "start_listening") = False := by decide
    simp only [handle, handleControl, stop, other, if_false, if_true, modify_bind_apply,
      get_bind_apply, update_orchestrator, ne_eq, filled, not_false_eq_true, flush]
    rfl
  | endSession reason => cases running

theorem handle_audio_waits (outcomes : Outcomes) (hearing : σ.orchestrator.listening = true)
    (short : (σ.orchestrator.audioBuffer ++ data).length < minAudioBytes) :
    handle outcomes (.audio data) σ =
      (.ok [], σ.within ⟨σ.orchestrator.audioBuffer ++ data, true, outcomes.now, σ.emitted⟩) := by
  have short : ¬minAudioBytes ≤ (σ.orchestrator.audioBuffer ++ data).length := by omega
  simp only [handle, handleAudio, modify_bind_apply, get_bind_apply, update_orchestrator, hearing,
    Bool.not_true, Bool.false_eq_true, if_false, short]
  simp [World.within, World.update, hearing]

theorem handle_stop_empty (outcomes : Outcomes) (empty : σ.orchestrator.audioBuffer = []) :
    handle outcomes (control "stop_listening") σ =
      (.ok [], σ.within ⟨[], false, outcomes.now, σ.emitted⟩) := by
  simp [handle, handleControl, control, World.update, World.within, empty]

theorem handle_start (outcomes : Outcomes) (σ : World) :
    ∃ events τ, handle outcomes (control "start_listening") σ = (.ok events, τ) ∧
      τ.frame = ⟨[], true, outcomes.now, σ.emitted⟩ := by
  obtain ⟨event, fsm, tried, -, -⟩ := doTransition_spec .listening outcomes.now
    (σ.within ⟨[], true, outcomes.now, σ.emitted⟩)
  have ran : handle outcomes (control "start_listening") σ = (.ok event.toList,
      (σ.within ⟨[], true, outcomes.now, σ.emitted⟩).after fsm []) := bind_ok _ tried
  exact ⟨_, _, ran, rfl⟩

/-- A digit is an action that the orchestrator does not know. -/
theorem handle_dtmf (outcomes : Outcomes) (σ : World) : handle outcomes (control "dtmf") σ =
    (.ok [errorEvent "UNKNOWN_ACTION" "Unknown action: dtmf"],
      σ.within { σ.frame with lastActivity := outcomes.now }) := rfl

/-- A call overwrites the clock before it looks at anything. -/
theorem handle_clock (outcomes : Outcomes) (input : Input)
    (ends : ∀ reason, input ≠ .endSession reason) (σ : World) (now : Nat) :
    handle outcomes input (σ.within { σ.frame with lastActivity := now }) =
      handle outcomes input σ := by
  cases input with
  | audio data => rfl
  | control msg => rfl
  | endSession reason => exact absurd rfl (ends reason)

end AgentOE.Call
