import AgentOE.Transition
import AgentOE.Call.Turns

/-! What one call of a public method can do, and runs of such calls. -/
namespace AgentOE.Call
open Session Coroutine Transition

def Control.isAction (msg : Control) (name : String) : Bool :=
  msg.action.getD (.text "") = .text name

/-- The call hands its audio to the pipeline. -/
def runs (σ : World) : Input → Bool
  | .audio data => σ.orchestrator.listening &&
      minAudioBytes ≤ (σ.orchestrator.audioBuffer ++ data).length
  | .control msg => msg.isAction "stop_listening" && σ.orchestrator.audioBuffer ≠ []
  | .endSession _ => false

/-- The call asks for an agent with this reason. -/
def asksFor : Input → Option TransferReason
  | .control msg =>
    if msg.isAction "request_transfer" then some (requestedReason msg.reason) else none
  | _ => none

def hangsUp : Input → Bool
  | .control msg => msg.isAction "hangup"
  | .endSession _ => true
  | .audio _ => false

/-- `pong` or the error of an unknown action. -/
def harmless (event : OutboundEvent) : Bool := event.name = "pong" || hasCode "UNKNOWN_ACTION" event

/-- Only the audio, the clock and the listening flag differ. -/
structure Same (σ τ : World) : Prop where
  fsm : τ.fsm = σ.fsm
  history : τ.orchestrator.history = σ.orchestrator.history
  policyLevel : τ.orchestrator.policyLevel = σ.orchestrator.policyLevel
  closed : τ.orchestrator.closed = σ.orchestrator.closed
  shouldClose : τ.orchestrator.shouldClose = σ.orchestrator.shouldClose
  failures : τ.orchestrator.pipelineFailureCount = σ.orchestrator.pipelineFailureCount
  effects : τ.effects = σ.effects
  emitted : τ.emitted = σ.emitted

theorem Same.did (same : Same σ τ) : Did σ τ [] :=
  ⟨by simp [World.requests, same.effects], .inl ⟨by simp [World.ends, same.effects], same.closed⟩,
    fun flags => by rw [same.shouldClose, same.closed, flags], same.emitted⟩

theorem Same.state (same : Same σ τ) : τ.state = σ.state := congrArg SessionFSM.state same.fsm

theorem Same.speaks (same : Same σ τ) : Speaks τ ↔ Speaks σ := by
  simp only [Speaks, same.state]

/-- Everything a call can do. -/
inductive Handled (outcomes : Outcomes) (σ : World) :
    Input → Except Exc (List OutboundEvent) → World → Prop where
  | turn : runs σ input = true → Same σ ρ → Turned outcomes ρ result τ →
    Handled outcomes σ input result τ
  | idle : runs σ input = false → asksFor input = none → Same σ τ →
      (∀ event ∈ events, harmless event = true) → Handled outcomes σ input (.ok events) τ
  | listen : runs σ input = false → asksFor input = none → Same σ ρ →
      (fsm.state = .listening ∧ .listening ∈ SessionFSM.validTransitions σ.state ∨
        events = [] ∧ fsm = σ.fsm ∧ .listening ∉ SessionFSM.validTransitions σ.state) →
      Handled outcomes σ input (.ok events) (ρ.after fsm [])
  | ended : runs σ input = false → asksFor input = none → hangsUp input = true → Same σ ρ →
      σ.orchestrator.closed = false → fsm.state = .ended →
      Handled outcomes σ input (.ok [stateEvent .ended])
        ((ρ.update close).after fsm [.endSession reason fsm])
  | transfer : runs σ input = false → asksFor input = some reason → Same σ ρ →
      Triggered outcomes reason ρ result τ → Handled outcomes σ input result τ

theorem Same.trans (first : Same σ τ) (second : Same τ υ) : Same σ υ where
  fsm := second.fsm.trans first.fsm
  history := second.history.trans first.history
  policyLevel := second.policyLevel.trans first.policyLevel
  closed := second.closed.trans first.closed
  shouldClose := second.shouldClose.trans first.shouldClose
  failures := second.failures.trans first.failures
  effects := second.effects.trans first.effects
  emitted := second.emitted.trans first.emitted

theorem unasked_of_runs (running : runs σ input = true) : asksFor input = none := by
  cases input with
  | audio data => rfl
  | control msg =>
    obtain ⟨stop, _⟩ := Bool.and_eq_true_iff.mp running
    have stop : msg.action.getD (.text "") = .text "stop_listening" := by
      simpa [Control.isAction] using stop
    simp [asksFor, Control.isAction, stop]
  | endSession reason => rfl

theorem flush_spec (outcomes : Outcomes) (σ : World) :
    ∃ result τ ρ, flush outcomes σ = (result, τ) ∧ Same σ ρ ∧ Turned outcomes ρ result τ := by
  rw [flush, get_bind_apply, modify_bind_apply]
  obtain ⟨result, τ, ran, turned⟩ := runPipeline_spec outcomes σ.orchestrator.audioBuffer
    (σ.update fun o => { o with audioBuffer := [] })
  have same : Same σ (σ.update fun o => { o with audioBuffer := [] }) :=
    ⟨rfl, rfl, rfl, rfl, rfl, rfl, rfl, rfl⟩
  exact ⟨result, τ, _, ran, same, turned⟩

theorem handleAudio_spec (outcomes : Outcomes) (data : List UInt8) (σ : World) :
    ∃ result τ, handleAudio outcomes data σ = (result, τ) ∧
      Handled outcomes σ (.audio data) result τ := by
  rw [handleAudio, modify_bind_apply, get_bind_apply]
  generalize touched : σ.update _ = ρ
  have same : Same σ ρ := by rw [← touched]; exact ⟨rfl, rfl, rfl, rfl, rfl, rfl, rfl, rfl⟩
  have hears : ρ.orchestrator.listening = σ.orchestrator.listening := by rw [← touched]; rfl
  have buffer : ρ.orchestrator.audioBuffer = σ.orchestrator.audioBuffer := by rw [← touched]; rfl
  split
  case isTrue deaf =>
    have deaf : σ.orchestrator.listening = false := by simpa [hears] using deaf
    exact ⟨_, ρ, rfl, .idle (by simp [runs, deaf]) rfl same (by simp)⟩
  case isFalse hearing =>
    have hearing : σ.orchestrator.listening = true := by simpa [hears] using hearing
    rw [modify_bind_apply, get_bind_apply]
    generalize filled : ρ.update _ = υ
    have kept : Same ρ υ := by rw [← filled]; exact ⟨rfl, rfl, rfl, rfl, rfl, rfl, rfl, rfl⟩
    have grown : υ.orchestrator.audioBuffer = σ.orchestrator.audioBuffer ++ data := by
      rw [← filled, ← buffer]; rfl
    split
    case isTrue full =>
      obtain ⟨result, τ, flushed, ran, rest, turned⟩ := flush_spec outcomes υ
      rw [grown] at full
      exact ⟨result, τ, ran, .turn (by simpa [runs, hearing] using full)
        ((same.trans kept).trans rest) turned⟩
    case isFalse short =>
      rw [grown] at short
      exact ⟨_, υ, rfl, .idle (by simpa [runs, hearing] using short) rfl (same.trans kept)
        (by simp)⟩

theorem endSession_spec (outcomes : Outcomes) (reason : String) (input : Input) {σ ρ : World}
    (still : runs σ input = false) (unasked : asksFor input = none) (hangs : hangsUp input = true)
    (same : Same σ ρ) :
    ∃ result τ, endSession outcomes reason ρ = (result, τ) ∧ Handled outcomes σ input result τ := by
  cases shut : ρ.orchestrator.closed with
  | true => exact ⟨_, ρ, endSession_closed reason shut, .idle still unasked same (by simp)⟩
  | false =>
    obtain ⟨fsm, ended, final⟩ := endSession_open outcomes reason shut
    exact ⟨_, _, ended, .ended still unasked hangs same (same.closed.symm.trans shut) final⟩

theorem handleControl_spec (outcomes : Outcomes) (msg : Control) (σ : World) :
    ∃ result τ, handleControl outcomes msg σ = (result, τ) ∧
      Handled outcomes σ (.control msg) result τ := by
  rw [handleControl, modify_bind_apply]
  generalize touched : σ.update _ = ρ
  have same : Same σ ρ := by rw [← touched]; exact ⟨rfl, rfl, rfl, rfl, rfl, rfl, rfl, rfl⟩
  have buffer : ρ.orchestrator.audioBuffer = σ.orchestrator.audioBuffer := by rw [← touched]; rfl
  generalize act : msg.action.getD (.text "") = action
  split
  case isTrue start =>
    subst start
    rw [modify_bind_apply]
    generalize cleared : ρ.update _ = υ
    have kept : Same ρ υ := by rw [← cleared]; exact ⟨rfl, rfl, rfl, rfl, rfl, rfl, rfl, rfl⟩
    have whole := same.trans kept
    obtain ⟨event, fsm, tried, _, back⟩ := doTransition_spec .listening outcomes.now υ
    rw [whole.state, whole.fsm] at back
    rw [bind_ok _ tried]
    exact ⟨_, _, rfl, .listen (by simp [runs, Control.isAction, act])
      (by simp [asksFor, Control.isAction, act])
      whole (back.imp id fun ⟨absent, rest⟩ => ⟨by rw [absent]; rfl, rest⟩)⟩
  case isFalse =>
  split
  case isTrue stop =>
    subst stop
    rw [modify_bind_apply, get_bind_apply]
    generalize stopped : ρ.update _ = υ
    have kept : Same ρ υ := by rw [← stopped]; exact ⟨rfl, rfl, rfl, rfl, rfl, rfl, rfl, rfl⟩
    have buffered : υ.orchestrator.audioBuffer = σ.orchestrator.audioBuffer := by
      rw [← stopped, ← buffer]; rfl
    rw [buffered]
    split
    case isTrue filled =>
      obtain ⟨result, τ, flushed, ran, rest, turned⟩ := flush_spec outcomes υ
      exact ⟨result, τ, ran, .turn (by simpa [runs, Control.isAction, act] using filled)
        ((same.trans kept).trans rest) turned⟩
    case isFalse empty =>
      exact ⟨_, υ, rfl, .idle (by simpa [runs, Control.isAction, act] using empty)
        (by simp [asksFor, Control.isAction, act]) (same.trans kept) (by simp)⟩
  case isFalse stay =>
  have still : runs σ (.control msg) = false := by simp [runs, Control.isAction, act, stay]
  split
  case isTrue hangup =>
    subst hangup
    exact endSession_spec outcomes "client_hangup" _ still
      (by simp [asksFor, Control.isAction, act])
      (by simp [hangsUp, Control.isAction, act]) same
  case isFalse =>
  split
  case isTrue ping =>
    subst ping
    exact ⟨_, ρ, rfl, .idle still (by simp [asksFor, Control.isAction, act]) same
      (by simp [harmless])⟩
  case isFalse =>
  split
  case isTrue transfer =>
    subst transfer
    obtain ⟨result, τ, ran, triggered⟩ := triggerTransfer_spec outcomes (requestedReason msg.reason)
      (msg.context.getD (.text "")).hint ρ
    exact ⟨result, τ, ran,
      .transfer still (by simp [asksFor, Control.isAction, act]) same triggered⟩
  case isFalse other =>
    exact ⟨_, ρ, rfl, .idle still (by simp [asksFor, Control.isAction, act, other]) same
      (by simp [harmless, hasCode, errorEvent])⟩

theorem handle_spec (outcomes : Outcomes) (input : Input) (σ : World) :
    ∃ result τ, handle outcomes input σ = (result, τ) ∧ Handled outcomes σ input result τ := by
  cases input with
  | audio data => exact handleAudio_spec outcomes data σ
  | control msg => exact handleControl_spec outcomes msg σ
  | endSession reason =>
    exact endSession_spec outcomes reason _ rfl rfl rfl ⟨rfl, rfl, rfl, rfl, rfl, rfl, rfl, rfl⟩

/-- The events that reach the transport. -/
def returned : Except Exc (List OutboundEvent) → List OutboundEvent
  | .ok events => events
  | .error _ => []

/-- The step rule: a call, and what it returned. -/
theorem step_handled (stepped : step σ event = some τ) :
    ∃ result υ, Handled event.2 σ event.1 result υ ∧
      τ = { υ with emitted := υ.emitted ++ returned result } := by
  obtain ⟨result, υ, ran, handled⟩ := handle_spec event.2 event.1 σ
  rw [step, ran] at stepped
  refine ⟨result, υ, handled, ?_⟩
  cases result with
  | ok events => exact (Option.some.inj stepped).symm
  | error exc => simpa [returned] using (Option.some.inj stepped).symm

/-! Calls for fixed runs: the writes succeed and no CTI is connected, as the
orchestrator constructs its transfer service. -/

def unattended : Attempt := ⟨.ok (), .ok (), .mock, .ok ()⟩

def outcomesOf (vendors : Vendors) : Outcomes := ⟨0, vendors, .ok (), .ok (), fun _ => unattended⟩

def working (text reply : String) : Vendors :=
  ⟨.ok text, .ok ⟨reply, false⟩, .ok [1], 0, 0, 0, 0⟩

def session (level : PolicyLevel) (state : SessionState) : World :=
  .new (.new "call-1" "t_acme" "c1" (.new state) [] level 0)

def control (action : String) : Input := .control ⟨some (.text action), none, none⟩

/-- An utterance that the client ends itself. -/
def utterance (outcomes : Outcomes) : List Event :=
  [(control "start_listening", outcomes), (.audio [1, 2], outcomes),
    (control "stop_listening", outcomes)]

end AgentOE.Call
