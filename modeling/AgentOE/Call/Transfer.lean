import AgentOE.Call.Effects
import AgentOE.Text
import AgentOE.Collection

/-! The hand-over of a call to a human agent. -/
namespace AgentOE.Call
open Session Coroutine

def maxTransferRetries : Nat := 3

inductive TransferFallback where
  | retry
  | callback
  | aiResume
  deriving DecidableEq, Repr

def TransferFallback.value : TransferFallback → String
  | .retry => "RETRY"
  | .callback => "CALLBACK"
  | .aiResume => "AI_RESUME"

inductive TransferStatus where
  | pending
  | accepted
  | failed
  | timedOut
  | fallbackCallback
  | fallbackAiResume
  deriving DecidableEq, Repr

def TransferStatus.value : TransferStatus → String
  | .pending => "PENDING"
  | .accepted => "ACCEPTED"
  | .failed => "FAILED"
  | .timedOut => "TIMED_OUT"
  | .fallbackCallback => "FALLBACK_CALLBACK"
  | .fallbackAiResume => "FALLBACK_AI_RESUME"

def transferStatuses : List TransferStatus :=
  [.pending, .accepted, .failed, .timedOut, .fallbackCallback, .fallbackAiResume]

structure TransferResult where
  status : TransferStatus
  agentId : Option String
  agentName : Option String
  queuePosition : Option Int
  fallbackAction : Option TransferFallback
  message : String
  deriving DecidableEq, Repr

def TransferResult.ended (status : TransferStatus) (message : String) : TransferResult :=
  ⟨status, none, none, none, none, message⟩

/-- `result.agent_name or result.agent_id`. -/
def TransferResult.agent (result : TransferResult) : Option String :=
  if result.agentName.any (· ≠ "") then result.agentName else result.agentId

/-- How the dispatch to the CTI ends. A service without a connector is `mock`,
and `unreadable` is an answer that is no dictionary. -/
inductive Cti where
  | mock
  | timedOut
  | raised
  | unreadable
  | answered (status agentId agentName : Option String) (queuePosition : Option Int)
      (message : Option String)
  deriving DecidableEq, Repr

def dispatchError : TransferResult := .ended .failed "상담사 시스템 오류가 발생했습니다."

/-- The result of a dispatch. A status outside the enumeration raises inside the
same `try` as the dispatch itself. -/
def Cti.result : Cti → TransferResult
  | .mock => .ended .failed "[MOCK] 현재 가용 상담사가 없습니다."
  | .timedOut => .ended .timedOut "상담사 연결 시간이 초과되었습니다."
  | .raised => dispatchError
  | .unreadable => .ended .failed "CTI 응답 파싱 실패"
  | .answered status agentId agentName queuePosition message =>
    match transferStatuses.find? (·.value = status.getD "FAILED") with
    | some status => ⟨status, agentId, agentName, queuePosition, none, message.getD ""⟩
    | none => dispatchError

/-- How the writes and the dispatch of one attempt end. -/
structure Attempt where
  saved : Except Exc Unit
  requested : Except Exc Unit
  cti : Cti
  resolved : Except Exc Unit
  deriving Repr

/-- The repository takes every write of the attempt. -/
def Attempt.Saves (attempt : Attempt) : Prop :=
  attempt.saved = .ok () ∧ attempt.requested = .ok () ∧ attempt.resolved = .ok ()

def optional : Option String → Value
  | some text => .str text
  | none => .null

def dispatchToCti (cti : Cti) (request : TransferRequest) : Running TransferResult :=
  if cti = .mock then pure cti.result else perform (.dispatch request) (.ok cti.result)

def updateState (state : SessionState) (extra : Dict) (ends : Except Exc Unit) : Running Unit := do
  let σ ← get
  perform (.updateState state extra σ.fsm) ends

def onTransferAccepted (attempt : Attempt) (result : TransferResult) (now : Nat) :
    Running TransferResult := do
  transition .transferAccepted now
    [("agent_id", optional result.agentId), ("agent_name", optional result.agentName)]
  updateState .transferAccepted [("transfer_info.status", .str TransferStatus.accepted.value)]
    attempt.resolved
  pure { result with
    message := "상담사 " ++ result.agent.getD "None" ++ "님께 연결됩니다. 잠시만 기다려 주세요." }

def handleCallbackFallback (attempt : Attempt) (result : TransferResult) (now : Nat) :
    Running TransferResult := do
  recordEvent .callbackScheduled now [("reason", .str "transfer_fallback")]
  updateState .transferFailed
    [("transfer_info.status", .str TransferStatus.fallbackCallback.value)] attempt.resolved
  pure { result with
    status := .fallbackCallback, fallbackAction := some .callback
    message := "현재 모든 상담사가 통화 중입니다. 고객님의 연락처로 빠른 시간 내에 다시 연락드리겠습니다." }

def handleAiResumeFallback (attempt : Attempt) (result : TransferResult) (now : Nat) :
    Running TransferResult := do
  transition .listening now [("reason", .str "transfer_failed_ai_resume")]
  updateState .listening
    [("transfer_info.status", .str TransferStatus.fallbackAiResume.value)] attempt.resolved
  pure { result with
    status := .fallbackAiResume, fallbackAction := some .aiResume
    message := "현재 상담사 연결이 어렵습니다. 제가 계속 도와드리겠습니다. 어떤 도움이 필요하신가요?" }

/-- `again` is the next attempt, there as long as the retries last. -/
def onTransferFailed (attempt : Attempt) (result : TransferResult) (fallback : TransferFallback)
    (now : Nat) (again : Option (Running TransferResult)) : Running TransferResult :=
  match fallback, again with
  | .retry, some again => do
    transition .transferFailed now []
    transition .listening now []
    again
  | fallback, _ => do
    transition .transferFailed now
      [("fallback", .str fallback.value), ("reason", .str result.status.value)]
    if fallback = .aiResume then handleAiResumeFallback attempt result now
    else handleCallbackFallback attempt result now

def requestOnce (attempt : Attempt) (request : TransferRequest) (fallback : TransferFallback)
    (retryCount now : Nat) (again : Option (Running TransferResult)) : Running TransferResult := do
  match ← Coroutine.attempt (transition .transferRequested now
      [("reason", .str request.reason.value), ("priority", .int request.priority),
        ("retry_count", .int retryCount)]) with
  | .error _ => pure (.ended .failed "세션 상태로 인해 이관이 불가능합니다.")
  | .ok () => do
    perform (.saveTransferInfo request retryCount) attempt.saved
    updateState .transferRequested [] attempt.requested
    let result ← dispatchToCti attempt.cti request
    if result.status = .accepted then onTransferAccepted attempt result now
    else onTransferFailed attempt result fallback now again

/-- `TransferService.request` with `left` retries to go. -/
def requestWith (attempts : Nat → Attempt) (request : TransferRequest) (fallback : TransferFallback)
    (now : Nat) : Nat → Running TransferResult
  | 0 => requestOnce (attempts maxTransferRetries) request fallback maxTransferRetries now none
  | left + 1 =>
    let retryCount := maxTransferRetries - (left + 1)
    requestOnce (attempts retryCount) request fallback retryCount now
      (some (requestWith attempts request fallback now left))

def requestTransfer (attempts : Nat → Attempt) (request : TransferRequest)
    (fallback : TransferFallback) (now : Nat) : Running TransferResult :=
  requestWith attempts request fallback now maxTransferRetries

def transferKeywords : List String :=
  ["상담사", "담당자", "사람", "직원", "연결", "바꿔", "agent", "human", "operator",
    "representative", "사람이랑", "사람과", "직접", "전화", "통화"]

/-- Outside of ASCII no letter has a lower case that occurs in a keyword. -/
def detectTransferIntent (text : String) : Bool :=
  transferKeywords.any fun keyword =>
    Text.contains keyword.toList (text.toList.map Char.toLower)

def buildContextSummary (history : List Message) (currentIssue : String) : String :=
  if history = [] then if currentIssue = "" then "고객 문의 내용 없음" else currentIssue
  else
    let turns := (Collection.newest 10 history).map fun msg =>
      (if msg.role = .user then "고객" else "AI") ++ ": " ++
        String.ofList (msg.content.toList.take 100)
    let summary := "\n".intercalate turns
    if currentIssue = "" then summary
    else "현재 문의: " ++ currentIssue ++ "\n\n최근 대화:\n" ++ summary

/-- What the transfer service asks for. -/
def Effect.ofTransfer : Effect → Bool
  | .dispatch _ | .saveTransferInfo _ _ | .updateState _ _ _ => true
  | _ => false

/-- Everything a request with the callback fallback can do to a machine, and what
it asked for. -/
inductive Requested (attempt : Attempt) (before : SessionFSM) :
    SessionFSM → Except Exc TransferResult → List Effect → Prop where
  | refused : .transferRequested ∉ SessionFSM.validTransitions before.state →
      result.status = .failed → result.fallbackAction = none →
      Requested attempt before before (.ok result) []
  | unsaved : .transferRequested ∈ SessionFSM.validTransitions before.state →
      fsm.state ∈ [SessionState.transferRequested, .transferAccepted, .transferFailed] →
      ¬attempt.Saves → (∀ effect ∈ effects, effect.ofTransfer = true) →
      Requested attempt before fsm (.error exc) effects
  | accepted : .transferRequested ∈ SessionFSM.validTransitions before.state →
      fsm.state = .transferAccepted → attempt.cti.result.status = .accepted →
      result.status = .accepted → (∀ effect ∈ effects, effect.ofTransfer = true) →
      Requested attempt before fsm (.ok result) effects
  | fellBack : .transferRequested ∈ SessionFSM.validTransitions before.state →
      fsm.state = .transferFailed → result.status = .fallbackCallback →
      result.fallbackAction = some .callback → (∀ effect ∈ effects, effect.ofTransfer = true) →
      Requested attempt before fsm (.ok result) effects

theorem dispatchToCti_spec (cti : Cti) (request : TransferRequest) (σ : World) :
    ∃ effects, dispatchToCti cti request σ = (.ok cti.result, σ.after σ.fsm effects) ∧
      ∀ effect ∈ effects, effect.ofTransfer = true := by
  unfold dispatchToCti
  split
  · exact ⟨[], by rw [pure_apply, after_self], by simp⟩
  · exact ⟨[.dispatch request], perform_apply _ _, by simp [Effect.ofTransfer]⟩

theorem updateState_apply (state : SessionState) (extra : Dict) (ends : Except Exc Unit)
    (σ : World) :
    updateState state extra ends σ = (ends, σ.after σ.fsm [.updateState state extra σ.fsm]) := rfl

theorem onTransferAccepted_spec (attempt : Attempt) (result : TransferResult) (now : Nat)
    {σ : World} (pending : σ.state = .transferRequested) (won : result.status = .accepted) :
    ∃ ends fsm effects, onTransferAccepted attempt result now σ = (ends, σ.after fsm effects) ∧
      fsm.state = .transferAccepted ∧ (∀ effect ∈ effects, effect.ofTransfer = true) ∧
      match ends with
      | .ok result => result.status = .accepted
      | .error _ => ¬attempt.Saves := by
  have allowed : SessionState.transferAccepted ∈ SessionFSM.validTransitions σ.state := by
    rw [pending]
    decide
  rw [onTransferAccepted, bind_ok _ (transition_allowed allowed)]
  cases ended : attempt.resolved with
  | ok _ =>
    rw [bind_ok _ (updateState_apply _ _ _ _), pure_apply, after_after]
    exact ⟨_, _, _, rfl, rfl, by simp [Effect.ofTransfer], won⟩
  | error exc =>
    rw [bind_error _ (updateState_apply _ _ _ _), after_after]
    exact ⟨_, _, _, rfl, rfl, by simp [Effect.ofTransfer], by simp [Attempt.Saves, ended]⟩

theorem onTransferFailed_spec (attempt : Attempt) (result : TransferResult) (now : Nat)
    (again : Option (Running TransferResult)) {σ : World} (pending : σ.state = .transferRequested) :
    ∃ ends fsm effects,
      onTransferFailed attempt result .callback now again σ = (ends, σ.after fsm effects) ∧
      fsm.state = .transferFailed ∧ (∀ effect ∈ effects, effect.ofTransfer = true) ∧
      match ends with
      | .ok result => result.status = .fallbackCallback ∧ result.fallbackAction = some .callback
      | .error _ => ¬attempt.Saves := by
  have allowed : SessionState.transferFailed ∈ SessionFSM.validTransitions σ.state := by
    rw [pending]
    decide
  simp only [onTransferFailed]
  rw [bind_ok _ (transition_allowed allowed), if_neg (by decide), handleCallbackFallback,
    bind_ok _ recordEvent_apply]
  cases ended : attempt.resolved with
  | ok _ =>
    rw [bind_ok _ (updateState_apply _ _ _ _), pure_apply, after_after, after_after]
    exact ⟨_, _, _, rfl, rfl, by simp [Effect.ofTransfer], rfl, rfl⟩
  | error exc =>
    rw [bind_error _ (updateState_apply _ _ _ _), after_after, after_after]
    exact ⟨_, _, _, rfl, rfl, by simp [Effect.ofTransfer], by simp [Attempt.Saves, ended]⟩

/-- The request after its dispatch, in a machine that waits for the answer. -/
theorem resolved_spec (attempt : Attempt) (now : Nat) (again : Option (Running TransferResult))
    (σ : World) (effects : List Effect) {fsm : SessionFSM}
    (pending : fsm.state = .transferRequested)
    (allowed : .transferRequested ∈ SessionFSM.validTransitions before.state)
    (past : ∀ effect ∈ effects, effect.ofTransfer = true) :
    ∃ result fsm' effects',
      (if attempt.cti.result.status = .accepted then
        onTransferAccepted attempt attempt.cti.result now
        else onTransferFailed attempt attempt.cti.result .callback now again)
          (σ.after fsm effects) = (result, σ.after fsm' effects') ∧
      Requested attempt before fsm' result effects' := by
  have both {more : List Effect} (rest : ∀ effect ∈ more, effect.ofTransfer = true) :
      ∀ effect ∈ effects ++ more, effect.ofTransfer = true :=
    fun effect mem => (List.mem_append.mp mem).elim (past effect) (rest effect)
  split
  case isTrue won =>
    obtain ⟨result, fsm', more, ran, final, rest, outcome⟩ :=
      onTransferAccepted_spec attempt attempt.cti.result now (σ := σ.after fsm effects) pending won
    rw [ran, after_after]
    refine ⟨_, _, _, rfl, ?_⟩
    cases result with
    | ok result => exact .accepted allowed final won outcome (both rest)
    | error exc => exact .unsaved allowed (by simp [final]) outcome (both rest)
  case isFalse =>
    obtain ⟨result, fsm', more, ran, final, rest, outcome⟩ :=
      onTransferFailed_spec attempt attempt.cti.result now again (σ := σ.after fsm effects) pending
    rw [ran, after_after]
    refine ⟨_, _, _, rfl, ?_⟩
    cases result with
    | ok result => exact .fellBack allowed final outcome.1 outcome.2 (both rest)
    | error exc => exact .unsaved allowed (by simp [final]) outcome (both rest)

theorem requestOnce_spec (attempt : Attempt) (request : TransferRequest) (retryCount now : Nat)
    (again : Option (Running TransferResult)) (σ : World) :
    ∃ result fsm effects,
      requestOnce attempt request .callback retryCount now again σ = (result, σ.after fsm effects) ∧
      Requested attempt σ.fsm fsm result effects := by
  rw [requestOnce, attempt_bind_apply]
  by_cases allowed : SessionState.transferRequested ∈ SessionFSM.validTransitions σ.state
  case neg =>
    rw [transition_refused allowed]
    exact ⟨_, σ.fsm, [], by rw [after_self]; rfl, .refused allowed rfl rfl⟩
  rw [transition_allowed allowed]
  simp only
  generalize entered : moved σ.fsm .transferRequested now _ = fsm
  have pending : fsm.state = .transferRequested := by rw [← entered, moved_state]
  cases saved : attempt.saved with
  | error exc =>
    rw [perform_bind_error _ _ rfl, after_after]
    exact ⟨_, _, _, rfl, .unsaved allowed (by simp [pending]) (by simp [Attempt.Saves, saved])
      (by simp [Effect.ofTransfer])⟩
  | ok _ =>
    rw [perform_bind_ok _ _ rfl, after_after]
    cases requested : attempt.requested with
    | error exc =>
      rw [bind_error _ (updateState_apply _ _ _ _), after_after]
      exact ⟨_, _, _, rfl, .unsaved allowed (by simp [pending]) (by simp [Attempt.Saves, requested])
        (by simp [Effect.ofTransfer])⟩
    | ok _ =>
      obtain ⟨sent, dispatched, ofTransfer⟩ := dispatchToCti_spec attempt.cti request _
      rw [bind_ok _ (updateState_apply _ _ _ _), bind_ok _ dispatched, after_after, after_after]
      refine resolved_spec attempt now again σ _ pending allowed ?_
      simpa [Effect.ofTransfer] using ofTransfer

/-- The orchestrator asks with the callback fallback, which is never retried. -/
theorem requestTransfer_spec (attempts : Nat → Attempt) (request : TransferRequest) (now : Nat)
    (σ : World) :
    ∃ result fsm effects,
      requestTransfer attempts request .callback now σ = (result, σ.after fsm effects) ∧
      Requested (attempts 0) σ.fsm fsm result effects :=
  requestOnce_spec (attempts 0) request 0 now _ σ

end AgentOE.Call
