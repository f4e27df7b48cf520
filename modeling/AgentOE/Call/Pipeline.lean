import AgentOE.Call.Effects

/-! The policy gate and one run of the AI pipeline. Latencies are inputs, in
milliseconds. -/
namespace AgentOE.Call
open Session Coroutine

def policyValue : PolicyLevel → String
  | .g1 => "G1"
  | .g2 => "G2"
  | .g3 => "G3"
  | .g4 => "G4"
  | .g5 => "G5"

/-- The entries of the session's authentication state that the gate reads. -/
structure AuthState where
  smsVerified : Bool
  dualApproved : Bool
  deriving DecidableEq, Repr

structure PolicyEvaluationResult where
  allowed : Bool
  level : PolicyLevel
  reason : String
  requiredSteps : List String
  deriving DecidableEq, Repr

def handleG3 (auth : Option AuthState) : PolicyEvaluationResult :=
  if auth.any AuthState.smsVerified then ⟨true, .g3, "G3_AUTH_VERIFIED", []⟩
  else ⟨false, .g3, "AUTH_REQUIRED", ["sms_otp"]⟩

def handleG4 (auth : Option AuthState) : PolicyEvaluationResult :=
  if auth.any AuthState.dualApproved then ⟨true, .g4, "G4_DUAL_APPROVED", []⟩
  else ⟨false, .g4, "DUAL_APPROVAL_REQUIRED", ["sms_otp", "supervisor_approval"]⟩

/-- `PolicyGate.evaluate`. No handler reads the action or its context. -/
def evaluate (level : PolicyLevel) (auth : Option AuthState) : PolicyEvaluationResult :=
  match level with
  | .g1 => ⟨true, .g1, "G1_PASS", []⟩
  | .g2 => ⟨true, .g2, "G2_LOG_REQUIRED", ["audit_log"]⟩
  | .g3 => handleG3 auth
  | .g4 => handleG4 auth
  | .g5 => ⟨false, .g5, "LEGALLY_PROHIBITED", []⟩

structure Completion where
  fullText : String
  fillerTriggered : Bool
  deriving DecidableEq, Repr

/-- How the three vendors end and what the clock shows. -/
structure Vendors where
  stt : Except Exc String
  llm : Except Exc Completion
  tts : Except Exc (List UInt8)
  sttMs : Nat
  llmMs : Nat
  ttsMs : Nat
  totalMs : Nat
  deriving Repr

inductive Stage where
  | stt
  | llm
  | tts
  deriving DecidableEq, Repr

structure PipelineResult where
  sttText : String
  llmText : String
  ttsAudio : Option (List UInt8)
  policyLevel : String
  policyAllowed : Bool
  latency : Dict
  fillerTriggered : Bool
  degraded : Bool
  degradedStage : Option Stage
  deriving DecidableEq, Repr

def sttUnavailable : String :=
  "죄송합니다, 음성 인식 서비스가 일시적으로 응답하지 않습니다. 잠시 후 다시 말씀해 주시겠어요?"

def llmUnavailable : String :=
  "죄송합니다, AI 응답 생성 서비스가 일시적으로 응답하지 않습니다. 잠시만 기다려 주시면 곧 정상화됩니다."

def degradedEvent (stage : String) (exc : Exc) (now : Nat) : Running Unit :=
  recordEvent .vendorDegraded now [("stage", .str stage), ("error", .str exc.message)]

/-- The language model, with its stand-in text. -/
def infer (vendors : Vendors) (sttText : String) (now : Nat) : Running (Completion × Bool) := do
  let σ ← get
  match ← attempt (perform (.complete sttText σ.orchestrator.history) vendors.llm) with
  | .ok completion => pure (completion, false)
  | .error exc => do
    degradedEvent "llm" exc now
    pure (⟨llmUnavailable, false⟩, true)

/-- The audio of a text, skipped after a degraded stage. A failure is no
degradation of the result. -/
def synthesize (vendors : Vendors) (llmText : String) (degraded : Bool) (now : Nat) :
    Running (Option (List UInt8) × Option Stage) :=
  if degraded then pure (none, some .llm)
  else do
    match ← attempt (perform (.synthesize llmText) vendors.tts) with
    | .ok audio => pure (some audio, none)
    | .error exc => do
      degradedEvent "tts" exc now
      pure (none, some .tts)

/-- `AIPipeline.process` on the orchestrator's own machine and history. -/
def process (vendors : Vendors) (audio : List UInt8) (level : PolicyLevel)
    (auth : Option AuthState) (now : Nat) : Running PipelineResult := do
  transition .processing now []
  match ← attempt (perform (.transcribe audio) vendors.stt) with
  | .error exc => do
    degradedEvent "stt" exc now
    pure ⟨"", sttUnavailable, none, policyValue level, true,
      [("stt_ms", .int vendors.sttMs), ("total_ms", .int vendors.totalMs)], false, true, some .stt⟩
  | .ok sttText =>
    let evaluation := evaluate level auth
    if !evaluation.allowed then do
      transition .responding now []
      pure ⟨sttText, "[POLICY_BLOCKED:" ++ policyValue evaluation.level ++ "]", none,
        policyValue evaluation.level, false,
        [("stt_ms", .int vendors.sttMs), ("total_ms", .int vendors.totalMs)], false, false, none⟩
    else do
      transition .inferring now []
      let (completion, degraded) ← infer vendors sttText now
      transition .responding now []
      let (audio, stage) ← synthesize vendors completion.fullText degraded now
      pure ⟨sttText, completion.fullText, audio, policyValue evaluation.level, true,
        [("stt_ms", .int vendors.sttMs), ("llm_ms", .int vendors.llmMs),
          ("tts_ms", .int (if degraded then 0 else vendors.ttsMs)),
          ("total_ms", .int vendors.totalMs)],
        completion.fillerTriggered, degraded, stage⟩

/-- Everything a run of the pipeline can do, with the state it leaves and what it
asked for. The machine has to be in `SPEAKING_DETECTED`, and a blocked action asks
it for a transition that `PROCESSING` does not have. -/
inductive Processed (vendors : Vendors) (audio : List UInt8) (level : PolicyLevel)
    (auth : Option AuthState) (σ : World) :
    SessionState → Except Exc PipelineResult → List Effect → Prop where
  | refused : σ.state ≠ .speakingDetected →
      Processed vendors audio level auth σ σ.state
        (.error (invalidTransition σ.state .processing)) []
  | unheard : σ.state = .speakingDetected → vendors.stt = .error exc →
      result.sttText = "" → result.policyAllowed = true →
      Processed vendors audio level auth σ .processing (.ok result) [.transcribe audio]
  | blocked : σ.state = .speakingDetected → vendors.stt = .ok text →
      (evaluate level auth).allowed = false →
      Processed vendors audio level auth σ .processing
        (.error (invalidTransition .processing .responding)) [.transcribe audio]
  | answered : σ.state = .speakingDetected → vendors.stt = .ok text →
      (evaluate level auth).allowed = true → result.sttText = text →
      result.policyAllowed = true →
      (∀ completion, vendors.llm = .ok completion → result.llmText = completion.fullText) →
      (∀ effect ∈ rest, ∃ spoken, effect = .synthesize spoken) →
      Processed vendors audio level auth σ .responding (.ok result)
        (.transcribe audio :: .complete text σ.orchestrator.history :: rest)

theorem infer_spec (vendors : Vendors) (text : String) (now : Nat) (σ : World) :
    ∃ inferred fsm, infer vendors text now σ =
      (.ok inferred, σ.after fsm [.complete text σ.orchestrator.history]) ∧ fsm.state = σ.state ∧
      ∀ completion, vendors.llm = .ok completion → inferred.1 = completion := by
  rw [infer, get_bind_apply, attempt_bind_apply, perform_apply]
  cases vendors.llm with
  | ok completion => exact ⟨_, σ.fsm, rfl, rfl, fun _ same => Except.ok.inj same⟩
  | error exc => exact ⟨_, _, rfl, rfl, by simp⟩

theorem synthesize_spec (vendors : Vendors) (text : String) (degraded : Bool) (now : Nat)
    (σ : World) : ∃ spoken fsm effects, synthesize vendors text degraded now σ =
      (.ok spoken, σ.after fsm effects) ∧
      fsm.state = σ.state ∧ ∀ effect ∈ effects, ∃ spoken, effect = .synthesize spoken := by
  unfold synthesize
  split
  · exact ⟨(none, some .llm), σ.fsm, [], by rw [after_self, pure_apply], rfl, by simp⟩
  · rw [attempt_bind_apply, perform_apply]
    cases vendors.tts with
    | ok audio => exact ⟨_, σ.fsm, [.synthesize text], rfl, rfl, by simp⟩
    | error exc => exact ⟨_, _, [.synthesize text], rfl, rfl, by simp⟩

theorem process_spec (vendors : Vendors) (audio : List UInt8) (level : PolicyLevel)
    (auth : Option AuthState) (now : Nat) (σ : World) :
    ∃ result fsm effects, process vendors audio level auth now σ = (result, σ.after fsm effects) ∧
      Processed vendors audio level auth σ fsm.state result effects := by
  by_cases speaking : σ.state = .speakingDetected
  case neg =>
    have barred : SessionState.processing ∉ SessionFSM.validTransitions σ.state := by
      revert speaking
      cases σ.state <;> decide
    rw [process, bind_error _ (transition_refused barred)]
    exact ⟨_, _, [], by rw [after_self], .refused speaking⟩
  have allowed : SessionState.processing ∈ SessionFSM.validTransitions σ.state := by
    rw [speaking]
    decide
  rw [process, bind_ok _ (transition_allowed allowed), attempt_bind_apply, perform_apply,
    after_after]
  cases heard : vendors.stt with
  | error exc =>
    exact ⟨_, _, [.transcribe audio], rfl, .unheard speaking heard rfl rfl⟩
  | ok text =>
    simp only
    split
    case isTrue disallowed =>
      have barred : SessionState.responding ∉ SessionFSM.validTransitions .processing := by decide
      rw [bind_error _ (transition_refused barred)]
      exact ⟨_, _, [.transcribe audio], rfl, .blocked speaking heard (by simpa using disallowed)⟩
    case isFalse permitted =>
      have inferring : SessionState.inferring ∈ SessionFSM.validTransitions .processing := by decide
      have responding : SessionState.responding ∈
        SessionFSM.validTransitions .inferring := by decide
      rw [bind_ok _ (transition_allowed inferring)]
      obtain ⟨⟨completion, degraded⟩, fsm, inferred, kept, reply⟩ := infer_spec vendors text now _
      rw [bind_ok _ inferred]
      have next : SessionState.responding ∈ SessionFSM.validTransitions fsm.state := by
        rw [kept]
        exact responding
      rw [bind_ok _ (transition_allowed next)]
      obtain ⟨spoken, fsm', rest, synthesized, final, only⟩ :=
        synthesize_spec vendors completion.fullText degraded now _
      rw [bind_ok _ synthesized]
      refine ⟨_, fsm', _,
        by rw [pure_apply, after_after, after_after, after_after, after_after], ?_⟩
      rw [final]
      exact .answered speaking heard (by simpa using permitted) rfl rfl
        (fun _ same => congrArg Completion.fullText (reply _ same)) only

end AgentOE.Call
