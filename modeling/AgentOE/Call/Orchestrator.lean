import AgentOE.Base64
import AgentOE.Call.Pipeline
import AgentOE.Call.Transfer

/-! One call session: what its public methods do and return. A dictionary inside a
payload is written under dotted keys. -/
namespace AgentOE.Call
open Session Coroutine

def audioSampleRate : Nat := 8000

def audioBytesPerMs : Nat := audioSampleRate * 2 / 1000

def minAudioBytes : Nat := audioBytesPerMs * 250

def pipelineFailureThreshold : Nat := 3

def maxHistoryInMemory : Nat := 20

def transferPriority (reason : TransferReason) : Nat :=
  if reason = .g4Policy ∨ reason = .g5Policy then 3 else 5

/-- A value of a control message. Of one that is no text only the printed form
and the truth are used. -/
inductive Field where
  | text (s : String)
  | other (printed : String) (truthy : Bool)
  deriving DecidableEq, Repr

def Field.printed : Field → String
  | .text s => s
  | .other s _ => s

/-- The text that a value adds to a summary, empty for a value that is false. -/
def Field.hint : Field → String
  | .text s => s
  | .other s truthy => if truthy then s else ""

structure Control where
  action : Option Field
  reason : Option Field
  context : Option Field
  deriving DecidableEq, Repr

/-- How everything outside ends during one call of the orchestrator. -/
structure Outcomes where
  now : Nat
  vendors : Vendors
  saveTurn : Except Exc Unit
  endSession : Except Exc Unit
  attempts : Nat → Attempt

def errorEvent (code message : String) : OutboundEvent :=
  ⟨"error", [("code", .str code), ("message", .str message)]⟩

def hasCode (code : String) (event : OutboundEvent) : Bool :=
  event.name = "error" && event.payload.head? = some ("code", .str code)

def stateEvent (state : SessionState) : OutboundEvent :=
  ⟨"state_change", [("state", .str state.value)]⟩

def World.update (σ : World) (f : Orchestrator → Orchestrator) : World :=
  { σ with orchestrator := f σ.orchestrator }

/-- No event where the table does not allow the transition. -/
def doTransition (state : SessionState) (now : Nat) : Running (Option OutboundEvent) := do
  let σ ← get
  if σ.fsm.canTransition state then do
    transition state now []
    pure (some (stateEvent state))
  else pure none

def endSession (outcomes : Outcomes) (reason : String) : Running (List OutboundEvent) := do
  let σ ← get
  if σ.orchestrator.closed then pure []
  else do
    modify fun σ => σ.update fun o => { o with closed := true, shouldClose := true }
    let event ← doTransition .ended outcomes.now
    let σ ← get
    let _ ← attempt (perform (.endSession reason σ.fsm) outcomes.endSession)
    pure [event.getD (stateEvent .ended)]

def triggerTransfer (outcomes : Outcomes) (reason : TransferReason) (contextHint : String) :
    Running (List OutboundEvent) := do
  let σ ← get
  let request : TransferRequest :=
    { sessionId := σ.orchestrator.sessionId, tenantId := σ.orchestrator.tenantId, reason := reason
      contextSummary := buildContextSummary σ.orchestrator.history contextHint
      policyLevel := "G1", priority := transferPriority reason, requestedAt := outcomes.now }
  perform (.requestTransfer request) (.ok ())
  let result ← requestTransfer outcomes.attempts request .callback outcomes.now
  let update : OutboundEvent := ⟨"transfer_update", [("status", .str result.status.value),
    ("message", .str result.message), ("agent", optional result.agent)]⟩
  if result.status = .accepted then do
    let ended ← endSession outcomes "transfer_accepted"
    pure (update :: ended)
  else if result.fallbackAction = some .aiResume then do
    let σ ← get
    pure [update, stateEvent σ.state]
  else pure [update]

def checkAutoTransfer (outcomes : Outcomes) : Running (List OutboundEvent) := do
  let σ ← get
  let failures := σ.orchestrator.pipelineFailureCount
  if pipelineFailureThreshold ≤ failures then do
    recordEvent .vendorDegraded outcomes.now [("failure_count", .int failures)]
    triggerTransfer outcomes .repeatedFailure "AI 서비스 연속 장애로 인한 자동 이관"
  else pure []

/-- The event of a pipeline that raised, by its kind of exception. -/
def failureEvent (exc : Exc) : OutboundEvent :=
  match exc.serviceName with
  | some name => errorEvent "SERVICE_UNAVAILABLE" ("AI 서비스 일시 장애: " ++ name)
  | none => errorEvent "PIPELINE_ERROR" exc.message

def failTurn (outcomes : Outcomes) (exc : Exc) : Running (List OutboundEvent) := do
  modify fun σ => σ.update fun o => { o with pipelineFailureCount := o.pipelineFailureCount + 1 }
  let transferred ← checkAutoTransfer outcomes
  let back ← doTransition .listening outcomes.now
  pure (failureEvent exc :: transferred ++ back.toList)

/-- A failed write keeps the call going. -/
def persistTurn (outcomes : Outcomes) (turn : List Message) (latency : Dict)
    (policyLevel : String) : Running Unit := do
  let σ ← get
  let _ ← attempt (perform (.saveTurn turn latency policyLevel σ.fsm) outcomes.saveTurn)

def sttResult (result : PipelineResult) : OutboundEvent :=
  ⟨"stt_result", [("text", .str result.sttText), ("is_final", .bool true)]⟩

def llmChunk (result : PipelineResult) : OutboundEvent :=
  ⟨"llm_chunk", [("text", .str result.llmText), ("is_final", .bool true),
    ("is_filler", .bool result.fillerTriggered)]⟩

/-- Neither missing nor empty audio is announced. -/
def ttsReady (result : PipelineResult) : List OutboundEvent :=
  match result.ttsAudio with
  | some (byte :: bytes) =>
    [⟨"tts_ready", [("audio_b64", .str (.ofList (Base64.encode (byte :: bytes)))),
      ("text", .str result.llmText)]⟩]
  | _ => []

def pipelineDone (result : PipelineResult) : OutboundEvent :=
  ⟨"pipeline_done", result.latency.map (fun entry => ("latency." ++ entry.1, entry.2)) ++
    [("policy_level", .str result.policyLevel)]⟩

def answerTurn (outcomes : Outcomes) (result : PipelineResult) : Running (List OutboundEvent) := do
  let turn : List Message := [⟨.user, result.sttText⟩, ⟨.assistant, result.llmText⟩]
  modify fun σ => σ.update fun o =>
    { o with history := Collection.newest maxHistoryInMemory (o.history ++ turn) }
  persistTurn outcomes turn result.latency result.policyLevel
  let back ← doTransition .listening outcomes.now
  pure (llmChunk result :: ttsReady result ++ pipelineDone result :: back.toList)

def blockTurn (outcomes : Outcomes) (result : PipelineResult) : Running (List OutboundEvent) :=
  if result.policyLevel = "G4" then triggerTransfer outcomes .g4Policy result.sttText
  else if result.policyLevel = "G5" then triggerTransfer outcomes .g5Policy result.sttText
  else do
    let back ← doTransition .listening outcomes.now
    pure (errorEvent "POLICY_BLOCKED" ("정책 차단 (level=" ++ result.policyLevel ++ ")") :: back.toList)

def finishTurn (outcomes : Outcomes) (result : PipelineResult) : Running (List OutboundEvent) := do
  let rest ←
    if detectTransferIntent result.sttText then
      triggerTransfer outcomes .customerRequest result.sttText
    else if !result.policyAllowed then blockTurn outcomes result
    else answerTurn outcomes result
  pure (sttResult result :: rest)

def isTransferInProgress (fsm : SessionFSM) : Bool :=
  fsm.state = .transferRequested || fsm.state = .transferAccepted

def transferInProgress : OutboundEvent :=
  errorEvent "TRANSFER_IN_PROGRESS" "상담사 이관 중입니다. 잠시만 기다려 주세요."

/-- `_run_pipeline`. The authentication state is never passed on. -/
def runPipeline (outcomes : Outcomes) (audio : List UInt8) : Running (List OutboundEvent) := do
  let speaking ← doTransition .speakingDetected outcomes.now
  let σ ← get
  if isTransferInProgress σ.fsm then pure (speaking.toList ++ [transferInProgress])
  else do
    match ← attempt (process outcomes.vendors audio σ.orchestrator.policyLevel none
        outcomes.now) with
    | .error exc => do
      let failed ← failTurn outcomes exc
      pure (speaking.toList ++ failed)
    | .ok result => do
      modify fun σ => σ.update fun o => { o with pipelineFailureCount := 0 }
      let finished ← finishTurn outcomes result
      pure (speaking.toList ++ finished)

/-- The buffered audio goes to the pipeline, and the buffer is cleared. -/
def flush (outcomes : Outcomes) : Running (List OutboundEvent) := do
  let σ ← get
  modify fun σ => σ.update fun o => { o with audioBuffer := [] }
  runPipeline outcomes σ.orchestrator.audioBuffer

def handleAudio (outcomes : Outcomes) (data : List UInt8) : Running (List OutboundEvent) := do
  modify fun σ => σ.update fun o => { o with lastActivity := outcomes.now }
  let σ ← get
  if !σ.orchestrator.listening then pure []
  else do
    modify fun σ => σ.update fun o => { o with audioBuffer := o.audioBuffer ++ data }
    let σ ← get
    if minAudioBytes ≤ σ.orchestrator.audioBuffer.length then flush outcomes else pure []

/-- `TransferReason(msg.get("reason", "MANUAL"))`, with `MANUAL` for a value outside
the enumeration. -/
def requestedReason (reason : Option Field) : TransferReason :=
  match reason with
  | some (.text s) => (transferReasons.find? (·.value = s)).getD .manual
  | _ => .manual

def handleControl (outcomes : Outcomes) (msg : Control) : Running (List OutboundEvent) := do
  let action := msg.action.getD (.text "")
  modify fun σ => σ.update fun o => { o with lastActivity := outcomes.now }
  if action = .text "start_listening" then do
    modify fun σ => σ.update fun o => { o with listening := true, audioBuffer := [] }
    let event ← doTransition .listening outcomes.now
    pure event.toList
  else if action = .text "stop_listening" then do
    modify fun σ => σ.update fun o => { o with listening := false }
    let σ ← get
    if σ.orchestrator.audioBuffer ≠ [] then flush outcomes else pure []
  else if action = .text "hangup" then endSession outcomes "client_hangup"
  else if action = .text "ping" then pure [⟨"pong", []⟩]
  else if action = .text "request_transfer" then
    triggerTransfer outcomes (requestedReason msg.reason) ((msg.context.getD (.text "")).hint)
  else pure [errorEvent "UNKNOWN_ACTION" ("Unknown action: " ++ action.printed)]

/-- The public methods, as a transport calls them. -/
inductive Input where
  | audio (data : List UInt8)
  | control (msg : Control)
  | endSession (reason : String)
  deriving DecidableEq, Repr

def handle (outcomes : Outcomes) : Input → Running (List OutboundEvent)
  | .audio data => handleAudio outcomes data
  | .control msg => handleControl outcomes msg
  | .endSession reason => endSession outcomes reason

abbrev Event := Input × Outcomes

/-- One call, whose events reach the transport unless it raises. -/
def step (σ : World) (event : Event) : Option World :=
  match handle event.2 event.1 σ with
  | (.ok events, τ) => some { τ with emitted := τ.emitted ++ events }
  | (.error _, τ) => some τ

end AgentOE.Call
