import AgentOE.Call.Methods

/-! Which turns reach a human agent: actions that the policy blocks, and vendors
that keep failing. -/
namespace AgentOE.Call
open Session Coroutine Transition

/-- The text was heard and the policy does not let the action through. -/
def Blocks (vendors : Vendors) (level : PolicyLevel) (auth : Option AuthState) : Prop :=
  (∃ text, vendors.stt = .ok text) ∧ (evaluate level auth).allowed = false

/-- The pipeline returns, and a blocked action shows with its level. -/
def Reports (vendors : Vendors) (level : PolicyLevel) (auth : Option AuthState)
    (result : Except Exc PipelineResult) : Prop :=
  ∃ report, result = .ok report ∧ (Blocks vendors level auth →
    report.policyAllowed = false ∧ report.policyLevel = policyValue level)

/-- A blocked action is handed to an agent or reported, never as an error of the
pipeline. -/
def Escalates (outcomes : Outcomes) (σ τ : World) (result : Except Exc (List OutboundEvent)) :
    Prop :=
  (∀ event ∈ returned result, hasCode "PIPELINE_ERROR" event = false) ∧
  (Blocks outcomes.vendors σ.orchestrator.policyLevel none →
    match σ.orchestrator.policyLevel with
    | .g4 => .g4Policy ∈ τ.requests.drop σ.requests.length
    | .g5 => .g5Policy ∈ τ.requests.drop σ.requests.length
    | _ => ∃ event ∈ returned result, hasCode "POLICY_BLOCKED" event = true)

theorem process_reports_iff (vendors : Vendors) (audio : List UInt8) (level : PolicyLevel)
    (auth : Option AuthState) (now : Nat) {σ : World} (speaking : σ.state = .speakingDetected) :
    Reports vendors level auth (process vendors audio level auth now σ).1 ↔
      ¬Blocks vendors level auth := by
  obtain ⟨result, fsm, effects, ran, processed⟩ := process_spec vendors audio level auth now σ
  rw [ran]
  generalize fsm.state = s at processed
  cases processed with
  | refused still => exact absurd speaking still
  | unheard _ heard =>
    have silent : ¬Blocks vendors level auth := by simp [Blocks, heard]
    exact ⟨fun _ => silent, fun _ => ⟨_, rfl, fun blocked => absurd blocked silent⟩⟩
  | blocked _ heard disallowed => simp [Reports, Blocks, heard, disallowed]
  | answered _ heard allowed =>
    have silent : ¬Blocks vendors level auth := by simp [Blocks, allowed]
    exact ⟨fun _ => silent, fun _ => ⟨_, rfl, fun blocked => absurd blocked silent⟩⟩

theorem not_hasCode {event : OutboundEvent} (other : event.name ≠ "error") (code : String) :
    hasCode code event = false := by
  simp [hasCode, other]

/-- A turn in which the action is blocked raises inside and asks, if at all, only
for its repeated failure. -/
theorem Turned.blocked (turned : Turned outcomes σ result τ) (speaks : Speaks σ)
    (blocks : Blocks outcomes.vendors σ.orchestrator.policyLevel none) :
    (∀ events, result = .ok events → ∃ event ∈ events, hasCode "PIPELINE_ERROR" event = true) ∧
      ∃ reasons, (∀ reason ∈ reasons, reason = .repeatedFailure) ∧ Did σ τ reasons := by
  obtain ⟨⟨text, heard⟩, disallowed⟩ := blocks
  cases turned with
  | busy waiting =>
    rcases speaks with state | state <;> simp [isTransferInProgress, state] at waiting
  | @failed spoken exc result ρ _ free blocked kind first landed same events facts =>
    obtain ⟨reasons, only, did⟩ := facts.did
    refine ⟨?_, reasons, only, first.trans did⟩
    intro all same
    cases result with
    | error e => cases same
    | ok rest =>
      cases Except.ok.inj same
      refine ⟨failureEvent exc, List.mem_append_right _ (facts.events rest rfl).1, ?_⟩
      simp [failureEvent, kind, hasCode, errorEvent]
  | asked _ _ allowed => simp [allowed] at disallowed
  | unheard _ unheard => simp [unheard] at heard
  | answered _ _ allowed => simp [allowed] at disallowed

/-- A turn that reaches the pipeline without a blocked action raises no error of
its own. -/
theorem Turned.clean (turned : Turned outcomes σ result τ) (speaks : Speaks σ)
    (free : ¬Blocks outcomes.vendors σ.orchestrator.policyLevel none) :
    ∀ event ∈ returned result, event.name ≠ "error" := by
  cases turned with
  | busy waiting =>
    rcases speaks with state | state <;> simp [isTransferInProgress, state] at waiting
  | failed _ blocked => exact absurd (blocked speaks) free
  | @asked text spoken result ρ _ _ _ _ _ _ _ _ clean triggered =>
    cases result with
    | error e => simp [Except.map, returned]
    | ok events =>
      intro event mem
      rcases List.mem_append.mp mem with mem | mem
      · exact clean event mem
      · rcases triggered.outcome event mem with named | named <;> simp [named]
  | unheard _ _ answered => exact answered.clean
  | answered _ _ _ _ _ answered => exact answered.clean

theorem runPipeline_escalates_iff (outcomes : Outcomes) (audio : List UInt8) {σ : World}
    (speaks : Speaks σ) :
    Escalates outcomes σ (runPipeline outcomes audio σ).2 (runPipeline outcomes audio σ).1 ↔
      ¬Blocks outcomes.vendors σ.orchestrator.policyLevel none := by
  obtain ⟨result, τ, ran, turned⟩ := runPipeline_spec outcomes audio σ
  rw [ran]
  constructor
  · rintro ⟨clean, escalated⟩ blocks
    obtain ⟨raised, reasons, only, did⟩ := turned.blocked speaks blocks
    cases result with
    | ok events =>
      obtain ⟨event, mem, code⟩ := raised events rfl
      simp [clean event mem] at code
    | error exc =>
      have requested : τ.requests.drop σ.requests.length = reasons := by simp [did.requests]
      have shown := escalated blocks
      rw [requested] at shown
      split at shown
      · exact absurd (only _ shown) (by simp)
      · exact absurd (only _ shown) (by simp)
      · simp [returned] at shown
  · intro free
    exact ⟨fun event mem => not_hasCode (turned.clean speaks free event mem) _,
      fun blocks => absurd blocks free⟩

/-- The gate's answer gets out of the pipeline, and the orchestrator acts on it,
exactly when nothing was heard or the gate lets the action through. -/
theorem policy_block_reported_iff (outcomes : Outcomes) (audio : List UInt8) (level : PolicyLevel)
    (auth : Option AuthState) (σ : World) :
    (σ.state = .speakingDetected →
      (Reports outcomes.vendors level auth
          (process outcomes.vendors audio level auth outcomes.now σ).1 ↔
        (∃ exc, outcomes.vendors.stt = .error exc) ∨ (evaluate level auth).allowed = true)) ∧
    (Speaks σ →
      (Escalates outcomes σ (runPipeline outcomes audio σ).2 (runPipeline outcomes audio σ).1 ↔
        (∃ exc, outcomes.vendors.stt = .error exc) ∨
          (evaluate σ.orchestrator.policyLevel none).allowed = true)) := by
  have unblocked (level : PolicyLevel) (auth : Option AuthState) :
      ¬Blocks outcomes.vendors level auth ↔
      (∃ exc, outcomes.vendors.stt = .error exc) ∨ (evaluate level auth).allowed = true := by
    unfold Blocks
    cases outcomes.vendors.stt <;> simp
  exact ⟨fun speaking => (process_reports_iff _ _ _ _ _ speaking).trans (unblocked level auth),
    fun speaks => (runPipeline_escalates_iff outcomes audio speaks).trans (unblocked _ none)⟩

theorem policy_block_reported_g2 :
    Reports (working "hi" "hello") .g2 none
      (process (working "hi" "hello") [1] .g2 none 0 (session .g2 .speakingDetected)).1 ∧
    Escalates (outcomesOf (working "hi" "hello")) (session .g2 .speakingDetected)
      (runPipeline (outcomesOf (working "hi" "hello")) [1] (session .g2 .speakingDetected)).2
      (runPipeline (outcomesOf (working "hi" "hello")) [1] (session .g2 .speakingDetected)).1 := by
  obtain ⟨reports, escalates⟩ :=
    policy_block_reported_iff (outcomesOf (working "hi" "hello")) [1] .g2 none
    (session .g2 .speakingDetected)
  exact ⟨(reports rfl).mpr (.inr rfl), (escalates (.inr rfl)).mpr (.inr rfl)⟩

/-- With an authentication still to be made, the pipeline raises and the turn ends
with the error event. -/
theorem policy_block_raises :
    ¬(∀ (outcomes : Outcomes) (audio : List UInt8) (level : PolicyLevel) (auth : Option AuthState)
        (σ : World), σ.state = .speakingDetected →
      Reports outcomes.vendors level auth
        (process outcomes.vendors audio level auth outcomes.now σ).1) ∧
    ¬(∀ (outcomes : Outcomes) (audio : List UInt8) (σ : World), Speaks σ →
      Escalates outcomes σ (runPipeline outcomes audio σ).2 (runPipeline outcomes audio σ).1) := by
  have blocked : Blocks (working "hi" "hello") .g3 none := ⟨⟨"hi", rfl⟩, rfl⟩
  constructor
  · intro reports
    have raised := reports (outcomesOf (working "hi" "hello")) [1] .g3 none
      (session .g3 .speakingDetected) rfl
    exact (process_reports_iff _ _ _ _ _ rfl).mp raised blocked
  · intro escalates
    have raised := escalates (outcomesOf (working "hi" "hello")) [1] (session .g3 .listening)
      (.inl rfl)
    exact (runPipeline_escalates_iff _ _ (.inl rfl)).mp raised blocked

/-- The turn reaches the pipeline, and one of its two essential vendors raises,
an open circuit breaker included. -/
def vendorFails (σ : World) (event : Event) : Bool :=
  decide (Speaks σ) && match event.2.vendors.stt with
    | .error _ => true
    | .ok _ => (evaluate σ.orchestrator.policyLevel none).allowed && match event.2.vendors.llm with
      | .error _ => true
      | .ok _ => false

/-- The turns among the calls of a run. -/
def turnCount : World → List Event → Nat
  | _, [] => 0
  | σ, event :: events => (if runs σ event.1 then 1 else 0) + match step σ event with
    | some τ => turnCount τ events
    | none => 0

theorem vendorFails_speaks (fails : vendorFails σ event = true) : Speaks σ := by
  simpa using (Bool.and_eq_true_iff.mp fails).1

theorem vendorFails_unblocked (fails : vendorFails σ event = true) :
    ¬Blocks event.2.vendors σ.orchestrator.policyLevel none := by
  rintro ⟨⟨text, heard⟩, disallowed⟩
  simp [vendorFails, heard, disallowed] at fails

theorem Turned.not_repeated (turned : Turned outcomes σ result τ) (speaks : Speaks σ)
    (free : ¬Blocks outcomes.vendors σ.orchestrator.policyLevel none) :
    ∃ reasons, Did σ τ reasons ∧ .repeatedFailure ∉ reasons := by
  cases turned with
  | busy waiting =>
    rcases speaks with state | state <;> simp [isTransferInProgress, state] at waiting
  | failed _ blocked => exact absurd (blocked speaks) free
  | asked _ _ _ _ first _ _ _ triggered => exact ⟨_, first.trans triggered.did, by simp⟩
  | unheard _ _ answered => exact ⟨_, answered.did, by simp⟩
  | answered _ _ _ _ _ answered => exact ⟨_, answered.did, by simp⟩

/-- The transfers that a call asks for. The automatic one is left out by the turns
that a vendor fails. -/
theorem Handled.repeated_iff (handled : Handled outcomes σ input result τ)
    (failing : runs σ input = true → vendorFails σ (input, outcomes) = true) :
    .repeatedFailure ∈ τ.requests ↔
      .repeatedFailure ∈ σ.requests ∨ asksFor input = some .repeatedFailure := by
  have kept {reasons : List TransferReason} (did : Did σ τ reasons)
      (absent : .repeatedFailure ∉ reasons) :
      .repeatedFailure ∈ τ.requests ↔ .repeatedFailure ∈ σ.requests := by
    simp [did.requests, absent]
  cases handled with
  | turn running same turned =>
    have fails := failing running
    have speaks := same.speaks.mpr (vendorFails_speaks fails)
    have free := vendorFails_unblocked fails
    rw [← same.policyLevel] at free
    obtain ⟨reasons, did, absent⟩ := turned.not_repeated speaks free
    simp [kept (same.did.trans did) (by simpa using absent), unasked_of_runs running]
  | idle _ unasked same => simp [kept same.did (by simp), unasked]
  | listen _ unasked same =>
    simp [kept (same.did.trans (did_after (by simp))) (by simp), unasked]
  | ended _ unasked _ same live =>
    simp [kept (same.did.trans (did_ended (same.closed.trans live) _ _)) (by simp), unasked]
  | transfer _ asked same triggered =>
    have did := same.did.trans triggered.did
    simp [did.requests, asked, eq_comm]

/-- While every turn is failed by a vendor, an agent is asked for because of the
repeated failure exactly when this was done before or the client does it. -/
theorem repeated_failure_requested_iff {σ τ : World} {window : List Event}
    (failing : Along step (fun σ event => runs σ event.1 = true →
      vendorFails σ event = true) σ window)
    (_enough : pipelineFailureThreshold ≤ turnCount σ window) (ran : exec step σ window = some τ) :
    .repeatedFailure ∈ τ.requests ↔ .repeatedFailure ∈ σ.requests ∨
      ∃ event ∈ window, asksFor event.1 = some .repeatedFailure := by
  refine exec_history_along (fun past ρ => .repeatedFailure ∈ ρ.requests ↔
    .repeatedFailure ∈ σ.requests ∨ ∃ event ∈ past, asksFor event.1 = some .repeatedFailure)
    ?_ failing ran (by simp)
  intro past ρ event υ before fails stepped
  obtain ⟨result, τ, handled, rfl⟩ := step_handled stepped
  have after := handled.repeated_iff fails
  rw [before] at after
  simp only [List.mem_append, List.mem_singleton, or_and_right, exists_or, exists_eq_left]
  rw [← or_assoc]
  exact after

/-- A recogniser whose circuit breaker is open. -/
def unrecognised : Vendors :=
  ⟨.error ⟨"circuit open", some "stt"⟩, .ok ⟨"", false⟩, .ok [], 0, 0, 0, 0⟩

def failingCall : List Event :=
  utterance (outcomesOf unrecognised) ++ utterance (outcomesOf unrecognised) ++
    utterance (outcomesOf unrecognised)

def failingTurn (σ : World) (event : Event) : Bool := !runs σ event.1 || vendorFails σ event

theorem failingCall_fails : Along step (fun σ event => runs σ event.1 = true →
    vendorFails σ event = true)
    (session .g1 .idle) failingCall := by
  have checked : alongBool step failingTurn (session .g1 .idle) failingCall = true := by
    decide +kernel
  refine along_of_bool (fun σ event holds running => ?_) checked
  simpa [failingTurn, running] using holds

theorem failingCall_turns : turnCount (session .g1 .idle) failingCall =
    pipelineFailureThreshold := by
  decide +kernel

theorem repeated_failure_requested_call :
    pipelineFailureThreshold ≤ turnCount (session .g1 .idle) failingCall ∧
      ∀ τ, exec step (session .g1 .idle) failingCall = some τ → .repeatedFailure ∉ τ.requests := by
  refine ⟨failingCall_turns.ge, fun τ ran asked => ?_⟩
  have before := (repeated_failure_requested_iff failingCall_fails failingCall_turns.ge ran).mp
    asked
  revert before
  decide

/-- Three turns in a row fail in the recogniser, and nobody is asked. -/
theorem vendor_failures_not_escalated :
    ¬∀ (σ τ : World) (window : List Event),
      Along step (fun σ event => runs σ event.1 = true → vendorFails σ event = true) σ window →
      pipelineFailureThreshold ≤ turnCount σ window → exec step σ window = some τ →
      .repeatedFailure ∈ τ.requests := by
  intro escalates
  have unasked : (exec step (session .g1 .idle) failingCall).map World.requests = some [] := by
    decide +kernel
  obtain ⟨τ, ran, none⟩ := Option.map_eq_some_iff.mp unasked
  have asked := escalates _ τ _ failingCall_fails failingCall_turns.ge ran
  simp [none] at asked

end AgentOE.Call
