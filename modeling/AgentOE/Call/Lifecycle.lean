import AgentOE.Call.Methods

/-! Where the calls of an orchestrator leave its state machine, and what a turn can
do from there. -/
namespace AgentOE.Call
open Session Coroutine Transition
variable {outcomes : Outcomes} {σ : World}

/-- Between two calls the machine rests, or waits behind a failed write. -/
def Parked (s : SessionState) : Prop := resting s = true ∨ s = .transferRequested

/-- A call leaves the machine at rest, unless it was waiting before or a write of
the transfer service fails. -/
def Rests (outcomes : Outcomes) (s t : SessionState) : Prop :=
  resting t = true ∨ t = .transferRequested ∧
    (s = .transferRequested ∨ ¬(outcomes.attempts 0).Saves)

theorem Settled.rests (settled : Settled outcomes t) : Rests outcomes s t :=
  settled.imp id fun ⟨waiting, failed⟩ => ⟨waiting, .inr failed⟩

theorem Parked.rests (parked : Parked s) : Rests outcomes s s :=
  parked.imp id fun waiting => ⟨waiting, .inl waiting⟩

theorem Turned.rests (turned : Turned outcomes σ result τ) (parked : Parked σ.state) :
    Rests outcomes σ.state τ.state := by
  cases turned with
  | busy => exact parked.rests
  | failed _ _ _ _ _ _ _ facts => exact facts.settled.rests
  | asked _ _ _ _ _ _ responding _ triggered =>
    refine (triggered.settled fun barred => absurd ?_ barred).rests
    rw [responding]
    decide
  | unheard _ _ answered => exact .inl (by rw [answered.listening]; rfl)
  | answered _ _ _ _ _ answered => exact .inl (by rw [answered.listening]; rfl)

theorem Handled.rests (handled : Handled outcomes σ input result τ) (parked : Parked σ.state) :
    Rests outcomes σ.state τ.state := by
  cases handled with
  | turn _ same turned =>
    rw [← same.state] at parked ⊢
    exact turned.rests parked
  | idle _ _ same =>
    rw [same.state]
    exact parked.rests
  | listen _ _ same back =>
    rcases back with ⟨listening, _⟩ | ⟨_, rfl, _⟩
    · exact .inl (by rw [after_state, listening]; rfl)
    · exact parked.rests
  | ended _ _ _ _ _ final => exact .inl (by rw [after_state, final]; rfl)
  | transfer _ _ same triggered =>
    rw [← same.state] at parked ⊢
    rcases triggered.state with ⟨kept, _⟩ | ⟨_, left | left | left | ⟨left, failed⟩⟩
    · rw [kept]
      exact parked.rests
    · exact .inl (by rw [left]; rfl)
    · exact .inl (by rw [left]; rfl)
    · exact .inl (by rw [left]; rfl)
    · exact .inr ⟨left, .inr failed⟩

theorem Turned.ended (turned : Turned outcomes σ result τ) (final : σ.state = .ended) :
    τ.state = .ended := by
  have mute : ¬Speaks σ := by simp [Speaks, final]
  cases turned with
  | busy => exact final
  | failed _ _ _ _ landed _ _ facts =>
    rcases landed with ⟨speaks, _⟩ | ⟨_, same⟩
    · exact absurd speaks mute
    · exact (facts.ended (same.trans final)).1
  | asked speaks => exact absurd speaks mute
  | unheard speaks => exact absurd speaks mute
  | answered speaks => exact absurd speaks mute

theorem Handled.stays_ended (handled : Handled outcomes σ input result τ)
    (final : σ.state = .ended) : τ.state = .ended := by
  cases handled with
  | turn _ same turned => exact turned.ended (same.state.trans final)
  | idle _ _ same => exact same.state.trans final
  | listen _ _ same back =>
    rcases back with ⟨_, allowed⟩ | ⟨_, rfl, _⟩
    · rw [final] at allowed
      cases allowed
    · exact final
  | ended _ _ _ _ _ last => exact last
  | transfer _ _ same triggered => exact triggered.ended (same.state.trans final)

theorem Turned.did (turned : Turned outcomes σ result τ) : ∃ reasons, Did σ τ reasons := by
  cases turned with
  | busy => exact ⟨[], did_refl σ⟩
  | failed _ _ _ first _ _ _ facts =>
    obtain ⟨reasons, _, did⟩ := facts.did
    exact ⟨_, first.trans did⟩
  | asked _ _ _ _ first _ _ _ triggered => exact ⟨_, first.trans triggered.did⟩
  | unheard _ _ answered => exact ⟨_, answered.did⟩
  | answered _ _ _ _ _ answered => exact ⟨_, answered.did⟩

theorem Handled.did (handled : Handled outcomes σ input result τ) : ∃ reasons, Did σ τ reasons := by
  cases handled with
  | turn _ same turned =>
    obtain ⟨reasons, did⟩ := turned.did
    exact ⟨_, same.did.trans did⟩
  | idle _ _ same => exact ⟨_, same.did⟩
  | listen _ _ same => exact ⟨_, same.did.trans (did_after (by simp))⟩
  | ended _ _ _ same live => exact ⟨_, same.did.trans (did_ended (same.closed.trans live) _ _)⟩
  | transfer _ _ same triggered => exact ⟨_, same.did.trans triggered.did⟩

/-- The session is ended in the repository only together with the flag. -/
def EndsOnce (σ : World) : Prop := σ.ends = 0 ∨ σ.ends = 1 ∧ σ.orchestrator.closed = true

theorem Did.endsOnce (did : Did σ τ reasons) (once : EndsOnce σ) : EndsOnce τ := by
  rcases did.ends with ⟨same, flag⟩ | ⟨more, live, shut⟩
  · simpa only [EndsOnce, same, flag] using once
  · rcases once with none | ⟨_, closed⟩
    · exact .inr ⟨by rw [more, none], shut⟩
    · simp [live] at closed

/-- From any run that starts idle or listening, the machine is never found in the
middle of a turn, an ended session stays ended, and it is ended once. -/
theorem never_left_mid_pipeline {o : Orchestrator} {events later : List Event} {σ τ : World}
    (start : o.fsm.state = .idle ∨ o.fsm.state = .listening)
    (saves : ∀ event ∈ events ++ later, ∀ n, (event.2.attempts n).Saves)
    (ran : exec step (.new o) events = some σ) (continued : exec step σ later = some τ) :
    σ.state ∉ [SessionState.speakingDetected, .processing, .inferring, .responding,
      .transferRequested] ∧
    (σ.state = .ended → τ.state = .ended) ∧ τ.ends ≤ 1 := by
  have writes : Along step (fun _ event => (event.2.attempts 0).Saves) (.new o) events :=
    along_of_forall (fun event mem _ => saves event (List.mem_append_left _ mem) 0) _
  refine ⟨?_, ?_, ?_⟩
  · have rest : resting σ.state = true := by
      refine @exec_invariant _ _ step _ (fun σ => resting σ.state = true) _ _ _ ?_ writes ran ?_
      · intro σ event τ before saved stepped
        obtain ⟨result, υ, handled, rfl⟩ := step_handled stepped
        rcases handled.rests (.inl before) with rest | ⟨_, waiting | failed⟩
        · exact rest
        · simp [waiting, resting] at before
        · exact absurd saved failed
      · rcases start with idle | listening
        · exact congrArg resting idle
        · exact congrArg resting listening
    revert rest
    cases σ.state <;> decide
  · intro final
    refine exec_preserves (fun σ => σ.state = .ended) ?_ continued final
    intro σ event τ before stepped
    obtain ⟨result, υ, handled, rfl⟩ := step_handled stepped
    exact handled.stays_ended before
  · have once : EndsOnce τ := by
      refine exec_preserves EndsOnce ?_ (exec_append.mpr ⟨σ, ran, continued⟩) (.inl rfl)
      intro σ event τ before stepped
      obtain ⟨result, υ, handled, rfl⟩ := step_handled stepped
      obtain ⟨reasons, did⟩ := handled.did
      exact did.endsOnce before
    rcases once with none | ⟨one, _⟩ <;> omega

/-- An utterance, a transfer that falls back, and a hang-up. -/
def shortCall : List Event :=
  utterance (outcomesOf (working "hi" "hello")) ++
    [(control "request_transfer", outcomesOf (working "" "")),
      (control "hangup", outcomesOf (working "" ""))]

theorem shortCall_ran : ∃ σ, exec step (session .g1 .idle) shortCall = some σ ∧
    σ.state = .ended := by
  have ran : (exec step (session .g1 .idle) shortCall).map World.state = some .ended := by
    decide +kernel
  exact Option.map_eq_some_iff.mp ran

theorem never_left_mid_pipeline_call :
    ∃ σ τ, exec step (session .g1 .idle) shortCall = some σ ∧
      exec step σ (utterance (outcomesOf (working "hi" "hello"))) = some τ ∧
      τ.state = .ended ∧ τ.ends ≤ 1 := by
  obtain ⟨σ, ran, final⟩ := shortCall_ran
  have goes : (exec step σ (utterance (outcomesOf (working "hi" "hello")))).isSome := by
    have whole : (exec step (session .g1 .idle)
        (shortCall ++ utterance (outcomesOf (working "hi" "hello")))).isSome := by decide +kernel
    obtain ⟨τ, all⟩ := Option.isSome_iff_exists.mp whole
    obtain ⟨ρ, first, rest⟩ := exec_append.mp all
    cases Option.some.inj (ran.symm.trans first)
    exact Option.isSome_iff_exists.mpr ⟨τ, rest⟩
  obtain ⟨τ, continued⟩ := Option.isSome_iff_exists.mp goes
  have saves : ∀ event ∈ shortCall ++ utterance (outcomesOf (working "hi" "hello")),
      ∀ n, (event.2.attempts n).Saves := by
    simp [shortCall, utterance, outcomesOf, unattended, Attempt.Saves]
  obtain ⟨_, stays, once⟩ := never_left_mid_pipeline (.inl rfl) saves ran continued
  exact ⟨σ, τ, ran, continued, stays final, once⟩

/-- A call after its first control message, whatever came then. -/
def Reached (σ : World) : Prop :=
  ∃ (sessionId tenantId clientId : String) (level : PolicyLevel) (now : Nat) (outcomes : Outcomes)
    (events : List Event),
    exec step (.new (.new sessionId tenantId clientId (.new .idle) [] level now))
      ((control "start_listening", outcomes) :: events) = some σ

theorem Reached.parked (reached : Reached σ) : Parked σ.state := by
  obtain ⟨_, _, _, _, _, _, _, ran⟩ := reached
  refine exec_preserves (fun σ => Parked σ.state) ?_ ran (.inl rfl)
  intro σ event τ before stepped
  obtain ⟨result, υ, handled, rfl⟩ := step_handled stepped
  exact (handled.rests before).imp id And.left

/-- All three vendors answer, the level is the lowest and nobody asks for an agent. -/
structure Healthy (outcomes : Outcomes) (σ : World) (text : String) (completion : Completion) :
    Prop where
  stt : outcomes.vendors.stt = .ok text
  llm : outcomes.vendors.llm = .ok completion
  tts : ∃ audio, outcomes.vendors.tts = .ok audio
  level : σ.orchestrator.policyLevel = .g1
  unasked : detectTransferIntent text = false

/-- The turn is done without an error and is in the history. -/
def Answers (outcomes : Outcomes) (audio : List UInt8) (σ : World) (text reply : String) : Prop :=
  ∃ events τ, runPipeline outcomes audio σ = (.ok events, τ) ∧
    (∃ event ∈ events, event.name = "pipeline_done") ∧ (∀ event ∈ events, event.name ≠ "error") ∧
    τ.orchestrator.history = Collection.newest maxHistoryInMemory
      (σ.orchestrator.history ++ [⟨.user, text⟩, ⟨.assistant, reply⟩])

theorem Turned.speaks_of_clean (turned : Turned outcomes σ (.ok events) τ)
    (clean : ∀ event ∈ events, event.name ≠ "error") : Speaks σ := by
  generalize ends : Except.ok events = result at turned
  cases turned with
  | busy =>
    cases Except.ok.inj ends
    exact absurd rfl (clean _ List.mem_cons_self)
  | @failed spoken exc result ρ _ _ _ kind _ _ _ _ facts =>
    cases result with
    | error exc => cases ends
    | ok rest =>
      cases Except.ok.inj ends
      refine absurd ?_ (clean _ (List.mem_append_right _ (facts.events rest rfl).1))
      simp [failureEvent, kind, errorEvent]
  | asked speaks => exact speaks
  | unheard speaks => exact speaks
  | answered speaks => exact speaks

/-- In every state that a call can get into, a healthy turn is answered exactly
when the machine listens. -/
theorem healthy_turn_answered_iff (audio : List UInt8) (reached : Reached σ)
    (healthy : Healthy outcomes σ text completion) :
    Answers outcomes audio σ text completion.fullText ↔ σ.state = .listening := by
  obtain ⟨result, τ, ran, turned⟩ := runPipeline_spec outcomes audio σ
  constructor
  · rintro ⟨events, υ, returned, _, clean, _⟩
    obtain ⟨rfl, rfl⟩ := Prod.mk.inj (ran.symm.trans returned)
    rcases turned.speaks_of_clean clean with listening | speaking
    · exact listening
    · rcases reached.parked with rest | waiting
      · simp [speaking, resting] at rest
      · simp [speaking] at waiting
  · intro listening
    have speaks : Speaks σ := .inl listening
    cases turned with
    | busy waiting => simp [isTransferInProgress, listening] at waiting
    | failed _ blocked =>
      have disallowed := (blocked speaks).2
      simp [healthy.level, evaluate] at disallowed
    | asked _ heard _ intent =>
      cases Except.ok.inj (healthy.stt.symm.trans heard)
      simp [healthy.unasked] at intent
    | unheard _ unheard => simp [healthy.stt] at unheard
    | answered _ heard _ _ reply answered =>
      cases Except.ok.inj (healthy.stt.symm.trans heard)
      rw [reply completion healthy.llm] at answered
      exact ⟨_, τ, ran, answered.done, answered.clean, answered.history⟩

/-- The call listens, and may then have asked for an agent in vain. -/
def opened (more : List Event) : List Event :=
  (control "start_listening", outcomesOf (working "hi" "hello")) :: more

def inVain : List Event := [(control "request_transfer", outcomesOf (working "hi" "hello"))]

theorem opened_reached (more : List Event) (state : SessionState) (level : PolicyLevel)
    (shut : Bool) (facts : (exec step (session .g1 .idle) (opened more)).map
      (fun σ => (σ.state, σ.orchestrator.policyLevel, σ.orchestrator.shouldClose)) =
      some (state, level, shut)) :
    ∃ σ, Reached σ ∧ σ.state = state ∧ σ.orchestrator.policyLevel = level ∧
      σ.orchestrator.shouldClose = shut := by
  obtain ⟨σ, ran, same⟩ := Option.map_eq_some_iff.mp facts
  obtain ⟨rfl, rest⟩ := Prod.mk.inj same
  obtain ⟨rfl, rfl⟩ := Prod.mk.inj rest
  exact ⟨σ, ⟨_, _, _, _, _, _, _, ran⟩, rfl, rfl, rfl⟩

theorem healthy_hello {σ : World} (level : σ.orchestrator.policyLevel = .g1) :
    Healthy (outcomesOf (working "hi" "hello")) σ "hi" ⟨"hello", false⟩ :=
  ⟨rfl, rfl, ⟨_, rfl⟩, level, by decide +kernel⟩

theorem healthy_turn_answered_first :
    ∃ σ, Reached σ ∧ Answers (outcomesOf (working "hi" "hello")) [1] σ "hi" "hello" := by
  obtain ⟨σ, reached, listening, level, _⟩ := opened_reached [] .listening .g1 false
    (by decide +kernel)
  exact ⟨σ, reached, (healthy_turn_answered_iff [1] reached (healthy_hello level)).mpr listening⟩

/-- After a transfer that fell back to a callback the session is open, and the next
healthy turn ends in an error. -/
theorem healthy_turn_lost :
    ¬∀ (outcomes : Outcomes) (audio : List UInt8) (σ : World) (text : String)
      (completion : Completion),
      Reached σ → σ.orchestrator.shouldClose = false → Healthy outcomes σ text completion →
      Answers outcomes audio σ text completion.fullText := by
  intro answers
  obtain ⟨σ, reached, failed, level, live⟩ := opened_reached inVain .transferFailed .g1 false
    (by decide +kernel)
  obtain ⟨events, τ, ran, _, clean, _⟩ := answers _ [1] σ _ _ reached live (healthy_hello level)
  obtain ⟨result, υ, other, turned⟩ := runPipeline_spec (outcomesOf (working "hi" "hello")) [1] σ
  obtain ⟨rfl, rfl⟩ := Prod.mk.inj (other.symm.trans ran)
  rcases turned.speaks_of_clean clean with state | state <;> simp [failed] at state

end AgentOE.Call
