import AgentOE.Call.Lifecycle

/-! What a closed orchestrator still does, and the loop of the gRPC stream that
feeds it. The responses that the stream queues are left out. -/
namespace AgentOE.Call
open Session Coroutine Transition
variable {outcomes : Outcomes} {σ τ : World}

/-- Nothing but `pong` and unknown-action errors is returned, and neither the
machine, the history nor anything outside is touched. -/
structure Inert (σ τ : World) : Prop where
  emitted : ∃ events, τ.emitted = σ.emitted ++ events ∧ ∀ event ∈ events, harmless event = true
  fsm : τ.fsm = σ.fsm
  history : τ.orchestrator.history = σ.orchestrator.history
  effects : τ.effects = σ.effects

/-- The call neither hands audio to the pipeline nor asks for an agent. -/
def Quiet (σ : World) (event : Event) : Prop := runs σ event.1 = false ∧ asksFor event.1 = none

def Closed (σ : World) : Prop := σ.orchestrator.closed = true ∧ σ.state = .ended

theorem Inert.refl (σ : World) : Inert σ σ := ⟨⟨[], by simp, by simp⟩, rfl, rfl, rfl⟩

theorem Inert.trans (first : Inert σ τ) (second : Inert τ υ) : Inert σ υ where
  emitted := by
    obtain ⟨events, same, harmless⟩ := first.emitted
    obtain ⟨more, same', harmless'⟩ := second.emitted
    refine ⟨events ++ more, by rw [same', same, List.append_assoc], ?_⟩
    intro event mem
    exact (List.mem_append.mp mem).elim (harmless event) (harmless' event)
  fsm := second.fsm.trans first.fsm
  history := second.history.trans first.history
  effects := second.effects.trans first.effects

theorem Did.stays_closed (did : Did σ τ reasons) (shut : σ.orchestrator.closed = true) :
    τ.orchestrator.closed = true := by
  rcases did.ends with ⟨_, same⟩ | ⟨_, live, _⟩
  · exact same.trans shut
  · simp [live] at shut

theorem Handled.closed (handled : Handled outcomes σ input result τ) (shut : Closed σ) :
    Closed τ := by
  obtain ⟨reasons, did⟩ := handled.did
  exact ⟨did.stays_closed shut.1, handled.stays_ended shut.2⟩

theorem Turned.noisy (turned : Turned outcomes σ result τ) (final : σ.state = .ended) :
    ∃ event ∈ returned result, harmless event = false := by
  have mute : ¬Speaks σ := by simp [Speaks, final]
  cases turned with
  | busy => exact ⟨transferInProgress, List.mem_cons_self, by decide⟩
  | @failed spoken exc result ρ _ _ _ kind _ landed _ _ facts =>
    obtain ⟨_, same⟩ := landed.resolve_left fun reaches => mute reaches.1
    obtain ⟨events, rfl⟩ := (facts.ended (same.trans final)).2
    refine ⟨failureEvent exc, List.mem_append_right _ (facts.events events rfl).1, ?_⟩
    simp [failureEvent, kind, harmless, hasCode, errorEvent]
  | asked speaks => exact absurd speaks mute
  | unheard speaks => exact absurd speaks mute
  | answered speaks => exact absurd speaks mute

theorem Triggered.noisy (triggered : Triggered outcomes reason σ result τ)
    (final : σ.state = .ended) : ∃ event ∈ returned result, harmless event = false := by
  have barred : .transferRequested ∉ SessionFSM.validTransitions σ.state := by rw [final]; decide
  cases triggered with
  | refused _ _ named => exact ⟨_, List.mem_cons_self, by simp [harmless, hasCode, named]⟩
  | fellBack _ _ _ _ allowed => exact absurd allowed barred
  | unsaved _ _ _ allowed => exact absurd allowed barred
  | accepted _ _ _ _ allowed => exact absurd allowed barred
  | handedOver _ _ _ _ allowed => exact absurd allowed barred

/-- A call on a closed orchestrator that is not quiet is heard. -/
theorem step_quiet_of_harmless (shut : Closed σ) (stepped : step σ event = some τ) :
    ∃ events, τ.emitted = σ.emitted ++ events ∧
      ((∀ event ∈ events, harmless event = true) → Quiet σ event) := by
  obtain ⟨result, υ, handled, rfl⟩ := step_handled stepped
  obtain ⟨reasons, did⟩ := handled.did
  refine ⟨returned result, by simp [did.emitted], fun calm => ?_⟩
  have silent : ¬∃ event ∈ returned result, harmless event = false := by
    rintro ⟨event, mem, noise⟩
    simp [calm event mem] at noise
  cases handled with
  | turn _ same turned => exact absurd (turned.noisy (same.state.trans shut.2)) silent
  | transfer _ _ same triggered => exact absurd (triggered.noisy (same.state.trans shut.2)) silent
  | idle still unasked => exact ⟨still, unasked⟩
  | listen still unasked => exact ⟨still, unasked⟩
  | ended still unasked => exact ⟨still, unasked⟩

theorem step_inert (shut : Closed σ) (quiet : Quiet σ event) (stepped : step σ event = some τ) :
    Inert σ τ := by
  obtain ⟨result, υ, handled, rfl⟩ := step_handled stepped
  cases handled with
  | turn running => simp [quiet.1] at running
  | transfer _ asked => simp [quiet.2] at asked
  | @idle _ events _ _ same calm =>
    refine ⟨⟨events, ?_, calm⟩, same.fsm, same.history, same.effects⟩
    simp only [returned, same.emitted]
  | listen _ _ same back =>
    rcases back with ⟨_, allowed⟩ | ⟨rfl, rfl, _⟩
    · rw [shut.2] at allowed
      cases allowed
    · refine ⟨⟨[], ?_, by simp⟩, rfl, same.history, ?_⟩
      · exact congrArg (· ++ []) same.emitted
      · simp only [after_effects, List.append_nil, same.effects]
  | ended _ _ _ _ live => simp [shut.1] at live

theorem step_closed (shut : Closed σ) (stepped : step σ event = some τ) : Closed τ := by
  obtain ⟨result, υ, handled, rfl⟩ := step_handled stepped
  exact handled.closed shut

theorem run_emitted (shut : Closed σ) (ran : exec step σ events = some τ) :
    ∃ more, τ.emitted = σ.emitted ++ more := by
  induction events generalizing σ with
  | nil =>
    cases Option.some.inj ran
    exact ⟨[], by simp⟩
  | cons event events ih =>
    obtain ⟨ρ, first, rest⟩ := exec_cons.mp ran
    obtain ⟨new, emitted, _⟩ := step_quiet_of_harmless shut first
    obtain ⟨more, longer⟩ := ih (step_closed shut first) rest
    exact ⟨new ++ more, by rw [longer, emitted, List.append_assoc]⟩

theorem run_inert_iff (shut : Closed σ) (ran : exec step σ events = some τ) :
    Inert σ τ ↔ Along step Quiet σ events := by
  induction events generalizing σ with
  | nil =>
    cases Option.some.inj ran
    exact iff_of_true (.refl _) trivial
  | cons event events ih =>
    obtain ⟨ρ, first, rest⟩ := exec_cons.mp ran
    have closed := step_closed shut first
    constructor
    · intro inert
      obtain ⟨new, emitted, quiet⟩ := step_quiet_of_harmless shut first
      obtain ⟨more, longer⟩ := run_emitted closed rest
      obtain ⟨all, same, calm⟩ := inert.emitted
      have split : all = new ++ more := by
        rw [longer, emitted, List.append_assoc, List.append_cancel_left_eq] at same
        exact same.symm
      rw [split] at calm
      have holds := quiet fun event mem => calm event (List.mem_append_left _ mem)
      have still := step_inert shut holds first
      refine ⟨holds, fun υ taken => ?_⟩
      cases Option.some.inj (first.symm.trans taken)
      refine (ih closed rest).mp ⟨⟨more, longer,
        fun event mem => calm event (List.mem_append_right _ mem)⟩,
        inert.fsm.trans still.fsm.symm, inert.history.trans still.history.symm,
        inert.effects.trans still.effects.symm⟩
    · rintro ⟨holds, others⟩
      exact (step_inert shut holds first).trans ((ih closed rest).mpr (others ρ first))

/-- The turn that starts here is handed over to an agent: the CTI accepts, and the
caller asks for it or an action is blocked once too often. -/
def handsOver (σ : World) (outcomes : Outcomes) : Bool :=
  decide ((outcomes.attempts 0).cti.result.status = .accepted) && decide (Speaks σ) &&
    match outcomes.vendors.stt with
    | .ok text =>
      if (evaluate σ.orchestrator.policyLevel none).allowed then detectTransferIntent text
      else pipelineFailureThreshold ≤ σ.orchestrator.pipelineFailureCount + 1
    | .error _ => false

theorem cannot_transfer {s : SessionState} (parked : Parked s) (mute : s ≠ .listening) :
    .transferRequested ∉ SessionFSM.validTransitions s := by
  rcases parked with rest | rfl
  · revert rest mute
    cases s <;> decide
  · decide

/-- A turn closes the session only by handing it over. -/
theorem Turned.closes (turned : Turned outcomes σ result τ) :
    τ.orchestrator.closed = σ.orchestrator.closed ∨
      τ.state = .ended ∧ (Parked σ.state → handsOver σ outcomes = true) := by
  cases turned with
  | busy => exact .inl rfl
  | @failed _ _ _ ρ _ _ blocked _ _ landed same _ facts =>
    have flag : ρ.orchestrator.closed = σ.orchestrator.closed := by rw [same]
    have count : ρ.orchestrator.pipelineFailureCount = σ.orchestrator.pipelineFailureCount := by
      rw [same]
    rw [← flag]
    refine facts.closes.imp id fun ⟨final, won, allowed, reached⟩ => ⟨final, fun parked => ?_⟩
    rcases landed with ⟨speaks, _⟩ | ⟨mute, state⟩
    · obtain ⟨⟨text, heard⟩, disallowed⟩ := blocked speaks
      rw [count] at reached
      simp [handsOver, won, speaks, heard, disallowed, reached]
    · rw [state] at allowed
      exact absurd allowed (cannot_transfer parked fun listening => mute (.inl listening))
  | asked speaks heard allowed intent _ flag _ _ triggered =>
    rw [← flag]
    refine triggered.closes.imp id fun ⟨final, won, _⟩ => ⟨final, fun _ => ?_⟩
    simp [handsOver, won, speaks, heard, allowed, intent]
  | unheard _ _ answered => exact .inl answered.closed
  | answered _ _ _ _ _ answered => exact .inl answered.closed

theorem Handled.closes (handled : Handled outcomes σ input result τ) :
    τ.orchestrator.closed = σ.orchestrator.closed ∨
      τ.state = .ended ∧ (Parked σ.state → asksFor input = none → hangsUp input = false →
        runs σ input = true ∧ handsOver σ outcomes = true) := by
  cases handled with
  | turn running same turned =>
    rw [← same.closed]
    refine turned.closes.imp id fun ⟨final, parked⟩ => ⟨final, fun before _ _ => ⟨running, ?_⟩⟩
    have accepted := parked (by rw [same.state]; exact before)
    simpa only [handsOver, same.speaks, same.policyLevel, same.failures] using accepted
  | idle _ _ same => exact .inl same.closed
  | listen _ _ same => exact .inl same.closed
  | ended _ _ hangs _ _ final => exact .inr ⟨final, fun _ _ stays => by simp [stays] at hangs⟩
  | transfer _ asked same triggered =>
    rw [← same.closed]
    exact triggered.closes.imp id fun ⟨final, _⟩ => ⟨final, fun _ none => by simp [none] at asked⟩

/-- Wherever the session of a call that started open is closed, it has ended. -/
theorem closed_of_run {o : Orchestrator} (live : o.closed = false)
    (ran : exec step (.new o) events = some σ) (shut : σ.orchestrator.closed = true) :
    Closed σ := by
  have kept : σ.orchestrator.closed = true → σ.state = .ended := by
    refine exec_preserves (fun σ => σ.orchestrator.closed = true → σ.state = .ended) ?_ ran ?_
    · intro σ event τ before stepped
      obtain ⟨result, υ, handled, rfl⟩ := step_handled stepped
      intro shut
      rcases handled.closes with same | ⟨final, _⟩
      · exact handled.stays_ended (before (same.symm.trans shut))
      · exact final
    · intro shut
      exact absurd (live.symm.trans shut) (by simp)
  exact ⟨shut, kept shut⟩

/-! The reader of a gRPC stream. -/

structure Chunk where
  dtmfDigit : String
  isSpeaking : Bool
  audioData : List UInt8
  deriving DecidableEq, Repr

/-- `overfed` counts the calls made while `should_close` was set. -/
structure Reader where
  world : World
  lastSpeaking : Bool
  running : Bool
  overfed : Nat

def Reader.feed (r : Reader) (input : Input) (outcomes : Outcomes) : Reader :=
  let ended := handle outcomes input r.world
  { r with
    world := { ended.2 with emitted := ended.2.emitted ++ returned ended.1 }
    -- an exception of the orchestrator ends the loop
    running := ended.1.toBool
    overfed := r.overfed + if r.world.orchestrator.shouldClose then 1 else 0 }

def endsUtterance (r : Reader) (chunk : Chunk) : Bool := !chunk.isSpeaking && r.lastSpeaking

/-- One chunk of a stream whose orchestrator exists, with the outcomes of up to two
calls. A chunk with a digit carries nothing else. -/
def readChunk (r : Reader) (chunk : Chunk) (first second : Outcomes) : Reader :=
  if !r.running then r
  else if chunk.dtmfDigit ≠ "" then r.feed (control "dtmf") first
  else
    let fed :=
      if endsUtterance r chunk then
        let stopped := r.feed (control "stop_listening") first
        if stopped.running then stopped.feed (control "start_listening") second else stopped
      else if chunk.audioData ≠ [] then r.feed (.audio chunk.audioData) first
      else r
    { fed with lastSpeaking := chunk.isSpeaking }

/-- The reader once its orchestrator exists, which starts to listen. -/
def Reader.open (o : Orchestrator) (outcomes : Outcomes) : Reader :=
  Reader.feed ⟨.new o, false, true, 0⟩ (control "start_listening") outcomes

def readStep (r : Reader) (read : Chunk × Outcomes × Outcomes) : Option Reader :=
  some (readChunk r read.1 read.2.1 read.2.2)

/-- The chunk carries nothing for a closed session, and the utterance that it ends
is not handed over. -/
def Spares (r : Reader) (read : Chunk × Outcomes × Outcomes) : Prop :=
  (r.world.orchestrator.shouldClose = true →
    read.1.dtmfDigit = "" ∧ endsUtterance r read.1 = false ∧ read.1.audioData = []) ∧
  (endsUtterance r read.1 = true → runs r.world (control "stop_listening") = true →
    handsOver r.world read.2.1 = false)

structure Open (r : Reader) : Prop where
  parked : Parked r.world.state
  flags : r.world.orchestrator.shouldClose = r.world.orchestrator.closed
  fed : r.overfed = 0

theorem Reader.feed_spec (r : Reader) (input : Input) (outcomes : Outcomes) :
    ∃ result υ, Handled outcomes r.world input result υ ∧ r.feed input outcomes =
      ⟨{ υ with emitted := υ.emitted ++ returned result }, r.lastSpeaking, result.toBool,
        r.overfed + if r.world.orchestrator.shouldClose then 1 else 0⟩ := by
  obtain ⟨result, υ, ran, handled⟩ := handle_spec outcomes input r.world
  exact ⟨result, υ, handled, by simp only [feed, ran]⟩

/-- A call on an open session. It closes the session only by a hand-over. -/
theorem Reader.feed_open (input : Input) (opened : Open r)
    (live : r.world.orchestrator.shouldClose = false) (unasked : asksFor input = none)
    (stays : hangsUp input = false) (outcomes : Outcomes) :
    Open (r.feed input outcomes) ∧
      ((runs r.world input = true → handsOver r.world outcomes = false) →
        (r.feed input outcomes).world.orchestrator.shouldClose = false) := by
  obtain ⟨result, υ, handled, fed⟩ := r.feed_spec input outcomes
  obtain ⟨reasons, did⟩ := handled.did
  rw [fed]
  refine ⟨⟨(handled.rests opened.parked).imp id And.left, did.flags opened.flags, ?_⟩,
    fun keeps => ?_⟩
  · simp [opened.fed, live]
  · have flags : υ.orchestrator.shouldClose = υ.orchestrator.closed := did.flags opened.flags
    rcases handled.closes with same | ⟨_, accepted⟩
    · exact (flags.trans same).trans (opened.flags.symm.trans live)
    · obtain ⟨running, handed⟩ := accepted opened.parked unasked stays
      simp [keeps running] at handed

theorem readChunk_open (opened : Open r) (spares : Spares r (chunk, first, second)) :
    Open (readChunk r chunk first second) := by
  unfold readChunk
  split
  · exact opened
  cases live : r.world.orchestrator.shouldClose with
  | true =>
    obtain ⟨digit, speech, audio⟩ := spares.1 live
    have digit : ¬chunk.dtmfDigit ≠ "" := not_not_intro digit
    have audio : ¬chunk.audioData ≠ [] := not_not_intro audio
    rw [if_neg digit, if_neg (by simp [speech]), if_neg audio]
    exact ⟨opened.parked, opened.flags, opened.fed⟩
  | false =>
    split
    · exact (Reader.feed_open (control "dtmf") opened live (by decide) (by decide) first).1
    have fed : Open (if endsUtterance r chunk then
        let stopped := r.feed (control "stop_listening") first
        if stopped.running then stopped.feed (control "start_listening") second else stopped
      else if chunk.audioData ≠ [] then r.feed (.audio chunk.audioData) first else r) := by
      split
      case isTrue ends =>
        obtain ⟨stopped, still⟩ :=
          Reader.feed_open (control "stop_listening") opened live (by decide) (by decide) first
        simp only
        split
        · exact (Reader.feed_open (control "start_listening") stopped (still (spares.2 ends))
            (by decide)
            (by decide) second).1
        · exact stopped
      case isFalse =>
        split
        · exact (Reader.feed_open (.audio _) opened live rfl rfl first).1
        · exact opened
    exact ⟨fed.parked, fed.flags, fed.fed⟩

/-- The machine that a stream finds, new or restored. -/
def Joins (fsm : SessionFSM) : Prop :=
  fsm = .new .idle ∨ ∃ snapshot now, fsm = restoreFsm snapshot now

theorem Joins.parked (joins : Joins fsm) : Parked fsm.state := by
  rcases joins with rfl | ⟨snapshot, now, rfl⟩
  · exact .inl rfl
  · obtain ⟨state, events⟩ := snapshot
    cases state <;> first | exact .inl rfl | exact .inr rfl

theorem Reader.open_open (joins : Joins fsm) (outcomes : Outcomes) :
    Open (Reader.open (.new sessionId tenantId clientId fsm history level now) outcomes) :=
  (Reader.feed_open (control "start_listening") ⟨joins.parked, rfl, rfl⟩ rfl (by decide) (by decide)
    outcomes).1

/-- After the session was closed, the calls are without effect exactly as long as they
are quiet. A reader whose chunks spare the closed session never feeds it. -/
theorem closed_orchestrator_inert (sessionId tenantId clientId : String) (fsm : SessionFSM)
    (history : List Message) (level : PolicyLevel) (now : Nat) :
    (∀ (events later : List Event) (σ τ : World),
      exec step (.new (.new sessionId tenantId clientId fsm history level now)) events = some σ →
      σ.orchestrator.closed = true → exec step σ later = some τ →
      (Inert σ τ ↔ Along step Quiet σ later)) ∧
    (Joins fsm → ∀ (outcomes : Outcomes) (reads : List (Chunk × Outcomes × Outcomes)) (r : Reader),
      Along readStep Spares
        (.open (.new sessionId tenantId clientId fsm history level now) outcomes) reads →
      exec readStep (.open
        (.new sessionId tenantId clientId fsm history level now) outcomes) reads = some r →
      r.overfed = 0) := by
  constructor
  · intro events later σ τ ran shut continued
    exact run_inert_iff (closed_of_run rfl ran shut) continued
  · intro joins outcomes reads r spares ran
    have opened : Open r := by
      refine exec_invariant ?_ spares ran (Reader.open_open joins outcomes)
      intro s read t before spared stepped
      cases Option.some.inj stepped
      exact readChunk_open before spared
    exact opened.fed

def calm : Outcomes := outcomesOf (working "hi" "hello")

/-- Audio is buffered when the caller hangs up. -/
def hungUp : List Event :=
  [(control "start_listening", calm), (.audio [1, 2], calm), (control "hangup", calm)]

theorem hungUp_closed : ∃ σ, exec step (session .g1 .idle) hungUp = some σ ∧
    σ.orchestrator.closed = true ∧ σ.state = .ended ∧ σ.orchestrator.audioBuffer = [1, 2] := by
  have ran : (exec step (session .g1 .idle) hungUp).map
      (fun σ => (σ.orchestrator.closed, σ.state, σ.orchestrator.audioBuffer)) =
      some (true, .ended, [1, 2]) := by decide +kernel
  obtain ⟨σ, ran, same⟩ := Option.map_eq_some_iff.mp ran
  obtain ⟨closed, rest⟩ := Prod.mk.inj same
  obtain ⟨final, buffer⟩ := Prod.mk.inj rest
  exact ⟨σ, ran, closed, final, buffer⟩

theorem exec_step_single (σ : World) (event : Event) : ∃ τ, exec step σ [event] = some τ := by
  obtain ⟨result, υ, ran, _⟩ := handle_spec event.2 event.1 σ
  cases result with
  | ok events => exact ⟨_, by simp only [exec, step, ran, Option.bind_some]; rfl⟩
  | error exc => exact ⟨_, by simp only [exec, step, ran, Option.bind_some]; rfl⟩

/-- The caller asks for an agent, and the CTI accepts. -/
def agentCalled : Outcomes :=
  { outcomesOf (working "agent" "hello") with
    attempts := fun _ => ⟨.ok (), .ok (), .answered
      (some TransferStatus.accepted.value) none none none none, .ok ()⟩ }

/-- A quarter of a second in which the call is handed over, and silence behind it. -/
def handOver : List (Chunk × Outcomes × Outcomes) :=
  [(⟨"", true, List.replicate minAudioBytes 0⟩, agentCalled, calm), (⟨"", true, []⟩, calm, calm)]

theorem closed_orchestrator_inert_ping :
    (∃ σ τ, exec step (session .g1 .idle) hungUp = some σ ∧
      exec step σ [(control "ping", calm)] = some τ ∧ Inert σ τ) ∧
    ∃ r, exec readStep (.open (.new "call-1" "t_acme" "c1" (.new .idle) [] .g1 0) calm) handOver =
      some r ∧ r.world.orchestrator.shouldClose = true ∧ r.overfed = 0 := by
  obtain ⟨closed, fed⟩ := closed_orchestrator_inert "call-1" "t_acme" "c1" (.new .idle) [] .g1 0
  obtain ⟨σ, ran, shut, _⟩ := hungUp_closed
  obtain ⟨τ, continued⟩ := exec_step_single σ (control "ping", calm)
  have quiet : Along step Quiet σ [(control "ping", calm)] := by
    refine ⟨⟨?_, by decide⟩, fun _ _ => trivial⟩
    simp [runs, control, Control.isAction]
  have spares : Along readStep Spares
      (.open (.new "call-1" "t_acme" "c1" (.new .idle) [] .g1 0) calm) handOver := by
    refine ⟨⟨fun shut => ?_, fun ends => ?_⟩, fun r _ => ⟨⟨?_, fun ends => ?_⟩, fun _ _ => trivial⟩⟩
    · revert shut
      decide +kernel
    · simp [endsUtterance] at ends
    · exact fun _ => ⟨rfl, rfl, rfl⟩
    · simp [endsUtterance] at ends
  refine ⟨⟨σ, τ, ran, continued, (closed _ _ σ τ ran shut continued).mpr quiet⟩, _, rfl, ?_, ?_⟩
  · decide +kernel
  · exact fed (.inl rfl) calm _ _ spares rfl

/-- Audio that was buffered before the hang-up still runs into the pipeline when
listening is stopped, and an error is returned. -/
theorem closed_orchestrator_speaks :
    ¬∀ (o : Orchestrator) (events later : List Event) (σ τ : World), o.closed = false →
      exec step (.new o) events = some σ → σ.orchestrator.closed = true →
      exec step σ later = some τ → Inert σ τ := by
  intro inert
  obtain ⟨σ, ran, shut, final, buffer⟩ := hungUp_closed
  obtain ⟨τ, continued⟩ := exec_step_single σ (control "stop_listening", calm)
  have still := (run_inert_iff ⟨shut, final⟩ continued).mp (inert _ _ _ σ τ rfl ran shut continued)
  have loud : runs σ (control "stop_listening") = true := by
    simp [runs, control, Control.isAction, buffer]
  exact absurd (still.1.1.symm.trans loud) (by simp)

end AgentOE.Call
