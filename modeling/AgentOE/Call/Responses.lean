import AgentOE.Call.Frame

/-! What the gRPC stream makes of the events that one call of the orchestrator
returned, and how a turn is ended towards the bridge. -/
namespace AgentOE.Call
open Session Coroutine
variable {outcomes : Outcomes} {σ τ : World}

inductive ResponseType where
  | sttResult
  | ttsAudio
  | endOfTurn
  deriving DecidableEq, Repr

structure AiResponse where
  type : ResponseType
  textContent : String
  audioData : List UInt8
  clearBuffer : Bool
  deriving DecidableEq, Repr

def AiResponse.spoken (text : String) : AiResponse := ⟨.sttResult, text, [], false⟩

def endOfTurn : AiResponse := ⟨.endOfTurn, "", [], false⟩

/-- `p.get(key, initial)`, for the payloads that the orchestrator fills with text. -/
def textOf (payload : Dict) (key initial : String) : String :=
  match payload.lookup key with
  | some (.str text) => text
  | _ => initial

/-- Audio that cannot be decoded is left out. -/
def audioOf (payload : Dict) : List UInt8 :=
  let audioB64 := textOf payload "audio_b64" ""
  if audioB64 = "" then [] else (Base64.decode audioB64.toList).getD []

structure Mapping where
  out : List AiResponse
  sawPipelineDone : Bool
  sawTerminalError : Bool

def Mapping.event (m : Mapping) (event : OutboundEvent) : Mapping :=
  if event.name = "stt_result" then
    { m with out := m.out ++ [.spoken (textOf event.payload "text" "")] }
  else if event.name = "tts_ready" then
    { m with out := m.out ++
        [⟨.ttsAudio, textOf event.payload "text" "", audioOf event.payload, false⟩] }
  else if event.name = "pipeline_done" then
    { m with out := m.out ++ [endOfTurn], sawPipelineDone := true }
  else if event.name = "error" then
    { m with
      out := m.out ++ [.spoken ("[ERROR] " ++ textOf event.payload "message" "오류가 발생했습니다.")]
      sawTerminalError := true }
  else if event.name = "transfer_update" then
    { m with
      out := m.out ++ [.spoken ("[TRANSFER] " ++ textOf event.payload "message" "상담사로 연결합니다.")] }
  else m

/-- `_outbound_to_responses`. -/
def outboundToResponses (events : List OutboundEvent) : List AiResponse :=
  let m := events.foldl Mapping.event ⟨[], false, false⟩
  if m.sawTerminalError && !m.sawPipelineDone then m.out ++ [endOfTurn] else m.out

/-- The responses of a turn end with its only `END_OF_TURN`. -/
def TerminatedOnce (responses : List AiResponse) : Prop :=
  ∃ front last, responses = front ++ [last] ∧ last.type = .endOfTurn ∧
    ∀ response ∈ front, response.type ≠ .endOfTurn

def isDone (event : OutboundEvent) : Bool := event.name = "pipeline_done"

def isError (event : OutboundEvent) : Bool := event.name = "error"

/-! The loop as a map, one event at a time. -/

/-- The responses to one event. -/
def responsesTo (event : OutboundEvent) : List AiResponse :=
  (Mapping.event ⟨[], false, false⟩ event).out

theorem Mapping.event_eq (m : Mapping) (event : OutboundEvent) : m.event event =
    ⟨m.out ++ responsesTo event, m.sawPipelineDone || isDone event,
      m.sawTerminalError || isError event⟩ := by
  unfold responsesTo Mapping.event isDone isError
  split <;> rename_i stt
  · simp [stt]
  split <;> rename_i tts
  · simp [tts]
  split <;> rename_i done
  · simp [done]
  split <;> rename_i error
  · simp [error]
  split <;> simp [done, error]

theorem foldl_event (events : List OutboundEvent) (m : Mapping) : events.foldl Mapping.event m =
    ⟨m.out ++ events.flatMap responsesTo, m.sawPipelineDone || events.any isDone,
      m.sawTerminalError || events.any isError⟩ := by
  induction events generalizing m with
  | nil => simp
  | cons event events ih =>
    rw [List.foldl_cons, ih, Mapping.event_eq]
    simp [Bool.or_assoc]

theorem outboundToResponses_eq (events : List OutboundEvent) : outboundToResponses events =
    events.flatMap responsesTo ++
      if events.any isError && !events.any isDone then [endOfTurn] else [] := by
  simp only [outboundToResponses, foldl_event, List.nil_append, Bool.false_or]
  split <;> simp

/-- Only `pipeline_done` is itself mapped to an end. -/
theorem responsesTo_open {event : OutboundEvent} (undone : isDone event = false) :
    ∀ response ∈ responsesTo event, response.type ≠ .endOfTurn := by
  have undone : event.name ≠ "pipeline_done" := by simpa [isDone] using undone
  unfold responsesTo Mapping.event
  simp only [undone, if_false]
  split
  · simp [AiResponse.spoken]
  split
  · simp
  split
  · simp [AiResponse.spoken]
  split <;> simp [AiResponse.spoken]

theorem responsesTo_done {event : OutboundEvent} (done : isDone event = true) :
    responsesTo event = [endOfTurn] := by
  have done : event.name = "pipeline_done" := by simpa [isDone] using done
  simp [responsesTo, Mapping.event, done]

theorem responsesTo_state {event : OutboundEvent} (changed : event.name = "state_change") :
    responsesTo event = [] := by
  simp [responsesTo, Mapping.event, changed]

theorem flatMap_open {events : List OutboundEvent}
    (undone : ∀ event ∈ events, isDone event = false) :
    ∀ response ∈ events.flatMap responsesTo, response.type ≠ .endOfTurn := by
  intro response mem
  obtain ⟨event, inside, mem⟩ := List.mem_flatMap.mp mem
  exact responsesTo_open (undone event inside) response mem

theorem any_done_of_undone {events : List OutboundEvent}
    (undone : ∀ event ∈ events, isDone event = false) : events.any isDone = false := by
  simpa using undone

/-- An error without an answer is closed after the last event. -/
theorem terminated_of_error {events : List OutboundEvent}
    (failed : ∃ event ∈ events, isError event = true)
    (undone : ∀ event ∈ events, isDone event = false) :
    TerminatedOnce (outboundToResponses events) := by
  have error : events.any isError = true := List.any_eq_true.mpr failed
  rw [outboundToResponses_eq, error, any_done_of_undone undone]
  exact ⟨_, endOfTurn, rfl, rfl, flatMap_open undone⟩

/-- An answer is closed by its own event, which only changes of state may follow. -/
theorem terminated_of_done {front back : List OutboundEvent} {done : OutboundEvent}
    (isLast : isDone done = true) (undone : ∀ event ∈ front, isDone event = false)
    (silent : ∀ event ∈ back, event.name = "state_change") :
    TerminatedOnce (outboundToResponses (front ++ done :: back)) := by
  have rest : back.flatMap responsesTo = [] := by
    rw [List.flatMap_eq_nil_iff]
    exact fun event mem => responsesTo_state (silent event mem)
  refine ⟨front.flatMap responsesTo, endOfTurn, ?_, rfl, flatMap_open undone⟩
  rw [outboundToResponses_eq]
  simp [isLast, responsesTo_done isLast, rest]

/-- Without either, the turn stays open. -/
theorem not_terminated {events : List OutboundEvent}
    (clean : ∀ event ∈ events, isError event = false)
    (undone : ∀ event ∈ events, isDone event = false) :
    ¬TerminatedOnce (outboundToResponses events) := by
  have error : events.any isError = false := by simpa using clean
  rw [outboundToResponses_eq, error]
  rintro ⟨front, last, same, ends, -⟩
  have inside : last ∈ events.flatMap responsesTo := by
    have : last ∈ front ++ [last] := by simp
    rw [← same] at this
    simpa using this
  exact flatMap_open undone last inside ends

/-! The lists that a turn can return. -/

/-- Neither an end, an error nor a transfer. -/
def Plain (event : OutboundEvent) : Prop :=
  isDone event = false ∧ isError event = false ∧ event.name ≠ "transfer_update"

inductive Ending : List OutboundEvent → Prop where
  | failed : (∃ event ∈ events, isError event = true) →
      (∀ event ∈ events, isDone event = false) → Ending events
  | answered : (∀ event ∈ front, Plain event) → isDone done = true →
      (∀ event ∈ back, event.name = "state_change") → Ending (front ++ done :: back)
  | handed : (∀ event ∈ events, isError event = false) →
      (∀ event ∈ events, isDone event = false) → Ending events

theorem Ending.append (ending : Ending events) (plain : ∀ event ∈ front, Plain event) :
    Ending (front ++ events) := by
  have undone {event : OutboundEvent} (mem : event ∈ front) : isDone event = false :=
    (plain event mem).1
  have clean {event : OutboundEvent} (mem : event ∈ front) : isError event = false :=
    (plain event mem).2.1
  cases ending with
  | failed error open_ =>
    obtain ⟨event, mem, error⟩ := error
    refine .failed ⟨event, List.mem_append_right _ mem, error⟩ fun event mem => ?_
    exact (List.mem_append.mp mem).elim undone (open_ event)
  | @answered inner done back quiet isLast silent =>
    rw [← List.append_assoc]
    refine .answered (fun event mem => ?_) isLast silent
    exact (List.mem_append.mp mem).elim (plain event) (quiet event)
  | handed noError open_ =>
    refine .handed (fun event mem => ?_) fun event mem => ?_
    · exact (List.mem_append.mp mem).elim clean (noError event)
    · exact (List.mem_append.mp mem).elim undone (open_ event)

theorem plain_of_state {event : OutboundEvent} (changed : event.name = "state_change") :
    Plain event := by
  simp [Plain, isDone, isError, changed]

/-- The change of state that a try at a transition shows. -/
theorem doTransition_state (ran : doTransition state now σ = (.ok event, τ)) :
    ∀ e ∈ event.toList, e.name = "state_change" := by
  obtain ⟨shown, fsm, tried, named, -⟩ := doTransition_spec state now σ
  cases Prod.mk.inj (tried.symm.trans ran) with
  | intro same _ =>
    cases Except.ok.inj same
    intro e mem
    rw [named e mem]
    rfl

theorem triggerTransfer_names (ran : triggerTransfer outcomes reason hint σ = (.ok events, τ)) :
    ∀ event ∈ events, event.name = "transfer_update" ∨ event.name = "state_change" := by
  obtain ⟨result, υ, asked, triggered⟩ := triggerTransfer_spec outcomes reason hint σ
  cases Prod.mk.inj (asked.symm.trans ran) with
  | intro same _ =>
    subst same
    exact triggered.outcome

theorem handed_of_names (named : ∀ event ∈ events, event.name = "transfer_update" ∨
    event.name = "state_change") : Ending events := by
  refine .handed (fun event mem => ?_) fun event mem => ?_
  all_goals rcases named event mem with name | name <;> simp [isError, isDone, name]

theorem failed_of_names {error : OutboundEvent} (isFirst : isError error = true)
    (named : ∀ event ∈ events, event.name = "transfer_update" ∨ event.name = "state_change") :
    Ending (error :: events) := by
  have undone : isDone error = false := by
    have : error.name = "error" := by simpa [isError] using isFirst
    simp [isDone, this]
  refine .failed ⟨error, List.mem_cons_self, isFirst⟩ (List.forall_mem_cons.mpr ⟨undone, ?_⟩)
  intro event mem
  rcases named event mem with name | name <;> simp [isDone, name]

theorem failTurn_ending (ran : failTurn outcomes exc σ = (.ok events, τ)) : Ending events := by
  rw [failTurn, modify_bind_apply] at ran
  obtain ⟨transferred, ρ, checked, ran⟩ := of_bind_ok ran
  obtain ⟨back, υ, tried, ran⟩ := of_bind_ok ran
  cases ran
  obtain ⟨result, ρ', again, facts⟩ := checkAutoTransfer_spec outcomes
    (σ.update fun o => { o with pipelineFailureCount := o.pipelineFailureCount + 1 })
  cases Prod.mk.inj (again.symm.trans checked) with
  | intro same _ =>
    subst same
    refine failed_of_names ?_ fun event mem => ?_
    · unfold failureEvent
      split <;> rfl
    · rcases List.mem_append.mp mem with mem | mem
      · exact (facts.returned transferred rfl).2 event mem
      · exact .inr (doTransition_state tried event mem)

theorem answerTurn_ending (ran : answerTurn outcomes result σ = (.ok events, τ)) :
    Ending events := by
  rw [answerTurn, modify_bind_apply, bind_ok _ (persistTurn_apply _ _ _ _ _)] at ran
  obtain ⟨back, υ, tried, ran⟩ := of_bind_ok ran
  cases ran
  have plain : ∀ event ∈ llmChunk result :: ttsReady result, Plain event := by
    refine List.forall_mem_cons.mpr
      ⟨by simp [Plain, isDone, isError, llmChunk], fun event mem => ?_⟩
    simp [Plain, isDone, isError, ttsReady_name result event mem]
  exact .answered plain rfl (doTransition_state tried)

theorem blockTurn_ending (ran : blockTurn outcomes result σ = (.ok events, τ)) : Ending events := by
  unfold blockTurn at ran
  split at ran
  · exact handed_of_names (triggerTransfer_names ran)
  split at ran
  · exact handed_of_names (triggerTransfer_names ran)
  obtain ⟨back, υ, tried, ran⟩ := of_bind_ok ran
  cases ran
  exact failed_of_names rfl fun event mem => .inr (doTransition_state tried event mem)

theorem finishTurn_ending (ran : finishTurn outcomes result σ = (.ok events, τ)) :
    Ending events := by
  have plain : ∀ event ∈ [sttResult result], Plain event := by
    simp [Plain, isDone, isError, sttResult]
  rw [finishTurn] at ran
  split at ran
  · obtain ⟨rest, ρ, finished, ran⟩ := of_bind_ok ran
    cases ran
    exact (handed_of_names (triggerTransfer_names finished)).append plain
  split at ran
  · obtain ⟨rest, ρ, finished, ran⟩ := of_bind_ok ran
    cases ran
    exact (blockTurn_ending finished).append plain
  · obtain ⟨rest, ρ, finished, ran⟩ := of_bind_ok ran
    cases ran
    exact (answerTurn_ending finished).append plain

theorem runPipeline_ending (ran : runPipeline outcomes audio σ = (.ok events, τ)) :
    Ending events := by
  rw [runPipeline] at ran
  obtain ⟨speaking, ρ, tried, ran⟩ := of_bind_ok ran
  have plain : ∀ event ∈ speaking.toList, Plain event :=
    fun event mem => plain_of_state (doTransition_state tried event mem)
  rw [get_bind_apply] at ran
  split at ran
  · cases ran
    have refused : Ending [transferInProgress] := failed_of_names rfl (by simp)
    exact refused.append plain
  rw [attempt_bind_apply] at ran
  cases processed :
      (process outcomes.vendors audio ρ.orchestrator.policyLevel none outcomes.now ρ).1 with
  | error exc =>
    rw [processed] at ran
    obtain ⟨failed, υ, ended, ran⟩ := of_bind_ok ran
    cases ran
    exact (failTurn_ending ended).append plain
  | ok result =>
    rw [processed] at ran
    simp only [modify_bind_apply] at ran
    obtain ⟨finished, υ, ended, ran⟩ := of_bind_ok ran
    cases ran
    exact (finishTurn_ending ended).append plain

/-- A transfer and an answer exclude each other. -/
theorem Ending.undone (ending : Ending events)
    (transferred : ∃ event ∈ events, event.name = "transfer_update") :
    ∀ event ∈ events, isDone event = false := by
  cases ending with
  | failed _ undone => exact undone
  | handed _ undone => exact undone
  | @answered front done back plain isLast silent =>
    obtain ⟨event, mem, named⟩ := transferred
    rcases List.mem_append.mp mem with mem | mem
    · exact absurd named (plain event mem).2.2
    rcases List.mem_cons.mp mem with rfl | mem
    · simp [isDone, named] at isLast
    · simp [silent event mem] at named

theorem Triggered.transferred (triggered : Triggered outcomes reason σ (.ok events) τ) :
    ∃ event ∈ events, event.name = "transfer_update" := by
  cases triggered with
  | refused _ _ named => exact ⟨_, List.mem_cons_self, named⟩
  | fellBack _ named => exact ⟨_, List.mem_cons_self, named⟩
  | accepted _ named => exact ⟨_, List.mem_cons_self, named⟩
  | handedOver _ named => exact ⟨_, List.mem_cons_self, named⟩

/-- The caller asks for an agent: the pipeline can start, hears the caller and is
allowed to answer, and what it heard asks for one. -/
def AsksForAgent (outcomes : Outcomes) (σ : World) : Prop :=
  Speaks σ ∧ (evaluate σ.orchestrator.policyLevel none).allowed = true ∧
    ∃ text, outcomes.vendors.stt = .ok text ∧ detectTransferIntent text = true

/-- The mapper ends a turn that was answered or failed, and no other. -/
theorem Ending.terminated_iff (ending : Ending events) :
    TerminatedOnce (outboundToResponses events) ↔
      ∃ event ∈ events, isError event = true ∨ isDone event = true := by
  cases ending with
  | failed error undone =>
    refine iff_of_true (terminated_of_error error undone) ?_
    obtain ⟨event, mem, error⟩ := error
    exact ⟨event, mem, .inl error⟩
  | @answered front done back plain isLast silent =>
    exact iff_of_true (terminated_of_done isLast (fun event mem => (plain event mem).1) silent)
      ⟨done, by simp, .inr isLast⟩
  | handed clean undone =>
    refine iff_of_false (not_terminated clean undone) ?_
    rintro ⟨event, mem, error | done⟩
    · simp [clean event mem] at error
    · simp [undone event mem] at done

theorem failureEvent_isError (exc : Exc) : isError (failureEvent exc) = true := by
  unfold failureEvent
  split <;> rfl

/-- The turn of a caller who asks for an agent says so, and nothing ends it. -/
theorem Turned.closes_iff (turned : Turned outcomes σ (.ok events) τ) (ending : Ending events) :
    (∃ event ∈ events, isError event = true ∨ isDone event = true) ↔ ¬AsksForAgent outcomes σ := by
  generalize answer : Except.ok events = result at turned
  cases turned with
  | busy waiting =>
    cases answer
    refine iff_of_true ⟨transferInProgress, List.mem_cons_self, .inl rfl⟩ ?_
    rintro ⟨listening | speaking, -⟩
    · simp [isTransferInProgress, listening] at waiting
    · simp [isTransferInProgress, speaking] at waiting
  | @failed spoken exc result ρ υ _ blocked _ _ _ _ _ facts =>
    cases result with
    | error exc => cases answer
    | ok failed =>
      cases answer
      refine iff_of_true ⟨failureEvent exc, ?_, .inl (failureEvent_isError exc)⟩ ?_
      · exact List.mem_append_right _ (facts.events failed rfl).1
      · rintro ⟨speaks, allowed, -⟩
        simp [(blocked speaks).2] at allowed
  | @asked text spoken result ρ υ speaks heard allowed intent _ _ _ clean triggered =>
    cases result with
    | error exc => cases answer
    | ok handed =>
      cases answer
      refine iff_of_false ?_ (not_not_intro ⟨speaks, allowed, text, heard, intent⟩)
      obtain ⟨update, mem, named⟩ := triggered.transferred
      have undone := ending.undone ⟨update, List.mem_append_right _ mem, named⟩
      rintro ⟨event, mem, error | done⟩
      · have error : event.name = "error" := by simpa [isError] using error
        rcases List.mem_append.mp mem with mem | mem
        · exact clean event mem error
        · rcases triggered.outcome event mem with name | name <;> simp [error] at name
      · simp [undone event mem] at done
  | unheard speaks heard answered =>
    cases answer
    obtain ⟨done, mem, named⟩ := answered.done
    refine iff_of_true ⟨done, mem, .inr (by simp [isDone, named])⟩ ?_
    rintro ⟨-, -, text, same, -⟩
    cases heard.symm.trans same
  | answered speaks heard allowed unasked _ answered =>
    cases answer
    obtain ⟨done, mem, named⟩ := answered.done
    refine iff_of_true ⟨done, mem, .inr (by simp [isDone, named])⟩ ?_
    rintro ⟨-, -, text, same, intent⟩
    cases heard.symm.trans same
    simp [unasked] at intent

theorem asksForAgent_within (frame : Frame) :
    AsksForAgent outcomes (σ.within frame) ↔ AsksForAgent outcomes σ := Iff.rfl

theorem handle_transfer_names (asked : asksFor input = some reason)
    (ran : handle outcomes input σ = (.ok events, τ)) :
    ∀ event ∈ events, event.name = "transfer_update" ∨ event.name = "state_change" := by
  obtain ⟨result, υ, again, handled⟩ := handle_spec outcomes input σ
  obtain ⟨rfl, rfl⟩ := Prod.mk.inj (again.symm.trans ran)
  generalize answer : Except.ok events = result at handled
  cases handled with
  | turn running => simp [unasked_of_runs running] at asked
  | idle _ unasked => simp [unasked] at asked
  | listen _ unasked => simp [unasked] at asked
  | ended _ unasked => simp [unasked] at asked
  | transfer _ _ _ triggered =>
    subst answer
    exact triggered.outcome

/-- A turn is ended exactly once, with its last response, except where an agent is
asked for, by the caller or by the transport. -/
theorem turn_terminated_iff (outcomes : Outcomes) (input : Input) (σ τ : World)
    (events : List OutboundEvent) (ran : handle outcomes input σ = (.ok events, τ))
    (turn : runs σ input = true ∨ ∃ reason, asksFor input = some reason) :
    TerminatedOnce (outboundToResponses events) ↔
      runs σ input = true ∧ ¬AsksForAgent outcomes σ := by
  rcases turn with running | ⟨reason, asked⟩
  · rw [handle_runs outcomes running] at ran
    obtain ⟨result, υ, again, turned⟩ := runPipeline_spec outcomes (handed σ input)
      (σ.within ⟨[], hears input, outcomes.now, σ.emitted⟩)
    obtain ⟨rfl, rfl⟩ := Prod.mk.inj (again.symm.trans ran)
    have ending := runPipeline_ending ran
    rw [ending.terminated_iff, turned.closes_iff ending, asksForAgent_within]
    exact (and_iff_right running).symm
  · have named := handle_transfer_names asked ran
    have still : ¬runs σ input = true := by
      intro running
      simp [unasked_of_runs running] at asked
    have ending := handed_of_names named
    rw [ending.terminated_iff]
    refine iff_of_false ?_ fun both => still both.1
    rintro ⟨event, mem, error | done⟩
    · rcases named event mem with name | name <;> simp [isError, name] at error
    · rcases named event mem with name | name <;> simp [isDone, name] at done

/-- A caller in the middle of an utterance. -/
def midUtterance : World :=
  (session .g1 .listening).within ⟨[1, 2], true, 0, []⟩

theorem stop_returns (text : String) (returned :
    (handle (outcomesOf (working text "hello")) (control "stop_listening") midUtterance).1.toBool =
      true) :
    ∃ events τ, handle (outcomesOf (working text "hello")) (control "stop_listening") midUtterance =
      (.ok events, τ) := by
  rcases ended : handle (outcomesOf (working text "hello"))
      (control "stop_listening") midUtterance with
    ⟨result, τ⟩
  rw [ended] at returned
  cases result with
  | ok events => exact ⟨events, τ, rfl⟩
  | error exc => cases returned

theorem greeted_turn_terminated : ∃ events τ,
    handle (outcomesOf (working "hi" "hello")) (control "stop_listening") midUtterance =
      (.ok events, τ) ∧ TerminatedOnce (outboundToResponses events) := by
  obtain ⟨events, τ, ran⟩ := stop_returns "hi" (by decide +kernel)
  have running : runs midUtterance (control "stop_listening") = true := by decide
  refine ⟨events, τ, ran, ?_⟩
  rw [turn_terminated_iff _ _ _ _ events ran (.inl running)]
  refine ⟨running, ?_⟩
  rintro ⟨-, -, text, heard, intent⟩
  cases Except.ok.inj heard
  revert intent
  decide +kernel

/-- A caller who asks for a person gets the news of the transfer, and no end of the turn. -/
theorem transferred_turn_left_open : ¬∀ (outcomes : Outcomes) (input : Input) (σ τ : World)
    (events : List OutboundEvent), handle outcomes input σ = (.ok events, τ) →
    (runs σ input = true ∨ ∃ reason, asksFor input = some reason) →
    TerminatedOnce (outboundToResponses events) := by
  intro ends
  obtain ⟨events, τ, ran⟩ := stop_returns "human" (by decide +kernel)
  have running : runs midUtterance (control "stop_listening") = true := by decide
  have terminated := ends _ _ _ _ events ran (.inl running)
  rw [handle_runs _ running] at ran
  obtain ⟨result, υ, again, turned⟩ := runPipeline_spec (outcomesOf (working "human" "hello"))
    (handed midUtterance (control "stop_listening"))
    (midUtterance.within ⟨[], hears (control "stop_listening"), 0, midUtterance.emitted⟩)
  obtain ⟨rfl, rfl⟩ := Prod.mk.inj (again.symm.trans ran)
  have ending := runPipeline_ending ran
  rw [ending.terminated_iff, turned.closes_iff ending] at terminated
  exact terminated ⟨.inl rfl, rfl, "human", rfl, by decide +kernel⟩

end AgentOE.Call
