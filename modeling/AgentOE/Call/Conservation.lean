import AgentOE.Call.Frame

/-! What becomes of the audio that an orchestrator receives while it listens. -/
namespace AgentOE.Call
open Session Coroutine Transition
variable {outcomes : Outcomes} {input : Input} {σ τ : World} {kept : Frame}

/-! The public methods over any pipeline: a method's calls of `_run_pipeline` are what
every pipeline is handed. -/

abbrev Pipeline := List UInt8 → Running (List OutboundEvent)

def flushTo (pipeline : Pipeline) : Running (List OutboundEvent) := do
  let σ ← get
  modify fun σ => σ.update fun o => { o with audioBuffer := [] }
  pipeline σ.orchestrator.audioBuffer

def handleAudioTo (pipeline : Pipeline) (outcomes : Outcomes) (data : List UInt8) :
    Running (List OutboundEvent) := do
  modify fun σ => σ.update fun o => { o with lastActivity := outcomes.now }
  let σ ← get
  if !σ.orchestrator.listening then pure []
  else do
    modify fun σ => σ.update fun o => { o with audioBuffer := o.audioBuffer ++ data }
    let σ ← get
    if minAudioBytes ≤ σ.orchestrator.audioBuffer.length then flushTo pipeline else pure []

/-- The actions that leave the audio alone. -/
def handleOther (outcomes : Outcomes) (msg : Control) : Running (List OutboundEvent) :=
  let action := msg.action.getD (.text "")
  if action = .text "hangup" then endSession outcomes "client_hangup"
  else if action = .text "ping" then pure [⟨"pong", []⟩]
  else if action = .text "request_transfer" then
    triggerTransfer outcomes (requestedReason msg.reason) ((msg.context.getD (.text "")).hint)
  else pure [errorEvent "UNKNOWN_ACTION" ("Unknown action: " ++ action.printed)]

def handleControlTo (pipeline : Pipeline) (outcomes : Outcomes) (msg : Control) :
    Running (List OutboundEvent) := do
  let action := msg.action.getD (.text "")
  modify fun σ => σ.update fun o => { o with lastActivity := outcomes.now }
  if action = .text "start_listening" then do
    modify fun σ => σ.update fun o => { o with listening := true, audioBuffer := [] }
    let event ← doTransition .listening outcomes.now
    pure event.toList
  else if action = .text "stop_listening" then do
    modify fun σ => σ.update fun o => { o with listening := false }
    let σ ← get
    if σ.orchestrator.audioBuffer ≠ [] then flushTo pipeline else pure []
  else handleOther outcomes msg

def handleTo (pipeline : Pipeline) (outcomes : Outcomes) : Input → Running (List OutboundEvent)
  | .audio data => handleAudioTo pipeline outcomes data
  | .control msg => handleControlTo pipeline outcomes msg
  | .endSession reason => endSession outcomes reason

theorem handle_eq_handleTo (outcomes : Outcomes) (input : Input) :
    handle outcomes input = handleTo (runPipeline outcomes) outcomes input := by
  cases input with
  | audio data => rfl
  | control msg => rfl
  | endSession reason => rfl

/-- Whatever the pipeline does, the method ends in a call of it on this audio, or does
not call it. -/
def Hands (outcomes : Outcomes) (input : Input) (σ : World) : Option (List UInt8) → Prop
  | some audio => ∃ ρ, ∀ pipeline, handleTo pipeline outcomes input σ = pipeline audio ρ
  | none => ∃ ended, ∀ pipeline, handleTo pipeline outcomes input σ = ended

/-! What one call does with the audio. -/

/-- The calls so far decide whether the orchestrator listens. -/
def hearsAfter (listening : Bool) : Input → Bool
  | .control msg =>
    if msg.isAction "start_listening" then true
    else if msg.isAction "stop_listening" then false
    else listening
  | _ => listening

/-- The audio that a call brings to an orchestrator that listens. -/
def received (listening : Bool) : Input → List UInt8
  | .audio data => if listening then data else []
  | _ => []

/-- What became of a piece of audio: it was handed on by `handle_audio`, handed on by
`stop_listening`, or discarded by `start_listening`. -/
inductive Fate where
  | filled (audio : List UInt8)
  | stopped (audio : List UInt8)
  | discarded (audio : List UInt8)
  deriving DecidableEq, Repr

def Fate.audio : Fate → List UInt8
  | .filled audio | .stopped audio | .discarded audio => audio

/-- The input of `_run_pipeline`, for the audio that was handed on. -/
def Fate.run : Fate → Option (List UInt8)
  | .filled audio | .stopped audio => some audio
  | .discarded _ => none

def fate (σ : World) : Input → Option Fate
  | .audio data => if runs σ (.audio data) then some (.filled (handed σ (.audio data))) else none
  | .control msg =>
    if msg.isAction "start_listening" then some (.discarded σ.orchestrator.audioBuffer)
    else if runs σ (.control msg) then some (.stopped (handed σ (.control msg)))
    else none
  | .endSession _ => none

/-- The buffer that a call leaves behind. -/
def left (σ : World) (input : Input) : List UInt8 :=
  match fate σ input with
  | some _ => []
  | none => σ.orchestrator.audioBuffer ++ received σ.orchestrator.listening input

/-- How a call of a method works, with what it leaves of the audio. -/
structure Works (outcomes : Outcomes) (input : Input) (σ : World) (audio : Option (List UInt8))
    (frame : Frame) : Prop where
  buffer : frame.audioBuffer = left σ input
  listening : frame.listening = hearsAfter σ.orchestrator.listening input
  calls : match audio with
    | some audio => ∀ pipeline, handleTo pipeline outcomes input σ = pipeline audio (σ.within frame)
    | none => ∃ x, Framed x ∧ ∀ pipeline, handleTo pipeline outcomes input σ = x (σ.within frame)

theorem Works.hands (works : Works outcomes input σ audio kept) : Hands outcomes input σ audio := by
  have calls := works.calls
  cases audio with
  | some audio => exact ⟨_, calls⟩
  | none =>
    obtain ⟨x, -, same⟩ := calls
    exact ⟨_, same⟩

/-- A turn keeps the frame, so what a call leaves of the audio is there after it. -/
theorem Works.frame (works : Works outcomes input σ audio kept) :
    (handle outcomes input σ).2.frame = kept := by
  have calls := works.calls
  rw [handle_eq_handleTo]
  cases audio with
  | some audio => rw [calls, (framed_runPipeline outcomes audio).frame, frame_within]
  | none =>
    obtain ⟨x, framed, same⟩ := calls
    rw [same, framed.frame, frame_within]

theorem fate_audio_of_deaf (deaf : σ.orchestrator.listening = false) (data : List UInt8) :
    fate σ (.audio data) = none := by
  simp [fate, runs, deaf]

theorem audio_deaf (outcomes : Outcomes) (deaf : σ.orchestrator.listening = false)
    (pipeline : Pipeline) : handleTo pipeline outcomes (.audio data) σ =
      (.ok [], σ.within { σ.frame with lastActivity := outcomes.now }) := by
  simp [handleTo, handleAudioTo, deaf, World.update, World.within, World.frame]

theorem audio_works (outcomes : Outcomes) (data : List UInt8) (σ : World) :
    ∃ frame, Works outcomes (.audio data) σ ((fate σ (.audio data)).bind Fate.run) frame := by
  cases hearing : σ.orchestrator.listening with
  | false =>
    have none := fate_audio_of_deaf hearing data
    refine ⟨{ σ.frame with lastActivity := outcomes.now }, ?_, rfl, ?_⟩
    · simp [left, none, received, hearing, World.frame]
    · rw [none]
      exact ⟨_, framed_pure [], audio_deaf outcomes hearing⟩
  | true =>
    by_cases full : minAudioBytes ≤ (σ.orchestrator.audioBuffer ++ data).length
    · have ran : fate σ (.audio data) = some (.filled (σ.orchestrator.audioBuffer ++ data)) := by
        simp only [fate, runs, hearing, full, handed, decide_true, Bool.and_self, if_true]
      refine ⟨⟨[], true, outcomes.now, σ.emitted⟩, ?_, hearing.symm, ?_⟩
      · simp [left, ran]
      rw [ran]
      intro pipeline
      simp only [handleTo, handleAudioTo, modify_bind_apply, get_bind_apply, update_orchestrator,
        hearing, Bool.not_true, Bool.false_eq_true, if_false, full, if_true, flushTo]
      simp [World.within, World.update, hearing]
    · have waits : fate σ (.audio data) = none := by
        simp only [fate, runs, hearing, full, decide_false, Bool.and_false, Bool.false_eq_true,
          if_false]
      refine ⟨⟨σ.orchestrator.audioBuffer ++ data, true, outcomes.now, σ.emitted⟩, ?_,
        hearing.symm, ?_⟩
      · simp [left, waits, received, hearing]
      rw [waits]
      refine ⟨_, framed_pure [], fun pipeline => ?_⟩
      simp only [handleTo, handleAudioTo, modify_bind_apply, get_bind_apply, update_orchestrator,
        hearing, Bool.not_true, Bool.false_eq_true, if_false, full]
      simp [World.within, World.update, hearing]

theorem framed_handleOther (outcomes : Outcomes) (msg : Control) :
    Framed (handleOther outcomes msg) := by
  unfold handleOther
  simp only
  split
  · exact framed_endSession _ _
  split
  · exact framed_pure _
  split
  · exact framed_triggerTransfer _ _ _
  · exact framed_pure _

theorem isAction_iff {msg : Control} : msg.isAction name = true ↔
    msg.action.getD (.text "") = .text name :=
  decide_eq_true_iff

theorem start_works (outcomes : Outcomes) (start : msg.isAction "start_listening" = true)
    (σ : World) :
    ∃ frame, Works outcomes (.control msg) σ ((fate σ (.control msg)).bind Fate.run) frame := by
  have cleared : fate σ (.control msg) = some (.discarded σ.orchestrator.audioBuffer) := by
    simp only [fate, start, if_true]
  refine ⟨⟨[], true, outcomes.now, σ.emitted⟩, ?_, ?_, ?_⟩
  · simp [left, cleared]
  · simp [hearsAfter, start]
  rw [cleared]
  have turned : Framed (do
      let event ← doTransition .listening outcomes.now
      pure event.toList) := (framed_doTransition _ _).bind fun _ => framed_pure _
  refine ⟨_, turned, fun pipeline => ?_⟩
  simp only [handleTo, handleControlTo, isAction_iff.mp start, if_true, modify_bind_apply]
  rfl

theorem stop_works (outcomes : Outcomes) (stop : msg.isAction "stop_listening" = true) (σ : World) :
    ∃ frame, Works outcomes (.control msg) σ ((fate σ (.control msg)).bind Fate.run) frame := by
  have action := isAction_iff.mp stop
  have other : (Field.text "stop_listening" = .text "start_listening") = False := by decide
  have start : msg.isAction "start_listening" = false := by simp [Control.isAction, action]
  have listening : hearsAfter σ.orchestrator.listening (.control msg) = false := by
    simp [hearsAfter, start, stop]
  by_cases empty : σ.orchestrator.audioBuffer = []
  · have quiet : fate σ (.control msg) = none := by simp [fate, runs, start, empty]
    refine ⟨⟨[], false, outcomes.now, σ.emitted⟩, ?_, listening.symm, ?_⟩
    · simp [left, quiet, received, empty]
    rw [quiet]
    refine ⟨_, framed_pure [], fun pipeline => ?_⟩
    simp [handleTo, handleControlTo, action, World.update, World.within, empty]
  · have ran : fate σ (.control msg) = some (.stopped σ.orchestrator.audioBuffer) := by
      simp [fate, runs, start, stop, empty, handed]
    refine ⟨⟨[], false, outcomes.now, σ.emitted⟩, ?_, listening.symm, ?_⟩
    · simp [left, ran]
    rw [ran]
    intro pipeline
    simp only [handleTo, handleControlTo, action, other, if_false, if_true, modify_bind_apply,
      get_bind_apply, update_orchestrator, ne_eq, empty, not_false_eq_true, flushTo]
    rfl

/-- Every other action keeps the audio. -/
theorem other_works (outcomes : Outcomes) (start : msg.isAction "start_listening" = false)
    (stop : msg.isAction "stop_listening" = false) (σ : World) :
    ∃ frame, Works outcomes (.control msg) σ ((fate σ (.control msg)).bind Fate.run) frame := by
  have quiet : fate σ (.control msg) = none := by simp [fate, runs, start, stop]
  have unstarted : msg.action.getD (.text "") ≠ .text "start_listening" := of_decide_eq_false start
  have unstopped : msg.action.getD (.text "") ≠ .text "stop_listening" := of_decide_eq_false stop
  refine ⟨{ σ.frame with lastActivity := outcomes.now }, ?_, ?_, ?_⟩
  · simp [left, quiet, received, World.frame]
  · simp [hearsAfter, start, stop, World.frame]
  rw [quiet]
  refine ⟨_, framed_handleOther outcomes msg, fun pipeline => ?_⟩
  simp only [handleTo, handleControlTo, if_neg unstarted, if_neg unstopped, modify_bind_apply]
  rfl

theorem handle_works (outcomes : Outcomes) (input : Input) (σ : World) :
    ∃ frame, Works outcomes input σ ((fate σ input).bind Fate.run) frame := by
  cases input with
  | audio data => exact audio_works outcomes data σ
  | control msg =>
    cases start : msg.isAction "start_listening" with
    | true => exact start_works outcomes start σ
    | false =>
      cases stop : msg.isAction "stop_listening" with
      | true => exact stop_works outcomes stop σ
      | false => exact other_works outcomes start stop σ
  | endSession reason =>
    refine ⟨σ.frame, ?_, rfl, _, framed_endSession outcomes reason, fun pipeline => rfl⟩
    simp [left, fate, received, World.frame]

theorem fate_filled (filled : fate σ input = some (.filled audio)) :
    minAudioBytes ≤ audio.length := by
  cases input with
  | audio data =>
    by_cases running : runs σ (.audio data) = true
    · obtain ⟨-, enough⟩ := Bool.and_eq_true_iff.mp running
      have same : handed σ (.audio data) = audio := by simpa [fate, running] using filled
      rw [← same]
      exact of_decide_eq_true enough
    · simp [fate, running] at filled
  | control msg =>
    simp only [fate] at filled
    split at filled
    · cases filled
    split at filled
    · cases filled
    · cases filled
  | endSession reason => cases filled

/-- A call splits what was buffered and what it brought between one fate and the buffer. -/
theorem buffer_splits (σ : World) (input : Input) :
    σ.orchestrator.audioBuffer ++ received σ.orchestrator.listening input =
      (fate σ input).toList.flatMap Fate.audio ++ left σ input := by
  cases decided : fate σ input with
  | none => simp [left, decided]
  | some what =>
    have bytes : what.audio = σ.orchestrator.audioBuffer ++
        received σ.orchestrator.listening input := by
      cases input with
      | audio data =>
        by_cases running : runs σ (.audio data) = true
        · obtain ⟨hearing, -⟩ := Bool.and_eq_true_iff.mp running
          have same : Fate.filled (handed σ (.audio data)) = what := by
            simpa [fate, running] using decided
          rw [← same]
          simp [Fate.audio, handed, received, hearing]
        · simp [fate, running] at decided
      | control msg =>
        simp only [fate] at decided
        split at decided
        · cases decided
          simp [Fate.audio, received]
        split at decided
        · cases decided
          simp [Fate.audio, received, handed]
        · cases decided
      | endSession reason => cases decided
    simp [left, decided, bytes]

theorem left_short (short : σ.orchestrator.audioBuffer.length < minAudioBytes) (input : Input) :
    (left σ input).length < minAudioBytes := by
  cases decided : fate σ input with
  | some what =>
    simp only [left, decided]
    decide
  | none =>
    simp only [left, decided]
    cases input with
    | audio data =>
      cases hearing : σ.orchestrator.listening with
      | false => simpa [received] using short
      | true =>
        by_cases full : minAudioBytes ≤ (σ.orchestrator.audioBuffer ++ data).length
        · simp only [fate, runs, hearing, full, decide_true, Bool.and_self, if_true, reduceCtorEq]
            at decided
        · exact Nat.lt_of_not_le full
    | control msg => simpa [received] using short
    | endSession reason => simpa [received] using short

/-! Runs of calls. -/

/-- A run, with the audio that came while it listened and what became of it. -/
structure Account where
  world : World
  listening : Bool
  received : List UInt8
  fates : List Fate

def Account.opened (orchestrator : Orchestrator) : Account := ⟨.new orchestrator, false, [], []⟩

def Account.step (a : Account) (event : Event) : Option Account :=
  (Call.step a.world event).map fun τ =>
    ⟨τ, hearsAfter a.listening event.1, a.received ++ Call.received a.listening event.1,
      a.fates ++ (fate a.world event.1).toList⟩

def Account.buffer (a : Account) : List UInt8 := a.world.orchestrator.audioBuffer

/-- All the audio is accounted for, in the order in which it came. -/
structure Account.Conserved (a : Account) : Prop where
  listening : a.world.orchestrator.listening = a.listening
  all : a.received = a.fates.flatMap Fate.audio ++ a.buffer
  short : a.buffer.length < minAudioBytes
  full : ∀ audio, .filled audio ∈ a.fates → minAudioBytes ≤ audio.length

/-- What the account says of a call is what the code does in it. -/
structure Account.Told (a : Account) (event : Event) : Prop where
  code : handle event.2 event.1 = handleTo (runPipeline event.2) event.2 event.1
  hands : Hands event.2 event.1 a.world ((fate a.world event.1).bind Fate.run)
  deaf : ∀ data, event.1 = .audio data → a.listening = false →
    handle event.2 event.1 a.world = (.ok [],
      a.world.within { a.world.frame with lastActivity := event.2.now })

theorem step_frame (σ : World) (event : Event) : ∃ τ, step σ event = some τ ∧
    τ.orchestrator = (handle event.2 event.1 σ).2.orchestrator := by
  unfold step
  split
  all_goals exact ⟨_, rfl, by simp [*]⟩

namespace Account
variable {a b : Account}

theorem opened_conserved (fsm : SessionFSM) :
    (opened (.new sessionId tenantId clientId fsm history level now)).Conserved where
  listening := rfl
  all := rfl
  short := show ([] : List UInt8).length < minAudioBytes by decide
  full := by simp [opened]

/-- The step rule: the call is told as it was, and nothing is lost. -/
theorem step_conserves (before : a.Conserved) (event : Event) :
    a.Told event ∧ ∃ b, a.step event = some b ∧ Call.step a.world event = some b.world ∧
      b.Conserved := by
  obtain ⟨frame, works⟩ := handle_works event.2 event.1 a.world
  refine ⟨⟨handle_eq_handleTo _ _, works.hands, ?deaf⟩, ?_⟩
  case deaf =>
    rintro data given unheard
    rw [given, handle_eq_handleTo]
    exact audio_deaf event.2 (before.listening.trans unheard) _
  obtain ⟨τ, stepped, same⟩ := step_frame a.world event
  have buffer : τ.orchestrator.audioBuffer = left a.world event.1 := by
    rw [same, ← works.buffer, ← works.frame]
    rfl
  have listening : τ.orchestrator.listening = hearsAfter a.listening event.1 := by
    rw [same, ← before.listening, ← works.listening, ← works.frame]
    rfl
  refine ⟨_, by rw [step, stepped]; rfl, stepped, listening, ?all, ?short, ?full⟩
  case all =>
    calc a.received ++ Call.received a.listening event.1
      _ = a.fates.flatMap Fate.audio ++ (a.buffer ++ Call.received a.listening event.1) := by
        rw [before.all, List.append_assoc]
      _ = a.fates.flatMap Fate.audio ++
          ((fate a.world event.1).toList.flatMap Fate.audio ++ left a.world event.1) := by
        rw [← buffer_splits, before.listening, Account.buffer]
      _ = (a.fates ++ (fate a.world event.1).toList).flatMap Fate.audio ++
          τ.orchestrator.audioBuffer := by
        rw [buffer, List.flatMap_append, List.append_assoc]
  case short =>
    rw [Account.buffer, buffer]
    exact left_short before.short event.1
  case full =>
    intro audio mem
    rcases List.mem_append.mp mem with earlier | now
    · exact before.full audio earlier
    · exact fate_filled (Option.mem_toList.mp now)

end Account

/-- Over any calls of the public methods of a new orchestrator, whatever its state machine
and history, the audio that came while it listened is what was handed to the pipeline, what
was discarded and what is buffered, in this order. A call of the account says what the code
does: it hands that audio to the pipeline, and no other, whatever the pipeline does with it. -/
theorem audio_conserved (sessionId tenantId clientId : String) (fsm : SessionFSM)
    (history : List Message) (policyLevel : PolicyLevel) (now : Nat) (events : List Event) :
    let opened := Account.opened (.new sessionId tenantId clientId fsm history policyLevel now)
    ∃ a, exec Account.step opened events = some a ∧ exec step opened.world events = some a.world ∧
      Along Account.step Account.Told opened events ∧
      a.received = a.fates.flatMap Fate.audio ++ a.world.orchestrator.audioBuffer ∧
      a.world.orchestrator.audioBuffer.length < minAudioBytes ∧
      ∀ audio, .filled audio ∈ a.fates → minAudioBytes ≤ audio.length := by
  intro opened
  have initial : opened.Conserved := Account.opened_conserved fsm
  generalize opened = start at initial
  have runs : ∃ a, exec Account.step start events = some a ∧
      exec step start.world events = some a.world ∧
      Along Account.step Account.Told start events ∧ a.Conserved := by
    induction events generalizing start with
    | nil => exact ⟨start, rfl, rfl, trivial, initial⟩
    | cons event events ih =>
      obtain ⟨told, b, stepped, moved, kept⟩ := Account.step_conserves initial event
      obtain ⟨a, ran, walked, along, final⟩ := ih b kept
      exact ⟨a, exec_cons.mpr ⟨b, stepped, ran⟩, exec_cons.mpr ⟨b.world, moved, walked⟩,
        along_cons told stepped along, final⟩
  obtain ⟨a, ran, walked, along, final⟩ := runs
  exact ⟨a, ran, walked, along, final.all, final.short, final.full⟩

end AgentOE.Call
