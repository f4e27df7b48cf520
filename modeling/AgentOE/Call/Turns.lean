import AgentOE.Call.Orchestrator

/-! What each part of a call can do, as one specification for every function. -/
namespace AgentOE.Call
open Session Coroutine
variable {σ τ : World} {outcomes : Outcomes}

@[simp] theorem update_orchestrator (f : Orchestrator → Orchestrator) :
    (σ.update f).orchestrator = f σ.orchestrator := rfl

@[simp] theorem update_state (f : Orchestrator → Orchestrator) :
    (σ.update f).state = (f σ.orchestrator).fsm.state := rfl

@[simp] theorem update_effects (f : Orchestrator → Orchestrator) :
    (σ.update f).effects = σ.effects := rfl

theorem doTransition_allowed (now : Nat) (allowed : state ∈ SessionFSM.validTransitions σ.state) :
    doTransition state now σ =
      (.ok (some (stateEvent state)), σ.after (moved σ.fsm state now []) []) := by
  rw [doTransition, get_bind_apply, if_pos (by simpa [SessionFSM.canTransition] using allowed),
    bind_ok _ (transition_allowed allowed), pure_apply]

theorem doTransition_refused (now : Nat) (refused : state ∉ SessionFSM.validTransitions σ.state) :
    doTransition state now σ = (.ok none, σ) := by
  rw [doTransition, get_bind_apply, if_neg (by simpa [SessionFSM.canTransition] using refused),
    pure_apply]

/-- A try at a transition: it is made, or the table does not have it. -/
theorem doTransition_spec (state : SessionState) (now : Nat) (σ : World) :
    ∃ event fsm, doTransition state now σ = (.ok event, σ.after fsm []) ∧
      (∀ e ∈ event.toList, e = stateEvent state) ∧
      (fsm.state = state ∧ state ∈ SessionFSM.validTransitions σ.state ∨
        event = none ∧ fsm = σ.fsm ∧ state ∉ SessionFSM.validTransitions σ.state) := by
  by_cases allowed : state ∈ SessionFSM.validTransitions σ.state
  · exact ⟨_, _, doTransition_allowed now allowed, by simp, .inl ⟨rfl, allowed⟩⟩
  · exact ⟨none, σ.fsm, by rw [doTransition_refused now allowed, after_self], by simp,
      .inr ⟨rfl, rfl, allowed⟩⟩

/-! The rows of the table that the orchestrator relies on. -/

theorem eq_ended_of_cannot_end {s : SessionState} (stuck : .ended ∉ SessionFSM.validTransitions s) :
    s = .ended := by
  revert stuck
  cases s <;> decide

theorem of_cannot_listen {s : SessionState} (stuck : .listening ∉ SessionFSM.validTransitions s) :
    s = .listening ∨ s = .transferRequested ∨ s = .transferAccepted ∨ s = .ended := by
  revert stuck
  cases s <;> decide

theorem can_speak {s : SessionState} :
    .speakingDetected ∈ SessionFSM.validTransitions s ↔ s = .listening := by
  cases s <;> decide

def close (o : Orchestrator) : Orchestrator := { o with closed := true, shouldClose := true }

theorem after_update_close : (σ.after fsm effects).update close =
    (σ.update close).after fsm effects := rfl

theorem endSession_closed (reason : String) (closed : σ.orchestrator.closed = true) :
    endSession outcomes reason σ = (.ok [], σ) := by
  rw [endSession, get_bind_apply, if_pos closed, pure_apply]

theorem endSession_open (outcomes : Outcomes) (reason : String)
    (live : σ.orchestrator.closed = false) :
    ∃ fsm, endSession outcomes reason σ =
        (.ok [stateEvent .ended], (σ.update close).after fsm [.endSession reason fsm]) ∧
      fsm.state = .ended := by
  have still : ¬σ.orchestrator.closed = true := by simp [live]
  obtain ⟨event, fsm, tried, named, ends⟩ := doTransition_spec .ended outcomes.now (σ.update close)
  have last : fsm.state = .ended := by
    rcases ends with ⟨made, _⟩ | ⟨_, rfl, stuck⟩
    · exact made
    · exact eq_ended_of_cannot_end stuck
  have shown : event.getD (stateEvent .ended) = stateEvent .ended := by
    cases event with
    | none => rfl
    | some e => exact named e (by simp)
  refine ⟨fsm, ?_, last⟩
  rw [endSession, get_bind_apply, if_neg still, modify_bind_apply]
  refine (bind_ok _ tried).trans ?_
  rw [get_bind_apply, attempt_bind_apply, perform_apply, pure_apply, shown, after_after]
  rfl

/-- Everything that asking for an agent can do. -/
inductive Triggered (outcomes : Outcomes) (reason : TransferReason) (σ : World) :
    Except Exc (List OutboundEvent) → World → Prop where
  | refused : .transferRequested ∉ SessionFSM.validTransitions σ.state → request.reason = reason →
      update.name = "transfer_update" →
      Triggered outcomes reason σ (.ok [update]) (σ.after σ.fsm [.requestTransfer request])
  | fellBack : request.reason = reason → update.name = "transfer_update" →
      (∀ effect ∈ effects, effect.ofTransfer = true) → fsm.state = .transferFailed →
      .transferRequested ∈ SessionFSM.validTransitions σ.state →
      Triggered outcomes reason σ (.ok [update]) (σ.after fsm (.requestTransfer request :: effects))
  | unsaved : request.reason = reason → (∀ effect ∈ effects, effect.ofTransfer = true) →
      fsm.state ∈ [SessionState.transferRequested, .transferAccepted, .transferFailed] →
      .transferRequested ∈ SessionFSM.validTransitions σ.state →
      ¬(outcomes.attempts 0).Saves →
      Triggered outcomes reason σ (.error exc) (σ.after fsm (.requestTransfer request :: effects))
  | accepted : request.reason = reason → update.name = "transfer_update" →
      (∀ effect ∈ effects, effect.ofTransfer = true) → fsm.state = .transferAccepted →
      .transferRequested ∈ SessionFSM.validTransitions σ.state →
      (outcomes.attempts 0).cti.result.status = .accepted → σ.orchestrator.closed = true →
      Triggered outcomes reason σ (.ok [update]) (σ.after fsm (.requestTransfer request :: effects))
  | handedOver : request.reason = reason → update.name = "transfer_update" →
      (∀ effect ∈ effects, effect.ofTransfer = true) → fsm.state = .ended →
      .transferRequested ∈ SessionFSM.validTransitions σ.state →
      (outcomes.attempts 0).cti.result.status = .accepted → σ.orchestrator.closed = false →
      Triggered outcomes reason σ (.ok [update, stateEvent .ended])
        ((σ.update close).after fsm
          (.requestTransfer request :: effects ++ [.endSession "transfer_accepted" fsm]))

theorem triggerTransfer_spec (outcomes : Outcomes) (reason : TransferReason) (contextHint : String)
    (σ : World) : ∃ result τ, triggerTransfer outcomes reason contextHint σ = (result, τ) ∧
      Triggered outcomes reason σ result τ := by
  rw [triggerTransfer, get_bind_apply, perform_bind_ok _ _ rfl]
  obtain ⟨result, fsm, effects, ran, requested⟩ :=
    requestTransfer_spec outcomes.attempts _ outcomes.now
    (σ.after σ.fsm [.requestTransfer _])
  cases requested with
  | unsaved allowed left failed only =>
    rw [bind_error _ ran, after_after]
    exact ⟨_, _, rfl, .unsaved rfl only left allowed failed⟩
  | @refused result barred status fallback =>
    rw [bind_ok _ ran, if_neg (by simp [status]), if_neg (by simp [fallback]), after_after]
    exact ⟨_, _, rfl, .refused barred rfl rfl⟩
  | fellBack allowed left status fallback only =>
    rw [bind_ok _ ran, if_neg (by simp [status]), if_neg (by simp [fallback]), after_after]
    exact ⟨_, _, rfl, .fellBack rfl rfl only left allowed⟩
  | accepted allowed left won status only =>
    rw [bind_ok _ ran, if_pos status, after_after]
    cases live : σ.orchestrator.closed with
    | true =>
      rw [bind_ok _ (endSession_closed (σ := σ.after fsm _) _ live)]
      exact ⟨_, _, rfl, .accepted rfl rfl only left allowed won live⟩
    | false =>
      obtain ⟨last, ended, final⟩ :=
        endSession_open (σ := σ.after fsm _) outcomes "transfer_accepted" live
      rw [bind_ok _ ended, after_update_close, after_after]
      exact ⟨_, _, rfl, .handedOver rfl rfl only final allowed won live⟩

/-! The transfers asked for and the ends of the session, read off the log. -/

def Effect.reason? : Effect → Option TransferReason
  | .requestTransfer request => some request.reason
  | _ => none

def Effect.isEnd : Effect → Bool
  | .endSession _ _ => true
  | _ => false

def World.requests (σ : World) : List TransferReason := σ.effects.filterMap Effect.reason?

def World.ends (σ : World) : Nat := σ.effects.countP Effect.isEnd

/-- From `σ` to `τ` exactly these transfers were asked for, and the session was
ended at most once, with the flags that guard it. -/
structure Did (σ τ : World) (reasons : List TransferReason) : Prop where
  requests : τ.requests = σ.requests ++ reasons
  ends : τ.ends = σ.ends ∧ τ.orchestrator.closed = σ.orchestrator.closed ∨
    τ.ends = σ.ends + 1 ∧ σ.orchestrator.closed = false ∧ τ.orchestrator.closed = true
  flags : σ.orchestrator.shouldClose = σ.orchestrator.closed →
    τ.orchestrator.shouldClose = τ.orchestrator.closed
  emitted : τ.emitted = σ.emitted

theorem Did.trans (first : Did σ τ reasons) (second : Did τ υ reasons') :
    Did σ υ (reasons ++ reasons') where
  requests := by rw [second.requests, first.requests, List.append_assoc]
  ends := by
    have := first.ends
    have := second.ends
    grind
  flags := fun same => second.flags (first.flags same)
  emitted := second.emitted.trans first.emitted

theorem did_refl (σ : World) : Did σ σ [] := ⟨by simp, .inl ⟨rfl, rfl⟩, id, rfl⟩

theorem did_update (f : Orchestrator → Orchestrator)
    (same : (f σ.orchestrator).closed = σ.orchestrator.closed)
    (flag : (f σ.orchestrator).shouldClose = σ.orchestrator.shouldClose) : Did σ (σ.update f) [] :=
  ⟨by simp [World.requests], .inl ⟨by simp [World.ends], same⟩, fun _ => by simp_all, rfl⟩

/-- Effects that neither ask for a transfer nor end the session. -/
def Effect.plain (effect : Effect) : Bool := effect.reason?.isNone && !effect.isEnd

theorem did_after (plain : ∀ effect ∈ effects, effect.plain = true) :
    Did σ (σ.after fsm effects) [] := by
  have silent : effects.filterMap Effect.reason? = [] := by
    rw [List.filterMap_eq_nil_iff]
    intro effect mem
    simpa using (Bool.and_eq_true_iff.mp (plain effect mem)).1
  have open_ : effects.countP Effect.isEnd = 0 := by
    rw [List.countP_eq_zero]
    intro effect mem
    simpa using (Bool.and_eq_true_iff.mp (plain effect mem)).2
  exact ⟨by simp [World.requests, silent], .inl ⟨by simp [World.ends, open_], rfl⟩, id, rfl⟩

theorem did_ended (live : σ.orchestrator.closed = false) (fsm : SessionFSM) (reason : String) :
    Did σ ((σ.update close).after fsm [.endSession reason fsm]) [] :=
  ⟨by simp [World.requests, Effect.reason?], .inr ⟨by simp [World.ends, Effect.isEnd], live, rfl⟩,
    fun _ => rfl, rfl⟩

theorem ofTransfer_plain {effect : Effect} (ofTransfer : effect.ofTransfer = true) :
    effect.plain = true := by
  cases effect <;> first | rfl | cases ofTransfer

theorem Triggered.did (triggered : Triggered outcomes reason σ result τ) : Did σ τ [reason] := by
  have asked {request : TransferRequest} (same : request.reason = reason) (fsm : SessionFSM)
      {effects : List Effect} (only : ∀ effect ∈ effects, effect.ofTransfer = true) :
      Did σ (σ.after fsm (.requestTransfer request :: effects)) [reason] := by
    have first : Did σ (σ.after fsm [.requestTransfer request]) [reason] :=
      ⟨by simp [World.requests, Effect.reason?, same], .inl ⟨by simp [World.ends, Effect.isEnd], rfl⟩,
        id, rfl⟩
    have rest : Did (σ.after fsm [.requestTransfer request])
        ((σ.after fsm [.requestTransfer request]).after fsm effects) [] :=
      did_after fun effect mem => ofTransfer_plain (only effect mem)
    simpa using first.trans rest
  cases triggered with
  | refused barred same named => exact asked same _ (by simp)
  | fellBack same named only left allowed => exact asked same _ only
  | unsaved same only left allowed failed => exact asked same _ only
  | accepted same named only left allowed won shut => exact asked same _ only
  | @handedOver effects update fsm request same named only left allowed won live =>
    have ended : Did (σ.after fsm (.requestTransfer request :: effects))
        ((σ.update close).after fsm
          (.requestTransfer request :: effects ++ [.endSession "transfer_accepted" fsm])) [] :=
      ⟨by simp [World.requests, Effect.reason?],
        .inr ⟨by simp [World.ends, Effect.isEnd]; omega, live, rfl⟩, fun _ => rfl, rfl⟩
    simpa using (asked same fsm only).trans ended

/-- Where a request for an agent leaves the machine. -/
theorem Triggered.state (triggered : Triggered outcomes reason σ result τ) :
    τ.state = σ.state ∧ .transferRequested ∉ SessionFSM.validTransitions σ.state ∨
      .transferRequested ∈ SessionFSM.validTransitions σ.state ∧
        (τ.state = .transferFailed ∨ τ.state = .transferAccepted ∨ τ.state = .ended ∨
          τ.state = .transferRequested ∧ ¬(outcomes.attempts 0).Saves) := by
  cases triggered with
  | refused barred => exact .inl ⟨rfl, barred⟩
  | fellBack same named only left allowed => exact .inr ⟨allowed, .inl left⟩
  | unsaved same only left allowed failed =>
    simp only [List.mem_cons, List.not_mem_nil, or_false] at left
    rcases left with left | left | left
    · exact .inr ⟨allowed, .inr (.inr (.inr ⟨left, failed⟩))⟩
    · exact .inr ⟨allowed, .inr (.inl left)⟩
    · exact .inr ⟨allowed, .inl left⟩
  | accepted same named only left allowed => exact .inr ⟨allowed, .inr (.inl left)⟩
  | handedOver same named only left allowed => exact .inr ⟨allowed, .inr (.inr (.inl left))⟩

/-- Only a failed write makes a request for an agent raise. -/
theorem Triggered.outcome {result : Except Exc (List OutboundEvent)}
    (triggered : Triggered outcomes reason σ result τ) :
    match result with
    | .ok events => ∀ event ∈ events, event.name = "transfer_update" ∨ event.name = "state_change"
    | .error _ => ¬(outcomes.attempts 0).Saves ∧
        .transferRequested ∈ SessionFSM.validTransitions σ.state := by
  cases triggered with
  | refused barred same named => simp [named]
  | fellBack same named only left allowed => simp [named]
  | unsaved same only left allowed failed => exact ⟨failed, allowed⟩
  | accepted same named only left allowed => simp [named]
  | handedOver same named only left allowed => simp [named, stateEvent]

theorem Triggered.answered (triggered : Triggered outcomes reason σ (.ok events) τ)
    (free : σ.state ≠ .transferRequested) : τ.state ≠ .transferRequested := by
  cases triggered with
  | refused barred same named => exact free
  | fellBack same named only left => simp [left]
  | accepted same named only left => simp [left]
  | handedOver same named only left => simp [left]

/-- The session is ended only together with an accepted transfer. -/
theorem Triggered.closes (triggered : Triggered outcomes reason σ result τ) :
    τ.orchestrator.closed = σ.orchestrator.closed ∨
      τ.state = .ended ∧ (outcomes.attempts 0).cti.result.status = .accepted ∧
        .transferRequested ∈ SessionFSM.validTransitions σ.state := by
  cases triggered with
  | refused | fellBack | unsaved | accepted => exact .inl rfl
  | handedOver _ _ _ final allowed won => exact .inr ⟨final, won, allowed⟩

/-- The states in which a call can rest between two calls of the orchestrator. -/
def resting : SessionState → Bool
  | .idle | .listening | .transferAccepted | .transferFailed | .ended => true
  | _ => false

/-- `TRANSFER_REQUESTED` stays only behind a failed write of the transfer service. -/
def Settled (outcomes : Outcomes) (s : SessionState) : Prop :=
  resting s = true ∨ s = .transferRequested ∧ ¬(outcomes.attempts 0).Saves

theorem Triggered.settled (triggered : Triggered outcomes reason σ result τ)
    (before : .transferRequested ∉ SessionFSM.validTransitions σ.state → resting σ.state = true) :
    Settled outcomes τ.state := by
  rcases triggered.state with ⟨same, barred⟩ | ⟨_, left | left | left | ⟨left, failed⟩⟩
  · exact .inl (by rw [same]; exact before barred)
  · exact .inl (by rw [left]; rfl)
  · exact .inl (by rw [left]; rfl)
  · exact .inl (by rw [left]; rfl)
  · exact .inr ⟨left, failed⟩

theorem Triggered.ended (triggered : Triggered outcomes reason σ result τ)
    (final : σ.state = .ended) : τ.state = .ended := by
  rcases triggered.state with ⟨same, _⟩ | ⟨allowed, _⟩
  · rw [same, final]
  · rw [final] at allowed
    cases allowed

/-- Going back to `LISTENING` at the end of a turn. -/
theorem resting_of_back {s t : SessionState} (free : s ≠ .transferRequested)
    (back : t = .listening ∧ .listening ∈ SessionFSM.validTransitions s ∨
      t = s ∧ .listening ∉ SessionFSM.validTransitions s) : resting t = true := by
  rcases back with ⟨rfl, _⟩ | ⟨rfl, stuck⟩
  · rfl
  · rcases of_cannot_listen stuck with rfl | rfl | rfl | rfl
    · rfl
    · contradiction
    · rfl
    · rfl

theorem ended_of_back {t : SessionState}
    (back : t = .listening ∧ .listening ∈ SessionFSM.validTransitions .ended ∨
      t = .ended ∧ .listening ∉ SessionFSM.validTransitions .ended) : t = .ended := by
  rcases back with ⟨_, allowed⟩ | ⟨same, _⟩
  · cases allowed
  · exact same

/-- What a turn that raised leaves behind, in a machine without a transfer under
way. -/
structure Failed (outcomes : Outcomes) (exc : Exc) (σ : World)
    (result : Except Exc (List OutboundEvent)) (τ : World) : Prop where
  did : ∃ reasons, (∀ reason ∈ reasons, reason = .repeatedFailure) ∧ Did σ τ reasons
  settled : Settled outcomes τ.state
  ended : σ.state = .ended → τ.state = .ended ∧ ∃ events, result = .ok events
  closes : τ.orchestrator.closed = σ.orchestrator.closed ∨
    τ.state = .ended ∧ (outcomes.attempts 0).cti.result.status = .accepted ∧
      .transferRequested ∈ SessionFSM.validTransitions σ.state ∧
      pipelineFailureThreshold ≤ σ.orchestrator.pipelineFailureCount + 1
  events : ∀ events, result = .ok events → failureEvent exc ∈ events ∧
    ∀ event ∈ events, event = failureEvent exc ∨ event.name = "transfer_update" ∨
      event.name = "state_change"

/-- What the check for an automatic transfer leaves behind. -/
structure Checked (outcomes : Outcomes) (σ : World) (result : Except Exc (List OutboundEvent))
    (τ : World) : Prop where
  did : ∃ reasons, (∀ reason ∈ reasons, reason = .repeatedFailure) ∧ Did σ τ reasons
  ended : σ.state = .ended → τ.state = .ended
  returned : ∀ events, result = .ok events →
    (σ.state ≠ .transferRequested → τ.state ≠ .transferRequested) ∧
    ∀ event ∈ events, event.name = "transfer_update" ∨ event.name = "state_change"
  raised : ∀ exc, result = .error exc →
    Settled outcomes τ.state ∧ .transferRequested ∈ SessionFSM.validTransitions σ.state
  closes : τ.orchestrator.closed = σ.orchestrator.closed ∨
    τ.state = .ended ∧ (outcomes.attempts 0).cti.result.status = .accepted ∧
      .transferRequested ∈ SessionFSM.validTransitions σ.state ∧
      pipelineFailureThreshold ≤ σ.orchestrator.pipelineFailureCount

theorem checkAutoTransfer_spec (outcomes : Outcomes) (σ : World) :
    ∃ result τ, checkAutoTransfer outcomes σ = (result, τ) ∧ Checked outcomes σ result τ := by
  rw [checkAutoTransfer, get_bind_apply]
  split
  case isFalse =>
    refine ⟨_, σ, rfl, ⟨[], by simp, did_refl σ⟩, id, ?_, by simp, .inl rfl⟩
    rintro events same
    cases Except.ok.inj same
    exact ⟨id, by simp⟩
  case isTrue reached =>
    rw [bind_ok _ recordEvent_apply]
    generalize recorded : σ.fsm.recordEvent _ _ _ = fsm
    have same : fsm.state = σ.state := by rw [← recorded]; rfl
    have noted : Did σ (σ.after fsm []) [] := did_after (by simp)
    obtain ⟨result, τ, ran, triggered⟩ :=
      triggerTransfer_spec outcomes .repeatedFailure _ (σ.after fsm [])
    rw [ran]
    refine ⟨_, _, rfl, ⟨_, by simp, noted.trans triggered.did⟩, ?_, ?_, ?_, ?_⟩
    · intro final
      exact triggered.ended (same.trans final)
    · rintro events rfl
      exact ⟨fun free => triggered.answered (same.trans_ne free), triggered.outcome⟩
    · rintro exc rfl
      obtain ⟨failed, allowed⟩ := triggered.outcome
      exact ⟨triggered.settled fun barred => absurd allowed barred, same ▸ allowed⟩
    · exact triggered.closes.imp id fun ⟨final, won, allowed⟩ =>
        ⟨final, won, same ▸ allowed, reached⟩

theorem failTurn_spec (outcomes : Outcomes) (exc : Exc) (σ : World)
    (free : isTransferInProgress σ.fsm = false) :
    ∃ result τ, failTurn outcomes exc σ = (result, τ) ∧ Failed outcomes exc σ result τ := by
  have waiting : σ.state ≠ .transferRequested := by
    intro same
    simp [isTransferInProgress, same] at free
  rw [failTurn, modify_bind_apply]
  generalize bumped : σ.update _ = ρ
  have same : ρ.state = σ.state := by rw [← bumped]; rfl
  have counted : Did σ ρ [] := by rw [← bumped]; exact did_update _ rfl rfl
  have count : ρ.orchestrator.pipelineFailureCount = σ.orchestrator.pipelineFailureCount + 1 := by
    rw [← bumped]; rfl
  have flag : ρ.orchestrator.closed = σ.orchestrator.closed := by rw [← bumped]; rfl
  obtain ⟨result, υ, ran, ⟨reasons, repeated, asked⟩, final, returned, raised, closes⟩ :=
    checkAutoTransfer_spec outcomes ρ
  rw [same, count, flag] at closes
  cases result with
  | error exc' =>
    rw [bind_error _ ran]
    obtain ⟨settled, allowed⟩ := raised exc' rfl
    refine ⟨_, υ, rfl, ⟨reasons, repeated, counted.trans asked⟩, settled, ?_, closes, by simp⟩
    intro last
    rw [same, last] at allowed
    cases allowed
  | ok events =>
    obtain ⟨free, named⟩ := returned events rfl
    obtain ⟨event, fsm, tried, shown, back⟩ := doTransition_spec .listening outcomes.now υ
    have kept : Did υ (υ.after fsm []) [] := did_after (by simp)
    have back : fsm.state = .listening ∧ .listening ∈ SessionFSM.validTransitions υ.state ∨
        fsm.state = υ.state ∧ .listening ∉ SessionFSM.validTransitions υ.state :=
      back.imp id fun ⟨_, same, stuck⟩ => ⟨by rw [same], stuck⟩
    rw [bind_ok _ ran, bind_ok _ tried]
    refine ⟨_, _, rfl, ⟨reasons, repeated, by simpa using (counted.trans asked).trans kept⟩,
      .inl (resting_of_back (free (same ▸ waiting)) back), ?_, closes.imp id ?_, ?_⟩
    · intro last
      rw [final (same.trans last)] at back
      exact ⟨ended_of_back back, _, rfl⟩
    · rintro ⟨last, rest⟩
      rw [last] at back
      exact ⟨ended_of_back back, rest⟩
    · intro all listed
      cases Except.ok.inj listed
      refine ⟨by simp, ?_⟩
      intro e mem
      rcases List.mem_append.mp mem with mem | mem
      · rcases List.mem_cons.mp mem with first | mem
        · exact .inl first
        · exact .inr (named e mem)
      · rw [shown e mem]
        exact .inr (.inr rfl)

theorem persistTurn_apply (outcomes : Outcomes) (turn : List Message) (latency : Dict)
    (policyLevel : String) (σ : World) : persistTurn outcomes turn latency policyLevel σ =
      (.ok (), σ.after σ.fsm [.saveTurn turn latency policyLevel σ.fsm]) := rfl

/-- A turn that was answered is in the history, and the machine listens again. -/
structure Answered (σ : World) (userText reply : String) (events : List OutboundEvent) (τ : World) :
    Prop where
  did : Did σ τ []
  closed : τ.orchestrator.closed = σ.orchestrator.closed
  listening : τ.state = .listening
  history : τ.orchestrator.history = Collection.newest maxHistoryInMemory
    (σ.orchestrator.history ++ [⟨.user, userText⟩, ⟨.assistant, reply⟩])
  done : ∃ event ∈ events, event.name = "pipeline_done"
  clean : ∀ event ∈ events, event.name ≠ "error"

theorem ttsReady_name (result : PipelineResult) :
    ∀ event ∈ ttsReady result, event.name = "tts_ready" := by
  unfold ttsReady
  split <;> simp

theorem answerTurn_spec (outcomes : Outcomes) (result : PipelineResult) (σ : World)
    (allowed : .listening ∈ SessionFSM.validTransitions σ.state) :
    ∃ events τ, answerTurn outcomes result σ = (.ok events, τ) ∧
      Answered σ result.sttText result.llmText events τ := by
  rw [answerTurn, modify_bind_apply, bind_ok _ (persistTurn_apply _ _ _ _ _),
    bind_ok _ (doTransition_allowed _ (by simpa using allowed)), pure_apply, after_after]
  refine ⟨_, _, rfl, ?_, rfl, rfl, rfl, ⟨pipelineDone result, by simp, rfl⟩, ?_⟩
  · exact (did_update _ rfl rfl).trans (did_after
      (by simp [Effect.plain, Effect.reason?, Effect.isEnd]))
  · intro event mem
    simp only [List.mem_append, List.mem_cons, Option.toList_some, List.not_mem_nil, or_false]
      at mem
    rcases mem with (rfl | ready) | rfl | rfl
    · simp [llmChunk]
    · simp [ttsReady_name result event ready]
    · simp [pipelineDone]
    · simp [stateEvent]

/-- The pipeline gets to its first stage. -/
def Speaks (σ : World) : Prop := σ.state = .listening ∨ σ.state = .speakingDetected

instance (σ : World) : Decidable (Speaks σ) := inferInstanceAs (Decidable (_ ∨ _))

/-- Everything a turn can do. An action that the policy blocks ends like a call
that the machine is not ready for. -/
inductive Turned (outcomes : Outcomes) (σ : World) :
    Except Exc (List OutboundEvent) → World → Prop where
  | busy : isTransferInProgress σ.fsm = true → Turned outcomes σ (.ok [transferInProgress]) σ
  | failed {ρ τ : World} : isTransferInProgress σ.fsm = false →
      (Speaks σ → (∃ text, outcomes.vendors.stt = .ok text) ∧
        (evaluate σ.orchestrator.policyLevel none).allowed = false) →
      exc.serviceName = none → Did σ ρ [] →
      (Speaks σ ∧ ρ.state = .processing ∨ ¬Speaks σ ∧ ρ.state = σ.state) →
      ρ.orchestrator = { σ.orchestrator with fsm := ρ.fsm } →
      (∀ event ∈ spoken, event = stateEvent .speakingDetected) → Failed outcomes exc ρ result τ →
      Turned outcomes σ (result.map (spoken ++ ·)) τ
  | asked {ρ τ : World} : Speaks σ → outcomes.vendors.stt = .ok text →
      (evaluate σ.orchestrator.policyLevel none).allowed = true → detectTransferIntent text = true →
      Did σ ρ [] → ρ.orchestrator.closed = σ.orchestrator.closed → ρ.state = .responding →
        (∀ event ∈ spoken, event.name ≠ "error") →
      Triggered outcomes .customerRequest ρ result τ →
      Turned outcomes σ (result.map (spoken ++ ·)) τ
  | unheard {τ : World} : Speaks σ → outcomes.vendors.stt = .error exc →
      Answered σ "" reply events τ → Turned outcomes σ (.ok events) τ
  | answered {τ : World} : Speaks σ → outcomes.vendors.stt = .ok text →
      (evaluate σ.orchestrator.policyLevel none).allowed = true →
        detectTransferIntent text = false →
      (∀ completion, outcomes.vendors.llm = .ok completion → reply = completion.fullText) →
      Answered σ text reply events τ → Turned outcomes σ (.ok events) τ

theorem Processed.plain (processed : Processed vendors audio level auth σ s result effects) :
    ∀ effect ∈ effects, effect.plain = true := by
  cases processed with
  | refused => simp
  | unheard => simp [Effect.plain, Effect.reason?, Effect.isEnd]
  | blocked => simp [Effect.plain, Effect.reason?, Effect.isEnd]
  | answered speaking heard allowed text permitted reply only =>
    intro effect mem
    rcases List.mem_cons.mp mem with rfl | mem
    · rfl
    rcases List.mem_cons.mp mem with rfl | mem
    · rfl
    obtain ⟨spoken, rfl⟩ := only effect mem
    rfl

theorem Answered.weaken (answered : Answered τ userText reply events υ) (before : Did σ τ [])
    (flag : τ.orchestrator.closed = σ.orchestrator.closed)
    (same : τ.orchestrator.history = σ.orchestrator.history)
    (clean : ∀ event ∈ front, event.name ≠ "error") :
    Answered σ userText reply (front ++ events) υ where
  did := before.trans answered.did
  closed := answered.closed.trans flag
  listening := answered.listening
  history := by rw [answered.history, same]
  done := by
    obtain ⟨event, mem, named⟩ := answered.done
    exact ⟨event, List.mem_append_right front mem, named⟩
  clean event mem := (List.mem_append.mp mem).elim (clean event) (answered.clean event)

/-- The turn after its first transition, which leaves `SPEAKING_DETECTED` behind
exactly when the pipeline can start. -/
structure Spoken (σ ρ : World) (spoken : List OutboundEvent) : Prop where
  did : Did σ ρ []
  speaks : ρ.state = .speakingDetected ↔ Speaks σ
  same : σ.state ≠ .listening → ρ = σ ∧ spoken = []
  orchestrator : ρ.orchestrator = { σ.orchestrator with fsm := ρ.fsm }
  events : ∀ event ∈ spoken, event = stateEvent .speakingDetected

theorem speaking_spec (now : Nat) (σ : World) :
    ∃ event ρ, doTransition .speakingDetected now σ = (.ok event, ρ) ∧ Spoken σ ρ event.toList := by
  obtain ⟨event, fsm, tried, shown, made | ⟨rfl, rfl, stuck⟩⟩ :=
    doTransition_spec .speakingDetected now σ
  · obtain ⟨state, allowed⟩ := made
    have listening := can_speak.mp allowed
    exact ⟨event, _, tried, did_after (by simp), by simp [state, Speaks, listening],
      fun other => absurd listening other, rfl, shown⟩
  · rw [after_self] at tried
    have other : σ.state ≠ .listening := fun same => stuck (can_speak.mpr same)
    exact ⟨none, σ, tried, did_refl σ, by simp [Speaks, other], fun _ => ⟨rfl, rfl⟩, rfl, by simp⟩

theorem finishTurn_intent (outcomes : Outcomes) (result : PipelineResult) (σ : World)
    (intent : detectTransferIntent result.sttText = true) :
    ∃ ends τ, finishTurn outcomes result σ = (ends.map (sttResult result :: ·), τ) ∧
      Triggered outcomes .customerRequest σ ends τ := by
  obtain ⟨ends, τ, ran, triggered⟩ :=
    triggerTransfer_spec outcomes .customerRequest result.sttText σ
  rw [finishTurn, if_pos intent, bind_pure_of _ ran]
  exact ⟨ends, τ, rfl, triggered⟩

theorem finishTurn_answer (outcomes : Outcomes) (result : PipelineResult) (σ : World)
    (intent : detectTransferIntent result.sttText = false) (permitted : result.policyAllowed = true)
    (allowed : .listening ∈ SessionFSM.validTransitions σ.state) :
    ∃ events τ, finishTurn outcomes result σ = (.ok events, τ) ∧
      Answered σ result.sttText result.llmText events τ := by
  obtain ⟨events, τ, ran, answered⟩ := answerTurn_spec outcomes result σ allowed
  rw [finishTurn, if_neg (by simp [intent]), if_neg (by simp [permitted]), bind_ok _ ran]
  have clean : ∀ event ∈ [sttResult result], event.name ≠ "error" := by simp [sttResult]
  exact ⟨_, τ, rfl, answered.weaken (did_refl σ) rfl rfl clean⟩

def resetFailures (o : Orchestrator) : Orchestrator := { o with pipelineFailureCount := 0 }

theorem not_busy_of_speaking {fsm : SessionFSM} (speaking : fsm.state = .speakingDetected) :
    isTransferInProgress fsm = false := by
  simp [isTransferInProgress, speaking]

/-- The world in which a result of the pipeline is looked at. -/
theorem did_result (spoken : Spoken σ ρ events) (plain : ∀ effect ∈ effects, effect.plain = true)
    (fsm : SessionFSM) : Did σ ((ρ.after fsm effects).update resetFailures) [] :=
  (spoken.did.trans (did_after plain)).trans (did_update resetFailures rfl rfl)

theorem runPipeline_spec (outcomes : Outcomes) (audio : List UInt8) (σ : World) :
    ∃ result τ, runPipeline outcomes audio σ = (result, τ) ∧ Turned outcomes σ result τ := by
  obtain ⟨event, ρ, tried, spoken⟩ := speaking_spec outcomes.now σ
  rw [runPipeline, bind_ok _ tried, get_bind_apply]
  have level : ρ.orchestrator.policyLevel = σ.orchestrator.policyLevel := by
    rw [spoken.orchestrator]
  have history : ρ.orchestrator.history = σ.orchestrator.history := by rw [spoken.orchestrator]
  have flag : ρ.orchestrator.closed = σ.orchestrator.closed := by rw [spoken.orchestrator]
  split
  case isTrue waiting =>
    have other : σ.state ≠ .listening := by
      intro listening
      rw [not_busy_of_speaking (spoken.speaks.mpr (.inl listening))] at waiting
      cases waiting
    obtain ⟨rfl, none⟩ := spoken.same other
    exact ⟨_, _, by rw [none, pure_apply, List.nil_append], .busy waiting⟩
  case isFalse free =>
    have free : isTransferInProgress ρ.fsm = false := by simpa using free
    have idle : isTransferInProgress σ.fsm = false := by
      by_cases listening : σ.state = .listening
      · simp [isTransferInProgress, listening]
      · rwa [(spoken.same listening).1] at free
    obtain ⟨result, fsm, effects, ran, processed⟩ :=
      process_spec outcomes.vendors audio ρ.orchestrator.policyLevel none outcomes.now ρ
    have plain := processed.plain
    have silent : ∀ e ∈ event.toList, e.name ≠ "error" := by
      intro e mem
      simp [spoken.events e mem, stateEvent]
    rw [attempt_bind_apply, ran]
    generalize landed : fsm.state = s at processed
    cases processed with
    | refused still =>
      have same : isTransferInProgress (ρ.after fsm []).fsm = false := by
        simpa only [isTransferInProgress, after_fsm, landed] using free
      obtain ⟨result, τ, failed, facts⟩ := failTurn_spec outcomes
        (invalidTransition ρ.state .processing) (ρ.after fsm []) same
      have mute : ¬Speaks σ := fun speaks => still (spoken.speaks.mpr speaks)
      have still : ρ.state = σ.state := by
        rw [(spoken.same fun listening => mute (.inl listening)).1]
      exact ⟨_, τ, bind_pure_of _ failed, .failed idle (fun speaks => absurd speaks mute) rfl
        (spoken.did.trans (did_after plain)) (.inr ⟨mute, landed.trans still⟩)
        (by rw [World.after, spoken.orchestrator]) spoken.events facts⟩
    | blocked speaking heard disallowed =>
      have same : isTransferInProgress (ρ.after fsm [.transcribe audio]).fsm = false := by
        simp [isTransferInProgress, landed]
      obtain ⟨result, τ, failed, facts⟩ := failTurn_spec outcomes
        (invalidTransition .processing .responding) (ρ.after fsm [.transcribe audio]) same
      exact ⟨_, τ, bind_pure_of _ failed, .failed idle
        (fun _ => ⟨⟨_, heard⟩, level ▸ disallowed⟩) rfl
        (spoken.did.trans (did_after plain)) (.inl ⟨spoken.speaks.mp speaking, landed⟩)
        (by rw [World.after, spoken.orchestrator]) spoken.events facts⟩
    | @unheard exc result speaking heard text permitted =>
      have listen : .listening ∈ SessionFSM.validTransitions fsm.state := by rw [landed]; decide
      have unasked : detectTransferIntent result.sttText = false := by rw [text]; decide
      obtain ⟨events, τ, finished, answered⟩ := finishTurn_answer outcomes result
        ((ρ.after fsm [.transcribe audio]).update resetFailures) unasked permitted listen
      have whole := answered.weaken (did_result spoken plain fsm) flag history silent
      rw [text] at whole
      exact ⟨_, τ, bind_pure_of _ finished, .unheard (spoken.speaks.mp speaking) heard whole⟩
    | @answered text rest result speaking heard allowed same permitted reply only =>
      have speaks := spoken.speaks.mp speaking
      rw [level] at allowed
      have listen : .listening ∈ SessionFSM.validTransitions fsm.state := by rw [landed]; decide
      cases intent : detectTransferIntent result.sttText with
      | true =>
        obtain ⟨ends, τ, finished, triggered⟩ := finishTurn_intent outcomes result
          ((ρ.after fsm _).update resetFailures) intent
        have joined : (ends.map (sttResult result :: ·)).map (event.toList ++ ·) =
            ends.map (event.toList ++ [sttResult result] ++ ·) := by
          cases ends <;> simp [Except.map]
        have front : ∀ e ∈ event.toList ++ [sttResult result], e.name ≠ "error" := by
          intro e mem
          rcases List.mem_append.mp mem with mem | mem
          · exact silent e mem
          · simp [List.mem_singleton.mp mem, sttResult]
        rw [same] at intent
        refine ⟨_, τ, bind_pure_of _ finished, ?_⟩
        rw [joined]
        exact .asked speaks heard allowed intent (did_result spoken plain fsm) flag landed front
          triggered
      | false =>
        obtain ⟨events, τ, finished, answered⟩ := finishTurn_answer outcomes result
          ((ρ.after fsm _).update resetFailures) intent permitted listen
        have whole := answered.weaken (did_result spoken plain fsm) flag history silent
        rw [same] at whole intent
        exact ⟨_, τ, bind_pure_of _ finished, .answered speaks heard allowed intent reply whole⟩

end AgentOE.Call
