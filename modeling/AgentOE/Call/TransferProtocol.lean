import Mathlib.Logic.Relation
import AgentOE.Call.Transfer

/-! The transfer protocol over all of its attempts and fallbacks: how a request ends, in
which state it leaves the machine, and how often it asks the CTI. -/
namespace AgentOE.Call
open Session Coroutine

/-- How a request ends whose machine lets it begin. The last four end in a failed write. -/
inductive TransferEnding where
  | accepted
  | callback
  | resumed
  | unrequested
  | unaccepted
  | uncalled
  | unresumed
  deriving DecidableEq, Repr

/-- The state that the machine is left in. -/
def TransferEnding.state : TransferEnding → SessionState
  | .unrequested => .transferRequested
  | .accepted | .unaccepted => .transferAccepted
  | .callback | .uncalled => .transferFailed
  | .resumed | .unresumed => .listening

/-- What the caller gets. -/
def TransferEnding.Gives : TransferEnding → Except Exc TransferResult → Prop
  | .accepted, .ok result => result.status = .accepted
  | .callback, .ok result =>
    result.status = .fallbackCallback ∧ result.fallbackAction = some .callback
  | .resumed, .ok result =>
    result.status = .fallbackAiResume ∧ result.fallbackAction = some .aiResume
  | .unrequested, .error _ | .unaccepted, .error _ | .uncalled, .error _ | .unresumed, .error _ =>
    True
  | _, _ => False

/-- The last write of an attempt decides between two endings. -/
def Attempt.conclude (attempt : Attempt) (done failed : TransferEnding) : TransferEnding :=
  if attempt.resolved.isOk then done else failed

def endingOnce (attempt : Attempt) (fallback : TransferFallback) (again : Option TransferEnding) :
    TransferEnding :=
  if attempt.saved.isOk && attempt.requested.isOk then
    if attempt.cti.result.status = .accepted then attempt.conclude .accepted .unaccepted
    else match fallback, again with
      | .retry, some next => next
      | .aiResume, _ => attempt.conclude .resumed .unresumed
      | _, _ => attempt.conclude .callback .uncalled
  else .unrequested

/-- With `left` retries to go. -/
def ending (attempts : Nat → Attempt) (fallback : TransferFallback) : Nat → TransferEnding
  | 0 => endingOnce (attempts maxTransferRetries) fallback none
  | left + 1 => endingOnce (attempts (maxTransferRetries - (left + 1))) fallback
    (some (ending attempts fallback left))

def Effect.isDispatch : Effect → Bool
  | .dispatch _ => true
  | _ => false

/-- Every attempt writes this once, before it calls the CTI. -/
def Effect.isSave : Effect → Bool
  | .saveTransferInfo _ _ => true
  | _ => false

/-- The attempts among the effects, and the dispatches, which are no more. -/
structure Attempted (bound : Nat) (sent : List Effect) : Prop where
  dispatches : sent.countP Effect.isDispatch ≤ sent.countP Effect.isSave
  saves : sent.countP Effect.isSave ≤ bound

/-- From any state that lets a transfer be requested, the run ends so. -/
def EndsAs (run : Running TransferResult) (how : TransferEnding) (bound : Nat) : Prop :=
  ∀ σ : World, .transferRequested ∈ SessionFSM.validTransitions σ.state →
    ∃ ends fsm sent, run σ = (ends, σ.after fsm sent) ∧ fsm.state = how.state ∧ how.Gives ends ∧
      Attempted bound sent

theorem Attempted.append (first : Attempted m sent) (second : Attempted n more) :
    Attempted (m + n) (sent ++ more) := by
  obtain ⟨dispatches, saves⟩ := first
  obtain ⟨dispatches', saves'⟩ := second
  constructor <;> simp only [List.countP_append] <;> omega

theorem Attempted.mono (attempted : Attempted m sent) (le : m ≤ n) : Attempted n sent :=
  ⟨attempted.dispatches, Nat.le_trans attempted.saves le⟩

/-- The end of every attempt that is not retried: one write, and the result if it succeeds. -/
theorem update_concluded (attempt : Attempt) (state : SessionState) (extra : Dict)
    (result : TransferResult) (done failed : TransferEnding) (σ : World)
    (left : σ.state = done.state) (same : done.state = failed.state)
    (gives : done.Gives (.ok result)) (raises : ∀ exc, failed.Gives (.error exc)) :
    ∃ ends sent, (updateState state extra attempt.resolved >>= fun _ => pure result) σ =
      (ends, σ.after σ.fsm sent) ∧
      σ.state = (attempt.conclude done failed).state ∧ (attempt.conclude done failed).Gives ends ∧
      Attempted 0 sent := by
  cases ended : attempt.resolved with
  | ok _ =>
    rw [bind_ok _ (updateState_apply _ _ _ _), pure_apply]
    simp only [Attempt.conclude, ended, Except.isOk, Except.toBool, if_true]
    exact ⟨_, _, rfl, left, gives, Nat.le_refl _, Nat.le_refl _⟩
  | error exc =>
    rw [bind_error _ (updateState_apply _ _ _ _)]
    simp only [Attempt.conclude, ended, Except.isOk, Except.toBool, Bool.false_eq_true, if_false]
    exact ⟨_, _, rfl, left.trans same, raises exc, Nat.le_refl _, Nat.le_refl _⟩

/-- How the rest of an attempt ends, in a machine that waits for the answer. -/
def Concludes (run : Running TransferResult) (how : TransferEnding) (bound : Nat) : Prop :=
  ∀ σ : World, σ.state = .transferRequested →
    ∃ ends fsm sent, run σ = (ends, σ.after fsm sent) ∧ fsm.state = how.state ∧ how.Gives ends ∧
      Attempted bound sent

theorem accepted_concludes (attempt : Attempt) (result : TransferResult) (now : Nat)
    (won : result.status = .accepted) :
    Concludes (onTransferAccepted attempt result now)
      (attempt.conclude .accepted .unaccepted) 0 := by
  intro σ pending
  have allowed : SessionState.transferAccepted ∈ SessionFSM.validTransitions σ.state := by
    rw [pending]
    decide
  rw [onTransferAccepted, bind_ok _ (transition_allowed allowed)]
  obtain ⟨ends, sent, ran, final, gives, few⟩ := update_concluded attempt .transferAccepted
    [("transfer_info.status", .str TransferStatus.accepted.value)] { result with
      message := "상담사 " ++ result.agent.getD "None" ++ "님께 연결됩니다. 잠시만 기다려 주세요." }
    .accepted .unaccepted (σ.after (moved σ.fsm .transferAccepted now _) []) rfl rfl won
      fun _ => trivial
  exact ⟨ends, _, sent, by rw [ran, after_after]; rfl, final, gives, few⟩

theorem callback_concludes (attempt : Attempt) (result : TransferResult) (now : Nat) (σ : World)
    (failed : σ.state = .transferFailed) :
    ∃ ends fsm sent, handleCallbackFallback attempt result now σ = (ends, σ.after fsm sent) ∧
      fsm.state = (attempt.conclude .callback .uncalled).state ∧
        (attempt.conclude .callback .uncalled).Gives ends ∧
      Attempted 0 sent := by
  rw [handleCallbackFallback, bind_ok _ recordEvent_apply]
  obtain ⟨ends, sent, ran, final, gives, few⟩ := update_concluded attempt .transferFailed
    [("transfer_info.status", .str TransferStatus.fallbackCallback.value)] { result with
      status := .fallbackCallback, fallbackAction := some .callback
      message := "현재 모든 상담사가 통화 중입니다. 고객님의 연락처로 빠른 시간 내에 다시 연락드리겠습니다." }
    .callback .uncalled (σ.after (σ.fsm.recordEvent .callbackScheduled now _) []) failed rfl
      ⟨rfl, rfl⟩ fun _ => trivial
  exact ⟨ends, _, sent, by rw [ran, after_after]; rfl, final, gives, few⟩

theorem aiResume_concludes (attempt : Attempt) (result : TransferResult) (now : Nat) (σ : World)
    (failed : σ.state = .transferFailed) :
    ∃ ends fsm sent, handleAiResumeFallback attempt result now σ = (ends, σ.after fsm sent) ∧
      fsm.state = (attempt.conclude .resumed .unresumed).state ∧
        (attempt.conclude .resumed .unresumed).Gives ends ∧
      Attempted 0 sent := by
  have allowed : SessionState.listening ∈ SessionFSM.validTransitions σ.state := by
    rw [failed]
    decide
  rw [handleAiResumeFallback, bind_ok _ (transition_allowed allowed)]
  obtain ⟨ends, sent, ran, final, gives, few⟩ := update_concluded attempt .listening
    [("transfer_info.status", .str TransferStatus.fallbackAiResume.value)] { result with
      status := .fallbackAiResume, fallbackAction := some .aiResume
      message := "현재 상담사 연결이 어렵습니다. 제가 계속 도와드리겠습니다. 어떤 도움이 필요하신가요?" }
    .resumed .unresumed (σ.after (moved σ.fsm .listening now _) []) rfl rfl ⟨rfl, rfl⟩
      fun _ => trivial
  exact ⟨ends, _, sent, by rw [ran, after_after]; rfl, final, gives, few⟩

/-- The fallbacks that end the request. -/
theorem fallback_concludes (attempt : Attempt) (result : TransferResult)
    (fallback : TransferFallback) (now : Nat) (again : Option (Running TransferResult))
    (last : fallback = .retry → again = none) :
    Concludes (onTransferFailed attempt result fallback now again)
      (if fallback = .aiResume then attempt.conclude .resumed .unresumed
        else attempt.conclude .callback .uncalled) 0 := by
  intro σ pending
  have allowed : SessionState.transferFailed ∈ SessionFSM.validTransitions σ.state := by
    rw [pending]
    decide
  have once : onTransferFailed attempt result fallback now again = (do
      transition .transferFailed now [("fallback", .str fallback.value),
        ("reason", .str result.status.value)]
      if fallback = .aiResume then handleAiResumeFallback attempt result now
      else handleCallbackFallback attempt result now) := by
    cases fallback with
    | retry => rw [last rfl]; rfl
    | callback | aiResume => rfl
  rw [once, bind_ok _ (transition_allowed allowed)]
  split
  · obtain ⟨ends, fsm, sent, ran, ended⟩ :=
      aiResume_concludes attempt result now (σ.after (moved σ.fsm .transferFailed
      now [("fallback", .str fallback.value), ("reason", .str result.status.value)]) []) rfl
    exact ⟨ends, fsm, sent, by rw [ran, after_after]; rfl, ended⟩
  · obtain ⟨ends, fsm, sent, ran, ended⟩ :=
      callback_concludes attempt result now (σ.after (moved σ.fsm .transferFailed
      now [("fallback", .str fallback.value), ("reason", .str result.status.value)]) []) rfl
    exact ⟨ends, fsm, sent, by rw [ran, after_after]; rfl, ended⟩

/-- A retry goes through `LISTENING`, from where the transfer can be requested again. -/
theorem retry_concludes (attempt : Attempt) (result : TransferResult) (now : Nat)
    {again : Running TransferResult} (next : EndsAs again how bound) :
    Concludes (onTransferFailed attempt result .retry now (some again)) how bound := by
  intro σ pending
  have failing : SessionState.transferFailed ∈ SessionFSM.validTransitions σ.state := by
    rw [pending]
    decide
  have listening : SessionState.listening ∈ SessionFSM.validTransitions .transferFailed := by decide
  have requested : SessionState.transferRequested ∈
    SessionFSM.validTransitions .listening := by decide
  let retried := moved (moved σ.fsm .transferFailed now []) .listening now []
  obtain ⟨ends, fsm, sent, ran, ended⟩ := next (σ.after retried []) requested
  refine ⟨ends, fsm, sent, ?_, ended⟩
  rw [onTransferFailed, bind_ok _ (transition_allowed failing),
    bind_ok _ (transition_allowed listening), after_after]
  exact ran.trans (by rw [after_after]; rfl)

theorem dispatchToCti_attempted (cti : Cti) (request : TransferRequest) (retryCount : Nat)
    (fsm : SessionFSM) (σ : World) :
    ∃ sent, dispatchToCti cti request σ = (.ok cti.result, σ.after σ.fsm sent) ∧
      Attempted 1 ([.saveTransferInfo request retryCount] ++
        [.updateState .transferRequested [] fsm] ++ sent) := by
  unfold dispatchToCti
  split
  · exact ⟨[], by rw [pure_apply, after_self], Nat.zero_le _, Nat.le_refl _⟩
  · exact ⟨[.dispatch request], perform_apply _ _, Nat.le_refl _, Nat.le_refl _⟩

/-- One attempt ends as its rest does, unless one of its first two writes fails. -/
theorem requestOnce_endsAs (attempt : Attempt) (request : TransferRequest)
    (fallback : TransferFallback)
    (retryCount now : Nat) (again : Option (Running TransferResult)) (how : TransferEnding)
    (rest : Concludes (if attempt.cti.result.status = .accepted then
      onTransferAccepted attempt attempt.cti.result now
      else onTransferFailed attempt attempt.cti.result fallback now again) how bound) :
    EndsAs (requestOnce attempt request fallback retryCount now again)
      (if attempt.saved.isOk && attempt.requested.isOk then how else .unrequested) (bound + 1) := by
  intro σ allowed
  rw [requestOnce, attempt_bind_apply, transition_allowed allowed]
  simp only
  generalize entered : moved σ.fsm .transferRequested now _ = fsm
  have pending : fsm.state = .transferRequested := by rw [← entered, moved_state]
  cases saved : attempt.saved with
  | error exc =>
    rw [perform_bind_error _ _ rfl, after_after]
    exact ⟨_, _, _, rfl, pending, trivial, Nat.zero_le _, Nat.le_add_left _ _⟩
  | ok _ =>
    rw [perform_bind_ok _ _ rfl, after_after]
    cases requested : attempt.requested with
    | error exc =>
      rw [bind_error _ (updateState_apply _ _ _ _), after_after]
      exact ⟨_, _, _, rfl, pending, trivial, Nat.zero_le _, Nat.le_add_left _ _⟩
    | ok _ =>
      rw [bind_ok _ (updateState_apply _ _ _ _), after_after]
      obtain ⟨sent, dispatched, once⟩ := dispatchToCti_attempted attempt.cti request retryCount fsm
        (σ.after fsm ([.saveTransferInfo request retryCount] ++
          [.updateState .transferRequested [] fsm]))
      obtain ⟨ends, fsm', more, ran, final, gives, few⟩ := rest (σ.after fsm
        ([.saveTransferInfo request retryCount] ++ [.updateState .transferRequested [] fsm] ++
          sent)) pending
      refine ⟨ends, fsm', _, ?_, final, gives,
        (once.append few).mono (Nat.le_of_eq (Nat.add_comm 1 bound))⟩
      rw [after_after] at dispatched ran
      exact (bind_ok _ dispatched).trans ran

/-- An attempt whose failure ends the request. -/
theorem requestOnce_last (attempt : Attempt) (request : TransferRequest)
    (fallback : TransferFallback) (retryCount now : Nat) (again : Option (Running TransferResult))
    (next : Option TransferEnding) (last : fallback = .retry → again = none ∧ next = none) :
    EndsAs (requestOnce attempt request fallback retryCount now again)
      (endingOnce attempt fallback next) 1 := by
  refine requestOnce_endsAs attempt request fallback retryCount now again _ ?_
  split
  · rename_i won
    exact accepted_concludes attempt _ now won
  · have ends := fallback_concludes attempt attempt.cti.result fallback now again fun retry =>
      (last retry).1
    cases fallback with
    | retry =>
      obtain ⟨_, rfl⟩ := last rfl
      exact ends
    | callback | aiResume => exact ends

/-- An attempt whose failure is retried. -/
theorem requestOnce_retried (attempt : Attempt) (request : TransferRequest) (retryCount now : Nat)
    {again : Running TransferResult} (next : EndsAs again how bound) :
    EndsAs (requestOnce attempt request .retry retryCount now (some again))
      (endingOnce attempt .retry (some how))
      (bound + 1) := by
  refine requestOnce_endsAs attempt request .retry retryCount now (some again) _ ?_
  split
  · rename_i won
    intro σ pending
    obtain ⟨ends, fsm, sent, ran, final, gives, few⟩ :=
      accepted_concludes attempt _ now won σ pending
    exact ⟨ends, fsm, sent, ran, final, gives, few.mono (Nat.zero_le _)⟩
  · exact retry_concludes attempt _ now next

/-- The attempts that a fallback allows with so many retries to go. -/
def attemptBound (fallback : TransferFallback) (left : Nat) : Nat :=
  if fallback = .retry then left + 1 else 1

theorem requestWith_endsAs (attempts : Nat → Attempt) (request : TransferRequest)
    (fallback : TransferFallback) (now left : Nat) :
    EndsAs (requestWith attempts request fallback now left)
      (ending attempts fallback left)
      (attemptBound fallback left) := by
  induction left with
  | zero =>
    have bound : attemptBound fallback 0 = 1 := by cases fallback <;> rfl
    rw [bound]
    exact requestOnce_last _ request fallback _ now none none fun _ => ⟨rfl, rfl⟩
  | succ left ih =>
    cases fallback with
    | retry => exact requestOnce_retried _ request _ now ih
    | callback | aiResume => exact requestOnce_last _ request _ _ now _ _ fun retry => nomatch retry

theorem requestWith_refused (attempts : Nat → Attempt) (request : TransferRequest)
    (fallback : TransferFallback) (now left : Nat) (σ : World)
    (refused : .transferRequested ∉ SessionFSM.validTransitions σ.state) :
    requestWith attempts request fallback now left σ =
      (.ok (.ended .failed "세션 상태로 인해 이관이 불가능합니다."), σ) := by
  cases left <;> rw [requestWith, requestOnce, attempt_bind_apply, transition_refused refused] <;>
    rfl

theorem Attempt.Saves.isOk {attempt : Attempt} (saves : attempt.Saves) :
    (attempt.saved.isOk && attempt.requested.isOk) = true ∧ attempt.resolved.isOk = true := by
  obtain ⟨saved, requested, resolved⟩ := saves
  simp [saved, requested, resolved, Except.isOk, Except.toBool]

/-- With a repository that takes every write the request comes to one of the three results. -/
theorem ending_of_saves (attempts : Nat → Attempt) (fallback : TransferFallback)
    (saves : ∀ n ≤ maxTransferRetries, (attempts n).Saves) (left : Nat) :
    ending attempts fallback left ∈ [TransferEnding.accepted, .callback, .resumed] := by
  have once (n : Nat) (le : n ≤ maxTransferRetries) (next : Option TransferEnding)
      (later : ∀ how, next = some how → how ∈ [TransferEnding.accepted, .callback, .resumed]) :
      endingOnce (attempts n) fallback next ∈ [TransferEnding.accepted, .callback, .resumed] := by
    obtain ⟨early, late⟩ := (saves n le).isOk
    simp only [endingOnce, early, if_true, Attempt.conclude, late]
    split
    · simp
    · split
      · exact later _ rfl
      · simp
      · simp
  induction left with
  | zero => exact once _ (Nat.le_refl _) none (by simp)
  | succ left ih => exact once _ (Nat.sub_le _ _) _ (by rintro how ⟨⟩; exact ih)

/-- The status that the caller gets, and the state that it stands for. -/
inductive Agrees : TransferResult → SessionState → Prop
  | accepted : result.status = .accepted → Agrees result .transferAccepted
  | callback : result.status = .fallbackCallback → result.fallbackAction = some .callback →
      Agrees result .transferFailed
  | resumed : result.status = .fallbackAiResume → result.fallbackAction = some .aiResume →
    Agrees result .listening

/-- With a repository that takes every write, a request ends after a bounded number of
attempts, and its result says in which state the machine is. It fails without a fallback
only where a transfer cannot be requested, and then it has done nothing. -/
theorem transfer_protocol (attempts : Nat → Attempt) (request : TransferRequest)
    (fallback : TransferFallback) (now : Nat) (saves : ∀ n ≤ maxTransferRetries, (attempts n).Saves)
    (σ : World) :
    ∃ result τ, requestTransfer attempts request fallback now σ = (.ok result, τ) ∧
      (∃ sent, τ.effects = σ.effects ++ sent ∧
        Attempted (if fallback = .retry then maxTransferRetries + 1 else 1) sent) ∧
      if .transferRequested ∈ SessionFSM.validTransitions σ.state then Agrees result τ.state
      else result.status = .failed ∧ result.fallbackAction = none ∧ τ = σ := by
  by_cases allowed : SessionState.transferRequested ∈ SessionFSM.validTransitions σ.state
  · obtain ⟨ends, fsm, sent, ran, final, gives, few⟩ :=
      requestWith_endsAs attempts request fallback now _ σ allowed
    have known := ending_of_saves attempts fallback saves maxTransferRetries
    generalize ending attempts fallback maxTransferRetries = how at final gives known
    simp only [List.mem_cons, List.not_mem_nil, or_false] at known
    cases ends with
    | error exc => rcases known with rfl | rfl | rfl <;> exact gives.elim
    | ok result =>
      refine ⟨result, _, ran, ⟨sent, rfl, few⟩, ?_⟩
      simp only [if_pos allowed, after_state, final]
      rcases known with rfl | rfl | rfl
      · exact .accepted gives
      · exact .callback gives.1 gives.2
      · exact .resumed gives.1 gives.2
  · refine ⟨_, σ, requestWith_refused attempts request fallback now _ σ allowed,
      ⟨[], (List.append_nil _).symm, Nat.le_refl _, Nat.zero_le _⟩, ?_⟩
    rw [if_neg allowed]
    exact ⟨rfl, rfl, rfl⟩

/-- Every dispatch times out: after the last retry a callback is promised. -/
theorem timed_out_protocol :
    let attempts : Nat → Attempt := fun _ => ⟨.ok (), .ok (), .timedOut, .ok ()⟩
    let request : TransferRequest := ⟨"s1", "t1", .customerRequest, "", "G1", 5, 0⟩
    let σ := World.new (Orchestrator.new "s1" "t1" "c1" ⟨.listening, []⟩ [] .g1 0)
    ∃ result τ, requestTransfer attempts request .retry 0 σ = (.ok result, τ) ∧
      (∃ sent, τ.effects = σ.effects ++ sent ∧ Attempted (maxTransferRetries + 1) sent) ∧
          Agrees result τ.state := by
  intro attempts request σ
  have listening : SessionState.transferRequested ∈ SessionFSM.validTransitions σ.state := by decide
  obtain ⟨result, τ, ran, few, agrees⟩ :=
    transfer_protocol attempts request .retry 0 (fun _ _ => ⟨rfl, rfl, rfl⟩) σ
  rw [if_pos listening] at agrees
  exact ⟨result, τ, ran, few, agrees⟩

/-! What a failed write leaves behind. -/

/-- The states that some sequence of transitions leads to. -/
def Reaches : SessionState → SessionState → Prop :=
  Relation.ReflTransGen fun s t => t ∈ SessionFSM.validTransitions s

/-- The session can go on: the machine is as before, or can listen again, and waits for no
answer. -/
def GoesOn (before after : SessionState) : Prop :=
  after ≠ .transferRequested ∧ (after = before ∨ Reaches after .listening)

/-- No write fails before the answer, and none after an acceptance. -/
def Attempt.Sound (attempt : Attempt) : Prop :=
  attempt.saved.isOk = true ∧ attempt.requested.isOk = true ∧
    (attempt.cti.result.status = .accepted → attempt.resolved.isOk = true)

/-- So it is in every attempt that is made. -/
def SoundThrough (attempts : Nat → Attempt) (fallback : TransferFallback) : Nat → Prop
  | 0 => (attempts maxTransferRetries).Sound
  | left + 1 =>
    let attempt := attempts (maxTransferRetries - (left + 1))
    attempt.Sound ∧ (fallback = .retry → attempt.cti.result.status ≠ .accepted →
      SoundThrough attempts fallback left)

theorem accepted_stuck (reached : Reaches .transferAccepted s) :
    s ∈ [SessionState.transferAccepted, .ended] := by
  induction reached with
  | refl => decide
  | tail _ last ih =>
    simp only [List.mem_cons, List.not_mem_nil, or_false] at ih ⊢
    rcases ih with rfl | rfl
    · exact .inr (List.mem_singleton.mp last)
    · cases last

theorem endingOnce_good (attempt : Attempt) (fallback : TransferFallback)
    (next : Option TransferEnding) :
    endingOnce attempt fallback next ∉ [TransferEnding.unrequested, .unaccepted] ↔ attempt.Sound ∧
      ∀ how, next = some how → fallback = .retry → attempt.cti.result.status ≠ .accepted →
        how ∉ [TransferEnding.unrequested, .unaccepted] := by
  unfold endingOnce Attempt.Sound Attempt.conclude
  by_cases begun : (attempt.saved.isOk && attempt.requested.isOk) = true
  · obtain ⟨saved, requested⟩ := Bool.and_eq_true_iff.mp begun
    rw [if_pos begun]
    by_cases won : attempt.cti.result.status = .accepted
    · cases ended : attempt.resolved.isOk <;> simp [won, saved, requested]
    · cases fallback <;> cases next <;> cases ended : attempt.resolved.isOk <;>
        simp [won, saved, requested]
  · rw [if_neg begun]
    refine iff_of_false (by simp) fun sound => begun ?_
    rw [sound.1.1, sound.1.2.1]
    rfl

theorem ending_good (attempts : Nat → Attempt) (fallback : TransferFallback) (left : Nat) :
    ending attempts fallback left ∉ [TransferEnding.unrequested, .unaccepted] ↔
      SoundThrough attempts fallback left := by
  induction left with
  | zero =>
    simp only [ending, endingOnce_good, SoundThrough, reduceCtorEq, false_implies, implies_true,
      and_true]
  | succ left ih =>
    simp only [ending, endingOnce_good, SoundThrough, Option.some.injEq, forall_eq', ih]

/-- A request that raises lets the session go on just when every write of the attempts made
succeeds that comes before the answer or after an acceptance. -/
theorem transfer_failure_goes_on_iff (attempts : Nat → Attempt) (request : TransferRequest)
    (fallback : TransferFallback) (now : Nat) (σ : World) :
    (∀ exc τ, requestTransfer attempts request fallback now σ = (.error exc, τ) →
      GoesOn σ.state τ.state) ↔ (.transferRequested ∈ SessionFSM.validTransitions σ.state →
        SoundThrough attempts fallback maxTransferRetries) := by
  by_cases allowed : SessionState.transferRequested ∈ SessionFSM.validTransitions σ.state
  · rw [← ending_good]
    simp only [allowed, true_implies]
    obtain ⟨ends, fsm, sent, ran, final, gives, _⟩ :=
      requestWith_endsAs attempts request fallback now _ σ allowed
    rw [requestTransfer, ran]
    generalize ending attempts fallback maxTransferRetries = how at final gives
    cases ends with
    | ok result =>
      refine iff_of_true (fun exc τ raised => ?_) ?_
      · cases raised
      · intro stuck
        simp only [List.mem_cons, List.not_mem_nil, or_false] at stuck
        rcases stuck with rfl | rfl <;> exact gives
    | error exc =>
      have only : (∀ exc' τ, ((.error exc, σ.after fsm sent) : Except Exc TransferResult × World) =
          (.error exc', τ) → GoesOn σ.state τ.state) ↔ GoesOn σ.state how.state := by
        rw [← final]
        constructor
        · exact fun goesOn => goesOn exc _ rfl
        · rintro goesOn exc' τ ⟨⟩
          exact goesOn
      rw [only]
      cases how with
      | accepted | callback | resumed => exact gives.elim
      | unrequested => exact iff_of_false (fun goesOn => goesOn.1 rfl) (by simp)
      | unaccepted =>
        refine iff_of_false (fun goesOn => ?_) (by simp)
        rcases goesOn.2 with same | listens
        · rw [← same] at allowed
          exact absurd allowed (by decide)
        · exact absurd (accepted_stuck listens) (by decide)
      | uncalled =>
        refine iff_of_true ⟨by decide, .inr (.single ?_)⟩ (by simp)
        decide
      | unresumed => exact iff_of_true ⟨by decide, .inr .refl⟩ (by simp)
  · simp only [allowed, false_implies, iff_true]
    intro exc τ raised
    rw [requestTransfer, requestWith_refused attempts request fallback now _ σ allowed] at raised
    cases raised

/-- The write of the transfer's details fails, and the machine waits for an answer to nothing. -/
theorem unsaved_transfer_stuck : ¬∀ (attempts : Nat → Attempt) (request : TransferRequest)
    (fallback : TransferFallback) (now : Nat) (σ : World) (exc : Exc) (τ : World),
    requestTransfer attempts request fallback now σ = (.error exc, τ) → GoesOn σ.state τ.state := by
  intro atomic
  have goesOn := atomic (fun _ => ⟨.error ⟨"not primary", none⟩, .ok (), .timedOut, .ok ()⟩)
    ⟨"s1", "t1", .customerRequest, "", "G1", 5, 0⟩ .callback 0
    (World.new (Orchestrator.new "s1" "t1" "c1" ⟨.listening, []⟩ [] .g1 0)) _ _ rfl
  exact goesOn.1 rfl

end AgentOE.Call
