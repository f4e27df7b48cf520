import AgentOE.Idempotency.AtMostOnce

/-! Replay and authentication. The middleware runs outside the dependency that
verifies the bearer token, and takes the tenant of its key from the token's
unverified payload. -/
namespace AgentOE.Idempotency
open Transition

/-- What `get_current_tenant` makes of the bearer token. -/
inductive Credentials where
  | absent
  /-- `AuthenticationError`, with the body it is answered with. -/
  | rejected (body : List UInt8)
  | accepted
  deriving DecidableEq

/-- The framework's own answer to a request without a bearer token. -/
structure Framework where
  notAuthenticated : Response
  status : notAuthenticated.statusCode = 401 ∨ notAuthenticated.statusCode = 403

/-- What `call_next` returns for a token that does not verify, on a route that
depends on `get_current_tenant`. -/
def refusal (framework : Framework) : Credentials → Option Response
  | .absent => some framework.notAuthenticated
  | .rejected body => some ⟨401, [("content-type", "application/json")], body⟩
  | .accepted => none

/-- `acquire_slot` with no other request in between. -/
def acquireSlot : Option Value → AcquireResult
  | none => .taken
  | some existing => match deserialize existing with
    | none => .taken
    | some record => .existing record

def Request.idemKey (settings : Settings) (hashes : Hashes) (request : Request) : String :=
  buildIdemKey settings hashes request.tenantId
    (upper request.method) request.path request.clientKey

/-- `dispatch` with no other request in between. -/
def dispatch (settings : Settings) (hashes : Hashes) (redis : String → Option Value)
    (request : Request) (next : Response) : Response :=
  match gate settings request with
  | .passThrough => next
  | .refused response => response
  | .guarded =>
    (answer (acquireSlot (redis (request.idemKey settings hashes)))
      (computeBodyHash hashes request.body)).getD next

section Runs
variable {C : Type} [DecidableEq C] {settings : Settings} {hashes : Hashes} {requests : C → Request}

/-- The request takes these steps by itself, its handler answering `next`. -/
def Reaches (settings : Settings) (hashes : Hashes) (requests : C → Request) (c : C)
    (next : Response) (σ : State C) (response : Response) : Prop :=
  ∃ actions τ, exec (step settings hashes requests) σ actions = some τ ∧
    τ.phase c = .finished (.responded response) ∧
    ∀ action ∈ actions, action.request = c ∧
      ∀ d answered, action = .handlerReturns d answered → answered = next

theorem Reaches.cons {σ τ : State C} {action : Action C}
    (stepped : step settings hashes requests σ action = some τ)
    (own : action.request = c)
    (handled : ∀ d answered, action = .handlerReturns d answered → answered = next)
    (reaches : Reaches settings hashes requests c next τ response) :
    Reaches settings hashes requests c next σ response := by
  obtain ⟨actions, ρ, run, finished, rest⟩ := reaches
  refine ⟨action :: actions, ρ, exec_cons.mpr ⟨τ, stepped, run⟩, finished, ?_⟩
  exact List.forall_mem_cons.mpr ⟨⟨own, handled⟩, rest⟩

theorem Reaches.finished {σ : State C} (phase : σ.phase c = .finished (.responded response)) :
    Reaches settings hashes requests c next σ response :=
  ⟨[], σ, rfl, phase, by simp⟩

theorem Reaches.command {σ : State C} {c : C} (phase : σ.phase c = waiting)
    (awaits : waiting.awaits = true) (value : σ.redis (keyOf settings hashes requests c) = found)
    (reaches : ∀ τ : State C, τ.phase c = waiting.resume (hashOf hashes requests c) found →
      τ.redis (keyOf settings hashes requests c) =
        waiting.write settings (hashOf hashes requests c) found →
      Reaches settings hashes requests c next τ response) :
    Reaches settings hashes requests c next σ response := by
  have stepped : step settings hashes requests σ (.command c) =
      some ((σ.put (keyOf settings hashes requests c)
          (waiting.write settings (hashOf hashes requests c) found)).moveTo c
        (waiting.resume (hashOf hashes requests c) found)) := by
    simp [step, phase, awaits, value]
  apply Reaches.cons stepped rfl (by simp)
  apply reaches
  · simp [State.moveTo]
  · simp [State.moveTo, State.put]

/-- The handler's answer goes out unchanged, whether it is stored or the slot is
released. -/
theorem Reaches.running {σ : State C} {c : C} (phase : σ.phase c = .running) :
    Reaches settings hashes requests c next σ next := by
  have handled : step settings hashes requests σ (.handlerReturns c next) =
      some (σ.handle c (.returned next) (Handled.returned next).resume) := by
    simp [step, phase]
  apply Reaches.cons handled rfl (by simp)
  by_cases serverError : 500 ≤ next.statusCode
  · have releasing : (σ.handle c (.returned next) (Handled.returned next).resume).phase c =
        .releasing (some next) := by
      simp [State.handle, Handled.resume, serverError]
    exact Reaches.command releasing rfl rfl fun τ finished _ => .finished finished
  · generalize after : σ.handle c (.returned next) (Handled.returned next).resume = τ
    have collecting : τ.phase c = .collecting next := by
      simp [← after, State.handle, Handled.resume, serverError]
    have collected : step settings hashes requests τ (.collect c) =
        some (τ.moveTo c (.storing next)) := by
      simp [step, collecting]
    apply Reaches.cons collected rfl (by simp)
    have storing : (τ.moveTo c (.storing next)).phase c = .storing next := by simp [State.moveTo]
    exact Reaches.command storing rfl rfl fun τ finished _ => .finished finished

theorem Reaches.proceed {σ : State C} {c : C}
    (phase : σ.phase c = proceed (hashOf hashes requests c) result) :
    Reaches settings hashes requests c next σ
      ((answer result (hashOf hashes requests c)).getD next) := by
  unfold Idempotency.proceed at phase
  cases answered : answer result (hashOf hashes requests c) with
  | none =>
    rw [answered] at phase
    exact .running phase
  | some response =>
    rw [answered] at phase
    exact .finished phase

theorem Reaches.acquiring {σ : State C} {c : C} (phase : σ.phase c = .acquiring) :
    Reaches settings hashes requests c next σ
      ((answer (acquireSlot (σ.redis (keyOf settings hashes requests c)))
        (hashOf hashes requests c)).getD next) := by
  cases value : σ.redis (keyOf settings hashes requests c) with
  | none => exact Reaches.command phase rfl value fun τ resumed _ => .proceed resumed
  | some existing =>
    apply Reaches.command phase rfl value
    intro τ reading kept
    apply Reaches.command reading rfl kept
    intro ρ resumed still
    simp only [Phase.resume, Phase.write] at resumed still
    cases parsed : deserialize existing with
    | some record =>
      simp only [parsed] at resumed
      simpa only [acquireSlot, parsed] using Reaches.proceed resumed
    | none =>
      simp only [parsed] at resumed
      have repaired : Reaches settings hashes requests c next ρ
          ((answer .taken (hashOf hashes requests c)).getD next) :=
        Reaches.command resumed rfl still fun υ taken _ => .proceed taken
      simpa only [acquireSlot, parsed] using repaired

/-- `dispatch` is what a request gets that no other one interferes with. -/
theorem dispatch_reached {σ : State C} {c : C} (arriving : σ.phase c = .arriving)
    (next : Response) : Reaches settings hashes requests c next σ
      (dispatch settings hashes σ.redis (requests c) next) := by
  cases passed : gate settings (requests c) with
  | passThrough =>
    have arrived : step settings hashes requests σ (.arrive c) = some (σ.moveTo c .passing) := by
      simp [step, arriving, passed]
    apply Reaches.cons arrived rfl (by simp)
    have handled : step settings hashes requests (σ.moveTo c .passing) (.handlerReturns c next) =
        some ((σ.moveTo c .passing).handle c (.returned next) (.finished (.responded next))) := by
      simp [step, State.moveTo]
    apply Reaches.cons handled rfl (by simp)
    have finished : ((σ.moveTo c .passing).handle c (.returned next)
        (.finished (.responded next))).phase c = .finished (.responded next) := by
      simp [State.handle]
    simp only [dispatch, passed]
    exact Reaches.finished finished
  | refused response =>
    have arrived : step settings hashes requests σ (.arrive c) =
        some (σ.moveTo c (.finished (.responded response))) := by
      simp [step, arriving, passed]
    apply Reaches.cons arrived rfl (by simp)
    have finished : (σ.moveTo c (.finished (.responded response))).phase c =
        .finished (.responded response) := by
      simp [State.moveTo]
    simp only [dispatch, passed]
    exact Reaches.finished finished
  | guarded =>
    have arrived : step settings hashes requests σ (.arrive c) = some (σ.moveTo c .acquiring) := by
      simp [step, arriving, passed]
    apply Reaches.cons arrived rfl (by simp)
    have acquiring : (σ.moveTo c .acquiring).phase c = .acquiring := by simp [State.moveTo]
    simp only [dispatch, passed]
    exact Reaches.acquiring acquiring

end Runs

/-- What a client sees of a response. -/
def Response.content (response : Response) : Nat × List UInt8 :=
  (response.statusCode, response.body)

theorem refusal_status {framework : Framework}
    (refused : refusal framework credentials = some next) :
    next.statusCode = 401 ∨ next.statusCode = 403 := by
  cases credentials with
  | absent =>
    cases Option.some.inj refused
    exact framework.status
  | rejected body =>
    cases Option.some.inj refused
    exact .inl rfl
  | accepted => cases refused

theorem inFlight_not_refusal {framework : Framework}
    (refused : refusal framework credentials = some next) : inFlight.content ≠ next.content := by
  intro same
  have status : 409 = next.statusCode := congrArg Prod.fst same
  have := refusal_status refused
  omega

theorem keyMismatch_not_refusal {framework : Framework}
    (refused : refusal framework credentials = some next) : keyMismatch.content ≠ next.content := by
  intro same
  have status : 422 = next.statusCode := congrArg Prod.fst same
  have := refusal_status refused
  omega

/-- `dispatch` does not answer from the record, or answers with `next` itself. -/
def Agrees (bodyHash : String) (next : Response) (record : Record) : Prop :=
  record.status ≠ some .inProgress ∧
    ∀ cached ∈ recordToCached record,
      (record.bodyHash.getD "" = "" ∨ record.bodyHash.getD "" = bodyHash) ∧
        (cached.statusCode, cached.body) = next.content

theorem answer_agrees {framework : Framework} (refused : refusal framework credentials = some next)
    (bodyHash : String) (record : Record) :
    (∀ response ∈ answer (.existing record) bodyHash, response.content = next.content) ↔
      Agrees bodyHash next record := by
  by_cases progress : record.status = some .inProgress
  · have answered : answer (.existing record) bodyHash = some inFlight := by
      simp [answer, AcquireResult.existing, progress]
    simp [answered, Agrees, progress, inFlight_not_refusal refused]
  cases stored : recordToCached record with
  | none =>
    have answered : answer (.existing record) bodyHash = none := by
      simp [answer, AcquireResult.existing, progress, stored]
    simp [answered, Agrees, progress, stored]
  | some cached =>
    by_cases same : record.bodyHash.getD "" = "" ∨ record.bodyHash.getD "" = bodyHash
    · have answered : answer (.existing record) bodyHash = some (replay cached) := by
        have matching : ¬(record.bodyHash.getD "" ≠ "" ∧ record.bodyHash.getD "" ≠ bodyHash) := by
          tauto
        simp [answer, AcquireResult.existing, progress, stored, matching]
      simp [answered, Agrees, progress, stored, same, replay, Response.content]
    · have answered : answer (.existing record) bodyHash = some keyMismatch := by
        simp [answer, AcquireResult.existing, progress, stored, not_or.mp same]
      simp [answered, Agrees, progress, stored, same, keyMismatch_not_refusal refused]

/-- A step of one of the requests, or a fault of the store. -/
inductive Event (C : Type) where
  | request (action : Action C)
  /-- The awaited command ends with a `RedisError`; `sent` if Redis has run it. -/
  | redisError (c : C) (sent : Bool)
  /-- It ends with an exception that `acquire_slot` and the others do not catch. -/
  | redisRaises (c : C) (sent : Bool)
  | expire (key : String)

/-- Where the request goes on after a `RedisError`: `acquire_slot` fails open, and
the other two only log it. -/
def Phase.failOpen (bodyHash : String) : Phase → Phase
  | .acquiring | .reading | .retrying | .repairing => proceed bodyHash .taken
  | phase => phase.resume bodyHash none

section Histories
variable {C : Type} [DecidableEq C]

section Faults
variable (settings : Settings) (hashes : Hashes) (requests : C → Request)

/-- The awaited command of `c` ends with an error, which takes it to `phase`. -/
def fault (σ : State C) (c : C) (sent : Bool) (phase : Phase) : Option (State C) :=
  if (σ.phase c).awaits then
    let key := keyOf settings hashes requests c
    let value := if sent then
        (σ.phase c).write settings (hashOf hashes requests c) (σ.redis key)
      else σ.redis key
    some ((σ.put key value).moveTo c phase)
  else none

def historyStep (σ : State C) : Event C → Option (State C)
  | .request action => step settings hashes requests σ action
  | .redisError c sent => fault settings hashes requests σ c sent
    ((σ.phase c).failOpen (hashOf hashes requests c))
  | .redisRaises c sent => fault settings hashes requests σ c sent (.finished .raised)
  | .expire key => some (σ.put key none)

end Faults

/-- What the command of a refused request may find under its key. -/
def Transparent (bodyHash : String) (next : Response) (phase : Phase) (value : Option Value) :
    Prop :=
  (phase = .reading →
    ∀ existing ∈ value, ∀ record ∈ deserialize existing, Agrees bodyHash next record) ∧
  (phase = .retrying → value = none)

variable (settings : Settings) (hashes : Hashes) (framework : Framework) (requests : C → Request)
  (credentials : C → Credentials)

/-- No request whose token does not verify finds an answer in the store but its
own refusal. -/
def Unaffected (σ : State C) (event : Event C) : Prop :=
  match event with
  | .request (.command c) => ∀ next ∈ refusal framework (credentials c),
    Transparent (hashOf hashes requests c) next (σ.phase c)
      (σ.redis (keyOf settings hashes requests c))
  | _ => True

/-- The dependency refuses what does not verify. -/
def Authenticates (event : Event C) : Prop :=
  match event with
  | .request (.handlerReturns c response) =>
    ∀ next ∈ refusal framework (credentials c), response = next
  | _ => True

/-- Every answered request whose token does not verify got the answer that it gets
from an empty store. -/
def Undisclosed (σ : State C) : Prop :=
  ∀ c, ∀ next ∈ refusal framework (credentials c), ∀ response,
    σ.phase c = .finished (.responded response) →
    response.content = (dispatch settings hashes (fun _ => none) (requests c) next).content

/-- The response that a refused request holds at each point. -/
def Holds (settings : Settings) (request : Request) (next : Response) : Phase → Prop
  | .arriving => True
  | .passing => gate settings request = .passThrough
  | .acquiring | .reading | .retrying | .repairing | .running => gate settings request = .guarded
  | .releasing (some response) | .collecting response | .storing response =>
    gate settings request = .guarded ∧ response = next
  | .releasing none => gate settings request = .guarded
  | .finished (.responded response) => response.content = (match gate settings request with
    | .refused answered => answered
    | _ => next).content
  | .finished _ => True

/-- Where a step of `c` takes it. -/
inductive Goes (σ : State C) (c : C) : Action C → Phase → Prop where
  | pass : gate settings (requests c) = .passThrough → Goes σ c (.arrive c) .passing
  | refuse : gate settings (requests c) = .refused response →
    Goes σ c (.arrive c) (.finished (.responded response))
  | enter : gate settings (requests c) = .guarded → Goes σ c (.arrive c) .acquiring
  | command : (σ.phase c).awaits = true →
    Goes σ c (.command c)
      ((σ.phase c).resume (hashOf hashes requests c) (σ.redis (keyOf settings hashes requests c)))
  | raise : σ.phase c = .running → Goes σ c (.handlerRaises c) (.releasing none)
  | answer : σ.phase c = .running →
    Goes σ c (.handlerReturns c response) (Handled.returned response).resume
  | passed : σ.phase c = .passing →
    Goes σ c (.handlerReturns c response) (.finished (.responded response))
  | collect : σ.phase c = .collecting response → Goes σ c (.collect c) (.storing response)
  | abandon : outcome = .raised ∨ outcome = .cancelled → Goes σ c action (.finished outcome)

variable {settings hashes framework requests credentials} {σ τ : State C} {next : Response}

theorem step_goes {action : Action C} (stepped : step settings hashes requests σ action = some τ) :
    (∀ d ≠ action.request, τ.phase d = σ.phase d) ∧
      Goes settings hashes requests σ action.request action (τ.phase action.request) := by
  have moved {ρ : State C} {c : C} {phase : Phase} (same : ρ.phase = σ.phase) :
      (∀ d ≠ c, (ρ.moveTo c phase).phase d = σ.phase d) ∧ (ρ.moveTo c phase).phase c = phase := by
    simp +contextual [State.moveTo, same]
  have handled {c : C} {how : Handled} {phase : Phase} :
      (∀ d ≠ c, (σ.handle c how phase).phase d = σ.phase d) ∧
        (σ.handle c how phase).phase c = phase := by
    simp +contextual [State.handle]
  cases action with
  | arrive c =>
    simp only [step] at stepped
    split at stepped
    case isFalse => cases stepped
    case isTrue arriving =>
      split at stepped <;> cases Option.some.inj stepped <;>
        refine ⟨(moved rfl).1, ?_⟩ <;> simp only [Action.request, (moved rfl).2]
      case h_1 passThrough => exact .pass passThrough
      case h_2 refused => exact .refuse refused
      case h_3 guarded => exact .enter guarded
  | command c =>
    simp only [step] at stepped
    split at stepped
    case isFalse => cases stepped
    case isTrue awaits =>
      cases Option.some.inj stepped
      refine ⟨(moved rfl).1, ?_⟩
      simp only [Action.request, (moved (ρ := σ.put _ _) rfl).2]
      exact .command awaits
  | handlerRaises c =>
    simp only [step] at stepped
    split at stepped
    case h_1 running =>
      cases Option.some.inj stepped
      refine ⟨handled.1, ?_⟩
      simp only [Action.request, handled.2]
      exact .raise running
    case h_2 passing =>
      cases Option.some.inj stepped
      refine ⟨handled.1, ?_⟩
      simp only [Action.request, handled.2]
      exact .abandon (.inl rfl)
    case h_3 => cases stepped
  | handlerReturns c response =>
    simp only [step] at stepped
    split at stepped
    case h_1 running =>
      cases Option.some.inj stepped
      refine ⟨handled.1, ?_⟩
      simp only [Action.request, handled.2]
      exact .answer running
    case h_2 passing =>
      cases Option.some.inj stepped
      refine ⟨handled.1, ?_⟩
      simp only [Action.request, handled.2]
      exact .passed passing
    case h_3 => cases stepped
  | collect c =>
    simp only [step] at stepped
    split at stepped
    case h_1 collecting =>
      cases Option.some.inj stepped
      refine ⟨(moved rfl).1, ?_⟩
      simp only [Action.request, (moved rfl).2]
      exact .collect collecting
    case h_2 => cases stepped
  | collectRaises c =>
    simp only [step] at stepped
    split at stepped
    case h_1 collecting =>
      cases Option.some.inj stepped
      refine ⟨(moved rfl).1, ?_⟩
      simp only [Action.request, (moved rfl).2]
      exact .abandon (.inl rfl)
    case h_2 => cases stepped
  | cancel c sent =>
    simp only [step] at stepped
    split at stepped
    case h_1 => cases stepped
    case h_2 =>
      cases Option.some.inj stepped
      refine ⟨(moved rfl).1, ?_⟩
      simp only [Action.request, (moved (ρ := σ.put _ _) rfl).2]
      exact .abandon (.inr rfl)

theorem holds_proceed {request : Request} (guarded : gate settings request = .guarded) :
    Holds settings request next (proceed bodyHash result) ↔
      ∀ response ∈ answer result bodyHash, response.content = next.content := by
  cases answered : answer result bodyHash with
  | none => simp [proceed, answered, Holds, guarded]
  | some response => simp [proceed, answered, Holds, guarded]

theorem holds_taken {request : Request} (guarded : gate settings request = .guarded)
    (bodyHash : String) :
    Holds settings request next (proceed bodyHash .taken) := by
  rw [holds_proceed guarded]
  nofun

/-- A command leaves a refused request with its refusal exactly when what it finds
is transparent. -/
theorem holds_resume {phase : Phase} {request : Request} (awaits : phase.awaits = true)
    (holds : Holds settings request next phase) (refused : refusal framework presented = some next)
    (value : Option Value) :
    Holds settings request next (phase.resume bodyHash value) ↔
      Transparent bodyHash next phase value := by
  cases phase with
  | acquiring =>
    cases value with
    | none => simpa [Transparent, Phase.resume] using holds_taken holds _
    | some existing => simpa [Transparent, Phase.resume, Holds] using holds
  | reading =>
    cases value with
    | none => simpa [Transparent, Phase.resume, Holds] using holds
    | some existing =>
      simp only [Phase.resume, Transparent]
      cases parsed : deserialize existing with
      | none => simpa [Holds, parsed] using holds
      | some record =>
        simpa [holds_proceed holds, parsed] using answer_agrees refused bodyHash record
  | retrying =>
    cases value with
    | none => simpa [Transparent, Phase.resume] using holds_taken holds _
    | some existing =>
      have lost : answer .lostRetry bodyHash = some inFlight := rfl
      simp [Transparent, Phase.resume, holds_proceed holds, lost, inFlight_not_refusal refused]
  | repairing => simpa [Transparent, Phase.resume] using holds_taken holds _
  | releasing response =>
    cases response with
    | none => simp [Transparent, Phase.resume, Holds]
    | some response =>
      obtain ⟨guarded, rfl⟩ := holds
      simp [Transparent, Phase.resume, Holds, guarded]
  | storing response =>
    obtain ⟨guarded, rfl⟩ := holds
    simp [Transparent, Phase.resume, Holds, guarded]
  | arriving | passing | running | collecting | finished => cases awaits

theorem dispatch_empty (request : Request) :
    dispatch settings hashes (fun _ => none) request next = (match gate settings request with
      | .refused answered => answered
      | _ => next) := by
  cases passed : gate settings request <;>
    simp [dispatch, passed, acquireSlot, answer, AcquireResult.taken]

/-- Only an answer can show that a command found something. -/
theorem holds_of_answered {phase : Phase} {request : Request} (awaits : phase.awaits = true)
    (holds : Holds settings request next phase) (value : Option Value)
    (answered : ∀ response, phase.resume bodyHash value = .finished (.responded response) →
      Holds settings request next (.finished (.responded response))) :
    Holds settings request next (phase.resume bodyHash value) := by
  have proceeds (guarded : gate settings request = .guarded) (result : AcquireResult)
      (resumed : phase.resume bodyHash value = proceed bodyHash result) :
      Holds settings request next (phase.resume bodyHash value) := by
    rw [resumed] at answered ⊢
    unfold proceed at answered ⊢
    split
    case h_1 => exact guarded
    case h_2 response ready => exact answered response (by rw [ready])
  cases phase with
  | acquiring =>
    cases value with
    | none => exact proceeds holds .taken rfl
    | some existing => exact holds
  | reading =>
    cases value with
    | none => exact holds
    | some existing =>
      cases parsed : deserialize existing with
      | none => simpa [Phase.resume, parsed, Holds] using holds
      | some record => exact proceeds holds (.existing record) (by simp only [Phase.resume, parsed])
  | retrying =>
    cases value with
    | none => exact proceeds holds .taken rfl
    | some existing => exact proceeds holds .lostRetry rfl
  | repairing => exact proceeds holds .taken rfl
  | releasing response =>
    cases response with
    | none => trivial
    | some response => exact answered response rfl
  | storing response => exact answered response rfl
  | arriving | passing | running | collecting | finished => cases awaits

/-- The invariant: every refused request holds its refusal. -/
def Kept (settings : Settings) (framework : Framework) (requests : C → Request)
    (credentials : C → Credentials) (σ : State C) : Prop :=
  ∀ c, ∀ next ∈ refusal framework (credentials c), Holds settings (requests c) next (σ.phase c)

omit [DecidableEq C] in
theorem Kept.undisclosed (kept : Kept settings framework requests credentials σ) :
    Undisclosed settings hashes framework requests credentials σ := by
  intro c next refused response finished
  have holds := kept c next refused
  rw [finished] at holds
  rw [dispatch_empty]
  exact holds

/-- A step of another kind than a command, or one that finds nothing, keeps it. -/
theorem Kept.request {action : Action C} (kept : Kept settings framework requests credentials σ)
    (authenticates : Authenticates framework credentials (.request action))
    (stepped : step settings hashes requests σ action = some τ)
    (found : ∀ c, action = .command c → (σ.phase c).awaits = true →
      ∀ next ∈ refusal framework (credentials c), Holds settings (requests c) next
        ((σ.phase c).resume (hashOf hashes requests c)
          (σ.redis (keyOf settings hashes requests c)))) :
    Kept settings framework requests credentials τ := by
  obtain ⟨others, goes⟩ := step_goes stepped
  intro d next refused
  by_cases own : d = action.request
  case neg => simpa only [others d own] using kept d next refused
  subst own
  have holds := kept _ next refused
  generalize τ.phase action.request = phase at goes ⊢
  generalize isRequest : action.request = c at *
  cases goes with
  | pass passThrough => exact passThrough
  | refuse refused => simp [Holds, refused]
  | enter guarded => exact guarded
  | command awaits => exact found c rfl awaits next refused
  | raise running =>
    rw [running] at holds
    exact holds
  | answer running =>
    cases authenticates next refused
    rw [running] at holds
    simp only [Handled.resume]
    split
    · exact ⟨holds, rfl⟩
    · exact ⟨holds, rfl⟩
  | passed passing =>
    cases authenticates next refused
    rw [passing] at holds
    simp only [Holds] at holds ⊢
    rw [holds]
  | collect collecting =>
    rw [collecting] at holds
    exact holds
  | abandon outcome => rcases outcome with rfl | rfl <;> trivial

/-- A `RedisError` takes a refused request to the handler, or to the answer that
it already holds. -/
theorem holds_failOpen {phase : Phase} {request : Request} (awaits : phase.awaits = true)
    (holds : Holds settings request next phase) (bodyHash : String) :
    Holds settings request next (phase.failOpen bodyHash) := by
  cases phase with
  | acquiring | reading | retrying | repairing => exact holds_taken holds bodyHash
  | releasing response =>
    cases response with
    | none => trivial
    | some response =>
      obtain ⟨guarded, rfl⟩ := holds
      simp [Phase.failOpen, Phase.resume, Holds, guarded]
  | storing response =>
    obtain ⟨guarded, rfl⟩ := holds
    simp [Phase.failOpen, Phase.resume, Holds, guarded]
  | arriving | passing | running | collecting | finished => cases awaits

theorem Kept.fault {c : C} (kept : Kept settings framework requests credentials σ)
    (stepped : fault settings hashes requests σ c sent phase = some τ)
    (moved : (σ.phase c).awaits = true → ∀ next, Holds settings (requests c) next (σ.phase c) →
      Holds settings (requests c) next phase) :
    Kept settings framework requests credentials τ := by
  unfold Idempotency.fault at stepped
  split at stepped
  case isFalse => cases stepped
  case isTrue awaits =>
    cases Option.some.inj stepped
    intro d next refused
    have holds := kept d next refused
    by_cases own : d = c
    · subst own
      simpa [State.moveTo] using moved awaits next holds
    · simpa [State.moveTo, State.put, own] using holds

theorem Kept.step {event : Event C} (kept : Kept settings framework requests credentials σ)
    (unaffected : Unaffected settings hashes framework requests credentials σ event)
    (authenticates : Authenticates framework credentials event)
    (stepped : historyStep settings hashes requests σ event = some τ) :
    Kept settings framework requests credentials τ := by
  cases event with
  | request action =>
    refine kept.request authenticates stepped ?_
    rintro c rfl awaits next refused
    exact (holds_resume awaits (kept c next refused) refused _).mpr (unaffected next refused)
  | redisError c sent =>
    exact kept.fault stepped fun awaits next holds => holds_failOpen awaits holds _
  | redisRaises c sent => exact kept.fault stepped fun _ _ _ => trivial
  | expire key =>
    cases Option.some.inj stepped
    exact kept

theorem step_command {c : C} (stepped : step settings hashes requests σ (.command c) = some τ) :
    (σ.phase c).awaits = true ∧ τ.phase c =
      (σ.phase c).resume (hashOf hashes requests c)
        (σ.redis (keyOf settings hashes requests c)) := by
  simp only [step] at stepped
  split at stepped
  case isFalse => cases stepped
  case isTrue awaits =>
    cases Option.some.inj stepped
    exact ⟨awaits, by simp [State.moveTo]⟩

theorem Kept.necessary {event : Event C} (kept : Kept settings framework requests credentials σ)
    (stepped : historyStep settings hashes requests σ event = some τ)
    (undisclosed : Undisclosed settings hashes framework requests credentials τ) :
    Unaffected settings hashes framework requests credentials σ event := by
  unfold Unaffected
  split
  case h_1 c =>
    intro next refused
    obtain ⟨awaits, resumed⟩ := step_command stepped
    have holds := kept c next refused
    apply (holds_resume awaits holds refused _).mp
    apply holds_of_answered awaits holds
    intro response answered
    have same := undisclosed c next refused response (resumed.trans answered)
    rw [dispatch_empty] at same
    exact same
  case h_2 => trivial

/-- In every history, the requests whose token does not verify are answered as
from an empty store exactly when none of them finds another request's record. -/
theorem replay_undisclosed_iff (settings : Settings) (hashes : Hashes) (framework : Framework)
    (requests : C → Request) (credentials : C → Credentials) (redis : String → Option Value)
    (history : List (Event C)) (σ : State C)
    (authenticates : ∀ event ∈ history, Authenticates framework credentials event)
    (run : exec (historyStep settings hashes requests) (State.initial redis) history = some σ) :
    (∀ past τ, past <+: history →
      exec (historyStep settings hashes requests) (State.initial redis) past = some τ →
      Undisclosed settings hashes framework requests credentials τ) ↔
    Along (historyStep settings hashes requests)
      (Unaffected settings hashes framework requests credentials)
        (State.initial redis) history := by
  have fresh : Kept settings framework requests credentials (State.initial redis) := by
    intro c next refused
    trivial
  have dependency : Along (historyStep settings hashes requests)
      (fun _ event => Authenticates framework credentials event) (State.initial redis) history :=
    along_of_forall (fun event isEvent _ => authenticates event isEvent) _
  exact reached_iff_along (Kept settings framework requests credentials)
    (fun before _ stepped undisclosed => before.necessary stepped undisclosed)
    (fun before authentic stepped unaffected => before.step unaffected authentic stepped)
    Kept.undisclosed fresh dependency run

end Histories

instance : Decidable (Agrees bodyHash next record) := inferInstanceAs (Decidable (_ ∧ _))

instance : Decidable (Transparent bodyHash next phase value) := inferInstanceAs (Decidable (_ ∧ _))

instance {C : Type} [DecidableEq C] (settings : Settings) (hashes : Hashes) (framework : Framework)
    (requests : C → Request) (credentials : C → Credentials) (σ : State C) :
    (event : Event C) →
      Decidable (Unaffected settings hashes framework requests credentials σ event)
  | .request (.command c) =>
    inferInstanceAs (Decidable (∀ next ∈ refusal framework (credentials c), _))
  | .request (.arrive _) | .request (.handlerRaises _) | .request (.handlerReturns _ _)
  | .request (.collect _) | .request (.collectRaises _) | .request (.cancel _ _)
  | .redisError _ _ | .redisRaises _ _ | .expire _ => inferInstanceAs (Decidable True)

/-- `HTTPBearer` and the signature check of `jwt.decode`. -/
def bearer : Framework := ⟨⟨403, [], utf8 "\x7b\"detail\":\"Not authenticated\"\x7d"⟩, .inr rfl⟩

def badSignature : Credentials :=
  .rejected (jsonResponse 401 "AUTHENTICATION_ERROR" "Invalid token: Signature verification failed."
    []).body

/-- The requests after the first carry forged tokens for its tenant. -/
def forged (c : Fin 5) : Credentials := if c = 0 then .accepted else badSignature

/-- Two requests with the forged token: the second is answered with the stored
refusal of the first. -/
def refusedRun : List (Event (Fin 5)) :=
  List.map .request [.arrive 1, .command 1,
    .handlerReturns 1 ((refusal bearer badSignature).get rfl), .collect 1, .command 1,
    .arrive 2, .command 2, .command 2]

theorem replay_undisclosed_refused : ∃ σ,
    exec (historyStep Settings.default publishHashes publish)
      (State.initial fun _ => none) refusedRun =
      some σ ∧
    Undisclosed Settings.default publishHashes bearer publish forged σ := by
  have complete : (exec (historyStep Settings.default publishHashes publish)
      (State.initial fun _ => none) refusedRun).isSome = true := by decide +kernel
  have run := (Option.some_get complete).symm
  refine ⟨_, run, ?_⟩
  refine (replay_undisclosed_iff Settings.default publishHashes bearer publish forged
    (fun _ => none)
    refusedRun _ ?_ run).mpr ?_ refusedRun _ List.prefix_rfl run
  · simp [refusedRun, Authenticates, forged, badSignature, refusal]
  · decide +kernel

def published : Response :=
  ⟨200, [("content-type", "application/json")], utf8 "\x7b\"status\":\"published\"\x7d"⟩

def forgedRun : List (Event (Fin 5)) :=
  List.map .request [.arrive 0, .command 0, .handlerReturns 0 published, .collect 0, .command 0,
    .arrive 1, .command 1, .command 1]

theorem forged_token_replays : ∃ σ,
    (∀ event ∈ forgedRun, Authenticates bearer forged event) ∧
    exec (historyStep Settings.default publishHashes publish)
      (State.initial fun _ => none) forgedRun =
      some σ ∧
    forged 1 = badSignature ∧
    σ.phase 1 = .finished (.responded ⟨200, [("content-type", "application/json"),
      ("Idempotent-Replay", "true")], utf8 "\x7b\"status\":\"published\"\x7d"⟩) ∧
    ¬Undisclosed Settings.default publishHashes bearer publish forged σ := by
  have reached : (exec (historyStep Settings.default publishHashes publish)
      (State.initial fun _ => none) forgedRun).map (·.phase 1) =
      some (.finished (.responded ⟨200, [("content-type", "application/json"),
        ("Idempotent-Replay", "true")], utf8 "\x7b\"status\":\"published\"\x7d"⟩)) := by
    decide +kernel
  obtain ⟨σ, run, answered⟩ := Option.map_eq_some_iff.mp reached
  refine ⟨σ, ?_, run, rfl, answered, ?_⟩
  · simp [forgedRun, Authenticates, forged, refusal]
  · intro undisclosed
    have same := undisclosed 1 _ rfl _ answered
    rw [dispatch_empty] at same
    revert same
    decide +kernel

end AgentOE.Idempotency
