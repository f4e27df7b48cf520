import AgentOE.Transition
import Mathlib.Data.Fintype.Basic

/-! Two WebSocket connections of one UUID: the sessions that the server keeps for it, the stream
that the pool keeps for it, and the requests that come for it meanwhile. -/
namespace AgentOE.Bridge.WsServer
open Transition

/-- Which of the two connections, in the order in which their sessions are stored. -/
inductive Side where
  | first
  | second
  deriving DecidableEq, Repr

inductive Phase where
  | absent
  /-- After `NewSession`. -/
  | upgraded
  /-- Stored, with `Run` in a goroutine. -/
  | running
  | returned
  /-- The goroutine has also deleted the entry of the UUID. -/
  | gone
  deriving DecidableEq, Repr

structure Session where
  phase : Phase
  cancelled : Bool
  aiPaused : Bool

/-- A stream, with the session from whose context its own is derived. -/
structure Stream where
  id : Nat
  side : Side
  deriving DecidableEq, Repr

/-- A call of `GetStream` by a session. -/
inductive Get where
  | idle
  | loading (side : Side)
  | loaded (side : Side) (stream : Stream)
  | waiting (side : Side)
  | locked (side : Side)
  | creating (side : Side)
  | got (side : Side) (stream : Stream)
  | failed (side : Side)
  deriving DecidableEq, Repr

inductive Loop where
  | vadGrpc
  | aiResponse
  deriving DecidableEq, Repr

inductive Caller (H : Type) where
  | loop (side : Side) (loop : Loop)
  /-- `ForwardDtmf` in the handler of a request. -/
  | dtmf (h : H)
  deriving DecidableEq

/-- `PauseAI` and `ResumeAI` differ in the value only. -/
inductive Request where
  | ai (paused : Bool)
  | dtmf
  deriving DecidableEq, Repr

inductive Handler where
  | idle
  | found (side : Side) (request : Request)
  | done
  deriving DecidableEq, Repr

/-- `sessions` and `streams` are the entries of the UUID, `lock` the caller that has the mutex of
the pool, `failed` the streams whose own context was cancelled. -/
structure State (H : Type) where
  session : Side → Session
  sessions : Option Side
  streams : Option Stream
  lock : Option (Caller H)
  get : Caller H → Get
  handler : H → Handler
  failed : Nat → Bool
  next : Nat

def State.initial (H : Type) : State H where
  session := fun _ => ⟨.absent, false, false⟩
  sessions := none
  streams := none
  lock := none
  get := fun _ => .idle
  handler := fun _ => .idle
  failed := fun _ => false
  next := 0

inductive Label (H : Type) where
  | upgrade (side : Side)
  | store (side : Side)
  | cancel (side : Side)
  | runReturns (side : Side)
  | delete (side : Side)
  | loop (side : Side) (loop : Loop)
  | request (h : H) (request : Request)
  | act (h : H)
  | load (k : Caller H)
  | check (k : Caller H)
  | lock (k : Caller H)
  | recheck (k : Caller H)
  | create (k : Caller H) (ok : Bool)
  | fail (id : Nat)

variable {H : Type} [DecidableEq H]

namespace State
variable (σ : State H)

def setSession (side : Side) (session : Session) : State H :=
  { σ with session := Function.update σ.session side session }

def moveTo (k : Caller H) (get : Get) : State H := { σ with get := Function.update σ.get k get }

def handle (h : H) (handler : Handler) : State H :=
  { σ with handler := Function.update σ.handler h handler }

/-- `s.ctx.Done()` of a stream. -/
def done (stream : Stream) : Bool := σ.failed stream.id || (σ.session stream.side).cancelled

end State

/-- `GetStream` has returned. -/
def Get.settled : Get → Bool
  | .got _ _ | .failed _ => true
  | _ => false

def step (σ : State H) : Label H → Option (State H)
  | .upgrade side =>
    -- The first connection is the one whose session is stored first.
    if (σ.session side).phase = .absent ∧
        (side = .second → (σ.session .first).phase ≠ .absent ∧
          (σ.session .first).phase ≠ .upgraded) then
      some (σ.setSession side { σ.session side with phase := .upgraded })
    else none
  | .store side =>
    if (σ.session side).phase = .upgraded then
      some { σ.setSession side { σ.session side with phase := .running } with sessions := some side }
    else none
  | .cancel side =>
    if (σ.session side).phase = .running then
      some (σ.setSession side { σ.session side with cancelled := true })
    else none
  | .runReturns side =>
    if (σ.session side).phase = .running ∧ (σ.session side).cancelled = true ∧
        (σ.get (.loop side .vadGrpc)).settled ∧ (σ.get (.loop side .aiResponse)).settled then
      some (σ.setSession side { σ.session side with phase := .returned })
    else none
  | .delete side =>
    if (σ.session side).phase = .returned then
      some { σ.setSession side { σ.session side with phase := .gone } with sessions := none }
    else none
  | .loop side loop =>
    if (σ.session side).phase = .running ∧ σ.get (.loop side loop) = .idle then
      some (σ.moveTo (.loop side loop) (.loading side))
    else none
  | .request h request =>
    match σ.handler h with
    | .idle => match σ.sessions with
      | some side => some (σ.handle h (.found side request))
      | none => some (σ.handle h .done)
    | _ => none
  | .act h =>
    match σ.handler h with
    | .found side (.ai paused) =>
      some ((σ.setSession side { σ.session side with aiPaused := paused }).handle h .done)
    | .found side .dtmf => some ((σ.moveTo (.dtmf h) (.loading side)).handle h .done)
    | _ => none
  | .load k =>
    match σ.get k with
    | .loading side => match σ.streams with
      | some stream => some (σ.moveTo k (.loaded side stream))
      | none => some (σ.moveTo k (.waiting side))
    | _ => none
  | .check k =>
    match σ.get k with
    | .loaded side stream =>
      some (σ.moveTo k (if σ.done stream then .waiting side else .got side stream))
    | _ => none
  | .lock k =>
    match σ.get k, σ.lock with
    | .waiting side, none => some { σ.moveTo k (.locked side) with lock := some k }
    | _, _ => none
  | .recheck k =>
    match σ.get k with
    | .locked side => match σ.streams with
      | some stream =>
        if σ.done stream then some { σ.moveTo k (.creating side) with streams := none }
        else some { σ.moveTo k (.got side stream) with lock := none }
      | none => some (σ.moveTo k (.creating side))
    | _ => none
  | .create k ok =>
    match σ.get k with
    | .creating side =>
      if ok then
        let stream := ⟨σ.next, side⟩
        some { σ.moveTo k (.got side stream) with streams := some stream, lock := none, next := σ.next + 1 }
      else some { σ.moveTo k (.failed side) with lock := none }
    | _ => none
  | .fail id =>
    if id < σ.next then some { σ with failed := Function.update σ.failed id true } else none

def State.getSession (σ : State H) : Option Side := σ.sessions

/-- Requests find the second session and act on it, and its streams are its own: made for it,
ended by nothing but their own failure or its end, and not used by the first. -/
structure Isolated (σ : State H) : Prop where
  session : σ.getSession = some .second
  ai : ∀ h paused, σ.handler h = .idle → ∃ τ,
    exec step σ [.request h (.ai paused), .act h] = some τ ∧
    (τ.session .second).aiPaused = paused
  dtmf : ∀ h, σ.handler h = .idle → ∃ τ, exec step σ [.request h .dtmf, .act h] = some τ ∧
    τ.get (.dtmf h) = .loading .second
  created : ∀ k stream, σ.get k = .got .second stream → stream.side = .second
  uncancelled : ∀ k stream, σ.get k = .got .second stream → σ.done stream = true →
    σ.failed stream.id = true ∨ (σ.session .second).cancelled = true
  unshared : ∀ k stream, σ.get k = .got .first stream → stream.side ≠ .second

/-- The first session has finished, and the second has been stored and has not. -/
structure Alone (σ : State H) : Prop where
  first : (σ.session .first).phase = .gone
  second : (σ.session .second).phase = .running

instance (σ : State H) : Decidable (Alone σ) :=
  decidable_of_iff ((σ.session .first).phase = .gone ∧ (σ.session .second).phase = .running)
    ⟨fun both => ⟨both.1, both.2⟩, fun alone => ⟨alone.first, alone.second⟩⟩

/-- The stream that a call of `GetStream` by the first session is about to look at. -/
def State.found (σ : State H) : Get → Option Stream
  | .loaded .first stream => some stream
  | .locked .first => σ.streams
  | _ => none

/-- The stream, if any, is not one of the second session that still lives. -/
def Apart (σ : State H) : Option Stream → Prop
  | some stream => stream.side = .second → σ.done stream = true
  | none => True

/-- The first session deletes the entry before the second is stored, and once it has, no call of
`ForwardDtmf` on it finds a living stream of the second. -/
def Orderly (σ : State H) : Label H → Prop
  | .delete .first => (σ.session .second).phase ≠ .running
  | .check k | .recheck k => Alone σ → Apart σ (σ.found (σ.get k))
  | _ => True

variable {σ τ : State H} {l : Label H}

def Get.caller : Get → Option Side
  | .idle => none
  | .loading side | .loaded side _ | .waiting side | .locked side | .creating side | .got side _
  | .failed side => some side

def Get.stream : Get → Option Stream
  | .loaded _ stream | .got _ stream => some stream
  | _ => none

/-- Nothing has to do with the second session. -/
structure Unknown (σ : State H) : Prop where
  sessions : σ.sessions ≠ some .second
  handler : ∀ h request, σ.handler h ≠ .found .second request
  caller : ∀ k, (σ.get k).caller ≠ some .second
  streams : ∀ stream ∈ σ.streams, stream.side ≠ .second
  held : ∀ k, ∀ stream ∈ (σ.get k).stream, stream.side ≠ .second

/-- Every stream was made for the session that uses it. -/
def Own (σ : State H) : Prop := ∀ k side stream, σ.get k = .got side stream → stream.side = side

omit [DecidableEq H] in
theorem Unknown.own (unknown : Unknown σ) : Own σ := by
  intro k side stream got
  have caller := unknown.caller k
  have held := unknown.held k stream (by rw [got]; rfl)
  rw [got] at caller
  cases side with
  | first =>
    cases made : stream.side with
    | first => rfl
    | second => exact absurd made held
  | second => exact absurd rfl caller

theorem Unknown.moveTo (unknown : Unknown σ) {k : Caller H} {get : Get}
    (caller : get.caller ≠ some .second) (held : ∀ stream ∈ get.stream, stream.side ≠ .second) :
    Unknown (σ.moveTo k get) where
  sessions := unknown.sessions
  handler := unknown.handler
  caller := by
    intro j
    by_cases same : j = k
    · simpa [State.moveTo, same] using caller
    · simpa [State.moveTo, same] using unknown.caller j
  streams := unknown.streams
  held := by
    intro j
    by_cases same : j = k
    · simpa [State.moveTo, same] using held
    · simpa [State.moveTo, same] using unknown.held j

theorem Unknown.handle (unknown : Unknown σ) {h : H} {handler : Handler}
    (other : ∀ request, handler ≠ .found .second request) : Unknown (σ.handle h handler) where
  sessions := unknown.sessions
  handler := by
    intro i
    by_cases same : i = h
    · simpa [State.handle, same] using other
    · simpa [State.handle, same] using unknown.handler i
  caller := unknown.caller
  streams := unknown.streams
  held := unknown.held

omit [DecidableEq H] in
/-- Only the sessions themselves, the lock and failures change. -/
theorem Unknown.congr (unknown : Unknown σ) (sessions : τ.sessions ≠ some .second)
    (handler : τ.handler = σ.handler) (get : τ.get = σ.get)
    (streams : ∀ stream ∈ τ.streams, stream.side ≠ .second) : Unknown τ :=
  ⟨sessions, handler ▸ unknown.handler, get ▸ unknown.caller, streams, get ▸ unknown.held⟩

theorem Own.moveTo (own : Own σ) {k : Caller H} {get : Get}
    (made : ∀ side stream, get = .got side stream → stream.side = side) : Own (σ.moveTo k get) := by
  intro j side stream got
  by_cases same : j = k
  · exact made side stream (by simpa [State.moveTo, same] using got)
  · exact own j side stream (by simpa [State.moveTo, same] using got)

structure Inv (σ : State H) : Prop where
  order : (σ.session .second).phase ≠ .absent →
    (σ.session .first).phase ≠ .absent ∧ (σ.session .first).phase ≠ .upgraded
  cancelled : (σ.session .first).phase = .returned ∨ (σ.session .first).phase = .gone →
    (σ.session .first).cancelled = true
  unknown : (σ.session .second).phase = .absent ∨ (σ.session .second).phase = .upgraded → Unknown σ
  registered : (σ.session .second).phase = .running → σ.sessions = some .second
  own : Alone σ → Own σ

omit [DecidableEq H] in
theorem initial_inv : Inv (.initial H) where
  order := by simp [State.initial]
  cancelled := by simp [State.initial]
  unknown := fun _ =>
    ⟨by simp [State.initial], by simp [State.initial], by simp [State.initial, Get.caller],
    by simp [State.initial], by simp [State.initial, Get.stream]⟩
  registered := by simp [State.initial]
  own := fun alone => by cases alone.first

omit [DecidableEq H] in
/-- A step in which no connection gets further. -/
theorem Inv.calm (inv : Inv σ) (phase : ∀ side, (τ.session side).phase = (σ.session side).phase)
    (cancelled : (σ.session .first).cancelled = true → (τ.session .first).cancelled = true)
    (sessions : τ.sessions = σ.sessions) (own : Alone σ → Own σ → Own τ)
    (unknown : (σ.session .second).phase ≠ .running → Unknown σ → Unknown τ) : Inv τ where
  order := by simpa only [phase] using inv.order
  cancelled := fun ended => cancelled (inv.cancelled (by simpa only [phase] using ended))
  unknown := by
    intro early
    rw [phase] at early
    exact unknown (by rcases early with early | early <;> simp [early]) (inv.unknown early)
  registered := by simpa only [phase, sessions] using inv.registered
  own := by
    intro alone
    have before : Alone σ := ⟨by rw [← phase, alone.first], by rw [← phase, alone.second]⟩
    exact own before (inv.own before)

omit [DecidableEq H] in
theorem update_phase (side : Side) (session : Session)
    (same : session.phase = (σ.session side).phase) (other : Side) :
    ((σ.setSession side session).session other).phase = (σ.session other).phase := by
  by_cases here : other = side
  · subst here
    simpa [State.setSession] using same
  · simp [State.setSession, here]

omit [DecidableEq H] in
/-- A living stream that a session finds was made for it. -/
theorem Inv.finds (inv : Inv σ) (alone : Alone σ) {side : Side} {stream : Stream}
    (living : σ.done stream = false) (apart : side = .first → Apart σ (some stream)) :
    stream.side = side := by
  cases made : stream.side with
  | first =>
    -- The context of the first session is done, and so is every stream made for it.
    have ended := inv.cancelled (.inr alone.first)
    simp [State.done, made, ended] at living
  | second =>
    cases side with
    | first =>
      have done := apart rfl made
      rw [living] at done
      cases done
    | second => rfl

/-- A call of `GetStream` goes on. -/
theorem Inv.fetch (inv : Inv σ) {k : Caller H} {get : Get} {streams : Option Stream}
    {lock : Option (Caller H)} {next : Nat} (caller : get.caller = (σ.get k).caller)
    (made : Alone σ → ∀ side stream, get = .got side stream → stream.side = side)
    (held : Unknown σ → ∀ stream ∈ get.stream, stream.side ≠ .second)
    (kept : Unknown σ → ∀ stream ∈ streams, stream.side ≠ .second) :
    Inv { σ.moveTo k get with streams := streams, lock := lock, next := next } := by
  refine inv.calm (fun _ => rfl) (fun ended => ended) rfl
    (fun alone own => own.moveTo (made alone)) ?_
  intro _ unknown
  have moved : Unknown (σ.moveTo k get) := unknown.moveTo (caller ▸ unknown.caller k) (held unknown)
  exact moved.congr moved.sessions rfl rfl (kept unknown)

omit [DecidableEq H] in
/-- The first connection gets further, without an effect on a second session that runs. -/
theorem Inv.first (inv : Inv σ) {session : Session} {sessions : Option Side}
    (order : (σ.session .second).phase ≠ .absent →
      session.phase ≠ .absent ∧ session.phase ≠ .upgraded)
    (cancelled : session.phase = .returned ∨ session.phase = .gone → session.cancelled = true)
    (entry : Unknown σ → sessions ≠ some .second)
    (kept : (σ.session .second).phase = .running → session.phase ≠ .gone ∧ sessions = σ.sessions) :
    Inv { σ.setSession .first session with sessions := sessions } where
  order := by simpa [State.setSession] using order
  cancelled := by simpa [State.setSession] using cancelled
  unknown := by
    intro early
    have unknown := inv.unknown (by simpa [State.setSession] using early)
    exact unknown.congr (entry unknown) rfl rfl unknown.streams
  registered := by
    intro running
    have running : (σ.session .second).phase = .running := by simpa [State.setSession] using running
    exact (kept running).2.trans (inv.registered running)
  own := by
    intro alone
    have running : (σ.session .second).phase =
      .running := by simpa [State.setSession] using alone.second
    exact absurd (by simpa [State.setSession] using alone.first) (kept running).1

omit [DecidableEq H] in
/-- The second connection gets further, and its session does not run then. -/
theorem Inv.second (inv : Inv σ) {session : Session} {sessions : Option Side}
    (order : (σ.session .first).phase ≠ .absent ∧ (σ.session .first).phase ≠ .upgraded)
    (stopped : session.phase ≠ .running)
    (early : session.phase = .absent ∨ session.phase = .upgraded →
      Unknown σ ∧ sessions = σ.sessions) : Inv { σ.setSession .second session with sessions := sessions } where
  order := by simpa [State.setSession] using fun _ => order
  cancelled := by simpa [State.setSession] using inv.cancelled
  unknown := by
    intro soon
    obtain ⟨unknown, same⟩ := early (by simpa [State.setSession] using soon)
    exact unknown.congr (same ▸ unknown.sessions) rfl rfl unknown.streams
  registered := by simp [State.setSession, stopped]
  own := fun alone => absurd (by simpa [State.setSession] using alone.second) stopped

theorem step_inv (inv : Inv σ) (orderly : Orderly σ l) (stepped : step σ l = some τ) : Inv τ := by
  cases l with
  | upgrade side =>
    simp only [step] at stepped
    split at stepped <;> cases stepped
    rename_i ready
    cases side with
    | first =>
      have early : (σ.session .second).phase = .absent := by
        by_contra later
        exact (inv.order later).1 ready.1
      exact inv.first (absurd early) (by simp) Unknown.sessions (by simp [early])
    | second => exact inv.second (ready.2 rfl) (by simp) fun _ => ⟨inv.unknown (.inl ready.1), rfl⟩
  | store side =>
    simp only [step] at stepped
    split at stepped <;> cases stepped
    rename_i upgraded
    cases side with
    | first =>
      have early : (σ.session .second).phase = .absent := by
        by_contra later
        exact (inv.order later).2 upgraded
      exact inv.first (absurd early) (by simp) (by simp) (by simp [early])
    | second =>
      constructor
      case order => simpa [State.setSession] using inv.order (by simp [upgraded])
      case cancelled => simpa [State.setSession] using inv.cancelled
      case unknown => simp [State.setSession]
      case registered => exact fun _ => rfl
      case own => exact fun _ => (inv.unknown (.inr upgraded)).own
  | cancel side =>
    simp only [step] at stepped
    split at stepped <;> cases stepped
    refine inv.calm (update_phase side _ rfl) ?_ rfl (fun _ own => own) ?_
    · cases side <;> simp [State.setSession]
    · exact fun _ unknown => unknown.congr unknown.sessions rfl rfl unknown.streams
  | runReturns side =>
    simp only [step] at stepped
    split at stepped <;> cases stepped
    rename_i ready
    cases side with
    | first => exact inv.first (by simp) (fun _ => ready.2.1) Unknown.sessions (by simp)
    | second => exact inv.second (inv.order (by simp [ready.1])) (by simp) (by simp)
  | delete side =>
    simp only [step] at stepped
    split at stepped <;> cases stepped
    rename_i returned
    cases side with
    | first =>
      exact inv.first (by simp) (fun _ => inv.cancelled (.inl returned)) (by simp)
        (absurd · orderly)
    | second => exact inv.second (inv.order (by simp [returned])) (by simp) (by simp)
  | loop side loop =>
    simp only [step] at stepped
    split at stepped <;> cases stepped
    rename_i ready
    refine inv.calm (fun _ => rfl) id rfl (fun _ own => own.moveTo (by simp)) ?_
    intro stopped unknown
    refine unknown.moveTo ?_ (by simp [Get.stream])
    rintro ⟨⟩
    exact stopped ready.1
  | request h request =>
    simp only [step] at stepped
    split at stepped
    · split at stepped <;> cases stepped
      · rename_i side registered
        refine inv.calm (fun _ => rfl) id rfl (fun _ own => own) ?_
        intro _ unknown
        refine unknown.handle fun request' same => unknown.sessions ?_
        cases same
        exact registered
      · exact inv.calm (fun _ => rfl) id rfl (fun _ own => own)
          (fun _ unknown => unknown.handle (by simp))
    · cases stepped
  | act h =>
    simp only [step] at stepped
    split at stepped <;> cases stepped
    · rename_i side paused found
      refine inv.calm (update_phase side _ rfl) ?_ rfl (fun _ own => own) ?_
      · cases side <;> simp [State.setSession, State.handle]
      · intro _ unknown
        have kept : Unknown (σ.setSession side { σ.session side with aiPaused := paused }) :=
          unknown.congr unknown.sessions rfl rfl unknown.streams
        exact kept.handle (by simp)
    · rename_i side found
      refine inv.calm (fun _ => rfl) id rfl (fun _ own => own.moveTo (by simp)) ?_
      intro _ unknown
      have other : side ≠ .second := fun same => unknown.handler h .dtmf (same ▸ found)
      exact (unknown.moveTo (by simpa [Get.caller] using other) (by simp [Get.stream])).handle
        (by simp)
  | load k =>
    simp only [step] at stepped
    split at stepped
    · rename_i side loading
      split at stepped <;> cases stepped
      · rename_i stream kept
        refine inv.fetch (by rw [loading]; rfl) (by simp) ?_ fun unknown => unknown.streams
        rintro unknown _ ⟨⟩
        exact unknown.streams stream kept
      · exact inv.fetch (by rw [loading]; rfl) (by simp) (by simp [Get.stream]) fun unknown =>
          unknown.streams
    · cases stepped
  | check k =>
    simp only [step] at stepped
    split at stepped <;> cases stepped
    rename_i side stream loaded
    cases living : σ.done stream with
    | true => exact inv.fetch (by rw [loaded]; rfl) (by simp) (by simp [Get.stream]) fun unknown =>
      unknown.streams
    | false =>
      refine inv.fetch (by rw [loaded]; rfl) ?_ ?_ fun unknown => unknown.streams
      · rintro alone _ _ ⟨⟩
        have apart : Apart σ (σ.found (.loaded side stream)) := loaded ▸ orderly alone
        exact inv.finds alone living fun isFirst => by rwa [isFirst] at apart
      · rintro unknown _ ⟨⟩
        exact unknown.held k stream (by rw [loaded]; rfl)
  | lock k =>
    simp only [step] at stepped
    split at stepped <;> cases stepped
    rename_i side waiting _
    exact inv.fetch (by rw [waiting]; rfl) (by simp) (by simp [Get.stream]) fun unknown =>
      unknown.streams
  | recheck k =>
    simp only [step] at stepped
    split at stepped
    · rename_i side locked
      split at stepped
      · rename_i stream kept
        split at stepped <;> cases stepped
        · exact inv.fetch (by rw [locked]; rfl) (by simp) (by simp [Get.stream]) (by simp)
        · rename_i living
          refine inv.fetch (by rw [locked]; rfl) ?_ ?_ fun unknown => unknown.streams
          · rintro alone _ _ ⟨⟩
            have apart : Apart σ (σ.found (.locked side)) := locked ▸ orderly alone
            refine inv.finds alone (by simpa using living) fun isFirst => ?_
            rwa [isFirst, State.found, kept] at apart
          · rintro unknown _ ⟨⟩
            exact unknown.streams stream kept
      · cases stepped
        exact inv.fetch (by rw [locked]; rfl) (by simp) (by simp [Get.stream]) fun unknown =>
          unknown.streams
    · cases stepped
  | create k ok =>
    simp only [step] at stepped
    split at stepped
    · rename_i side creating
      have other (unknown : Unknown σ) : side ≠ .second := by
        intro same
        have caller := unknown.caller k
        rw [creating, same] at caller
        exact caller rfl
      split at stepped <;> cases stepped
      · refine inv.fetch (by rw [creating]; rfl) ?_ ?_ ?_
        · rintro _ _ _ ⟨⟩
          rfl
        · rintro unknown _ ⟨⟩
          exact other unknown
        · rintro unknown _ ⟨⟩
          exact other unknown
      · exact inv.fetch (by rw [creating]; rfl) (by simp) (by simp [Get.stream]) fun unknown =>
          unknown.streams
    · cases stepped
  | fail id =>
    simp only [step] at stepped
    split at stepped <;> cases stepped
    exact inv.calm (fun _ => rfl) (fun ended => ended) rfl (fun _ own => own)
      (fun _ unknown => unknown.congr unknown.sessions rfl rfl unknown.streams)

theorem Inv.isolated (inv : Inv σ) (alone : Alone σ) : Isolated σ where
  session := inv.registered alone.second
  ai := by
    intro h paused idle
    simp [exec, step, idle, inv.registered alone.second, State.handle, State.setSession]
  dtmf := by
    intro h idle
    simp [exec, step, idle, inv.registered alone.second, State.handle, State.moveTo]
  created := fun k stream got => inv.own alone k .second stream got
  uncancelled := by
    intro k stream got ended
    rw [State.done, inv.own alone k .second stream got, Bool.or_eq_true] at ended
    exact ended
  unshared := by
    intro k stream got
    rw [inv.own alone k .first stream got]
    decide

theorem orderly_of_isolated (stepped : step σ l = some τ) (isolated : Alone τ → Isolated τ) :
    Orderly σ l := by
  cases l with
  | delete side =>
    cases side with
    | first =>
      intro running
      simp only [step] at stepped
      split at stepped <;> cases stepped
      have alone : Alone { σ.setSession .first { σ.session .first with phase := .gone } with sessions := none } :=
        ⟨by simp [State.setSession], by simpa [State.setSession] using running⟩
      cases (isolated alone).session
    | second => trivial
  | check k =>
    intro alone
    simp only [step] at stepped
    split at stepped
    · rename_i side stream loaded
      rw [loaded]
      cases side with
      | first =>
        intro made
        by_contra living
        rw [if_neg living] at stepped
        cases stepped
        exact (isolated ⟨alone.first, alone.second⟩).unshared k stream (by simp [State.moveTo]) made
      | second => trivial
    · cases stepped
  | recheck k =>
    intro alone
    simp only [step] at stepped
    split at stepped
    · rename_i side locked
      rw [locked]
      cases side with
      | first =>
        cases kept : σ.streams with
        | none =>
          rw [State.found, kept]
          trivial
        | some stream =>
          rw [State.found, kept]
          intro made
          by_contra living
          simp only [kept, living, if_false] at stepped
          cases stepped
          exact (isolated ⟨alone.first, alone.second⟩).unshared k stream
            (by simp [State.moveTo]) made
      | second => trivial
    · cases stepped
  | _ => trivial

/-- The second session is isolated from the first in every state of a run if and only if each step
meets the condition. -/
theorem reconnect_isolated_iff (run : exec step (.initial H) labels = some σ) :
    (∀ past τ, past <+: labels → exec step (.initial H) past = some τ → Alone τ → Isolated τ) ↔
      Along step Orderly (.initial H) labels :=
  reached_iff_along Inv (fun _ _ stepped isolated => orderly_of_isolated stepped isolated)
    (fun inv _ stepped orderly => step_inv inv orderly stepped) Inv.isolated initial_inv
      (along_true _) run

instance (stream : Option Stream) : Decidable (Apart σ stream) := by
  cases stream <;> unfold Apart <;> infer_instance

instance : Decidable (Orderly σ l) :=
  match l with
  | .delete .first => inferInstanceAs (Decidable (_ ≠ _))
  | .check _ | .recheck _ => inferInstanceAs (Decidable (Alone σ → Apart σ _))
  | .delete .second | .upgrade _ | .store _ | .cancel _ | .runReturns _ | .loop _ _ | .request _ _
  | .act _ | .load _ | .lock _ | .create _ _ | .fail _ => .isTrue trivial

/-- The first session with its two loops on one stream. -/
def connected : List (Label Unit) :=
  [.upgrade .first, .store .first, .loop .first .vadGrpc, .loop .first .aiResponse,
    .load (.loop .first .vadGrpc), .lock (.loop .first .vadGrpc), .recheck (.loop .first .vadGrpc),
    .create (.loop .first .vadGrpc) true, .load (.loop .first .aiResponse),
    .check (.loop .first .aiResponse)]

/-- The second session is stored when the first has deleted its entry; it replaces the stale
stream. -/
def patient : List (Label Unit) := connected ++
  ([.cancel .first, .upgrade .second, .runReturns .first, .delete .first, .store .second,
    .loop .second .vadGrpc, .load (.loop .second .vadGrpc), .check (.loop .second .vadGrpc),
    .lock (.loop .second .vadGrpc), .recheck (.loop .second .vadGrpc),
    .create (.loop .second .vadGrpc) true, .request () .dtmf, .act ()] : List (Label Unit))

theorem patient_isolated : ∃ σ, exec step (.initial Unit) patient = some σ ∧ Alone σ ∧
    Isolated σ := by
  obtain ⟨σ, run, alone⟩ : ∃ σ, exec step (.initial Unit) patient = some σ ∧ Alone σ :=
    ⟨_, rfl, rfl, rfl⟩
  have orderly : Along step Orderly (.initial Unit) patient := by decide +kernel
  exact ⟨σ, run, alone, (reconnect_isolated_iff run).mpr orderly patient σ
    (List.prefix_refl _) run alone⟩

/-- The second session is stored before the first is cancelled. -/
def overlapping : List (Label Unit) := connected ++
  ([.upgrade .second, .store .second, .loop .second .vadGrpc, .load (.loop .second .vadGrpc),
    .check (.loop .second .vadGrpc), .cancel .first, .runReturns .first, .delete .first] :
      List (Label Unit))

theorem overlapping_session_lost : ∃ σ, exec step (.initial Unit) overlapping = some σ ∧ Alone σ ∧
    σ.getSession = none ∧ (∃ stream, σ.get (.loop .second .vadGrpc) = .got .second stream ∧
      stream.side = .first ∧ σ.done stream = true) ∧ ¬Isolated σ := by
  refine ⟨_, rfl, ⟨rfl, rfl⟩, rfl, ⟨_, rfl, rfl, rfl⟩, ?_⟩
  intro isolated
  cases isolated.session

end AgentOE.Bridge.WsServer
