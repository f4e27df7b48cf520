import Mathlib.Control.Monad.Basic
import AgentOE.Coroutine

/-! What the two call handlers take and give back: the session lease, the
admission counter and the gauge of active sessions. Every await ends as it is
told to, by a value, an exception or a cancellation. -/
namespace AgentOE.Session.Handlers
open Coroutine

inductive Failure where
  | redisError
  | error
  | cancelled
  deriving DecidableEq

/-- `except Exception` does not catch `CancelledError`. -/
def Failure.isException (failure : Failure) : Bool := failure ≠ .cancelled

def Failure.isRedisError (failure : Failure) : Bool := failure = .redisError

/-- How a Redis command ends. One that fails may have taken effect all the same. -/
inductive Write where
  | done
  | failed (failure : Failure) (took : Bool)
  deriving DecidableEq

inductive SetNx where
  | set
  | present
  | failed (failure : Failure) (took : Bool)
  deriving DecidableEq

def Write.took : Write → Bool
  | .done => true
  | .failed _ took => took

/-- How often each resource was taken and given back, and the handler's variables
that its cleanup reads. -/
structure Held where
  acquired : Nat
  released : Nat
  incremented : Nat
  decremented : Nat
  incActive : Nat
  decActive : Nat
  sessionId : Option String
  orchestrator : Bool
  deriving DecidableEq

def Held.nothing : Held := ⟨0, 0, 0, 0, 0, 0, none, false⟩

/-- A handler that has finished has given back what it took. -/
structure Paired (held : Held) : Prop where
  lease : 0 < held.acquired → held.released = 1
  admission : held.decremented = 1 ↔ 0 < held.incremented
  active : held.decActive = 1 ↔ 0 < held.incActive

abbrev Handler := Coroutine Held Failure

/-- An await without an effect of its own on what is held. -/
abbrev Awaited := Except Failure Unit

def perform (effect : Held → Held) : Write → Handler Unit
  | .done => modify effect
  | .failed failure took => do
    if took then modify effect
    await (.error failure)

/-! `redis_client` and `admission_middleware`. -/

def Held.acquire (held : Held) : Held := { held with acquired := held.acquired + 1 }

def Held.release (held : Held) : Held := { held with released := held.released + 1 }

def Held.increment (held : Held) : Held := { held with incremented := held.incremented + 1 }

def Held.decrement (held : Held) : Held := { held with decremented := held.decremented + 1 }

def Held.activate (held : Held) : Held := { held with incActive := held.incActive + 1 }

def Held.deactivate (held : Held) : Held := { held with decActive := held.decActive + 1 }

def Held.setSession (held : Held) (sessionId : Option String) : Held :=
  { held with sessionId := sessionId }

def Held.setOrchestrator (held : Held) (orchestrator : Bool) : Held :=
  { held with orchestrator := orchestrator }

def setNx : SetNx → Handler Bool
  | .set => do
    modify Held.acquire
    pure true
  | .present => pure false
  | .failed failure took => do
    if took then modify Held.acquire
    await (.error failure)

def acquireLease (command : SetNx) : Handler Bool :=
  (setNx command).catching Failure.isRedisError (pure false)

def releaseLease (command : Write) : Handler Unit :=
  (perform Held.release command).catching Failure.isRedisError (pure ())

/-- The `INCR`, and the `SET` of the guard key. -/
def incrementSessionCount (incr : Write) (guard : Awaited) : Handler Unit :=
  catching Failure.isException (do perform Held.increment incr; await guard) (pure ())

def decrementSessionCount (eval : Write) : Handler Unit :=
  (perform Held.decrement eval).catching Failure.isException (pure ())

def incActiveSessions : Handler Unit := modify Held.activate

def decActiveSessions : Handler Unit := modify Held.deactivate

/-- `CallSessionOrchestrator.end_session`; `closed` is its flag on entry. -/
def endSession (closed : Bool) (persisted : Awaited) : Handler Unit :=
  if closed then pure () else (await persisted).catching Failure.isException (pure ())

/-! The WebSocket handler. -/

structure OriginSettings where
  wsAllowedOrigins : List String
  wsAllowEmptyOrigin : Bool

def isOriginAllowed (settings : OriginSettings) (origin : Option String) : Bool :=
  match origin with
  | none => settings.wsAllowEmptyOrigin
  | some origin => if origin = "" then settings.wsAllowEmptyOrigin
    else origin ∈ settings.wsAllowedOrigins

structure Claims where
  tenantId : String
  clientId : String

/-- One turn of the receive loop that does not start with the idle timeout. -/
inductive Turn where
  /-- `wait_for` raised `TimeoutError`. -/
  | timedOut
  | receiveFailed (failure : Failure)
  | disconnect
  /-- A message of neither type. -/
  | other
  | audio (handled : Awaited) (shouldClose : Bool)
  | control (handled : Awaited) (shouldClose : Bool)
  /-- Text that is not JSON, or neither bytes nor text. -/
  | unhandled (shouldClose : Bool)

/-- The turn leaves the loop by `break`. -/
def Turn.run : Turn → Handler Bool
  | .timedOut => pure false
  | .receiveFailed failure => await (.error failure)
  | .disconnect => pure true
  | .other => pure false
  | .audio handled shouldClose | .control handled shouldClose => do
    await handled
    pure shouldClose
  | .unhandled shouldClose => pure shouldClose

/-- The idle timeout ends a loop that no turn has left. -/
def receiveLoop : List Turn → Handler Unit
  | [] => pure ()
  | turn :: turns => do
    if ← turn.run then pure () else receiveLoop turns

/-- Each send drops its exception. -/
def sendEventsDirect : List Awaited → Handler Unit
  | [] => pure ()
  | sent :: rest => do
    (await sent).catching Failure.isException (pure ())
    sendEventsDirect rest

/-- `BoundedWSSender.close` waits for its drain loop, and takes a cancellation for
the end of it. -/
def closeSender (drained : Awaited) : Handler Unit :=
  (await drained).catching (· = .cancelled) (pure ())

/-- How each await of `vbgw_websocket` ends. -/
structure WebSocketCall where
  origin : Option String
  claims : Option Claims
  rejectClose : Awaited
  killSwitch : Except Failure Bool
  suspendClose : Awaited
  accept : Awaited
  acquire : SetNx
  conflictSends : List Awaited
  conflictClose : Awaited
  /-- `ok false` when the session has ended. -/
  restore : Except Failure Bool
  endedSends : List Awaited
  endedClose : Awaited
  senderStart : Awaited
  increment : Write
  guard : Awaited
  turns : List Turn
  orchestratorClosed : Bool
  persistEnd : Awaited
  senderDrained : Awaited
  endSends : List Awaited
  release : Write
  decrement : Write
  finalClose : Awaited

/-- The tenant is suspended. The exception handler covers the close as well. -/
def checkKillSwitch (call : WebSocketCall) : Handler Bool :=
  catching Failure.isException
    (do
      if ← await call.killSwitch then
        await call.suspendClose
        pure true
      else pure false)
    (pure false)

/-- The handler up to `ws.accept`; `true` when it goes on. -/
def acceptConnection (settings : OriginSettings) (call : WebSocketCall) : Handler Bool := do
  if !isOriginAllowed settings call.origin then
    await call.rejectClose
    return false
  let some claims := call.claims
    | do
      await call.rejectClose
      return false
  if claims.tenantId = "" ∨ claims.clientId = "" then
    await call.rejectClose
    return false
  if ← checkKillSwitch call then return false
  await call.accept
  return true

/-- The `finally` block. -/
def closeConnection (call : WebSocketCall) : Handler Unit := do
  endSession call.orchestratorClosed call.persistEnd
  closeSender call.senderDrained
  sendEventsDirect call.endSends
  releaseLease call.release
  decrementSessionCount call.decrement
  (await call.finalClose).catching Failure.isException (pure ())

/-- The handler once it has its lease. -/
def serve (call : WebSocketCall) : Handler Unit := do
  if ← await call.restore then
    await call.senderStart
    incrementSessionCount call.increment call.guard
    ((receiveLoop call.turns).catching Failure.isException (pure ())).ensure (closeConnection call)
  else
    sendEventsDirect call.endedSends
    await call.endedClose
    releaseLease call.release

def vbgwWebsocket (settings : OriginSettings) (call : WebSocketCall) : Handler Unit := do
  if ← acceptConnection settings call then
    if ← acquireLease call.acquire then
      serve call
    else
      sendEventsDirect call.conflictSends
      await call.conflictClose

/-! The gRPC handler. -/

structure Chunk where
  sessionId : String
  dtmfDigit : String
  isSpeaking : Bool
  audioData : List UInt8
  /-- How the one or two calls of the orchestrator for it end. -/
  handled : Awaited
  handledNext : Awaited

/-- `chunk.session_id or "anonymous"`. -/
def Chunk.session (chunk : Chunk) : String :=
  if chunk.sessionId = "" then "anonymous" else chunk.sessionId

/-- How each await of `StreamSession` ends. A `put` on its unbounded queue never
suspends. -/
structure StreamCall where
  /-- The reader task ran before it was cancelled. -/
  started : Bool
  chunks : List Chunk
  /-- The end of the request iterator. -/
  ended : Awaited
  acquire : SetNx
  restore : Except Failure Bool
  listening : Awaited
  responses : List Awaited
  release : Write
  orchestratorClosed : Bool
  persistEnd : Awaited

/-- The reader on its first chunk; `false` when it returns. -/
def openSession (call : StreamCall) (chunk : Chunk) : Handler Bool := do
  modify (Held.setSession · (some chunk.session))
  if chunk.session = "" then return false
  if !(← acquireLease call.acquire) then
    modify (Held.setSession · none)
    return false
  let restored ← await call.restore
  modify (Held.setOrchestrator · restored)
  if !restored then return false
  incActiveSessions
  await call.listening
  return true

/-- The reader on a chunk of an open session. Returns the next `last_speaking`. -/
def handleChunk (chunk : Chunk) (lastSpeaking : Bool) : Handler Bool := do
  if chunk.dtmfDigit ≠ "" then
    await chunk.handled
    return lastSpeaking
  if !chunk.isSpeaking && lastSpeaking then
    await chunk.handled
    await chunk.handledNext
  else if chunk.audioData ≠ [] then
    await chunk.handled
  return chunk.isSpeaking

def readChunks (call : StreamCall) : List Chunk → Bool → Handler Unit
  | [], _ => await call.ended
  | chunk :: chunks, lastSpeaking => do
    if (← get).sessionId = none then
      if !(← openSession call chunk) then return
    let speaking ← handleChunk chunk lastSpeaking
    readChunks call chunks speaking

def reader (call : StreamCall) : Handler Unit :=
  (readChunks call call.chunks false).catching Failure.isException (pure ())

/-- `get` and `yield` until the sentinel. -/
def writeResponses : List Awaited → Handler Unit
  | [] => pure ()
  | response :: responses => do
    await response
    writeResponses responses

/-- The `finally` block after the reader has ended. -/
def endStream (call : StreamCall) : Handler Unit := do
  if (← get).sessionId.getD "" ≠ "" then
    (releaseLease call.release).catching Failure.isException (pure ())
    if (← get).orchestrator then
      (endSession call.orchestratorClosed call.persistEnd).catching Failure.isException (pure ())
    decActiveSessions

/-- The reader and the writer share nothing but the queue, so all that the reader
does is placed at the await of its end. -/
def closeStream (call : StreamCall) : Handler Unit := do
  if call.started then (reader call).catching (fun _ => true) (pure ())
  endStream call

def streamSession (call : StreamCall) : Handler Unit :=
  (writeResponses call.responses).ensure (closeStream call)

/-! What each part leaves. -/

def Write.reply : Write → Awaited
  | .done => .ok ()
  | .failed failure _ => .error failure

def Write.apply (write : Write) (effect : Held → Held) (held : Held) : Held :=
  if write.took then effect held else held

@[simp] theorem perform_apply (effect : Held → Held) (write : Write) (held : Held) :
    perform effect write held = (write.reply, write.apply effect held) := by
  cases write with
  | done => rfl
  | failed failure took => cases took <;> rfl

@[simp] theorem releaseLease_apply (write : Write) (held : Held) :
    releaseLease write held =
      (rescue Failure.isRedisError () write.reply, write.apply Held.release held) := by
  simp [releaseLease]

@[simp] theorem decrementSessionCount_apply (write : Write) (held : Held) :
    decrementSessionCount write held =
      (rescue Failure.isException () write.reply, write.apply Held.decrement held) := by
  simp [decrementSessionCount]

/-- The handler is cancelled in `increment_session_count`. -/
def IncrementCancelled (incr : Write) (guard : Awaited) : Prop :=
  incr.reply = .error .cancelled ∨ incr.reply = .ok () ∧ guard = .error .cancelled

theorem rescue_exception (result : Awaited) :
    rescue Failure.isException () result = .ok () ∧ result ≠ .error .cancelled ∨
      rescue Failure.isException () result = .error .cancelled ∧ result = .error .cancelled := by
  rcases result with failure | _
  · cases failure <;> simp [rescue, Failure.isException]
  · simp [rescue]

theorem incrementSessionCount_state (incr : Write) (guard : Awaited) (held : Held) :
    (incrementSessionCount incr guard held).2 = incr.apply Held.increment held := by
  cases incr with
  | done =>
    have ended : perform Held.increment .done held = (.ok (), held.increment) := rfl
    simp [incrementSessionCount, bind_ok _ ended, Write.apply, Write.took]
  | failed failure took =>
    have ended := perform_apply Held.increment (.failed failure took) held
    simp [incrementSessionCount, bind_error _ ended]

theorem incrementSessionCount_returns (incr : Write) (guard : Awaited) (held : Held) :
    (incrementSessionCount incr guard held).1 = .ok () ∧ ¬IncrementCancelled incr guard ∨
      (incrementSessionCount incr guard held).1 = .error .cancelled ∧
        IncrementCancelled incr guard := by
  cases incr with
  | done =>
    have ended : perform Held.increment .done held = (.ok (), held.increment) := rfl
    simpa [incrementSessionCount, bind_ok _ ended, IncrementCancelled, Write.reply] using
      rescue_exception guard
  | failed failure took =>
    have ended := perform_apply Held.increment (.failed failure took) held
    simpa [incrementSessionCount, bind_error _ ended, IncrementCancelled, Write.reply] using
      rescue_exception (.error failure)

theorem sendEventsDirect_apply (sends : List Awaited) (held : Held) :
    sendEventsDirect sends held =
      (if .error .cancelled ∈ sends then .error .cancelled else .ok (), held) := by
  induction sends with
  | nil => rfl
  | cons sent rest ih =>
    have dropped : ((await sent).catching Failure.isException (pure ()) : Handler Unit) held =
        (rescue Failure.isException () sent, held) := by
      simp
    rcases rescue_exception sent with ⟨returned, uncancelled⟩ | ⟨raised, rfl⟩
    · rw [returned] at dropped
      simp only [sendEventsDirect, bind_ok _ dropped, ih, List.mem_cons, uncancelled.symm, false_or]
    · rw [raised] at dropped
      simp [sendEventsDirect, bind_error _ dropped]

theorem silent_turn (turn : Turn) : Silent turn.run := by
  cases turn with
  | audio handled shouldClose | control handled shouldClose =>
    exact (silent_await handled).bind fun _ => silent_pure shouldClose
  | receiveFailed failure => exact silent_await _
  | timedOut | disconnect | other | unhandled => exact silent_pure _

theorem silent_receiveLoop (turns : List Turn) : Silent (receiveLoop turns) := by
  induction turns with
  | nil => exact silent_pure ()
  | cons turn turns ih =>
    refine (silent_turn turn).bind fun left => ?_
    cases left
    · exact ih
    · exact silent_pure ()

/-- `check_kill_switch` lets the call through. -/
def WebSocketCall.unsuspended (call : WebSocketCall) : Bool :=
  match call.killSwitch, call.suspendClose with
  | .ok false, _ => true
  | .ok true, .ok _ => false
  | .ok true, .error failure | .error failure, _ => failure.isException

/-- The handler gets past `ws.accept`. -/
def WebSocketCall.admitted (settings : OriginSettings) (call : WebSocketCall) : Bool :=
  isOriginAllowed settings call.origin &&
    call.claims.any (fun claims => claims.tenantId ≠ "" && claims.clientId ≠ "") &&
    call.unsuspended && call.accept.toOption.isSome

theorem checkKillSwitch_apply (call : WebSocketCall) (held : Held) :
    (checkKillSwitch call held).2 = held ∧
      ((checkKillSwitch call held).1 = .ok false ↔ call.unsuspended = true) := by
  rcases killSwitch : call.killSwitch with failure | active
  · cases failure <;>
      simp [checkKillSwitch, WebSocketCall.unsuspended, killSwitch, rescue, Failure.isException]
  cases active with
  | false => simp [checkKillSwitch, WebSocketCall.unsuspended, killSwitch, rescue]
  | true =>
    rcases suspendClose : call.suspendClose with failure | _
    · cases failure <;> simp [checkKillSwitch, WebSocketCall.unsuspended, killSwitch, suspendClose,
        rescue, Failure.isException]
    · simp [checkKillSwitch, WebSocketCall.unsuspended, killSwitch, suspendClose, rescue]

theorem acceptConnection_apply (settings : OriginSettings) (call : WebSocketCall) (held : Held) :
    (acceptConnection settings call held).2 = held ∧
      ((acceptConnection settings call held).1 = .ok true ↔ call.admitted settings = true) := by
  have rejected (close : Awaited) : ((do await close; pure false : Handler Bool) held).2 = held ∧
      ((do await close; pure false : Handler Bool) held).1 ≠ .ok true := by
    cases close <;> simp
  unfold acceptConnection WebSocketCall.admitted
  cases isOriginAllowed settings call.origin with
  | false => simpa using rejected call.rejectClose
  | true =>
    cases call.claims with
    | none => simpa using rejected call.rejectClose
    | some claims =>
      by_cases missing : claims.tenantId = "" ∨ claims.clientId = ""
      · rcases missing with missing | missing <;> simpa [missing] using rejected call.rejectClose
      obtain ⟨silent, passed⟩ := checkKillSwitch_apply call held
      rcases checked : checkKillSwitch call held with ⟨result, t⟩
      simp only [checked] at silent passed
      subst silent
      rcases result with failure | suspended
      · have stopped : call.unsuspended = false := by simpa using mt passed.mpr
        simp [missing, bind_error _ checked, stopped]
      cases suspended with
      | true =>
        have stopped : call.unsuspended = false := by simpa using mt passed.mpr
        simp [missing, bind_ok _ checked, stopped]
      | false =>
        have unsuspended : call.unsuspended = true := passed.mp rfl
        have named : claims.tenantId ≠ "" ∧ claims.clientId ≠ "" := not_or.mp missing
        cases accept : call.accept <;>
          simp [bind_ok _ checked, unsuspended, named, Except.toOption]

/-- `release_lease` returns. -/
def Write.Handled (write : Write) : Prop :=
  write.reply = .ok () ∨ write.reply = .error .redisError

theorem rescue_redisError (write : Write) :
    rescue Failure.isRedisError () write.reply = .ok () ∧ write.Handled ∨
      ∃ failure, rescue Failure.isRedisError () write.reply = .error failure ∧ ¬write.Handled := by
  unfold Write.Handled
  rcases write.reply with failure | _
  · cases failure <;> simp [rescue, Failure.isRedisError]
  · simp [rescue]

/-- The orchestrator's `end_session` returns. -/
def EndReturns (closed : Bool) (persisted : Awaited) : Prop :=
  closed = true ∨ persisted ≠ .error .cancelled

instance : Decidable (EndReturns closed persisted) := inferInstanceAs (Decidable (_ ∨ _))

theorem endSession_apply (closed : Bool) (persisted : Awaited) (held : Held) :
    endSession closed persisted held = (.ok (), held) ∧ EndReturns closed persisted ∨
      endSession closed persisted held = (.error .cancelled, held) ∧
        ¬EndReturns closed persisted := by
  cases closed with
  | true => simp [endSession, EndReturns]
  | false =>
    rcases rescue_exception persisted with ⟨returned, uncancelled⟩ | ⟨raised, rfl⟩
    · simp [endSession, EndReturns, returned, uncancelled]
    · simp [endSession, EndReturns, raised]

theorem closeSender_apply (drained : Awaited) (held : Held) :
    closeSender drained held = (.ok (), held) ∧ (drained = .ok () ∨ drained = .error .cancelled) ∨
      ∃ failure, closeSender drained held = (.error failure, held) ∧
        ¬(drained = .ok () ∨ drained = .error .cancelled) := by
  rcases drained with failure | _
  · cases failure <;> simp [closeSender, rescue]
  · simp [closeSender, rescue]

/-- The `finally` block of the WebSocket handler gets to its release. -/
structure WebSocketCall.Closes (call : WebSocketCall) : Prop where
  ended : EndReturns call.orchestratorClosed call.persistEnd
  drained : call.senderDrained = .ok () ∨ call.senderDrained = .error .cancelled
  sent : .error .cancelled ∉ call.endSends

theorem closeConnection_cut (call : WebSocketCall) (held : Held) (cut : ¬call.Closes) :
    (closeConnection call held).2 = held := by
  rcases endSession_apply call.orchestratorClosed call.persistEnd held with
    ⟨returned, ended⟩ | ⟨raised, -⟩
  case inr => simp [closeConnection, bind_error _ raised]
  rcases closeSender_apply call.senderDrained held with ⟨closed, drained⟩ | ⟨failure, raised, -⟩
  case inr => simp [closeConnection, bind_ok _ returned, bind_error _ raised]
  have cancelled : .error .cancelled ∈ call.endSends := by
    by_contra sent
    exact cut ⟨ended, drained, sent⟩
  have raised := sendEventsDirect_apply call.endSends held
  rw [if_pos cancelled] at raised
  simp [closeConnection, bind_ok _ returned, bind_ok _ closed, bind_error _ raised]

theorem closeConnection_state (call : WebSocketCall) (held : Held) (closes : call.Closes) :
    (call.release.Handled → (closeConnection call held).2 =
      call.decrement.apply Held.decrement (call.release.apply Held.release held)) ∧
    (¬call.release.Handled → (closeConnection call held).2 =
      call.release.apply Held.release held) := by
  obtain ⟨ended, drained, sent⟩ := closes
  have returned : endSession call.orchestratorClosed call.persistEnd held = (.ok (), held) := by
    simpa [ended] using endSession_apply call.orchestratorClosed call.persistEnd held
  have closed : closeSender call.senderDrained held = (.ok (), held) := by
    simpa [drained] using closeSender_apply call.senderDrained held
  have sends := sendEventsDirect_apply call.endSends held
  rw [if_neg sent] at sends
  simp only [closeConnection, bind_ok _ returned, bind_ok _ closed, bind_ok _ sends]
  have released := releaseLease_apply call.release held
  rcases rescue_redisError call.release with ⟨swallowed, handled⟩ | ⟨failure, raised, unhandled⟩
  · rw [swallowed] at released
    simp only [handled, bind_ok _ released, not_true_eq_false, false_imp_iff, and_true,
      forall_const]
    have decremented := decrementSessionCount_apply call.decrement
      (call.release.apply Held.release held)
    rcases rescue_exception call.decrement.reply with ⟨dropped, -⟩ | ⟨cancelled, -⟩
    · rw [dropped] at decremented
      simp [bind_ok _ decremented]
    · rw [cancelled] at decremented
      simp [bind_error _ decremented]
  · rw [raised] at released
    simp [unhandled, bind_error _ released]

/-- The awaits of the WebSocket handler at which it gives back what it took. -/
def WebSocketCall.Pairs (settings : OriginSettings) (call : WebSocketCall) : Prop :=
  call.admitted settings = true → match call.acquire with
    | .present => True
    | .failed _ took => took = false
    | .set => match call.restore with
      | .error _ => False
      | .ok false =>
        .error .cancelled ∉ call.endedSends ∧ call.endedClose = .ok () ∧ call.release.took = true
      | .ok true =>
        call.senderStart = .ok () ∧ ¬IncrementCancelled call.increment call.guard ∧ call.Closes ∧
          call.release.took = true ∧
          ((call.release.Handled ∧ call.decrement.took = true) ↔ call.increment.took = true)

theorem paired_iff (held : Held) : Paired held ↔
    (0 < held.acquired → held.released = 1) ∧ (held.decremented = 1 ↔ 0 < held.incremented) ∧
      (held.decActive = 1 ↔ 0 < held.incActive) :=
  ⟨fun paired => ⟨paired.lease, paired.admission, paired.active⟩,
    fun ⟨lease, admission, active⟩ => ⟨lease, admission, active⟩⟩

theorem Paired.not_leaked {held : Held} (acquired : 0 < held.acquired) (kept : held.released = 0) :
    ¬Paired held := by
  intro paired
  have := paired.lease acquired
  omega

theorem serve_ended (call : WebSocketCall) (restored : call.restore = .ok false) :
    Paired (serve call Held.nothing.acquire).2 ↔
      .error .cancelled ∉ call.endedSends ∧ call.endedClose = .ok () ∧
        call.release.took = true := by
  have sends := sendEventsDirect_apply call.endedSends Held.nothing.acquire
  by_cases cancelled : .error .cancelled ∈ call.endedSends
  · rw [if_pos cancelled] at sends
    have leaked : ¬Paired Held.nothing.acquire := Paired.not_leaked (by decide) rfl
    simp [serve, restored, bind_error _ sends, cancelled, leaked]
  rw [if_neg cancelled] at sends
  rcases closed : call.endedClose with failure | _
  · have leaked : ¬Paired Held.nothing.acquire := Paired.not_leaked (by decide) rfl
    simp [serve, restored, bind_ok _ sends, closed, leaked]
  · have left : (serve call Held.nothing.acquire).2 =
        call.release.apply Held.release Held.nothing.acquire := by
      simp [serve, restored, bind_ok _ sends, closed]
    rw [left, paired_iff]
    cases took : call.release.took <;>
      simp [Write.apply, took, cancelled, Held.nothing, Held.acquire, Held.release]

theorem serve_restored (call : WebSocketCall) (restored : call.restore = .ok true) :
    Paired (serve call Held.nothing.acquire).2 ↔
      call.senderStart = .ok () ∧ ¬IncrementCancelled call.increment call.guard ∧ call.Closes ∧
        call.release.took = true ∧
        ((call.release.Handled ∧ call.decrement.took = true) ↔ call.increment.took = true) := by
  rcases started : call.senderStart with failure | _
  · have leaked : ¬Paired Held.nothing.acquire := Paired.not_leaked (by decide) rfl
    simp [serve, restored, started, leaked]
  simp only [serve, restored, await_bind_apply, started, if_true, true_and]
  have counted := incrementSessionCount_state call.increment call.guard Held.nothing.acquire
  have returns := incrementSessionCount_returns call.increment call.guard Held.nothing.acquire
  rcases ended : incrementSessionCount call.increment call.guard Held.nothing.acquire
    with ⟨result, t⟩
  simp only [ended] at counted returns
  subst counted
  have leased : 0 < (call.increment.apply Held.increment Held.nothing.acquire).acquired ∧
      (call.increment.apply Held.increment Held.nothing.acquire).released = 0 := by
    unfold Write.apply
    split <;> decide
  rcases returns with ⟨rfl, uncancelled⟩ | ⟨rfl, cancelled⟩
  case inr => simp [bind_error _ ended, cancelled, Paired.not_leaked leased.1 leased.2]
  have looped : Silent ((receiveLoop call.turns).catching Failure.isException (pure ())) :=
    (silent_receiveLoop call.turns).catching _ (silent_pure ())
  rw [bind_ok _ ended, ensure_state, looped]
  by_cases closes : call.Closes
  case neg =>
    rw [closeConnection_cut call _ closes]
    simp [closes, Paired.not_leaked leased.1 leased.2]
  obtain ⟨whole, partly⟩ := closeConnection_state call
    (call.increment.apply Held.increment Held.nothing.acquire) closes
  by_cases handled : call.release.Handled
  · rw [whole handled, paired_iff]
    cases counted : call.increment.took <;> cases released : call.release.took <;>
      cases decremented : call.decrement.took <;>
      simp [Write.apply, counted, released, decremented, uncancelled, closes, handled, Held.nothing,
        Held.acquire, Held.release, Held.increment, Held.decrement]
  · rw [partly handled, paired_iff]
    cases counted : call.increment.took <;> cases released : call.release.took <;>
      simp [Write.apply, counted, released, uncancelled, closes, handled, Held.nothing,
        Held.acquire, Held.release, Held.increment]

theorem acquireLease_apply (held : Held) :
    acquireLease .set held = (.ok true, held.acquire) ∧
    acquireLease .present held = (.ok false, held) ∧
    ∀ failure took, acquireLease (.failed failure took) held =
      (if failure = .redisError then .ok false else .error failure,
        if took then held.acquire else held) := by
  refine ⟨rfl, rfl, fun failure took => ?_⟩
  cases failure <;> cases took <;> rfl

theorem websocket_paired (settings : OriginSettings) (call : WebSocketCall) :
    Paired (vbgwWebsocket settings call Held.nothing).2 ↔ call.Pairs settings := by
  have nothing : Paired Held.nothing := ⟨by decide, by decide, by decide⟩
  have conflict (held : Held) : ((do
      sendEventsDirect call.conflictSends
      await call.conflictClose : Handler Unit) held).2 = held := by
    have sends := sendEventsDirect_apply call.conflictSends held
    split at sends
    · simp [bind_error _ sends]
    · simp [bind_ok _ sends]
  obtain ⟨silent, passed⟩ := acceptConnection_apply settings call Held.nothing
  rcases ended : acceptConnection settings call Held.nothing with ⟨result, held⟩
  simp only [ended] at silent passed
  subst silent
  by_cases admitted : call.admitted settings = true
  case neg =>
    have rejected : result ≠ .ok true := mt passed.mp admitted
    have left : (vbgwWebsocket settings call Held.nothing).2 = Held.nothing := by
      rcases result with failure | goesOn
      · simp [vbgwWebsocket, bind_error _ ended]
      · cases goesOn with
        | true => exact absurd rfl rejected
        | false => simp [vbgwWebsocket, bind_ok _ ended]
    simp [left, nothing, WebSocketCall.Pairs, admitted]
  cases passed.mpr admitted
  obtain ⟨set, held, failed⟩ := acquireLease_apply Held.nothing
  cases acquired : call.acquire with
  | set =>
    rw [← acquired] at set
    have served : (vbgwWebsocket settings call Held.nothing).2 =
        (serve call Held.nothing.acquire).2 := by
      simp [vbgwWebsocket, bind_ok _ ended, bind_ok _ set]
    rw [served]
    rcases restored : call.restore with failure | found
    · have leaked : ¬Paired Held.nothing.acquire := Paired.not_leaked (by decide) rfl
      simp [serve, restored, WebSocketCall.Pairs, admitted, acquired, leaked]
    cases found with
    | false =>
      simpa [WebSocketCall.Pairs, admitted, acquired, restored] using serve_ended call restored
    | true =>
      simpa [WebSocketCall.Pairs, admitted, acquired, restored] using serve_restored call restored
  | present =>
    rw [← acquired] at held
    have left : (vbgwWebsocket settings call Held.nothing).2 = Held.nothing := by
      simp [vbgwWebsocket, bind_ok _ ended, bind_ok _ held, conflict]
    simp [left, nothing, WebSocketCall.Pairs, acquired]
  | failed failure took =>
    have failed := failed failure took
    rw [← acquired] at failed
    have left : (vbgwWebsocket settings call Held.nothing).2 =
        if took then Held.nothing.acquire else Held.nothing := by
      cases failure with
      | redisError => simp [vbgwWebsocket, bind_ok _ ended, bind_ok _ failed, conflict]
      | error | cancelled => simp [vbgwWebsocket, bind_ok _ ended, bind_error _ failed]
    have leaked : ¬Paired Held.nothing.acquire := Paired.not_leaked (by decide) rfl
    cases took <;> simp [left, nothing, leaked, WebSocketCall.Pairs, admitted, acquired]

theorem silent_handleChunk (chunk : Chunk) (lastSpeaking : Bool) :
    Silent (handleChunk chunk lastSpeaking) := by
  unfold handleChunk
  split
  · exact (silent_await _).bind fun _ => silent_pure _
  split
  · exact (silent_await _).bind fun _ => (silent_await _).bind fun _ => silent_pure _
  split
  · exact (silent_await _).bind fun _ => silent_pure _
  · exact silent_pure _

theorem readChunks_open (call : StreamCall) (chunks : List Chunk) (lastSpeaking : Bool)
    (held : Held) (opened : held.sessionId ≠ none) :
    (readChunks call chunks lastSpeaking held).2 = held := by
  induction chunks generalizing lastSpeaking with
  | nil => rfl
  | cons chunk chunks ih =>
    have known : (get : Handler Held) held = (.ok held, held) := rfl
    rw [readChunks, bind_ok _ known, if_neg opened]
    have silent := silent_handleChunk chunk lastSpeaking held
    rcases ended : handleChunk chunk lastSpeaking held with ⟨result, t⟩
    simp only [ended] at silent
    subst silent
    cases result with
    | ok speaking => simpa only [pure_bind_apply, bind_ok _ ended] using ih speaking
    | error failure => simp only [bind_error _ ended]

theorem Chunk.session_ne (chunk : Chunk) : chunk.session ≠ "" := by
  unfold Chunk.session
  split
  · decide
  · assumption

/-- What the reader has left when it ends on its first chunk or after it. -/
def opened (call : StreamCall) (named : Held) : Held :=
  match call.acquire with
  | .present => named.setSession none
  | .failed .redisError took => (if took then named.acquire else named).setSession none
  | .failed _ took => if took then named.acquire else named
  | .set => match call.restore with
    | .ok true => (named.acquire.setOrchestrator true).activate
    | .ok false => named.acquire.setOrchestrator false
    | .error _ => named.acquire

theorem openSession_state (call : StreamCall) (chunk : Chunk) (held : Held) :
    let named := held.setSession (some chunk.session)
    (openSession call chunk held).2 = opened call named ∧
      ((openSession call chunk held).1 = .ok true → (opened call named).sessionId ≠ none) := by
  intro named
  have unfolded : openSession call chunk held = (do
      if !(← acquireLease call.acquire) then
        modify (Held.setSession · none)
        return false
      let restored ← await call.restore
      modify (Held.setOrchestrator · restored)
      if !restored then return false
      incActiveSessions
      await call.listening
      return true : Handler Bool) named := by
    simp only [openSession, modify_bind_apply, chunk.session_ne, if_false, named]
  rw [unfolded]
  obtain ⟨set, present, failed⟩ := acquireLease_apply named
  cases acquired : call.acquire with
  | present => simp [bind_ok _ present, opened, acquired]
  | set =>
    rcases restored : call.restore with failure | found
    · simp [bind_ok _ set, opened, acquired, restored]
    cases found with
    | false => simp [bind_ok _ set, opened, acquired, restored]
    | true =>
      have kept : (named.acquire.setOrchestrator true).activate.sessionId =
        some chunk.session := rfl
      cases call.listening <;>
        simp [bind_ok _ set, opened, acquired, restored, incActiveSessions, kept]
  | failed failure took =>
    have failed := failed failure took
    cases failure with
    | redisError => simp [bind_ok _ failed, opened, acquired]
    | error | cancelled => simp [bind_error _ failed, opened, acquired]

theorem readChunks_state (call : StreamCall) (chunk : Chunk) (chunks : List Chunk) :
    (readChunks call (chunk :: chunks) false Held.nothing).2 =
      opened call (Held.nothing.setSession (some chunk.session)) := by
  obtain ⟨left, goesOn⟩ := openSession_state call chunk Held.nothing
  rcases ended : openSession call chunk Held.nothing with ⟨result, held⟩
  simp only [ended] at left goesOn
  subst left
  have unnamed : Held.nothing.sessionId = none := rfl
  rw [readChunks, get_bind_apply, if_pos unnamed]
  rcases result with failure | continues
  · simp only [bind_error _ ended]
  cases continues with
  | false => simp [bind_ok _ ended]
  | true =>
    -- the rest of the loop is what it is for a session that is open already
    have rest := readChunks_open call (chunk :: chunks) false _ (goesOn rfl)
    rw [readChunks, get_bind_apply, if_neg (goesOn rfl)] at rest
    simpa [bind_ok _ ended] using rest

/-- The cleanup of a stream that never had a session, or gave it up. -/
theorem endStream_unnamed (call : StreamCall) (held : Held) (unnamed : held.sessionId = none) :
    (endStream call held).2 = held := by
  simp [endStream, unnamed]

theorem release_cancelled (write : Write) (held : Held) :
    ((releaseLease write).catching Failure.isException (pure ()) : Handler Unit) held =
        (.ok (), write.apply Held.release held) ∧ write.reply ≠ .error .cancelled ∨
      ((releaseLease write).catching Failure.isException (pure ()) : Handler Unit) held =
        (.error .cancelled, write.apply Held.release held) ∧ write.reply = .error .cancelled := by
  simp only [catching_pure_apply, releaseLease_apply]
  rcases write.reply with failure | _
  · cases failure <;> simp [rescue, Failure.isRedisError, Failure.isException]
  · simp [rescue]

/-- The cleanup of a stream with a session. -/
theorem endStream_state (call : StreamCall) (held : Held) (named : held.sessionId.getD "" ≠ "") :
    (endStream call held).2 =
      if call.release.reply = .error .cancelled ∨ held.orchestrator = true ∧
          ¬EndReturns call.orchestratorClosed call.persistEnd then
        call.release.apply Held.release held
      else (call.release.apply Held.release held).deactivate := by
  have kept : (call.release.apply Held.release held).orchestrator = held.orchestrator := by
    unfold Write.apply
    split <;> rfl
  rw [endStream, get_bind_apply, if_pos named]
  rcases release_cancelled call.release held with ⟨released, uncancelled⟩ | ⟨raised, cancelled⟩
  case inr => simp [bind_error _ raised, cancelled]
  rw [bind_ok _ released, get_bind_apply, kept]
  cases held.orchestrator with
  | false => simp [uncancelled, decActiveSessions]
  | true =>
    have ended := endSession_apply call.orchestratorClosed call.persistEnd
      (call.release.apply Held.release held)
    rcases ended with ⟨returned, returns⟩ | ⟨raised, raises⟩
    · have dropped : ((endSession call.orchestratorClosed call.persistEnd).catching
          Failure.isException (pure ())) (call.release.apply Held.release held) =
          (.ok (), call.release.apply Held.release held) := by
        simp [returned, rescue]
      simp [bind_ok _ dropped, uncancelled, returns, decActiveSessions]
    · have passed : ((endSession call.orchestratorClosed call.persistEnd).catching
          Failure.isException (pure ())) (call.release.apply Held.release held) =
          (.error .cancelled, call.release.apply Held.release held) := by
        simp [raised, rescue, Failure.isException]
      simp [bind_error _ passed, raises]

/-- The awaits of the gRPC handler at which it gives back what it took. -/
def StreamCall.Pairs (call : StreamCall) : Prop :=
  call.started = true → call.chunks ≠ [] → match call.acquire with
    | .present => True
    | .failed .redisError took => took = false
    | .failed _ took =>
      call.release.reply = .error .cancelled ∧ (took = true → call.release.took = true)
    | .set => match call.restore with
      | .ok true => call.release.took = true ∧ call.release.reply ≠ .error .cancelled ∧
        EndReturns call.orchestratorClosed call.persistEnd
      | _ => call.release.took = true ∧ call.release.reply = .error .cancelled

theorem silent_writeResponses (responses : List Awaited) : Silent (writeResponses responses) := by
  induction responses with
  | nil => exact silent_pure ()
  | cons response responses ih => exact (silent_await response).bind fun _ => ih

theorem streamSession_state (call : StreamCall) : (streamSession call Held.nothing).2 =
    if call.started then (endStream call (readChunks call call.chunks false Held.nothing).2).2
    else Held.nothing := by
  rw [streamSession, ensure_state, silent_writeResponses]
  cases started : call.started with
  | false => simp [closeStream, started, endStream_unnamed call Held.nothing rfl]
  | true =>
    have joined : ((reader call).catching (fun _ => true) (pure ())) Held.nothing =
        (.ok (), (readChunks call call.chunks false Held.nothing).2) := by
      rw [catching_pure_apply]
      cases (reader call Held.nothing).1 <;> simp [rescue, reader]
    simp [closeStream, started, bind_ok _ joined]

/-- The cleanup releases and decrements for every session id it finds. -/
theorem endStream_paired (call : StreamCall) {sessionId : String} (named : sessionId ≠ "")
    (acquired incActive : Nat) (orchestrator : Bool) :
    Paired (endStream call ⟨acquired, 0, 0, 0, incActive, 0, some sessionId, orchestrator⟩).2 ↔
      (0 < acquired → call.release.took = true) ∧
      (¬(call.release.reply = .error .cancelled ∨ orchestrator = true ∧
        ¬EndReturns call.orchestratorClosed call.persistEnd) ↔ 0 < incActive) := by
  rw [endStream_state call ⟨acquired, 0, 0, 0, incActive, 0, some sessionId, orchestrator⟩ named,
    paired_iff]
  split
  case isTrue cut =>
    cases took : call.release.took <;> simp [Write.apply, took, cut, Held.release]
  case isFalse whole =>
    cases took : call.release.took <;>
      simp [Write.apply, took, whole, Held.release, Held.deactivate]

theorem stream_paired (call : StreamCall) :
    Paired (streamSession call Held.nothing).2 ↔ call.Pairs := by
  have nothing : Paired Held.nothing := ⟨by decide, by decide, by decide⟩
  rw [streamSession_state]
  cases started : call.started with
  | false => simp [nothing, StreamCall.Pairs, started]
  | true =>
    cases chunked : call.chunks with
    | nil =>
      have ended : (readChunks call [] false Held.nothing).2 = Held.nothing := rfl
      simp [ended, endStream_unnamed call Held.nothing rfl, nothing, StreamCall.Pairs, chunked]
    | cons chunk chunks =>
      rw [if_pos rfl, readChunks_state]
      simp only [StreamCall.Pairs, started, chunked, ne_eq, reduceCtorEq, not_false_eq_true,
        forall_const]
      have leaked : ¬Paired Held.nothing.acquire := Paired.not_leaked (by decide) rfl
      cases acquired : call.acquire with
      | present =>
        have given : (Held.nothing.setSession (some chunk.session)).setSession none =
          Held.nothing := rfl
        simp [opened, acquired, given, endStream_unnamed call Held.nothing rfl, nothing]
      | failed failure took =>
        cases failure with
        | redisError =>
          cases took with
          | false =>
            have given : (Held.nothing.setSession (some chunk.session)).setSession none =
              Held.nothing := rfl
            simp [opened, acquired, given, endStream_unnamed call Held.nothing rfl, nothing]
          | true =>
            have kept : (Held.nothing.setSession (some chunk.session)).acquire.setSession none =
              Held.nothing.acquire := rfl
            simp [opened, acquired, kept, endStream_unnamed call Held.nothing.acquire rfl, leaked]
        | error | cancelled =>
          cases took with
          | false =>
            simp only [opened, acquired]
            refine (endStream_paired call chunk.session_ne 0 0 false).trans ?_
            simp
          | true =>
            simp only [opened, acquired]
            refine (endStream_paired call chunk.session_ne 1 0 false).trans ?_
            simp [and_comm]
      | set =>
        rcases restored : call.restore with failure | found
        · simp only [opened, acquired, restored]
          refine (endStream_paired call chunk.session_ne 1 0 false).trans ?_
          simp
        cases found with
        | false =>
          simp only [opened, acquired, restored]
          refine (endStream_paired call chunk.session_ne 1 0 false).trans ?_
          simp
        | true =>
          simp only [opened, acquired, restored]
          refine (endStream_paired call chunk.session_ne 1 1 true).trans ?_
          simp

/-- Both handlers give back what they took exactly when their awaits end so that
they get to do it, and do it only for what they took. -/
theorem resources_paired_iff (settings : OriginSettings) (call : WebSocketCall)
    (stream : StreamCall) :
    (Paired (vbgwWebsocket settings call Held.nothing).2 ↔ call.Pairs settings) ∧
      (Paired (streamSession stream Held.nothing).2 ↔ stream.Pairs) :=
  ⟨websocket_paired settings call, stream_paired stream⟩

def noBrowser : OriginSettings := ⟨[], true⟩

/-- A call on which every await returns. -/
def quietCall : WebSocketCall where
  origin := none
  claims := some ⟨"t_acme", "c1"⟩
  rejectClose := .ok ()
  killSwitch := .ok false
  suspendClose := .ok ()
  accept := .ok ()
  acquire := .set
  conflictSends := []
  conflictClose := .ok ()
  restore := .ok true
  endedSends := [.ok ()]
  endedClose := .ok ()
  senderStart := .ok ()
  increment := .done
  guard := .ok ()
  turns := [.timedOut, .audio (.ok ()) false, .disconnect]
  orchestratorClosed := false
  persistEnd := .ok ()
  senderDrained := .ok ()
  endSends := [.ok ()]
  release := .done
  decrement := .done
  finalClose := .ok ()

/-- A stream for a session that has ended. -/
def endedStream : StreamCall where
  started := true
  chunks := [⟨"s1", "", true, [0, 0], .ok (), .ok ()⟩]
  ended := .ok ()
  acquire := .set
  restore := .ok false
  listening := .ok ()
  responses := [.ok (), .ok ()]
  release := .done
  orchestratorClosed := false
  persistEnd := .ok ()

example : (vbgwWebsocket noBrowser quietCall Held.nothing).2 = ⟨1, 1, 1, 1, 0, 0, none, false⟩ := by
  decide

/-- The restore of the session raises while the lease is held, and the gauge is
decremented for a session that was never counted. -/
theorem restore_failure_leaks :
    (vbgwWebsocket noBrowser { quietCall with restore := .error .error } Held.nothing).2 =
      ⟨1, 0, 0, 0, 0, 0, none, false⟩ ∧
    (streamSession endedStream Held.nothing).2 = ⟨1, 1, 0, 0, 0, 1, some "s1", false⟩ ∧
    ¬Paired ⟨1, 0, 0, 0, 0, 0, none, false⟩ ∧ ¬Paired ⟨1, 1, 0, 0, 0, 1, some "s1", false⟩ := by
  refine ⟨by decide, by decide, ?_, ?_⟩
  · intro paired
    exact absurd (paired.lease (by decide)) (by decide)
  · intro paired
    exact absurd (paired.active.mp rfl) (by decide)

end AgentOE.Session.Handlers
