import Mathlib.Data.List.DropRight
import AgentOE.Transition
import AgentOE.Idempotency.Record

/-! `IdempotencyMiddleware.dispatch`, run by any number of requests at once
against one Redis. Redis commands succeed and records do not expire; a request
is suspended at every command and for as long as its handler runs. -/
namespace AgentOE.Idempotency
open Transition

/-- `tenantId` is what `_extract_tenant_id` reads from the bearer token, and
`idempotencyKey` the raw header, empty when it is absent. -/
structure Request where
  method : String
  path : String
  tenantId : Option String
  idempotencyKey : String
  body : List UInt8
  deriving DecidableEq

def isSpace (c : Char) : Bool :=
  let n := c.toNat
  (9 ≤ n ∧ n ≤ 13) ∨ (28 ≤ n ∧ n ≤ 32) ∨ n ∈ [0x85, 0xA0, 0x1680] ∨
    (0x2000 ≤ n ∧ n ≤ 0x200A) ∨ n ∈ [0x2028, 0x2029, 0x202F, 0x205F, 0x3000]

def strip (s : List Char) : List Char := (s.dropWhile isSpace).rdropWhile isSpace

def startsWith (s part : String) : Bool := part.toList.isPrefixOf s.toList

def mutatingMethods : List String := ["POST", "PUT", "PATCH", "DELETE"]

def excludedPrefixes : List String :=
  ["/api/v1/health", "/api/v1/metrics", "/api/docs", "/api/redoc", "/openapi.json"]

def wsPrefix : String := "/api/v1/ws/"

def isExcluded (path : String) : Bool :=
  startsWith path wsPrefix || excludedPrefixes.any (startsWith path)

def requiredPrefixes (settings : Settings) : List String :=
  let raw := strip settings.idempotencyRequiredPaths.toList
  (((raw.splitOn ',').map strip).filter (· ≠ [])).map String.ofList

def keyChar (c : Char) : Bool := c.isAlphanum || c = '-' || c = '_'

/-- `_KEY_SHAPE`. A key that has been stripped has no final newline for `$` to
pass over. -/
def keyShape (key : String) : Bool :=
  8 ≤ key.toList.length && key.toList.length ≤ 128 && key.toList.all keyChar

def Request.clientKey (request : Request) : String :=
  String.ofList (strip request.idempotencyKey.toList)

def jsonResponse (status : Nat) (error message : String) (headers : Headers) : Response :=
  ⟨status, headers,
    utf8 ("\x7b\"error\":\"" ++ error ++ "\",\"message\":\"" ++ message ++ "\"\x7d")⟩

def badRequest (code message : String) (status : Nat) : Response :=
  jsonResponse status code message []

def keyRequired : Response :=
  badRequest "IDEMPOTENCY_KEY_REQUIRED" "Idempotency-Key 헤더가 필요합니다." 400

def keyInvalid : Response :=
  badRequest "IDEMPOTENCY_KEY_INVALID"
    "Idempotency-Key 형식이 잘못됐습니다 (8~128자, 영숫자/-/_)." 400

def inFlight : Response :=
  jsonResponse 409 "IDEMPOTENCY_IN_PROGRESS"
    "동일 Idempotency-Key 로 진행 중인 요청이 있습니다." [("Retry-After", "5")]

def keyMismatch : Response :=
  badRequest "IDEMPOTENCY_KEY_MISMATCH" "동일 Idempotency-Key 로 다른 요청 본문을 보냈습니다." 422

/-- `headers[name] = value`. -/
def setHeader (headers : Headers) (name value : String) : Headers :=
  if headers.any (·.1 = name) then
    headers.map fun field => if field.1 = name then (name, value) else field
  else headers ++ [(name, value)]

def replay (cached : CachedResponse) : Response :=
  ⟨cached.statusCode, setHeader cached.headers "Idempotent-Replay" "true", cached.body⟩

inductive Gate where
  | passThrough
  | refused (response : Response)
  | guarded
  deriving DecidableEq

/-- `dispatch` before it touches Redis. -/
def gate (settings : Settings) (request : Request) : Gate :=
  if !settings.idempotencyEnabled then .passThrough
  else if upper request.method ∉ mutatingMethods then .passThrough
  else if isExcluded request.path then .passThrough
  else if request.clientKey = "" then
    if (requiredPrefixes settings).any (startsWith request.path) then .refused keyRequired
    else .passThrough
  else if !keyShape request.clientKey then .refused keyInvalid
  else .guarded

/-- `dispatch` on the result of `acquire_slot`: the response it returns, or `none`
where it calls the handler. -/
def answer (result : AcquireResult) (bodyHash : String) : Option Response :=
  if result.acquired then none
  else if result.existingStatus = some .inProgress then some inFlight
  else match result.cached with
    | none => none
    | some cached =>
      let existing := result.existingBodyHash.getD ""
      if existing ≠ "" ∧ existing ≠ bodyHash then some keyMismatch else some (replay cached)

inductive Outcome where
  | responded (response : Response)
  | raised
  | cancelled
  deriving DecidableEq

/-- Where a request stands. `releasing none` re-raises after the release. -/
inductive Phase where
  | arriving
  | passing
  | acquiring
  | reading
  | retrying
  | repairing
  | running
  | releasing (response : Option Response)
  | collecting (response : Response)
  | storing (response : Response)
  | finished (outcome : Outcome)
  deriving DecidableEq

/-- How `call_next` ended. -/
inductive Handled where
  | raised
  | returned (response : Response)
  deriving DecidableEq

/-- Where `dispatch` goes on after `call_next`. -/
def Handled.resume : Handled → Phase
  | .raised => .releasing none
  | .returned response =>
    if 500 ≤ response.statusCode then .releasing (some response) else .collecting response

/-- `handled` is recorded for the statements below; no step reads it. -/
structure State (C : Type) where
  redis : String → Option Value
  phase : C → Phase
  handled : C → Option Handled

def State.initial (redis : String → Option Value) : State C :=
  ⟨redis, fun _ => .arriving, fun _ => none⟩

inductive Action (C : Type) where
  | arrive (c : C)
  /-- Redis runs the command the request waits for. -/
  | command (c : C)
  | handlerRaises (c : C)
  | handlerReturns (c : C) (response : Response)
  | collect (c : C)
  | collectRaises (c : C)
  /-- The task is cancelled; `sent` if Redis still runs its command. -/
  | cancel (c : C) (sent : Bool)

def Action.request : Action C → C
  | .arrive c | .command c | .handlerRaises c | .handlerReturns c _ | .collect c
  | .collectRaises c | .cancel c _ => c

/-- The request waits for Redis. -/
def Phase.awaits : Phase → Bool
  | .acquiring | .reading | .retrying | .repairing | .releasing _ | .storing _ => true
  | _ => false

/-- What the awaited command leaves under the key. -/
def Phase.write (settings : Settings) (bodyHash : String) (phase : Phase)
    (value : Option Value) : Option Value :=
  match phase with
  | .acquiring | .retrying => match value with
    | none => some (serializeInProgress bodyHash)
    | some existing => some existing
  | .repairing => some (serializeInProgress bodyHash)
  | .storing response => some (serializeDone settings bodyHash response)
  | .releasing _ => none
  | _ => value

def proceed (bodyHash : String) (result : AcquireResult) : Phase :=
  match answer result bodyHash with
  | none => .running
  | some response => .finished (.responded response)

/-- Where the request goes on after a command that found `value`. -/
def Phase.resume (bodyHash : String) (phase : Phase) (value : Option Value) : Phase :=
  match phase, value with
  | .acquiring, none => proceed bodyHash .taken
  | .acquiring, some _ => .reading
  | .reading, none => .retrying
  | .reading, some existing => match deserialize existing with
    | none => .repairing
    | some record => proceed bodyHash (.existing record)
  | .retrying, none => proceed bodyHash .taken
  | .retrying, some _ => proceed bodyHash .lostRetry
  | .repairing, _ => proceed bodyHash .taken
  | .releasing (some response), _ => .finished (.responded response)
  | .releasing none, _ => .finished .raised
  | .storing response, _ => .finished (.responded response)
  | phase, _ => phase

/-- What is left of `dispatch`, in steps of the request itself. -/
def Phase.rank : Phase → Nat
  | .arriving => 7
  | .acquiring => 6
  | .reading => 5
  | .retrying | .repairing => 4
  | .passing | .running => 3
  | .collecting _ => 2
  | .releasing _ | .storing _ => 1
  | .finished _ => 0

theorem proceed_rank (bodyHash : String) (result : AcquireResult) :
    (proceed bodyHash result).rank ≤ 3 := by
  rw [proceed]
  split <;> simp [Phase.rank]

theorem resume_rank {phase : Phase} (awaits : phase.awaits = true) (bodyHash : String)
    (value : Option Value) : (phase.resume bodyHash value).rank < phase.rank := by
  have below (result : AcquireResult) : (proceed bodyHash result).rank < 4 :=
    Nat.lt_succ_of_le (proceed_rank bodyHash result)
  cases phase with
  | acquiring =>
    cases value with
    | none => exact (below .taken).trans (by simp [Phase.rank])
    | some existing => simp [Phase.resume, Phase.rank]
  | reading =>
    cases value with
    | none => simp [Phase.resume, Phase.rank]
    | some existing =>
      simp only [Phase.resume]
      split
      · simp [Phase.rank]
      · exact (below _).trans (by simp [Phase.rank])
  | retrying =>
    cases value with
    | none => exact below .taken
    | some existing => exact below .lostRetry
  | repairing => exact below .taken
  | releasing response => cases response <;> simp [Phase.resume, Phase.rank]
  | storing response => simp [Phase.resume, Phase.rank]
  | arriving | passing | running | collecting | finished => cases awaits

section Machine
variable {C : Type} [DecidableEq C]

namespace State
variable (σ : State C)

def moveTo (c : C) (phase : Phase) : State C := { σ with phase := Function.update σ.phase c phase }

def handle (c : C) (handled : Handled) (phase : Phase) : State C :=
  { σ with
    phase := Function.update σ.phase c phase
    handled := Function.update σ.handled c (some handled) }

def put (key : String) (value : Option Value) : State C :=
  { σ with redis := Function.update σ.redis key value }

end State

variable (settings : Settings) (hashes : Hashes) (requests : C → Request)

def keyOf (c : C) : String :=
  buildIdemKey settings hashes (requests c).tenantId (upper (requests c).method) (requests c).path
    (requests c).clientKey

def hashOf (c : C) : String := computeBodyHash hashes (requests c).body

def step (σ : State C) : Action C → Option (State C)
  | .arrive c =>
    if σ.phase c = .arriving then
      match gate settings (requests c) with
      | .passThrough => some (σ.moveTo c .passing)
      | .refused response => some (σ.moveTo c (.finished (.responded response)))
      | .guarded => some (σ.moveTo c .acquiring)
    else none
  | .command c =>
    if (σ.phase c).awaits then
      let value := σ.redis (keyOf settings hashes requests c)
      some ((σ.put (keyOf settings hashes requests c)
          ((σ.phase c).write settings (hashOf hashes requests c) value)).moveTo c
        ((σ.phase c).resume (hashOf hashes requests c) value))
    else none
  | .handlerRaises c => match σ.phase c with
    | .running => some (σ.handle c .raised Handled.raised.resume)
    | .passing => some (σ.handle c .raised (.finished .raised))
    | _ => none
  | .handlerReturns c response => match σ.phase c with
    | .running => some (σ.handle c (.returned response) (Handled.returned response).resume)
    | .passing => some (σ.handle c (.returned response) (.finished (.responded response)))
    | _ => none
  | .collect c => match σ.phase c with
    | .collecting response => some (σ.moveTo c (.storing response))
    | _ => none
  | .collectRaises c => match σ.phase c with
    -- the body is read outside the `try`, so nothing releases the slot
    | .collecting _ => some (σ.moveTo c (.finished .raised))
    | _ => none
  | .cancel c sent => match σ.phase c with
    | .finished _ => none
    | phase =>
      let key := keyOf settings hashes requests c
      let value := if sent then phase.write settings (hashOf hashes requests c) (σ.redis key)
        else σ.redis key
      some ((σ.put key value).moveTo c (.finished .cancelled))

end Machine

end AgentOE.Idempotency
