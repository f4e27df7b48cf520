import AgentOE.Base64
import AgentOE.Session.Store

/-! The idempotency records kept in Redis, and what `acquire_slot` makes of the
record it finds. A stored text is represented by the JSON value it parses to;
`created_at` is written and never read. -/
namespace AgentOE.Idempotency

structure Settings extends Session.Config where
  idempotencyEnabled : Bool
  idempotencyMaxBodyBytes : Nat
  idempotencyRequiredPaths : String

def Settings.default : Settings := ⟨Session.Config.default, true, 256 * 1024, ""⟩

/-- The `hashlib` digests. Nothing but their length is assumed of them. -/
structure Hashes where
  sha1 : List UInt8 → Fin 20 → UInt8
  sha256 : List UInt8 → Fin 32 → UInt8

def hexByte (b : UInt8) : List Char :=
  [Nat.digitChar (b.toNat / 16), Nat.digitChar (b.toNat % 16)]

def hexdigest (digest : Fin n → UInt8) : String :=
  String.ofList ((List.ofFn digest).flatMap hexByte)

def utf8 (s : String) : List UInt8 := s.toUTF8.data.toList

/-- Method tokens and header names are ASCII. -/
def upper (s : String) : String := String.ofList (s.toList.map Char.toUpper)

def lower (s : String) : String := String.ofList (s.toList.map Char.toLower)

def buildIdemKey (settings : Settings) (hashes : Hashes) (tenantId : Option String)
    (method path clientKey : String) : String :=
  let pathHash := String.ofList ((hexdigest (hashes.sha1 (utf8 path))).toList.take 16)
  Session.scopedKey settings.toConfig "idem" [upper method, pathHash, clientKey] tenantId

def computeBodyHash (hashes : Hashes) (body : List UInt8) : String :=
  hexdigest (hashes.sha256 body)

/-- A `dict` in insertion order. -/
abbrev Headers := List (String × String)

structure Response where
  statusCode : Nat
  headers : Headers
  body : List UInt8
  deriving DecidableEq

def replayExcludedHeaders : List String :=
  ["content-length", "date", "server", "x-request-id", "x-trace-id", "connection",
    "transfer-encoding"]

def filterReplayHeaders (h : Headers) : Headers :=
  h.filter fun field => lower field.1 ∉ replayExcludedHeaders

inductive RecordStatus where
  | inProgress
  | done
  deriving DecidableEq

/-- `status` is `none` when it is missing or neither of the two. -/
structure Record where
  v : Nat
  status : Option RecordStatus
  bodyHash : Option String
  responseStatus : Option Nat
  responseHeaders : Option Headers
  responseBodyB64 : Option String
  responseTruncated : Option Bool
  deriving DecidableEq

/-- `other` is any text that is not a JSON object. -/
inductive Value where
  | object (record : Record)
  | other
  deriving DecidableEq

structure CachedResponse where
  statusCode : Nat
  headers : Headers
  body : List UInt8
  truncated : Bool
  deriving DecidableEq

structure AcquireResult where
  acquired : Bool
  existingStatus : Option RecordStatus
  existingBodyHash : Option String
  cached : Option CachedResponse
  deriving DecidableEq

def recordVersion : Nat := 1

def serializeInProgress (bodyHash : String) : Value :=
  .object ⟨recordVersion, some .inProgress, some bodyHash, none, none, none, none⟩

def serializeDone (settings : Settings) (bodyHash : String) (response : Response) : Value :=
  let truncated := decide (settings.idempotencyMaxBodyBytes < response.body.length)
  let payloadBody := if truncated then [] else response.body
  .object ⟨recordVersion, some .done, some bodyHash, some response.statusCode,
    some (filterReplayHeaders response.headers), some (String.ofList (Base64.encode payloadBody)),
    some truncated⟩

def deserialize : Value → Option Record
  | .object record => if record.v = recordVersion then some record else none
  | .other => none

def recordToCached (record : Record) : Option CachedResponse :=
  if record.status = some .done then
    some
      { statusCode := record.responseStatus.getD 200
        headers := record.responseHeaders.getD []
        body := (Base64.decode (record.responseBodyB64.getD "").toList).getD []
        truncated := record.responseTruncated.getD false }
  else none

namespace AcquireResult

def taken : AcquireResult := ⟨true, none, none, none⟩

/-- Both `SET NX` failed and the `GET` between them found nothing. -/
def lostRetry : AcquireResult := ⟨false, some .inProgress, none, none⟩

def existing (record : Record) : AcquireResult :=
  ⟨false, record.status, record.bodyHash, recordToCached record⟩

end AcquireResult

/-- What a replay sends of a stored response. -/
def storedBody (settings : Settings) (response : Response) : List UInt8 :=
  if settings.idempotencyMaxBodyBytes < response.body.length then [] else response.body

def storedCopy (settings : Settings) (response : Response) : CachedResponse where
  statusCode := response.statusCode
  headers := filterReplayHeaders response.headers
  body := storedBody settings response
  truncated := settings.idempotencyMaxBodyBytes < response.body.length

variable {settings : Settings} {bodyHash : String} {response : Response}

theorem hexdigest_ne_empty (digest : Fin (n + 1) → UInt8) : hexdigest digest ≠ "" := by
  intro empty
  have chars := congrArg String.toList empty
  simp [hexdigest, hexByte, List.ofFn_succ] at chars

/-- A stored response is read back as it was stored. -/
theorem deserialize_done : ∃ record,
    deserialize (serializeDone settings bodyHash response) = some record ∧
    AcquireResult.existing record =
      ⟨false, some .done, some bodyHash, some (storedCopy settings response)⟩ := by
  refine ⟨_, rfl, ?_⟩
  simp [AcquireResult.existing, recordToCached, storedCopy, storedBody]

end AgentOE.Idempotency
