import AgentOE.JsonLimits
import AgentOE.Idempotency.Replay
import AgentOE.Idempotency.Transparency

/-! The records as the texts that are kept in Redis: what `_serialize_in_progress` and
`_serialize_done` write, and what `acquire_slot` makes of any text that it finds. -/
namespace AgentOE.Idempotency.Codec
open JsonText (Text Dict Limits ofString loads dumps Scalar IsFloat Fits FitItems FitMembers
  floatIsOne floatIsZero)

/-- The exceptions that leave the functions below. -/
inductive Raised where
  | valueError
  | recursionError
  | typeError
  | attributeError
  | overflowError
  deriving DecidableEq

/-- The interpreter lets a record be read: it converts numbers of 640 digits at least, and two
levels of nesting are left. The conversions of other types are only used on what another
program has stored, and nothing is assumed of them. -/
structure Interpreter where
  limits : Limits
  digits : 640 ≤ limits.digits
  depth : 2 ≤ limits.depth
  intOf : JsonText.Value → Except Raised Int
  strOf : JsonText.Value → Except Raised Text

/-- `time.time()`, by its `repr`. -/
structure Timestamp where
  literal : Text
  isFloat : IsFloat literal

/-- A `dict` has a key once. -/
structure HeaderDict where
  fields : Headers
  distinct : (names fields).Nodup

def str (s : String) : JsonText.Value := .str (ofString s)

/-! ### Writing -/

def inProgressRecord (bodyHash : String) (createdAt : Timestamp) : Dict :=
  [(ofString "v", .int recordVersion), (ofString "status", str "in_progress"),
    (ofString "body_hash", str bodyHash), (ofString "created_at", .float createdAt.literal)]

def serializeInProgress (bodyHash : String) (createdAt : Timestamp) : Text :=
  dumps (.dict (inProgressRecord bodyHash createdAt))

def headersValue (headers : Headers) : JsonText.Value :=
  .dict (headers.map fun field => (ofString field.1, str field.2))

def doneRecord (settings : Settings) (bodyHash : String) (statusCode : Int) (headers : HeaderDict)
    (body : List UInt8) (createdAt : Timestamp) : Dict :=
  let truncated := decide (settings.idempotencyMaxBodyBytes < body.length)
  let payloadBody := if truncated then [] else body
  [(ofString "v", .int recordVersion), (ofString "status", str "done"),
    (ofString "body_hash", str bodyHash), (ofString "response_status", .int statusCode),
    (ofString "response_headers", headersValue (filterReplayHeaders headers.fields)),
    (ofString "response_body_b64", str (String.ofList (Base64.encode payloadBody))),
    (ofString "response_truncated", .bool truncated),
    (ofString "created_at", .float createdAt.literal)]

/-- An `int` of too many digits is not written either. -/
def serializeDone (python : Interpreter) (settings : Settings) (bodyHash : String)
    (statusCode : Int) (headers : HeaderDict) (body : List UInt8) (createdAt : Timestamp) :
    Except Raised Text :=
  if python.limits.digits < (JsonText.decimal statusCode.natAbs).length then .error .valueError
  else .ok (dumps (.dict (doneRecord settings bodyHash statusCode headers body createdAt)))

/-! ### Reading -/

/-- `obj.get(key)`. -/
def getKey (obj : Dict) (key : String) : Option JsonText.Value :=
  (obj.find? (·.1 = ofString key)).map (·.2)

/-- `value == _RECORD_VERSION`. In Python `True` is equal to 1. -/
def equalsVersion : Option JsonText.Value → Bool
  | some (.int n) => n = recordVersion
  | some (.bool value) => value
  | some (.float literal) => floatIsOne literal
  | _ => false

/-- `JSONDecodeError` is caught. -/
def deserialize (python : Interpreter) (raw : Text) : Except Raised (Option Dict) :=
  match loads python.limits raw with
  | .error .decode => .ok none
  | .error .value => .error .valueError
  | .error .recursion => .error .recursionError
  | .ok (.dict obj) => .ok (if equalsVersion (getKey obj "v") then some obj else none)
  | .ok _ => .ok none

def truthy : JsonText.Value → Bool
  | .null => false
  | .bool value => value
  | .int n => n ≠ 0
  | .float literal => !floatIsZero literal
  | .str s => !s.isEmpty
  | .list values => !values.isEmpty
  | .dict entries => !entries.isEmpty

/-- `int(value)`. -/
def toInt (python : Interpreter) : JsonText.Value → Except Raised Int
  | .int n => .ok n
  | .bool value => .ok (if value then 1 else 0)
  | .null | .list _ | .dict _ => .error .typeError
  | value => python.intOf value

/-- `str(value)`. -/
def toStr (python : Interpreter) : JsonText.Value → Except Raised Text
  | .str s => .ok s
  | value => python.strOf value

/-- Whatever `b64decode` raises, the body is empty. -/
def decodeBody : JsonText.Value → List UInt8
  | .str s => if s.all (· < 128) then (Base64.decode (s.map Char.ofNat)).getD [] else []
  | _ => []

structure CachedResponse where
  statusCode : Int
  headers : List (Text × Text)
  body : List UInt8
  truncated : Bool

/-- `headers.items()`, with `str` of both. -/
def items (python : Interpreter) : JsonText.Value → Except Raised (List (Text × Text))
  | .dict entries => entries.mapM fun entry => do pure (entry.1, ← toStr python entry.2)
  | _ => .error .attributeError

def isStatus (found : Option JsonText.Value) (status : String) : Bool :=
  match found with
  | some (.str s) => s = ofString status
  | _ => false

def recordToCached (python : Interpreter) (obj : Dict) : Except Raised (Option CachedResponse) :=
  if !isStatus (getKey obj "status") "done" then .ok none
  else do
    let body := decodeBody ((getKey obj "response_body_b64").getD (str ""))
    let found := (getKey obj "response_headers").getD (.dict [])
    let headers := if truthy found then found else .dict []
    let statusCode ← toInt python ((getKey obj "response_status").getD (.int 200))
    let headers ← items python headers
    pure (some ⟨statusCode, headers, body, truthy
      ((getKey obj "response_truncated").getD (.bool false))⟩)

structure AcquireResult where
  acquired : Bool
  existingStatus : Option JsonText.Value
  existingBodyHash : Option JsonText.Value
  cached : Option CachedResponse

def AcquireResult.taken : AcquireResult := ⟨true, none, none, none⟩

/-- What the key holds when Redis runs the commands of one call, in their order. `none` is a
`RedisError`. Other callers can change the key in between. -/
structure Redis where
  setNx : Option (Option Text)
  get : Option (Option Text)
  retry : Option (Option Text)
  set : Option Unit

/-- The result, with the text that is written under the key. -/
def acquireSlot (python : Interpreter) (redis : Redis) (payload : Text) :
    Except Raised (AcquireResult × Option Text) :=
  match redis.setNx with
  | none => .ok (.taken, none)
  | some none => .ok (.taken, some payload)
  | some (some _) => match redis.get with
    | none => .ok (.taken, none)
    | some none | some (some []) => match redis.retry with
      | none => .ok (.taken, none)
      | some none => .ok (.taken, some payload)
      | some (some _) => .ok (⟨false, some (str "in_progress"), none, none⟩, none)
    | some (some existingRaw) => do
      match ← deserialize python existingRaw with
      | none => pure (.taken, redis.set.map fun _ => payload)
      | some obj =>
        let cached ← recordToCached python obj
        pure (⟨false, getKey obj "status", getKey obj "body_hash", cached⟩, none)

/-! ### The text and the record that it stands for -/

def CachedResponse.ofRecord (cached : Idempotency.CachedResponse) : CachedResponse where
  statusCode := cached.statusCode
  headers := cached.headers.map fun field => (ofString field.1, ofString field.2)
  body := cached.body
  truncated := cached.truncated

def statusText : RecordStatus → String
  | .inProgress => "in_progress"
  | .done => "done"

def AcquireResult.ofRecord (result : Idempotency.AcquireResult) : AcquireResult where
  acquired := result.acquired
  existingStatus := result.existingStatus.map fun status => str (statusText status)
  existingBodyHash := result.existingBodyHash.map str
  cached := result.cached.map .ofRecord

/-- What the key holds, as a text and as a record. -/
inductive StandsFor (python : Interpreter) (settings : Settings) :
    Option Text → Option Value → Prop where
  | missing : StandsFor python settings none none
  | inProgress (bodyHash : String) (createdAt : Timestamp) :
    StandsFor python settings (some (serializeInProgress bodyHash createdAt))
      (some (Idempotency.serializeInProgress bodyHash))
  | done (bodyHash : String) (response : Response) (headers : HeaderDict) (createdAt : Timestamp)
    (raw : Text) (same : headers.fields = response.headers)
    (written : serializeDone python settings bodyHash response.statusCode headers response.body
      createdAt = .ok raw) :
    StandsFor python settings (some raw)
      (some (Idempotency.serializeDone settings bodyHash response))
  | foreign (raw : Text) (nonempty : raw ≠ []) (foreign : deserialize python raw = .ok none) :
    StandsFor python settings (some raw) (some .other)

/-- No command fails, and no other caller comes in between. -/
def Redis.undisturbed (held : Option Text) : Redis := ⟨some held, some held, some held, some ()⟩

/-! ### What the codec is for -/

/-- A response that is stored is read back, with the headers that are not excluded, and without
its body if that is over the limit. -/
def RoundTrips (python : Interpreter) (settings : Settings) (bodyHash : String) (statusCode : Int)
    (headers : HeaderDict) (body : List UInt8) (createdAt : Timestamp) : Prop :=
  ∃ raw obj cached,
    serializeDone python settings bodyHash statusCode headers body createdAt = .ok raw ∧
    deserialize python raw = .ok (some obj) ∧ recordToCached python obj = .ok (some cached) ∧
    getKey obj "body_hash" = some (str bodyHash) ∧ cached.statusCode = statusCode ∧
    (body.length ≤ settings.idempotencyMaxBodyBytes →
      cached.body = body ∧ cached.truncated = false) ∧
    (settings.idempotencyMaxBodyBytes < body.length → cached.body = [] ∧ cached.truncated = true) ∧
    cached.headers = (headers.fields.filter fun field => lower field.1 ∉ replayExcludedHeaders).map
      fun field => (ofString field.1, ofString field.2)

/-- The number 1, which can be written as a float. -/
def IsNumberOne : Option JsonText.Value → Prop
  | some (.int n) => n = 1
  | some (.float literal) => floatIsOne literal
  | _ => False

/-- The text is a JSON object with `v` = 1. The limits of the interpreter do not matter for that. -/
def IsRecord (stored : Text) : Prop :=
  ∃ limits obj, loads limits stored = .ok (.dict obj) ∧ IsNumberOne (getKey obj "v")

/-- Whoever finds the text takes the slot, and writes its own record unless Redis fails. -/
def TakenOver (python : Interpreter) (stored payload : Text) : Prop :=
  ∀ holder retry set,
    acquireSlot python ⟨some (some holder), some (some stored), retry, set⟩ payload = .ok (.taken, set.map fun _ => payload)

/-- Up to where the text is JSON it has no integer and no nesting that is over the limits, and
it is not an object whose `v` is `true`. -/
structure Replaceable (python : Interpreter) (stored : Text) : Prop where
  digits : loads python.limits stored ≠ .error .value
  nesting : loads python.limits stored ≠ .error .recursion
  notTrue : ∀ obj, loads python.limits stored = .ok (.dict obj) → getKey obj "v" ≠ some (.bool true)

/-! ### The records that the program writes -/

variable {python : Interpreter} {settings : Settings} {bodyHash : String} {headers : HeaderDict}
  {body : List UInt8} {createdAt : Timestamp} {statusCode : Int} {obj : Dict} {raw stored payload : Text}

theorem ofString_injective : Function.Injective ofString := by
  intro s t same
  have chars : s.toList = t.toList := List.map_injective_iff.mpr (fun _ _ => Char.toNat_inj.mp) same
  exact String.toList_injective chars

theorem scalar_ofString (s : String) : Scalar (ofString s) := by
  intro n mem
  obtain ⟨c, -, rfl⟩ := List.mem_map.mp mem
  have valid := c.valid
  simp only [UInt32.isValidChar, Nat.isValidChar] at valid
  change c.toNat < 0xD800 ∨ 0xDFFF < c.toNat ∧ c.toNat < 0x110000 at valid
  omega

@[simp] theorem getKey_nil (key : String) : getKey [] key = none := rfl

@[simp] theorem getKey_cons (name key : String) (value : JsonText.Value) (obj : Dict) :
    getKey ((ofString name, value) :: obj) key = if name =
      key then some value else getKey obj key := by
  by_cases same : name = key
  · simp [getKey, same]
  · have different : ofString name ≠ ofString key := fun text => same (ofString_injective text)
    simp [getKey, same, different]

@[simp] theorem isStatus_str (s status : String) :
    isStatus (some (str s)) status = decide (s = status) := by
  simp only [isStatus, str, ofString_injective.eq_iff]

theorem decodeBody_str {cs : List Char} (ascii : ∀ c ∈ cs, c.toNat < 128) :
    decodeBody (str (String.ofList cs)) = (Base64.decode cs).getD [] := by
  have all : (ofString (String.ofList cs)).all (· < 128) = true := by
    simpa [ofString] using ascii
  have chars : (ofString (String.ofList cs)).map Char.ofNat = cs := by
    simp [ofString, Function.comp_def]
  rw [str, decodeBody, if_pos all, chars]

theorem items_headersValue (fields : Headers) :
    items python (headersValue fields) = .ok (fields.map fun field =>
      (ofString field.1, ofString field.2)) := by
  rw [headersValue, items]
  induction fields with
  | nil => rfl
  | cons field fields ih => rw [List.map_cons, List.mapM_cons, ih]; rfl

/-- `headers or {}` on headers. -/
theorem items_or_empty (fields : Headers) :
    items python (if truthy (headersValue fields) then headersValue fields else .dict []) =
      .ok (fields.map fun field => (ofString field.1, ofString field.2)) := by
  have same : (if truthy (headersValue fields) then headersValue fields else .dict []) =
      headersValue fields := by
    cases fields <;> rfl
  rw [same, items_headersValue]

theorem recordToCached_done : recordToCached python
    (doneRecord settings bodyHash statusCode headers body createdAt) =
    .ok (some
      { statusCode
        headers :=
          (filterReplayHeaders headers.fields).map fun field => (ofString field.1, ofString field.2)
        body := if settings.idempotencyMaxBodyBytes < body.length then [] else body
        truncated := settings.idempotencyMaxBodyBytes < body.length }) := by
  let obj := doneRecord settings bodyHash statusCode headers body createdAt
  let payloadBody := if settings.idempotencyMaxBodyBytes < body.length then [] else body
  have isDone : isStatus (getKey obj "status") "done" = true := by simp [obj, doneRecord]
  have status : getKey obj "response_status" = some (.int statusCode) := by simp [obj, doneRecord]
  have fields : getKey obj "response_headers" =
      some (headersValue (filterReplayHeaders headers.fields)) := by
    simp [obj, doneRecord]
  have stored : getKey obj "response_body_b64" =
      some (str (String.ofList (Base64.encode payloadBody))) := by
    simp [obj, doneRecord, payloadBody]
  have truncated : getKey obj "response_truncated" =
      some (.bool (decide (settings.idempotencyMaxBodyBytes < body.length))) := by
    simp [obj, doneRecord]
  rw [recordToCached, isDone, status, fields, stored, truncated]
  simp only [Option.getD_some, items_or_empty, decodeBody_str (Base64.encode_ascii payloadBody),
    Base64.decode_encode]
  rfl

/-- Two levels of nesting are enough. -/
theorem exists_depth (python : Interpreter) : ∃ depth, python.limits.depth = depth + 2 :=
  ⟨python.limits.depth - 2, (Nat.sub_add_cancel python.depth).symm⟩

theorem version_short : (JsonText.decimal (recordVersion : Int).natAbs).length ≤
    python.limits.digits :=
  (by decide : (JsonText.decimal (recordVersion : Int).natAbs).length ≤ 640).trans python.digits

theorem fits_headersValue {maxDigits depth : Nat} {fields : Headers}
    (distinct : (names fields).Nodup) :
    Fits maxDigits (depth + 1) (headersValue fields) := by
  rw [headersValue, Fits]
  refine ⟨?_, ?_⟩
  · have keys : (fields.map fun field => (ofString field.1, str field.2)).map (·.1) =
        (names fields).map ofString := by
      simp [names]
    rw [keys]
    exact distinct.map ofString_injective
  · clear distinct
    induction fields with
    | nil => rw [List.map_nil, FitMembers]; trivial
    | cons field fields ih =>
      rw [List.map_cons, FitMembers, str, Fits]
      exact ⟨scalar_ofString _, scalar_ofString _, ih⟩

theorem names_filter_nodup {fields : Headers} (distinct : (names fields).Nodup) :
    (names (filterReplayHeaders fields)).Nodup :=
  distinct.sublist (List.filter_sublist.map _)

theorem fits_done (few : (JsonText.decimal statusCode.natAbs).length ≤ python.limits.digits) :
    Fits python.limits.digits python.limits.depth
      (.dict (doneRecord settings bodyHash statusCode headers body createdAt)) := by
  obtain ⟨depth, levels⟩ := exists_depth python
  have nested : Fits python.limits.digits (depth + 1)
      (headersValue (filterReplayHeaders headers.fields)) :=
    fits_headersValue (names_filter_nodup headers.distinct)
  rw [levels, Fits]
  refine ⟨by simp only [doneRecord, List.map_cons, List.map_nil]; decide, ?_⟩
  simp only [doneRecord, FitMembers, Fits, str, scalar_ofString, version_short, few, nested,
    createdAt.isFloat, and_self]

theorem fits_inProgress :
    Fits python.limits.digits python.limits.depth
      (.dict (inProgressRecord bodyHash createdAt)) := by
  obtain ⟨depth, levels⟩ := exists_depth python
  rw [levels, Fits]
  refine ⟨by simp only [inProgressRecord, List.map_cons, List.map_nil]; decide, ?_⟩
  simp only [inProgressRecord, FitMembers, Fits, str, scalar_ofString, version_short,
    createdAt.isFloat, and_self]

theorem deserialize_dumps (fits : Fits python.limits.digits python.limits.depth (.dict obj)) :
    deserialize python (dumps (.dict obj)) = .ok (if equalsVersion (getKey obj "v") then some obj
      else none) := by
  simp only [deserialize, JsonText.loads_dumps fits]

theorem deserialize_inProgress : deserialize python (serializeInProgress bodyHash createdAt) =
    .ok (some (inProgressRecord bodyHash createdAt)) := by
  have version : equalsVersion (getKey (inProgressRecord bodyHash createdAt) "v") = true := by
    simp [inProgressRecord, equalsVersion]
  rw [serializeInProgress, deserialize_dumps fits_inProgress, if_pos version]

theorem recordToCached_inProgress (inProgress : getKey obj "status" = some (str "in_progress")) :
    recordToCached python obj = .ok none := by
  have notDone : isStatus (getKey obj "status") "done" = false := by simp [inProgress]
  simp only [recordToCached, notDone, Bool.not_false, if_true]

theorem deserialize_done
    (written : serializeDone python settings bodyHash statusCode headers body createdAt = .ok raw) :
    deserialize python raw =
      .ok (some (doneRecord settings bodyHash statusCode headers body createdAt)) := by
  unfold serializeDone at written
  split at written
  · cases written
  · rename_i few
    have version :
        equalsVersion (getKey
            (doneRecord settings bodyHash statusCode headers body createdAt) "v") = true := by
      simp [doneRecord, equalsVersion]
    rw [← Except.ok.inj written, deserialize_dumps (fits_done (Nat.not_lt.mp few)), if_pos version]

/-! ### The text that is found -/

section found
variable {holder : Text} {retry : Option (Option Text)} {set : Option Unit} (nonempty : stored ≠ [])
include nonempty

theorem acquireSlot_foreign (foreign : deserialize python stored = .ok none) :
    acquireSlot python ⟨some (some holder), some (some stored), retry, set⟩ payload =
      .ok (.taken, set.map fun _ => payload) := by
  obtain ⟨c, rest, rfl⟩ := List.exists_cons_of_ne_nil nonempty
  simp only [acquireSlot, foreign]
  rfl

theorem acquireSlot_raised {e : Raised} (raised : deserialize python stored = .error e) :
    acquireSlot python ⟨some (some holder), some (some stored), retry, set⟩ payload = .error e := by
  obtain ⟨c, rest, rfl⟩ := List.exists_cons_of_ne_nil nonempty
  simp only [acquireSlot, raised]
  rfl

theorem acquireSlot_existing (isRecord : deserialize python stored = .ok (some obj)) :
    acquireSlot python ⟨some (some holder), some (some stored), retry, set⟩ payload =
      (recordToCached python obj).map fun cached =>
        (⟨false, getKey obj "status", getKey obj "body_hash", cached⟩, none) := by
  obtain ⟨c, rest, rfl⟩ := List.exists_cons_of_ne_nil nonempty
  simp only [acquireSlot, isRecord, bind, Except.bind]
  cases recordToCached python obj <;> rfl

end found

theorem dumps_dict_ne_nil (obj : Dict) : dumps (.dict obj) ≠ [] := by
  cases obj <;> simp [JsonText.dumps, ofString]

/-- On texts `acquire_slot` does what it does on the records that they stand for. -/
theorem acquireSlot_undisturbed {held : Option Text} {value : Option Value}
    (stands : StandsFor python settings held value) :
    (acquireSlot python (.undisturbed held) payload).map (·.1) =
      .ok (.ofRecord (Idempotency.acquireSlot value)) := by
  cases stands with
  | missing => rfl
  | inProgress bodyHash createdAt =>
    have status : getKey (inProgressRecord bodyHash createdAt) "status" =
        some (str "in_progress") := by
      simp [inProgressRecord]
    have hash : getKey (inProgressRecord bodyHash createdAt) "body_hash" = some (str bodyHash) := by
      simp [inProgressRecord]
    have nonempty : serializeInProgress bodyHash createdAt ≠ [] := dumps_dict_ne_nil _
    rw [Redis.undisturbed, acquireSlot_existing nonempty deserialize_inProgress,
      recordToCached_inProgress status, status, hash]
    rfl
  | done bodyHash response headers createdAt raw same written =>
    let obj := doneRecord settings bodyHash response.statusCode headers response.body createdAt
    have status : getKey obj "status" = some (str "done") := by simp [obj, doneRecord]
    have hash : getKey obj "body_hash" = some (str bodyHash) := by simp [obj, doneRecord]
    obtain ⟨record, read, existing⟩ : ∃ record,
        Idempotency.deserialize (Idempotency.serializeDone settings bodyHash response) =
          some record ∧ Idempotency.AcquireResult.existing record =
          ⟨false, some .done, some bodyHash, some
            (storedCopy settings response)⟩ := Idempotency.deserialize_done
    have result : Idempotency.acquireSlot (some
        (Idempotency.serializeDone settings bodyHash response)) =
        ⟨false, some .done, some bodyHash, some (storedCopy settings response)⟩ := by
      simp only [Idempotency.acquireSlot, read, existing]
    have nonempty : raw ≠ [] := by
      unfold serializeDone at written
      split at written
      · cases written
      · exact Except.ok.inj written ▸ dumps_dict_ne_nil _
    rw [Redis.undisturbed, acquireSlot_existing nonempty (deserialize_done written),
      recordToCached_done, status, hash, result, same]
    rfl
  | foreign raw nonempty foreign =>
    rw [Redis.undisturbed, acquireSlot_foreign nonempty foreign]
    rfl

/-! ### The main results -/

theorem serializeDone_eq_ok :
    serializeDone python settings bodyHash statusCode headers body createdAt = .ok raw ↔
    (JsonText.decimal statusCode.natAbs).length ≤ python.limits.digits ∧
      dumps (.dict (doneRecord settings bodyHash statusCode headers body createdAt)) = raw := by
  unfold serializeDone
  split
  · rename_i many
    simp [Nat.not_le.mpr many]
  · rename_i few
    simp [Nat.not_lt.mp few]

theorem roundTrips_iff : RoundTrips python settings bodyHash statusCode headers body createdAt ↔
    (JsonText.decimal statusCode.natAbs).length ≤ python.limits.digits := by
  constructor
  · rintro ⟨raw, obj, cached, written, -⟩
    exact (serializeDone_eq_ok.mp written).1
  · intro few
    have written : serializeDone python settings bodyHash statusCode headers body createdAt =
        .ok (dumps (.dict (doneRecord settings bodyHash statusCode headers body createdAt))) :=
      serializeDone_eq_ok.mpr ⟨few, rfl⟩
    have hash : getKey
        (doneRecord settings bodyHash statusCode headers body createdAt) "body_hash" =
        some (str bodyHash) := by
      simp [doneRecord]
    refine ⟨_, _, _, written, deserialize_done written, recordToCached_done, hash, rfl, ?_, ?_, rfl⟩
    · intro fitting
      exact ⟨if_neg (Nat.not_lt.mpr fitting), decide_eq_false (Nat.not_lt.mpr fitting)⟩
    · intro tooLong
      exact ⟨if_pos tooLong, decide_eq_true tooLong⟩

theorem takenOver_iff (nonempty : stored ≠ []) :
    TakenOver python stored payload ↔ deserialize python stored = .ok none := by
  constructor
  · intro taken
    have result := taken [] none none
    cases read : deserialize python stored with
    | error e =>
      rw [acquireSlot_raised nonempty read] at result
      cases result
    | ok found =>
      cases found with
      | none => rfl
      | some obj =>
        rw [acquireSlot_existing nonempty read] at result
        cases cached : recordToCached python obj with
        | error e => rw [cached] at result; cases result
        | ok cached' => rw [cached] at result; cases result
  · intro foreign holder retry set
    exact acquireSlot_foreign nonempty foreign

theorem deserialize_none_iff (notRecord : ¬IsRecord stored) :
    deserialize python stored = .ok none ↔ Replaceable python stored := by
  constructor
  · intro foreign
    refine ⟨?_, ?_, ?_⟩
    · intro long
      simp [deserialize, long] at foreign
    · intro deep
      simp [deserialize, deep] at foreign
    · intro obj read isTrue
      simp [deserialize, read, isTrue, equalsVersion] at foreign
  · rintro ⟨digits, nesting, notTrue⟩
    unfold deserialize
    cases read : loads python.limits stored with
    | error e =>
      cases e with
      | decode => rfl
      | value => exact absurd read digits
      | recursion => exact absurd read nesting
    | ok v =>
      cases v with
      | dict obj =>
        have foreign : equalsVersion (getKey obj "v") = false := by
          have notOne : ¬IsNumberOne (getKey obj "v") := fun isOne =>
            notRecord ⟨_, obj, read, isOne⟩
          have notTrue := notTrue obj read
          revert notOne notTrue
          cases getKey obj "v" with
          | none => simp [equalsVersion]
          | some v => cases v <;> simp [equalsVersion, IsNumberOne, recordVersion]
        simp [foreign]
      | _ => rfl

/-- Only a long text is over the limits. -/
theorem replaceable_of_short (fewDigits : stored.length ≤ python.limits.digits)
    (flat : stored.length ≤ python.limits.depth)
    (notTrue : ∀ obj, loads python.limits stored = .ok (.dict obj) →
      getKey obj "v" ≠ some (.bool true)) :
    Replaceable python stored :=
  ⟨JsonText.loads_value python.limits stored fewDigits,
    JsonText.loads_recursion python.limits stored flat, notTrue⟩

/-- Responses survive the store, a request in progress has none to replay, and a text that is
not a record is replaced unless it is over the limits of the reader or its `v` is `true`. -/
theorem codec_sound (python : Interpreter) (settings : Settings) :
    (∀ bodyHash statusCode headers body createdAt,
      RoundTrips python settings bodyHash statusCode headers body createdAt ↔
        (JsonText.decimal statusCode.natAbs).length ≤ python.limits.digits) ∧
    (∀ bodyHash createdAt, ∃ obj,
      deserialize python (serializeInProgress bodyHash createdAt) = .ok (some obj) ∧
      getKey obj "status" = some (str "in_progress")) ∧
    (∀ obj, getKey obj "status" = some (str "in_progress") → recordToCached python obj = .ok none) ∧
    ∀ stored payload, stored ≠ [] → ¬IsRecord stored →
      (TakenOver python stored payload ↔ Replaceable python stored) := by
  refine ⟨fun _ _ _ _ _ => roundTrips_iff, fun bodyHash createdAt => ?_,
    fun _ => recordToCached_inProgress, ?_⟩
  · exact ⟨_, deserialize_inProgress, by simp [inProgressRecord]⟩
  · intro stored payload nonempty notRecord
    rw [takenOver_iff nonempty, deserialize_none_iff notRecord]

/-! ### Texts that are not replaced -/

/-- The limits that Python sets. The conversions are not called below. -/
def cpython : Interpreter where
  limits := ⟨4300, 1000⟩
  digits := by decide
  depth := by decide
  intOf := fun _ => .error .valueError
  strOf := fun _ => .ok []

theorem isRecord_iff {limits : Limits} {v : JsonText.Value} (read : loads limits stored = .ok v) :
    IsRecord stored ↔ ∃ obj, v = .dict obj ∧ IsNumberOne (getKey obj "v") := by
  constructor
  · rintro ⟨other, obj, read', isOne⟩
    exact ⟨obj, JsonText.loads_unique read read', isOne⟩
  · rintro ⟨obj, rfl, isOne⟩
    exact ⟨limits, obj, read, isOne⟩

def nines : Text := List.replicate 4301 '9'.toNat

def brackets : Text := List.replicate 1001 '['.toNat

def trueRecord : Text := ofString "\x7b\"v\": true, \"status\": \"done\"\x7d"

theorem loads_trueRecord : loads cpython.limits trueRecord =
    .ok (.dict [(ofString "v", .bool true), (ofString "status", str "done")]) := by
  have text : trueRecord =
      dumps (.dict [(ofString "v", .bool true), (ofString "status", str "done")]) := by
    decide
  rw [text]
  apply JsonText.loads_dumps
  simp only [cpython, Fits, FitMembers, str, scalar_ofString]
  decide

theorem deserialize_nines : deserialize cpython nines = .error .valueError := by
  have read : loads cpython.limits nines = .error .value := JsonText.loads_nines cpython.limits 4300
  rw [deserialize, read]

theorem deserialize_brackets : deserialize cpython brackets = .error .recursionError := by
  have read : loads cpython.limits brackets = .error .recursion :=
    JsonText.loads_brackets cpython.limits 1000
  rw [deserialize, read]

theorem deserialize_trueRecord : deserialize cpython trueRecord =
    .ok (some [(ofString "v", .bool true), (ofString "status", str "done")]) := by
  rw [deserialize, loads_trueRecord]
  simp [equalsVersion]

/-- A reader without the limit reads a number. -/
theorem nines_not_record : ¬IsRecord nines := by
  have read : loads ⟨4301, 0⟩ nines = .ok (.int (JsonText.digitsValue nines)) :=
    JsonText.loads_nines ⟨4301, 0⟩ 4300
  rw [isRecord_iff read]
  rintro ⟨obj, isDict, -⟩
  cases isDict

/-- No reader reads a list that is not closed. -/
theorem brackets_not_record : ¬IsRecord brackets := by
  rintro ⟨limits, obj, read, -⟩
  have refused : loads limits brackets = .error (if limits.depth ≤ 1000 then .recursion
      else .decode) := JsonText.loads_brackets limits 1000
  rw [refused] at read
  cases read

theorem trueRecord_not_record : ¬IsRecord trueRecord := by
  rw [isRecord_iff loads_trueRecord]
  rintro ⟨obj, isDict, isOne⟩
  cases isDict
  simp [IsNumberOne] at isOne

/-- None of the three is a record. The number raises a `ValueError`, the brackets raise a
`RecursionError`, and the object is replayed as an empty response. -/
theorem corrupt_records_stay :
    (nines ≠ [] ∧ ¬IsRecord nines ∧
      ∀ payload, acquireSlot cpython (.undisturbed (some nines)) payload = .error .valueError ∧
        ¬TakenOver cpython nines payload) ∧
    (brackets ≠ [] ∧ ¬IsRecord brackets ∧
      ∀ payload, acquireSlot cpython (.undisturbed (some brackets)) payload =
        .error .recursionError ∧ ¬TakenOver cpython brackets payload) ∧
    trueRecord ≠ [] ∧ ¬IsRecord trueRecord ∧
      ∀ payload, acquireSlot cpython (.undisturbed (some trueRecord)) payload =
          .ok (⟨false, some (str "done"), none, some ⟨200, [], [], false⟩⟩, none) ∧
        ¬TakenOver cpython trueRecord payload := by
  have someNines : nines ≠ [] := List.cons_ne_nil _ _
  have someBrackets : brackets ≠ [] := List.cons_ne_nil _ _
  have someTrue : trueRecord ≠ [] := by decide
  refine ⟨⟨someNines, nines_not_record, fun payload => ⟨?_, ?_⟩⟩,
    ⟨someBrackets, brackets_not_record, fun payload => ⟨?_, ?_⟩⟩, someTrue, trueRecord_not_record,
    fun payload => ⟨?_, ?_⟩⟩
  · exact acquireSlot_raised someNines deserialize_nines
  · rw [takenOver_iff someNines, deserialize_nines]
    exact fun same => nomatch same
  · exact acquireSlot_raised someBrackets deserialize_brackets
  · rw [takenOver_iff someBrackets, deserialize_brackets]
    exact fun same => nomatch same
  · rw [Redis.undisturbed, acquireSlot_existing someTrue deserialize_trueRecord]
    simp [recordToCached, decodeBody, truthy, items, toInt]
    rfl
  · rw [takenOver_iff someTrue, deserialize_trueRecord]
    exact fun same => nomatch same

end AgentOE.Idempotency.Codec
