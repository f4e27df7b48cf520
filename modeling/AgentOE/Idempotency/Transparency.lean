import Mathlib.Data.List.Infix
import Mathlib.Data.List.Perm.Basic
import AgentOE.Idempotency.Middleware

/-! What the first caller of `IdempotencyMiddleware` receives: the response of the handler,
which is read to its end and built again. Names and values of headers are Latin-1 text. -/
namespace AgentOE.Idempotency

/-- What a `body_iterator` yields. -/
inductive BodyChunk where
  | str (text : String)
  | bytes (data : List UInt8)

def BodyChunk.encode : BodyChunk → List UInt8
  | .str text => utf8 text
  | .bytes data => data

/-- The response that `call_next` returns. Header names are in lower case, as ASGI has them,
and a name can occur more than once. -/
structure StreamedResponse where
  statusCode : Nat
  rawHeaders : Headers
  mediaType : Option String
  bodyIterator : List BodyChunk
  lowerCase : ∀ field ∈ rawHeaders, lower field.1 = field.1

/-- What the handler produced. -/
def StreamedResponse.produced (response : StreamedResponse) : Response :=
  ⟨response.statusCode, response.rawHeaders, response.bodyIterator.flatMap BodyChunk.encode⟩

def names (headers : Headers) : List String := headers.map (·.1)

@[simp] theorem names_nil : names [] = [] := rfl

@[simp] theorem names_cons (field : String × String) (headers : Headers) :
    names (field :: headers) = field.1 :: names headers := rfl

@[simp] theorem names_append (first rest : Headers) :
    names (first ++ rest) = names first ++ names rest :=
  List.map_append

/-- What is used of Starlette: `dict(headers)`, where `none` is a `KeyError`, and the
constructor of `Response` on bytes. -/
structure Starlette where
  dictOf : Headers → Option Headers
  newResponse : List UInt8 → Nat → Headers → Option String → Response

/-- Responses that have no body have no length. -/
def hasLength (statusCode : Nat) : Bool := !(statusCode < 200 || statusCode ∈ [204, 304])

/-- Each name of the headers once, with its first value. -/
structure FirstValues (headers dict : Headers) : Prop where
  distinct : (names dict).Nodup
  mem_names : ∀ name, name ∈ names dict ↔ name ∈ names headers
  first : ∀ field ∈ dict, headers.find? (·.1 = field.1) = some field

/-- A length and a media type are added where the headers have none. -/
def Defaults (headers added : Headers) (statusCode : Nat) (mediaType : Option String) : Prop :=
  ∀ name, name ∈ names added ↔ name ∉ names headers ∧
    (name = "content-length" ∧ hasLength statusCode ∨ name = "content-type" ∧ mediaType ≠ none)

def lowered (headers : Headers) : Headers := headers.map fun field => (lower field.1, field.2)

/-- A `dict` is made of headers whose names are in lower case. `Response` puts the names of
its headers in lower case and sends all of them. -/
structure Starlette.Lawful (lib : Starlette) : Prop where
  dict : ∀ headers : Headers, (∀ field ∈ headers, lower field.1 = field.1) →
    ∃ dict, lib.dictOf headers = some dict ∧ FirstValues headers dict
  response : ∀ content statusCode headers mediaType, ∃ added,
    lib.newResponse content statusCode headers mediaType =
      ⟨statusCode, lowered headers ++ added, content⟩ ∧
      Defaults (lowered headers) added statusCode mediaType

variable (lib : Starlette)

def readResponseBody (response : StreamedResponse) : Option (List UInt8 × Response) := do
  let body := response.bodyIterator.flatMap BodyChunk.encode
  let headers ← lib.dictOf response.rawHeaders
  pure (body, lib.newResponse body response.statusCode headers response.mediaType)

/-- `dispatch` after the handler: the response of the first caller, and the response that is
stored when there is one. -/
def answerFirst (response : StreamedResponse) : Option (Response × Option Response) :=
  if 500 ≤ response.statusCode then some (response.produced, none)
  else do
    let (body, rebuilt) ← readResponseBody lib response
    let headers ← lib.dictOf response.rawHeaders
    pure (rebuilt, some ⟨response.statusCode, headers, body⟩)

/-- The same status code, the same body and the same headers in some order. -/
structure Unaltered (received produced : Response) : Prop where
  statusCode : received.statusCode = produced.statusCode
  body : received.body = produced.body
  headers : received.headers.Perm produced.headers

/-- Nothing is dropped from the headers, and nothing is added to them. -/
structure StreamedResponse.Kept (response : StreamedResponse) : Prop where
  distinct : (names response.rawHeaders).Nodup
  length : "content-length" ∈ names response.rawHeaders ∨ hasLength response.statusCode = false
  type : "content-type" ∈ names response.rawHeaders ∨ response.mediaType = none

variable {lib} {headers dict rest : Headers} {name value : String} {response : StreamedResponse}

theorem FirstValues.lowered_eq (values : FirstValues headers dict)
    (lowerCase : ∀ field ∈ headers, lower field.1 = field.1) : lowered dict = dict := by
  have same : ∀ field ∈ dict, (lower field.1, field.2) = field := by
    intro field mem
    rw [lowerCase field (List.mem_of_find?_eq_some (values.first field mem))]
  rw [lowered, List.map_congr_left same, List.map_id']

/-- Headers with distinct names are all first values. -/
theorem FirstValues.perm (values : FirstValues headers dict) (distinct : (names headers).Nodup) :
    dict.Perm headers := by
  refine (List.perm_ext_iff_of_nodup values.distinct.of_map distinct.of_map).mpr fun field => ?_
  constructor
  · exact fun mem => List.mem_of_find?_eq_some (values.first field mem)
  · intro mem
    obtain ⟨found, inside, name⟩ :=
      List.mem_map.mp ((values.mem_names _).mpr (List.mem_map_of_mem mem))
    have isHeader := List.mem_of_find?_eq_some (values.first found inside)
    rwa [← List.inj_on_of_nodup_map distinct isHeader mem name]

/-- What the first caller receives below 500: the headers of the `dict`, and what `Response`
adds to them. -/
theorem answerFirst_spec (lawful : lib.Lawful) (below : response.statusCode < 500) :
    ∃ dict added, lib.dictOf response.rawHeaders = some dict ∧
      FirstValues response.rawHeaders dict ∧
      Defaults dict added response.statusCode response.mediaType ∧
      answerFirst lib response = some (⟨response.statusCode, dict ++ added, response.produced.body⟩,
        some ⟨response.statusCode, dict, response.produced.body⟩) := by
  obtain ⟨dict, filled, values⟩ := lawful.dict response.rawHeaders response.lowerCase
  obtain ⟨added, built, defaults⟩ :=
    lawful.response response.produced.body response.statusCode dict response.mediaType
  rw [values.lowered_eq response.lowerCase] at built defaults
  refine ⟨dict, added, filled, values, defaults, ?_⟩
  have collected : response.bodyIterator.flatMap BodyChunk.encode = response.produced.body := rfl
  simp only [answerFirst, if_neg (Nat.not_le.mpr below), readResponseBody, filled,
    Option.bind_eq_bind, Option.bind_some, Option.pure_def, collected, built]

theorem Defaults.eq_nil_iff (defaults : Defaults headers added statusCode mediaType) : added = [] ↔
    ("content-length" ∈ names headers ∨ hasLength statusCode = false) ∧
      ("content-type" ∈ names headers ∨ mediaType = none) := by
  constructor
  · rintro rfl
    refine ⟨or_iff_not_imp_left.mpr fun absent => ?_, or_iff_not_imp_left.mpr fun absent => ?_⟩
    · refine Bool.eq_false_iff.mpr fun has => ?_
      exact List.not_mem_nil ((defaults _).mpr ⟨absent, .inl ⟨rfl, has⟩⟩)
    · by_contra typed
      exact List.not_mem_nil ((defaults _).mpr ⟨absent, .inr ⟨rfl, typed⟩⟩)
  · rintro ⟨length, type⟩
    refine List.eq_nil_iff_forall_not_mem.mpr fun field mem => ?_
    obtain ⟨absent, ⟨name, has⟩ | ⟨name, has⟩⟩ := (defaults field.1).mp (List.mem_map_of_mem mem)
    · rcases length with present | missing
      · exact absent (name ▸ present)
      · exact Bool.false_ne_true (missing.symm.trans has)
    · exact type.elim (fun present => absent (name ▸ present)) has

/-- Where the machine of the middleware goes on, which knows the headers as a `dict`. -/
theorem resume_stored {received : Response} {stored : Option Response}
    (filled : lib.dictOf response.rawHeaders = some dict)
    (answered : answerFirst lib response = some (received, stored)) :
    (Handled.returned ⟨response.statusCode, dict, response.produced.body⟩).resume =
      match stored with
      | none => .releasing (some ⟨response.statusCode, dict, response.produced.body⟩)
      | some kept => .collecting kept := by
  by_cases failed : 500 ≤ response.statusCode
  · rw [answerFirst, if_pos failed] at answered
    cases answered
    rw [Handled.resume, if_pos failed]
  · simp only [answerFirst, if_neg failed, readResponseBody, filled, Option.bind_eq_bind,
      Option.bind_some, Option.pure_def] at answered
    cases answered
    rw [Handled.resume, if_neg failed]
    rfl

/-- A replay has the headers that the first caller received, less the excluded ones. -/
theorem replay_headers (lawful : lib.Lawful) (settings : Settings) {received stored : Response}
    (untyped : response.mediaType = none)
    (answered : answerFirst lib response = some (received, some stored)) :
    (storedCopy settings stored).headers = filterReplayHeaders received.headers := by
  have below : response.statusCode < 500 := by
    by_contra failed
    rw [answerFirst, if_pos (Nat.not_lt.mp failed)] at answered
    cases answered
  obtain ⟨dict, added, -, -, defaults, rebuilt⟩ := answerFirst_spec lawful below
  rw [rebuilt] at answered
  cases answered
  have excluded : filterReplayHeaders added = [] := by
    refine List.filter_eq_nil_iff.mpr fun field mem => ?_
    obtain ⟨-, ⟨length, -⟩ | ⟨-, typed⟩⟩ := (defaults field.1).mp (List.mem_map_of_mem mem)
    · have isLower : lower "content-length" = "content-length" := by decide
      simp [length, replayExcludedHeaders, isLower]
    · exact absurd untyped typed
  have split : filterReplayHeaders (dict ++ added) = filterReplayHeaders dict ++
      filterReplayHeaders added := List.filter_append _ _
  rw [split, excluded, List.append_nil]
  rfl

/-! Starlette's own functions. -/

/-- `headers[name]`: the first value. `none` is a `KeyError`. -/
def getHeader (headers : Headers) (name : String) : Option String :=
  (headers.find? (·.1 = lower name)).map (·.2)

/-- `dict(headers)` takes the keys of the headers one by one and looks up their values. -/
def fill (headers dict : Headers) (field : String × String) : Option Headers :=
  (getHeader headers field.1).map (setHeader dict field.1)

def dictOf (headers : Headers) : Option Headers := headers.foldlM (fill headers) []

def withCharset (mediaType : String) : String :=
  if startsWith mediaType "text/" ∧ ¬"charset=".toList <:+: (lower mediaType).toList then
    mediaType ++ "; charset=utf-8"
  else mediaType

/-- What `Response` adds to the headers it is given. -/
def defaultHeaders (headers : Headers) (body : List UInt8) (statusCode : Nat)
    (mediaType : Option String) : Headers :=
  let keys := names headers
  let length := ("content-length", toString body.length)
  let type := mediaType.map fun mediaType => ("content-type", withCharset mediaType)
  (if "content-length" ∉ keys ∧ hasLength statusCode then [length] else []) ++
    (if "content-type" ∉ keys then type.toList else [])

/-- The constructor of `Response` on bytes. -/
def newResponse (content : List UInt8) (statusCode : Nat) (headers : Headers)
    (mediaType : Option String) : Response :=
  let rawHeaders := headers.map fun field => (lower field.1, field.2)
  ⟨statusCode, rawHeaders ++ defaultHeaders rawHeaders content statusCode mediaType, content⟩

def starlette : Starlette := ⟨dictOf, newResponse⟩

theorem setHeader_of_new (new : name ∉ names dict) :
    setHeader dict name value = dict ++ [(name, value)] := by
  have missing : ¬dict.any (·.1 = name) = true := by simpa [names] using new
  rw [setHeader, if_neg missing]

theorem names_setHeader (dict : Headers) (name value : String) :
    names (setHeader dict name value) = if name ∈ names dict then names dict else names dict ++
      [name] := by
  by_cases present : name ∈ names dict
  · have found : dict.any (·.1 = name) = true := by simpa [names] using present
    rw [setHeader, if_pos found, if_pos present, names, List.map_map]
    refine List.map_congr_left fun field _ => ?_
    by_cases same : field.1 = name
    · simp [same]
    · simp [same]
  · rw [setHeader_of_new present, if_neg present, names, List.map_append]
    rfl

theorem mem_names_setHeader {other : String} :
    other ∈ names (setHeader dict name value) ↔ other ∈ names dict ∨ other = name := by
  rw [names_setHeader]
  split
  · rename_i present
    refine ⟨.inl, fun mem => mem.elim id fun same => same ▸ present⟩
  · rw [List.mem_append, List.mem_singleton]

theorem nodup_names_setHeader (distinct : (names dict).Nodup) :
    (names (setHeader dict name value)).Nodup := by
  rw [names_setHeader]
  split
  · exact distinct
  · rename_i new
    exact List.concat_eq_append ▸ (List.nodup_concat _ _).mpr ⟨new, distinct⟩

theorem mem_setHeader {field : String × String} (mem : field ∈ setHeader dict name value) :
    field = (name, value) ∨ field ∈ dict := by
  rw [setHeader] at mem
  split at mem
  · obtain ⟨old, inside, replaced⟩ := List.mem_map.mp mem
    split at replaced
    · exact .inl replaced.symm
    · exact .inr (replaced ▸ inside)
  · exact (List.mem_append.mp mem).symm.imp_left List.mem_singleton.mp

theorem getHeader_isSome (mem : name ∈ names headers) (lowerCase : lower name = name) :
    ∃ value, getHeader headers name = some value := by
  obtain ⟨field, isField, rfl⟩ := List.mem_map.mp mem
  have found : (headers.find? (·.1 = lower field.1)).isSome := by
    rw [List.find?_isSome]
    exact ⟨field, isField, by simp [lowerCase]⟩
  obtain ⟨first, isFirst⟩ := Option.isSome_iff_exists.mp found
  exact ⟨first.2, by rw [getHeader, isFirst, Option.map_some]⟩

/-- A `dict` that is filled from the headers in `rest` gets their names, each once. -/
theorem fill_dict (inside : ∀ field ∈ rest, field ∈ headers)
    (lowerCase : ∀ field ∈ headers, lower field.1 = field.1) (distinct : (names dict).Nodup)
    (values : ∀ field ∈ dict, getHeader headers field.1 = some field.2) :
    ∃ full, rest.foldlM (fill headers) dict = some full ∧ (names full).Nodup ∧
      (∀ name, name ∈ names full ↔ name ∈ names dict ∨ name ∈ names rest) ∧
      ∀ field ∈ full, getHeader headers field.1 = some field.2 := by
  induction rest generalizing dict with
  | nil => exact ⟨dict, rfl, distinct, fun name => by simp, values⟩
  | cons field rest ih =>
    obtain ⟨isField, others⟩ := List.forall_mem_cons.mp inside
    obtain ⟨value, first⟩ :=
      getHeader_isSome (List.mem_map_of_mem isField) (lowerCase field isField)
    have set : ∀ one ∈ setHeader dict field.1 value, getHeader headers one.1 = some one.2 := by
      intro one mem
      rcases mem_setHeader mem with rfl | old
      · exact first
      · exact values one old
    obtain ⟨full, filled, nodup, mem, kept⟩ := ih others (nodup_names_setHeader distinct) set
    refine ⟨full, ?_, nodup, fun name => ?_, kept⟩
    · rw [List.foldlM_cons, fill, first]
      exact filled
    · rw [mem, mem_names_setHeader, names_cons, List.mem_cons, or_assoc]

theorem dictOf_spec (lowerCase : ∀ field ∈ headers, lower field.1 = field.1) :
    ∃ dict, dictOf headers = some dict ∧ FirstValues headers dict := by
  have empty : (names []).Nodup := List.nodup_nil
  have unset : ∀ field ∈ ([] : Headers), getHeader headers field.1 = some field.2 := fun _ mem => by
    cases mem
  obtain ⟨dict, filled, distinct, mem, values⟩ := fill_dict (fun _ => id) lowerCase empty unset
  have mem_names (name : String) : name ∈ names dict ↔ name ∈ names headers :=
    (mem name).trans (by simp)
  refine ⟨dict, filled, distinct, mem_names, fun field isField => ?_⟩
  obtain ⟨header, isHeader, name⟩ :=
    List.mem_map.mp ((mem_names _).mp (List.mem_map_of_mem isField))
  obtain ⟨found, isFirst, value⟩ := Option.map_eq_some_iff.mp (values field isField)
  rw [← name, lowerCase header isHeader, name] at isFirst
  have same : found.1 = field.1 := by simpa using List.find?_some isFirst
  rw [isFirst, Prod.ext same value]

theorem mem_names_ite {p : Prop} [Decidable p] {added : Headers} :
    name ∈ names (if p then added else []) ↔ p ∧ name ∈ names added := by
  by_cases holds : p <;> simp [holds]

theorem defaultHeaders_spec {body : List UInt8} {statusCode : Nat} {mediaType : Option String} :
    Defaults headers (defaultHeaders headers body statusCode mediaType) statusCode mediaType := by
  intro name
  rw [defaultHeaders, names_append, List.mem_append, mem_names_ite, mem_names_ite, and_or_left]
  refine or_congr ?_ ?_
  · constructor
    · rintro ⟨⟨absent, has⟩, mem⟩
      obtain rfl := List.mem_singleton.mp mem
      exact ⟨absent, rfl, has⟩
    · rintro ⟨absent, rfl, has⟩
      exact ⟨⟨absent, has⟩, List.mem_singleton.mpr rfl⟩
  · cases mediaType with
    | none => simp
    | some mediaType =>
      constructor
      · rintro ⟨absent, mem⟩
        obtain rfl := List.mem_singleton.mp mem
        exact ⟨absent, rfl, Option.some_ne_none _⟩
      · rintro ⟨absent, rfl, -⟩
        exact ⟨absent, List.mem_singleton.mpr rfl⟩

theorem starlette_lawful : starlette.Lawful where
  dict _ lowerCase := dictOf_spec lowerCase
  response _ _ _ _ := ⟨_, rfl, defaultHeaders_spec⟩

/-- The first caller receives the status code and the body of the handler's response, and its
headers just when nothing is dropped from them and nothing added. -/
theorem transparent_iff (lawful : lib.Lawful) (response : StreamedResponse) : ∃ received stored,
    answerFirst lib response = some (received, stored) ∧
    received.statusCode = response.produced.statusCode ∧ received.body = response.produced.body ∧
    (Unaltered received response.produced ↔ 500 ≤ response.statusCode ∨ response.Kept) := by
  by_cases failed : 500 ≤ response.statusCode
  · have answered : answerFirst lib response = some (response.produced, none) := if_pos failed
    exact ⟨_, _, answered, rfl, rfl, iff_of_true ⟨rfl, rfl, .refl _⟩ (.inl failed)⟩
  · obtain ⟨dict, added, -, values, defaults, answered⟩ :=
      answerFirst_spec lawful (Nat.not_le.mp failed)
    refine ⟨_, _, answered, rfl, rfl, ?_⟩
    constructor
    · rintro ⟨-, -, perm⟩
      have perm : (names (dict ++ added)).Perm (names response.rawHeaders) := perm.map _
      have nothing : added = [] := by
        refine List.eq_nil_iff_forall_not_mem.mpr fun field mem => ?_
        have isName : field.1 ∈ names added := List.mem_map_of_mem mem
        refine ((defaults _).mp isName).1 ((values.mem_names _).mpr (perm.mem_iff.mp ?_))
        rw [names_append]
        exact List.mem_append_right _ isName
      obtain ⟨length, type⟩ := defaults.eq_nil_iff.mp nothing
      rw [nothing, List.append_nil] at perm
      exact .inr ⟨perm.nodup_iff.mp values.distinct, length.imp_left (values.mem_names _).mp,
        type.imp_left (values.mem_names _).mp⟩
    · rintro (below | kept)
      · exact absurd below failed
      · refine ⟨rfl, rfl, ?_⟩
        have nothing : added = [] := defaults.eq_nil_iff.mpr
          ⟨kept.length.imp_left (values.mem_names _).mpr,
            kept.type.imp_left (values.mem_names _).mpr⟩
        rw [nothing, List.append_nil]
        exact values.perm kept.distinct

/-- The answer of an endpoint, with its length and type. -/
def createdResponse : StreamedResponse where
  statusCode := 201
  rawHeaders := [("content-length", "11"), ("content-type", "application/json"),
    ("location", "/scenarios/faq")]
  mediaType := none
  bodyIterator := [.str "\x7b\"ok\":", .bytes (utf8 "true\x7d")]
  lowerCase := by decide

theorem created_unaltered : ∃ received stored,
    answerFirst starlette createdResponse = some (received, stored) ∧
    received.body = utf8 "\x7b\"ok\":true\x7d" ∧ Unaltered received createdResponse.produced := by
  obtain ⟨received, stored, answered, -, body, unaltered⟩ :=
    transparent_iff starlette_lawful createdResponse
  refine ⟨received, stored, answered, ?_, unaltered.mpr (.inr ⟨by decide, by decide, by decide⟩)⟩
  rw [body]
  decide +kernel

/-- The response of a login: one cookie for the access token, one for the refresh token and
one against forged requests. -/
def loginResponse : StreamedResponse where
  statusCode := 200
  rawHeaders := [("content-length", "11"), ("content-type", "application/json"),
    ("set-cookie", "portal_access=a; HttpOnly; Max-Age=900; Path=/; Secure"),
    ("set-cookie", "portal_refresh=r; HttpOnly; Max-Age=28800; Path=/api/v1/auth/portal/refresh; Secure"),
    ("set-cookie", "__csrf__=c; Max-Age=28800; Path=/; Secure")]
  mediaType := none
  bodyIterator := [.bytes (utf8 "\x7b\"ok\":true\x7d")]
  lowerCase := by decide

/-- Only the first cookie is received. -/
theorem login_loses_cookies : ∃ received stored,
    answerFirst starlette loginResponse = some (received, stored) ∧
    received.headers = loginResponse.rawHeaders.take 3 ∧
      ¬Unaltered received loginResponse.produced := by
  refine ⟨⟨200, loginResponse.rawHeaders.take 3, loginResponse.produced.body⟩, _, rfl, rfl,
    fun same => ?_⟩
  exact absurd same.headers.length_eq (by decide)

end AgentOE.Idempotency
