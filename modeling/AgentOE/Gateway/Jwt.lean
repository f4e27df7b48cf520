import AgentOE.Base64Url
import AgentOE.Esl.Event

/-! Authentication of the control interface, by a token that is signed with HMAC-SHA256 or by
the static API key. Strings are byte sequences, times are nanoseconds since the epoch. -/
namespace AgentOE.Gateway.Jwt
open Esl (Bytes ascii)

structure JWTClaims where
  sub : Bytes
  iss : Bytes
  exp : Int
  iat : Int
  scope : Bytes
  deriving DecidableEq

structure Header where
  alg : Bytes
  typ : Bytes
  deriving DecidableEq

/-- HMAC-SHA256 of a key and a message, and the JSON package at the types that are used. Its
errors are their texts. -/
structure Library where
  hmac : Bytes → Bytes → Bytes
  marshal : JWTClaims → Bytes
  unmarshalHeader : Bytes → Except Bytes Header
  unmarshalClaims : Bytes → Except Bytes JWTClaims

def unix (time : Int) : Int := time / 1000000000

def dot : UInt8 := 46

def base64URLDecode (s : Bytes) : Except Bytes Bytes :=
  (Base64Url.decode s).mapError fun position =>
    ascii "illegal base64 data at input byte " ++ ascii (toString position)

variable (lib : Library)

/-- Its error is always nil. -/
def computeHMAC256 (data secret : Bytes) : Bytes := Base64Url.encode (lib.hmac secret data)

/-- `fmt.Errorf` with `%w` at its end. -/
def wrapped (text : String) (result : Except Bytes α) : Except Bytes α :=
  result.mapError (ascii text ++ ·)

def validateJWT (now : Int) (tokenStr secret : Bytes) : Except Bytes JWTClaims :=
  match tokenStr.splitOn dot with
  | [part0, part1, actualSig] =>
    let signingInput := part0 ++ [dot] ++ part1
    if actualSig ≠ computeHMAC256 lib signingInput secret then .error (ascii "invalid signature")
    else do
      let headerJSON ← wrapped "header decode failed: " (base64URLDecode part0)
      let header ← wrapped "header parse failed: " (lib.unmarshalHeader headerJSON)
      if header.alg ≠ ascii "HS256" then
        .error (ascii "unsupported algorithm: " ++ header.alg ++ ascii " (only HS256)")
      else do
        let claimsJSON ← wrapped "claims decode failed: " (base64URLDecode part1)
        let claims ← wrapped "claims parse failed: " (lib.unmarshalClaims claimsJSON)
        if 0 < claims.exp ∧ claims.exp < unix now then .error (ascii "token expired")
        else .ok claims
  | parts => .error (ascii "malformed JWT: expected 3 parts, got " ++ ascii (toString parts.length))

def headerJSON : Bytes := ascii "\x7b\"alg\":\"HS256\",\"typ\":\"JWT\"\x7d"

def generatedClaims (now : Int) (sub issuer scope : Bytes) (ttl : Int) : JWTClaims :=
  { sub := sub, iss := issuer, iat := unix now, exp := unix (now + ttl), scope := scope }

def generateJWT (now : Int) (secret sub issuer scope : Bytes) (ttl : Int) : Bytes :=
  let header := Base64Url.encode headerJSON
  let payload := Base64Url.encode (lib.marshal (generatedClaims now sub issuer scope ttl))
  let signingInput := header ++ [dot] ++ payload
  signingInput ++ [dot] ++ computeHMAC256 lib signingInput secret

/-- `next.ServeHTTP`, or `http.Error` with 401. -/
inductive Response where
  | forwarded
  | unauthorized (text : Bytes)
  deriving DecidableEq

def trimPrefix (s start : Bytes) : Bytes := if start <+: s then s.drop start.length else s

def jsonError (text : Bytes) : Bytes := ascii "\x7b\"error\":\"" ++ text ++ ascii "\"\x7d"

def jwtAuthMiddleware (now : Int) (jwtSecret legacyAPIKey authHeader : Bytes) : Response :=
  if authHeader = [] then .unauthorized (jsonError (ascii "authorization header required"))
  else
    let token := trimPrefix authHeader (ascii "Bearer ")
    if token = authHeader then .unauthorized (jsonError (ascii "bearer token required"))
    else if token = legacyAPIKey then .forwarded
    else if jwtSecret = [] then .unauthorized (jsonError (ascii "invalid token"))
    else match validateJWT lib now token jwtSecret with
      | .error err => .unauthorized (jsonError err)
      | .ok _ => .forwarded

/-! What is accepted. -/

/-- The token is header, payload and the HMAC of the two under the secret, the header names
HS256 and the payload has these claims. -/
def Signed (secret token : Bytes) (claims : JWTClaims) : Prop :=
  ∃ part0 part1 headerJSON header claimsJSON, dot ∉ part0 ∧ dot ∉ part1 ∧
    token = part0 ++ [dot] ++ part1 ++ [dot] ++
      Base64Url.encode (lib.hmac secret (part0 ++ [dot] ++ part1)) ∧
    Base64Url.decode part0 = .ok headerJSON ∧ lib.unmarshalHeader headerJSON = .ok header ∧
    header.alg = ascii "HS256" ∧
    Base64Url.decode part1 = .ok claimsJSON ∧ lib.unmarshalClaims claimsJSON = .ok claims

/-- A token without an expiry has none, or one that is not positive. -/
def Timely (now : Int) (claims : JWTClaims) : Prop := claims.exp ≤ 0 ∨ unix now ≤ claims.exp

/-- The header has a bearer token that is the configured key or validates under the configured
secret. -/
def Authorized (now : Int) (jwtSecret legacyAPIKey authHeader : Bytes) : Prop :=
  ∃ token, authHeader = ascii "Bearer " ++ token ∧
    (legacyAPIKey ≠ [] ∧ token = legacyAPIKey ∨
      jwtSecret ≠ [] ∧ ∃ claims, Signed lib jwtSecret token claims ∧ Timely now claims)

section Validation
variable {lib} {now : Int} {secret token : Bytes} {claims : JWTClaims}

theorem mapError_ok_iff {f : ε → δ} {result : Except ε α} {value : α} :
    result.mapError f = .ok value ↔ result = .ok value := by
  cases result <;> simp [Except.mapError]

theorem bind_ok_iff {result : Except ε α} {next : α → Except ε β} {value : β} :
    result >>= next = .ok value ↔ ∃ found, result = .ok found ∧ next found = .ok value := by
  cases result with
  | error err => simp [bind, Except.bind]
  | ok found => simp [bind, Except.bind]

theorem ite_error_ok_iff {P : Prop} [Decidable P] {err : ε} {result : Except ε α} {value : α} :
    (if P then .error err else result) = .ok value ↔ ¬P ∧ result = .ok value := by
  split <;> simp_all

theorem encode_no_dot (bytes : Bytes) : dot ∉ Base64Url.encode bytes := by
  have apart : ∀ n < 64, Base64Url.digit n ≠ dot := by decide +kernel
  intro mem
  exact Base64Url.encode_forall (P := (· ≠ dot)) apart bytes dot mem rfl

theorem splitOn_eq_three {a b c : Bytes} : token.splitOn dot = [a, b, c] ↔
    token = a ++ [dot] ++ b ++ [dot] ++ c ∧ dot ∉ a ∧ dot ∉ b ∧ dot ∉ c := by
  have joined : [dot].intercalate [a, b, c] = a ++ [dot] ++ b ++ [dot] ++ c := by
    simp [List.intercalate]
  have clean : ([dot].intercalate [a, b, c]).splitOn dot = [a, b, c] ↔
      ∀ part ∈ [a, b, c], dot ∉ part := Text.splitOn_intercalate_iff (by simp)
  rw [joined] at clean
  simp only [List.forall_mem_cons, List.not_mem_nil, false_imp_iff, implies_true, and_true] at clean
  constructor
  · intro split
    have same : token = a ++ [dot] ++ b ++ [dot] ++ c := by
      rw [← joined, ← split, List.intercalate_splitOn]
    exact ⟨same, clean.mp (same ▸ split)⟩
  · rintro ⟨rfl, free⟩
    exact clean.mpr free

/-- The one description of what validates. -/
theorem validateJWT_ok_iff :
    validateJWT lib now token secret = .ok claims ↔
      Signed lib secret token claims ∧ Timely now claims := by
  have timely : ¬(0 < claims.exp ∧ claims.exp < unix now) ↔ Timely now claims := by
    rw [Timely]
    omega
  constructor
  · intro validated
    rw [validateJWT] at validated
    split at validated
    · rename_i part0 part1 actualSig split
      obtain ⟨joined, clean0, clean1, -⟩ := splitOn_eq_three.mp split
      simp only [ite_error_ok_iff, bind_ok_iff, wrapped, base64URLDecode, mapError_ok_iff, not_not]
        at validated
      obtain ⟨signature, headerJSON, decoded0, header, parsed0, alg, claimsJSON, decoded1, found,
          parsed1, inTime, same⟩ := validated
      cases same
      refine ⟨⟨part0, part1, headerJSON, header, claimsJSON, clean0, clean1, ?_, decoded0,
        parsed0, alg, decoded1, parsed1⟩, timely.mp inTime⟩
      rw [joined, signature, computeHMAC256]
    · cases validated
  · rintro ⟨⟨part0, part1, headerJSON, header, claimsJSON, clean0, clean1, joined, decoded0,
      parsed0, alg, decoded1, parsed1⟩, inTime⟩
    have split := splitOn_eq_three.mpr ⟨joined, clean0, clean1, encode_no_dot _⟩
    rw [validateJWT, split]
    simp only [ite_error_ok_iff, bind_ok_iff, wrapped, base64URLDecode, mapError_ok_iff, not_not]
    exact ⟨rfl, headerJSON, decoded0, header, parsed0, alg, claimsJSON, decoded1, claims, parsed1,
      timely.mpr inTime, rfl⟩

/-- A generated token is signed, where the JSON package reads its own output. -/
theorem signed_generateJWT (secret : Bytes) {sub issuer scope : Bytes} {ttl : Int}
    (header : lib.unmarshalHeader headerJSON = .ok ⟨ascii "HS256", ascii "JWT"⟩)
    (roundTrip : lib.unmarshalClaims (lib.marshal (generatedClaims now sub issuer scope ttl)) =
      .ok (generatedClaims now sub issuer scope ttl)) :
    Signed lib secret (generateJWT lib now secret sub issuer scope ttl)
    (generatedClaims now sub issuer scope ttl) :=
  ⟨_, _, _, _, _, encode_no_dot _, encode_no_dot _, rfl, Base64Url.decode_encode _, header, rfl,
    Base64Url.decode_encode _, roundTrip⟩

theorem unix_le_unix {t t' : Int} (later : t ≤ t') : unix t ≤ unix t' :=
  Int.ediv_le_ediv (by decide) later

end Validation

/-! What the middleware forwards. -/

section Middleware
variable {lib} {now : Int} {jwtSecret legacyAPIKey authHeader : Bytes}

theorem trimPrefix_ne_self : trimPrefix authHeader (ascii "Bearer ") ≠ authHeader ↔
    ∃ token, authHeader = ascii "Bearer " ++ token := by
  rw [trimPrefix]
  constructor
  · intro changed
    split at changed
    · rename_i starts
      obtain ⟨token, same⟩ := starts
      exact ⟨token, same.symm⟩
    · contradiction
  · rintro ⟨token, rfl⟩ unchanged
    rw [if_pos (List.prefix_append _ _), List.drop_left] at unchanged
    exact absurd (List.self_eq_append_left.mp unchanged) (by decide)

theorem trimPrefix_bearer (token : Bytes) : trimPrefix (ascii "Bearer " ++ token)
    (ascii "Bearer ") = token := by
  rw [trimPrefix, if_pos (List.prefix_append _ _), List.drop_left]

/-- Forwarded is a bearer token that is the configured key, empty or not, or that validates under a
configured secret. -/
theorem forwarded_iff : jwtAuthMiddleware lib now jwtSecret legacyAPIKey authHeader = .forwarded ↔
    ∃ token, authHeader = ascii "Bearer " ++ token ∧ (token = legacyAPIKey ∨
      jwtSecret ≠ [] ∧ ∃ claims, Signed lib jwtSecret token claims ∧ Timely now claims) := by
  constructor
  · intro forwarded
    simp only [jwtAuthMiddleware] at forwarded
    split at forwarded
    · cases forwarded
    split at forwarded
    · cases forwarded
    · rename_i changed
      obtain ⟨token, rfl⟩ := trimPrefix_ne_self.mp changed
      rw [trimPrefix_bearer] at forwarded
      refine ⟨token, rfl, ?_⟩
      split at forwarded
      · exact .inl ‹_›
      split at forwarded
      · cases forwarded
      split at forwarded
      · cases forwarded
      · rename_i secretSet _ claims validated
        exact .inr ⟨secretSet, claims, validateJWT_ok_iff.mp validated⟩
  · rintro ⟨token, rfl, accepted⟩
    have nonempty : ascii "Bearer " ++ token ≠ [] := by
      rw [show ascii "Bearer " = 66 :: ascii "earer " from rfl]
      exact List.cons_ne_nil _ _
    have changed := trimPrefix_ne_self.mpr ⟨token, rfl⟩
    rw [jwtAuthMiddleware, if_neg nonempty]
    simp only [if_neg changed]
    rw [trimPrefix_bearer]
    split
    · rfl
    · rename_i otherKey
      obtain ⟨secretSet, claims, valid⟩ := accepted.resolve_left otherKey
      rw [if_neg secretSet, validateJWT_ok_iff.mpr valid]

end Middleware

/-- Only a bearer token that is the configured key or validates under the configured secret is
forwarded, and each such token is; of an empty key nothing is said. A generated token gives its
claims back while it has not expired. -/
theorem jwt_authentication (now : Int) (jwtSecret legacyAPIKey authHeader : Bytes) :
    (jwtAuthMiddleware lib now jwtSecret legacyAPIKey authHeader = .forwarded →
      Authorized lib now jwtSecret legacyAPIKey authHeader ∨
        legacyAPIKey = [] ∧ authHeader = ascii "Bearer ") ∧
    (Authorized lib now jwtSecret legacyAPIKey authHeader →
      jwtAuthMiddleware lib now jwtSecret legacyAPIKey authHeader = .forwarded) ∧
    ∀ (secret sub issuer scope : Bytes) (ttl later : Int), 0 ≤ ttl →
      lib.unmarshalHeader headerJSON = .ok ⟨ascii "HS256", ascii "JWT"⟩ →
      lib.unmarshalClaims (lib.marshal (generatedClaims now sub issuer scope ttl)) =
        .ok (generatedClaims now sub issuer scope ttl) →
      validateJWT lib now (generateJWT lib now secret sub issuer scope ttl) secret =
        .ok (generatedClaims now sub issuer scope ttl) ∧
      (unix later ≤ unix (now + ttl) →
        validateJWT lib later (generateJWT lib now secret sub issuer scope ttl) secret =
          .ok (generatedClaims now sub issuer scope ttl)) := by
  refine ⟨fun forwarded => ?_, fun authorized => ?_, ?_⟩
  · obtain ⟨token, header, key | valid⟩ := forwarded_iff.mp forwarded
    · by_cases empty : legacyAPIKey = []
      · exact .inr ⟨empty, by rw [header, key, empty, List.append_nil]⟩
      · exact .inl ⟨token, header, .inl ⟨empty, key⟩⟩
    · exact .inl ⟨token, header, .inr valid⟩
  · obtain ⟨token, header, key | valid⟩ := authorized
    · exact forwarded_iff.mpr ⟨token, header, .inl key.2⟩
    · exact forwarded_iff.mpr ⟨token, header, .inr valid⟩
  · intro secret sub issuer scope ttl later nonneg header roundTrip
    have signed := signed_generateJWT secret header roundTrip
    have same : unix now ≤ unix (now + ttl) := unix_le_unix (by omega)
    exact ⟨validateJWT_ok_iff.mpr ⟨signed, .inr same⟩,
      fun early => validateJWT_ok_iff.mpr ⟨signed, .inr early⟩⟩

def sampleSecret : Bytes := ascii "s3cret"

/-- One hour from 1750000000. -/
def sampleClaims : JWTClaims :=
  generatedClaims 1750000000000000000 (ascii "ops") (ascii "vbgw-orchestrator")
    (ascii "admin") 3600000000000

def sampleClaimsJSON : Bytes :=
  ascii ("\x7b\"sub\":\"ops\",\"iss\":\"vbgw-orchestrator\",\"exp\":1750003600," ++
  "\"iat\":1750000000,\"scope\":\"admin\"\x7d")

def unlimitedJSON : Bytes := ascii "\x7b\"sub\":\"ops\"\x7d"

/-- The functions at the two tokens of the samples. -/
def sampleLibrary : Library where
  hmac key data :=
    if key ≠ sampleSecret then []
    else if data = Base64Url.encode headerJSON ++ [dot] ++ Base64Url.encode sampleClaimsJSON then
      [11, 39, 150, 56, 149, 48, 1, 196, 252, 66, 84, 207, 25, 83, 13, 130, 49, 234, 220, 108, 73,
        149, 52, 222, 127, 53, 133, 170, 206, 183, 102, 244]
    else if data = Base64Url.encode headerJSON ++ [dot] ++ Base64Url.encode unlimitedJSON then
      [46, 226, 100, 99, 160, 189, 22, 193, 139, 106, 68, 110, 159, 175, 122, 227, 15, 63, 29, 15,
        237, 72, 224, 251, 201, 216, 98, 68, 116, 236, 71, 161]
    else []
  marshal claims := if claims = sampleClaims then sampleClaimsJSON else unlimitedJSON
  unmarshalHeader data :=
    if data = headerJSON then .ok ⟨ascii "HS256", ascii "JWT"⟩
    else .error (ascii "unexpected end of JSON input")
  unmarshalClaims data :=
    if data = sampleClaimsJSON then .ok sampleClaims
    else if data = unlimitedJSON then .ok ⟨ascii "ops", [], 0, 0, []⟩
    else .error (ascii "unexpected end of JSON input")

theorem issued_token_accepted :
    let token := generateJWT sampleLibrary 1750000000000000000 sampleSecret (ascii "ops")
      (ascii "vbgw-orchestrator") (ascii "admin") 3600000000000
    validateJWT sampleLibrary 1750003600999999999 token sampleSecret = .ok sampleClaims ∧
      jwtAuthMiddleware sampleLibrary 1750003600999999999 sampleSecret (ascii "changeme-admin-key")
        (ascii "Bearer " ++ token) = .forwarded := by
  intro token
  have parsed : sampleLibrary.unmarshalClaims (sampleLibrary.marshal sampleClaims) =
      .ok sampleClaims := by
    decide +kernel
  have expires : unix 1750003600999999999 ≤ unix (1750000000000000000 + 3600000000000) := by
    decide +kernel
  obtain ⟨-, -, generated⟩ :=
    jwt_authentication sampleLibrary 1750000000000000000 sampleSecret [] []
  have valid := (generated sampleSecret (ascii "ops") (ascii "vbgw-orchestrator")
    (ascii "admin") 3600000000000
    1750003600999999999 (by decide) rfl parsed).2 expires
  have authorized : Authorized sampleLibrary 1750003600999999999 sampleSecret
      (ascii "changeme-admin-key")
      (ascii "Bearer " ++ token) :=
    ⟨token, rfl, .inr ⟨by decide, sampleClaims, validateJWT_ok_iff.mp valid⟩⟩
  exact ⟨valid, (jwt_authentication sampleLibrary _ _ _ _).2.1 authorized⟩

/-- The payload names only a subject. -/
def unlimitedToken : Bytes :=
  Base64Url.encode headerJSON ++ [dot] ++ Base64Url.encode unlimitedJSON ++ [dot] ++
    ascii "LuJkY6C9FsGLakRun6964w8_HQ_tSOD7ydhiRHTsR6E"

theorem unlimited_token_forwarded :
    jwtAuthMiddleware sampleLibrary 1750000000000000000 sampleSecret (ascii "changeme-admin-key")
      (ascii "Bearer " ++ unlimitedToken) = .forwarded ∧
    unlimitedToken ≠ ascii "changeme-admin-key" ∧
    ∀ claims, Signed sampleLibrary sampleSecret unlimitedToken claims →
      ¬unix 1750000000000000000 ≤ claims.exp := by
  refine ⟨by decide +kernel, by decide +kernel, fun claims signed inTime => ?_⟩
  have validated := validateJWT_ok_iff.mpr ⟨signed, .inr inTime⟩
  have actual : validateJWT sampleLibrary 1750000000000000000 unlimitedToken sampleSecret =
      .ok ⟨ascii "ops", [], 0, 0, []⟩ := by
    decide +kernel
  cases validated.symm.trans actual
  exact absurd inTime (by decide)

end AgentOE.Gateway.Jwt
