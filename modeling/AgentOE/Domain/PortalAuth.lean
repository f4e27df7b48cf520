import AgentOE.Transition

/-! The tokens of the portal: which requests hand them out, and which checks accept
them. Signing is a parameter. Each request carries what the databases and clocks
answer while it is served. -/
namespace AgentOE.PortalAuth
open Transition

structure Payload where
  iss : Option String
  sub : Option String
  tenantId : Option String
  roles : Option (List String)
  exp : Option Nat
deriving DecidableEq, Repr

/-- What python-jose does with `JWT_SECRET`, and `_decode_with_jwks` where `JWKS_URL`
is set. An error carries its text. -/
structure Signing (Token : Type) where
  encode : Payload → Token
  /-- The signature is verified, the expiry is not. -/
  decode : Token → Except String Payload
  jwks : Option (Nat → Token → Except String Payload)
  decode_encode : ∀ payload, decode (encode payload) = .ok payload
  /-- The public keys verify no signature made with the secret. -/
  foreign : ∀ verify ∈ jwks, ∀ now payload claims, verify now (encode payload) ≠ .ok claims

/-- `checkPassword` is passlib's `verify`, `verifyTotp` pyotp's at a time. -/
structure Config (Token : Type) extends Signing Token where
  checkPassword : String → String → Bool
  verifyTotp : Nat → String → String → Bool
  enforceTenantHeaderMatch : Bool := true
  portalJwtExpireMinutes : Nat := 15
  jwtExpireMinutes : Nat := 60

inductive Refusal
  | authentication (message : String)
  | authorization (message : String)
  | http (status : Nat) (detail : String)
deriving DecidableEq, Repr

structure TenantContext where
  tenantId : String
  clientId : String
  roles : List String
  issuer : String
deriving DecidableEq, Repr

def portalIssuer : String := "agentoe-portal"

def portalRoles : List String := ["portal:viewer", "portal:operator", "portal:admin"]

def platformAdminRoles : List String :=
  ["platform_admin", "sre_admin", "super_admin", "portal:admin"]

def mfaChallengeMinutes : Nat := 5

variable {Token : Type} (cfg : Config Token)

def createAccessToken (now : Nat) (tenantId clientId : String) (roles : List String)
    (issuer : String := "agentoe-api") (expiresMinutes : Option Nat := none) : Token :=
  let minutes := expiresMinutes.getD cfg.jwtExpireMinutes
  cfg.encode ⟨some issuer, some clientId, some tenantId, some roles, some (now + minutes * 60)⟩

def decodeLegacyHs (now : Nat) (token : Token) : Except String Payload :=
  match cfg.decode token with
  | .error text => .error text
  | .ok payload => match payload.exp with
    | some exp => if exp < now then .error "Signature has expired." else .ok payload
    | none => .ok payload

def decodeToken (now : Nat) (token : Token) : Except Refusal Payload :=
  match cfg.jwks with
  | some verify => (verify now token).mapError .authentication
  | none => (decodeLegacyHs cfg now token).mapError fun text =>
    .authentication ("Invalid token: " ++ text)

/-- A claim that is absent or empty. -/
def blank (claim : Option String) : Bool := claim.getD "" == ""

def getCurrentTenant (now : Nat) (xTenantId : Option String) (token : Token) :
    Except Refusal TenantContext := do
  let payload ← decodeToken cfg now token
  if blank payload.tenantId || blank payload.sub then
    .error (.authentication "Missing tenant_id or sub in token")
  else if cfg.enforceTenantHeaderMatch && !blank xTenantId && xTenantId != payload.tenantId then
    .error (.authorization "X-Tenant-Id header does not match token claim")
  else
    .ok ⟨payload.tenantId.getD "", payload.sub.getD "", payload.roles.getD [],
      payload.iss.getD "agentoe-api"⟩

/-- A tuple of strings without quotes, as Python prints it. -/
def tupleText : List String → String
  | [role] => "('" ++ role ++ "',)"
  | roles => "(" ++ ", ".intercalate (roles.map fun role => "'" ++ role ++ "'") ++ ")"

def checkPortal (requiredRoles : List String) (tenant : TenantContext) :
    Except Refusal TenantContext :=
  if tenant.issuer ≠ portalIssuer then
    .error (.authorization
      ("Portal-protected endpoint requires issuer='" ++ portalIssuer ++ "' token"))
  else if tenant.roles.any platformAdminRoles.contains then .ok tenant
  else if requiredRoles.any tenant.roles.contains then .ok tenant
  else .error (.authorization ("Required portal roles: " ++ tupleText requiredRoles))

def requirePortalRole (requiredRoles : List String) (now : Nat) (xTenantId : Option String)
    (token : Token) : Except Refusal TenantContext := do
  checkPortal requiredRoles (← getCurrentTenant cfg now xTenantId token)

def challengeMark : String := "challenge:"

/-- The rest of a subject that starts with the mark. -/
def unmark (sub : String) : Option String :=
  if challengeMark.toList <+: sub.toList then
    some (String.ofList (sub.toList.drop challengeMark.length))
  else none

def createChallengeToken (now : Nat) (userId : String) : Token :=
  createAccessToken cfg now "portal" (challengeMark ++ userId) ["portal:mfa_challenge"]
    portalIssuer (some mfaChallengeMinutes)

def decodeChallengeToken (now : Nat) (token : Token) : Option String :=
  match decodeLegacyHs cfg now token with
  | .ok payload => if payload.iss = some portalIssuer then unmark (payload.sub.getD "") else none
  | .error _ => none

def extractUserIdFromExpiredToken (token : Option Token) : Option String :=
  match token.map cfg.decode with
  | some (.ok payload) =>
    let sub := payload.sub.getD ""
    if (unmark sub).isSome then none else if sub = "" then none else some sub
  | _ => none

/-! The endpoints. -/

structure User where
  id : String
  hashedPassword : Option String
  mfaEnabled : Bool
  mfaSecretEnc : Option String
  portalRoles : Option (List String)

/-- `attempts` is the counter of the address, `users` the collection by id, and a
`decrypt` without a result has failed. Tokens in a request are drawn or stored by the
server, or presented in a header or cookie. -/
inductive Request (Token : Type)
  | login (now : Nat) (attempts : Option Nat) (found : Option User) (password : String)
  | mfaVerify (now : Nat) (bearer : Option Token) (users : String → Option User)
      (decrypt : String → Option String) (code : String) (refresh csrf : Token)
  | refresh (now : Nat) (csrfHeader csrfCookie : Option String)
      (refreshCookie accessCookie : Option Token) (rotate : Token → String → Option Token)
      (users : String → Option User) (csrf : Token)
  | logout (csrfHeader csrfCookie : Option String) (accessCookie : Option Token)
  | mfaEnroll (now : Nat) (xTenantId : Option String) (bearer : Option Token)
      (users : String → Option User) (secret : Token)

def dummyHash : String := "$2b$12$WBRKBfpFn5Toh9dLNx3yze9GHaRpAGKVGFXBzVJF9gTxKiUXe6Bq."

def checkLoginRateLimit (attempts : Option Nat) : Except Refusal Unit :=
  if attempts.any (5 < ·) then
    .error (.http 429 "Too many login attempts. Try again in 10 minutes.")
  else .ok ()

def portalLogin (now : Nat) (attempts : Option Nat) (found : Option User) (password : String) :
    Except Refusal (List Token) := do
  checkLoginRateLimit attempts
  let storedHash := (found.bind User.hashedPassword).getD dummyHash
  match found, cfg.checkPassword password storedHash with
  -- With or without MFA the answer is a challenge token.
  | some user, true => return [createChallengeToken cfg now user.id]
  | _, _ => throw (.http 401 "Invalid credentials")

/-- The user of a presented challenge token. -/
def challenged (now : Nat) (bearer : Option Token) : Except Refusal String :=
  match bearer with
  | none => .error (.http 401 "Challenge token required")
  | some token => match decodeChallengeToken cfg now token with
    | none | some "" => .error (.http 401 "Invalid or expired challenge token")
    | some userId => .ok userId

/-- The secret that the code is checked against. -/
def enrolledSecret (users : String → Option User) (decrypt : String → Option String)
    (userId : String) : Except Refusal (User × String) :=
  match users userId with
  | none => .error (.http 401 "MFA not enrolled")
  | some user =>
    if user.mfaEnabled then
      match user.mfaSecretEnc.bind decrypt with
      | none => .error (.http 500 "MFA configuration error")
      | some secret => .ok (user, secret)
    else .error (.http 401 "MFA not enrolled")

def accessToken (now : Nat) (userId : String) (roles : List String) : Token :=
  createAccessToken cfg now "portal" userId roles portalIssuer (some cfg.portalJwtExpireMinutes)

def portalMfaVerify (now : Nat) (bearer : Option Token) (users : String → Option User)
    (decrypt : String → Option String) (code : String) (refresh csrf : Token) :
    Except Refusal (List Token) := do
  let userId ← challenged cfg now bearer
  let (user, secret) ← enrolledSecret users decrypt userId
  if cfg.verifyTotp now secret code then
    .ok [accessToken cfg now userId (user.portalRoles.getD ["portal:viewer"]), refresh, csrf]
  else .error (.http 401 "Invalid MFA code")

def checkCsrf (header cookie : Option String) : Except Refusal Unit :=
  if blank header || blank cookie || header != cookie then
    .error (.http 403 "CSRF token mismatch")
  else .ok ()

def portalRefresh (now : Nat) (csrfHeader csrfCookie : Option String)
    (refreshCookie accessCookie : Option Token) (rotate : Token → String → Option Token)
    (users : String → Option User) (csrf : Token) : Except Refusal (List Token) := do
  checkCsrf csrfHeader csrfCookie
  match refreshCookie with
  | none => throw (.http 401 "No refresh token")
  | some presented => match extractUserIdFromExpiredToken cfg accessCookie with
    | none => throw (.http 401 "Cannot identify user from access token")
    | some userId => match rotate presented userId with
      | none => throw (.http 401 "Invalid or expired refresh token")
      | some newRefresh =>
        let roles := match users userId with
          | some user => user.portalRoles.getD ["portal:viewer"]
          | none => []
        return [accessToken cfg now userId roles, newRefresh, csrf]

/-- Sessions are revoked and cookies deleted, and nothing is handed out. -/
def portalLogout (csrfHeader csrfCookie : Option String) : Except Refusal (List Token) := do
  checkCsrf csrfHeader csrfCookie
  return []

def portalMfaEnroll (now : Nat) (xTenantId : Option String) (bearer : Option Token)
    (users : String → Option User) (secret : Token) : Except Refusal (List Token) :=
  match bearer with
  | none => .error (.http 403 "Not authenticated")
  | some token => do
    let tenant ← requirePortalRole cfg portalRoles now xTenantId token
    match users tenant.clientId with
    | none => throw (.http 404 "User not found")
    | some _ => return [secret]

def handle : Request Token → Except Refusal (List Token)
  | .login now attempts found password => portalLogin cfg now attempts found password
  | .mfaVerify now bearer users decrypt code refresh csrf =>
    portalMfaVerify cfg now bearer users decrypt code refresh csrf
  | .refresh now csrfHeader csrfCookie refreshCookie accessCookie rotate users csrf =>
    portalRefresh cfg now csrfHeader csrfCookie refreshCookie accessCookie rotate users csrf
  | .logout csrfHeader csrfCookie _ => portalLogout csrfHeader csrfCookie
  | .mfaEnroll now xTenantId bearer users secret =>
    portalMfaEnroll cfg now xTenantId bearer users secret

/-- A client keeps everything it is given. -/
def step (obtained : List Token) (request : Request Token) : Option (List Token) :=
  some (obtained ++ match handle cfg request with
    | .ok tokens => tokens
    | .error _ => [])

/-! What a client without the second factor holds. -/

def presented : Request Token → Option Token
  | .login .. => none
  | .mfaVerify _ bearer .. | .mfaEnroll _ _ bearer .. => bearer
  | .refresh _ _ _ _ accessCookie .. | .logout _ _ accessCookie => accessCookie

/-- No key verifies the token. -/
def Unsigned (token : Token) : Prop :=
  (∀ payload, cfg.decode token ≠ .ok payload) ∧
    ∀ verify ∈ cfg.jwks, ∀ now payload, verify now token ≠ .ok payload

/-- A presented token with a signature was obtained before. -/
def Unforged (obtained : List Token) (request : Request Token) : Prop :=
  ∀ token ∈ presented request, token ∈ obtained ∨ Unsigned cfg token

/-- The code is not valid for the user of the presented challenge. -/
def NoCode : Request Token → Prop
  | .mfaVerify now bearer users decrypt code _ _ => ∀ userId user secret,
    challenged cfg now bearer = .ok userId →
    enrolledSecret users decrypt userId = .ok (user, secret) →
    cfg.verifyTotp now secret code = false
  | _ => True

/-- A login that is not limited and has the password of a user. -/
def LogsIn : Request Token → Prop
  | .login _ attempts found password =>
    attempts.any (5 < ·) = false ∧ found.isSome = true ∧
      cfg.checkPassword password ((found.bind User.hashedPassword).getD dummyHash) = true
  | _ => False

/-- No endpoint takes the token, at any time and for any roles. -/
def Refused (token : Token) : Prop :=
  ∀ now xTenantId, (∀ tenant, getCurrentTenant cfg now xTenantId token ≠ .ok tenant) ∧
    ∀ requiredRoles tenant, requirePortalRole cfg requiredRoles now xTenantId token ≠ .ok tenant

def Challenge (token : Token) : Prop := ∃ now userId, token = createChallengeToken cfg now userId

def OnlyChallenges (obtained : List Token) : Prop := ∀ token ∈ obtained, Challenge cfg token

theorem unmark_mark (userId : String) : unmark (challengeMark ++ userId) = some userId := by
  have split : (challengeMark ++ userId).toList = challengeMark.toList ++ userId.toList :=
    String.toList_append
  rw [unmark, split, if_pos (List.prefix_append _ _), ← String.length_toList, List.drop_left,
    String.ofList_toList]

section Tokens
variable {cfg} {token : Token} {now : Nat} {xTenantId : Option String}

def challengeClaims (issued : Nat) (userId : String) : Payload :=
  ⟨some portalIssuer, some (challengeMark ++ userId), some "portal", some ["portal:mfa_challenge"],
    some (issued + mfaChallengeMinutes * 60)⟩

theorem createChallengeToken_eq (issued : Nat) (userId : String) :
    createChallengeToken cfg issued userId = cfg.encode (challengeClaims issued userId) := rfl

theorem of_bind_ok {ε α β : Type} {x : Except ε α} {f : α → Except ε β} {b : β}
    (returned : (x >>= f) = .ok b) : ∃ a, x = .ok a ∧ f a = .ok b := by
  cases x with
  | error refusal => cases returned
  | ok a => exact ⟨a, rfl, returned⟩

theorem getCurrentTenant_claims {tenant : TenantContext}
    (accepted : getCurrentTenant cfg now xTenantId token = .ok tenant) :
    ∃ payload, decodeToken cfg now token = .ok payload ∧
      tenant = ⟨payload.tenantId.getD "", payload.sub.getD "", payload.roles.getD [],
        payload.iss.getD "agentoe-api"⟩ := by
  obtain ⟨payload, decoded, checked⟩ := of_bind_ok accepted
  split at checked
  · cases checked
  split at checked
  · cases checked
  · exact ⟨payload, decoded, (Except.ok.inj checked).symm⟩

theorem decodeLegacyHs_verified {payload : Payload}
    (decoded : decodeLegacyHs cfg now token = .ok payload) : cfg.decode token = .ok payload := by
  unfold decodeLegacyHs at decoded
  cases verified : cfg.decode token with
  | error text =>
    rw [verified] at decoded
    cases decoded
  | ok claims =>
    rw [verified] at decoded
    dsimp only at decoded
    split at decoded
    · split at decoded
      · cases decoded
      · exact decoded
    · exact decoded

/-- What the check verified was signed with the secret, or with a public key. -/
theorem decodeToken_verified {payload : Payload}
    (decoded : decodeToken cfg now token = .ok payload) :
    (cfg.jwks = none ∧ cfg.decode token = .ok payload) ∨
      ∃ verify, cfg.jwks = some verify ∧ verify now token = .ok payload := by
  unfold decodeToken at decoded
  split at decoded
  next verify foreign =>
    cases result : verify now token with
    | error text =>
      rw [result] at decoded
      cases decoded
    | ok claims =>
      rw [result] at decoded
      obtain rfl := Except.ok.inj decoded
      exact .inr ⟨verify, foreign, result⟩
  next legacy =>
    refine .inl ⟨legacy, ?_⟩
    cases result : decodeLegacyHs cfg now token with
    | error text =>
      rw [result] at decoded
      cases decoded
    | ok claims =>
      rw [result] at decoded
      obtain rfl := Except.ok.inj decoded
      exact decodeLegacyHs_verified result

theorem challenge_claims {payload : Payload} (issued : Nat) (userId : String)
    (decoded : decodeToken cfg now (createChallengeToken cfg issued userId) = .ok payload) :
    cfg.jwks = none ∧ payload = challengeClaims issued userId := by
  rw [createChallengeToken_eq] at decoded
  rcases decodeToken_verified decoded with ⟨legacy, verified⟩ | ⟨verify, foreign, verified⟩
  · rw [cfg.decode_encode] at verified
    exact ⟨legacy, (Except.ok.inj verified).symm⟩
  · exact absurd verified (cfg.foreign verify foreign now _ payload)

/-- While it has not expired, nothing tells a challenge token from an access token. -/
theorem challenge_accepted (legacy : cfg.jwks = none) (issued : Nat) (userId : String) :
    getCurrentTenant cfg issued none (createChallengeToken cfg issued userId) =
      .ok ⟨"portal", challengeMark ++ userId, ["portal:mfa_challenge"], portalIssuer⟩ := by
  have alive : decodeLegacyHs cfg issued (createChallengeToken cfg issued userId) =
      .ok (challengeClaims issued userId) := by
    rw [createChallengeToken_eq, decodeLegacyHs, cfg.decode_encode]
    exact if_neg (by omega)
  have decoded : decodeToken cfg issued (createChallengeToken cfg issued userId) =
      .ok (challengeClaims issued userId) := by
    rw [decodeToken, legacy, alive]
    rfl
  have named : blank (some (challengeMark ++ userId)) = false := by
    have marked : challengeMark ++ userId ≠ "" := by
      intro empty
      have letters := congrArg String.length empty
      rw [String.length_append] at letters
      exact absurd letters (by change 10 + userId.length ≠ 0; omega)
    exact beq_false_of_ne marked
  have checked : (blank (challengeClaims issued userId).tenantId ||
      blank (challengeClaims issued userId).sub) = false := by
    rw [challengeClaims, named]
    rfl
  rw [getCurrentTenant, decoded]
  simp only [bind, Except.bind, checked, Bool.false_eq_true, if_false]
  have unnamed : (cfg.enforceTenantHeaderMatch && !blank none && (none : Option String) !=
      (challengeClaims issued userId).tenantId) = false := by
    rw [Bool.and_eq_false_imp]
    intro enforced
    exact absurd enforced (by simp [blank])
  rw [unnamed]
  rfl

theorem challenge_no_role (issued : Nat) (userId : String) {requiredRoles : List String}
    (known : requiredRoles ⊆ portalRoles) (tenant : TenantContext) :
    requirePortalRole cfg requiredRoles now xTenantId (createChallengeToken cfg issued userId) ≠
      .ok tenant := by
  intro accepted
  obtain ⟨context, current, checked⟩ := of_bind_ok accepted
  obtain ⟨payload, decoded, rfl⟩ := getCurrentTenant_claims current
  obtain ⟨-, rfl⟩ := challenge_claims issued userId decoded
  have no_admin : ["portal:mfa_challenge"].any platformAdminRoles.contains = false := by decide
  have no_role : requiredRoles.any ["portal:mfa_challenge"].contains = false := by
    have challenge_unlisted : ∀ role ∈ portalRoles,
        ["portal:mfa_challenge"].contains role = false := by
      decide
    rw [List.any_eq_false]
    intro role required held
    exact Bool.noConfusion (held.symm.trans (challenge_unlisted role (known required)))
  simp only [checkPortal, challengeClaims, Option.getD_some, ne_eq, not_true_eq_false, if_false,
    no_admin, no_role, Bool.false_eq_true] at checked
  cases checked

theorem challenge_no_user (issued : Nat) (userId : String) :
    extractUserIdFromExpiredToken cfg (some (createChallengeToken cfg issued userId)) = none := by
  rw [createChallengeToken_eq, extractUserIdFromExpiredToken, Option.map_some, cfg.decode_encode]
  simp only [challengeClaims, Option.getD_some, unmark_mark, Option.isSome_some, if_true]

theorem challenge_refused_iff (issued : Nat) (userId : String) :
    Refused cfg (createChallengeToken cfg issued userId) ↔ cfg.jwks.isSome = true := by
  constructor
  · intro refused
    by_contra unset
    have legacy : cfg.jwks = none := Option.not_isSome_iff_eq_none.1 unset
    exact (refused issued none).1 _ (challenge_accepted legacy issued userId)
  · intro configured now xTenantId
    have rejected : ∀ tenant,
        getCurrentTenant cfg now xTenantId (createChallengeToken cfg issued userId) ≠ .ok
            tenant := by
      intro tenant accepted
      obtain ⟨payload, decoded, -⟩ := getCurrentTenant_claims accepted
      rw [(challenge_claims issued userId decoded).1] at configured
      cases configured
    refine ⟨rejected, fun requiredRoles tenant accepted => ?_⟩
    obtain ⟨context, current, -⟩ := of_bind_ok accepted
    exact rejected context current

end Tokens

/-! What each request hands out. -/

section Requests
variable {cfg} {obtained : List Token} {request : Request Token} {tokens : List Token}

theorem login_tokens {now : Nat} {attempts : Option Nat} {found : Option User} {password : String}
    (answered : portalLogin cfg now attempts found password = .ok tokens) :
    LogsIn cfg (.login now attempts found password) ∧
      ∃ userId, tokens = [createChallengeToken cfg now userId] := by
  obtain ⟨_, allowed, rest⟩ := of_bind_ok answered
  have free : attempts.any (5 < ·) = false := by
    cases limited : attempts.any (5 < ·) with
    | false => rfl
    | true =>
      rw [checkLoginRateLimit, limited] at allowed
      cases allowed
  dsimp only at rest
  split at rest
  next user correct => exact ⟨⟨free, rfl, correct⟩, user.id, (Except.ok.inj rest).symm⟩
  next => cases rest

theorem login_answers {now : Nat} {attempts : Option Nat} {found : Option User} {password : String}
    (logs : LogsIn cfg (.login now attempts found password)) :
    ∃ userId, portalLogin cfg now attempts found password =
      .ok [createChallengeToken cfg now userId] := by
  obtain ⟨free, present, correct⟩ := logs
  obtain ⟨user, rfl⟩ := Option.isSome_iff_exists.1 present
  refine ⟨user.id, ?_⟩
  rw [portalLogin, checkLoginRateLimit, free]
  simp only [bind, Except.bind, Bool.false_eq_true, if_false, correct]
  rfl

/-- What a client with challenge tokens alone presents names no user. -/
theorem presented_no_user {token : Option Token} (known : OnlyChallenges cfg obtained)
    (unforged : ∀ one ∈ token, one ∈ obtained ∨ Unsigned cfg one) :
    extractUserIdFromExpiredToken cfg token = none := by
  cases token with
  | none => rfl
  | some one =>
    rcases unforged one rfl with held | foreign
    · obtain ⟨issued, userId, rfl⟩ := known one held
      exact challenge_no_user issued userId
    · rw [extractUserIdFromExpiredToken, Option.map_some]
      cases verified : cfg.decode one with
      | error text => rfl
      | ok payload => exact absurd verified (foreign.1 payload)

theorem presented_no_role {token : Token} {now : Nat} {xTenantId : Option String}
    (known : OnlyChallenges cfg obtained)
    (unforged : token ∈ obtained ∨ Unsigned cfg token) (tenant : TenantContext) :
    requirePortalRole cfg portalRoles now xTenantId token ≠ .ok tenant := by
  rcases unforged with held | foreign
  · obtain ⟨issued, userId, rfl⟩ := known token held
    exact challenge_no_role issued userId (List.Subset.refl _) tenant
  · intro accepted
    obtain ⟨context, current, -⟩ := of_bind_ok accepted
    obtain ⟨payload, decoded, -⟩ := getCurrentTenant_claims current
    rcases decodeToken_verified decoded with ⟨-, verified⟩ | ⟨verify, configured, verified⟩
    · exact foreign.1 payload verified
    · exact foreign.2 verify configured now payload verified

/-- Without a code only a login hands anything out, and that is a challenge. -/
theorem handle_tokens (known : OnlyChallenges cfg obtained)
    (unforged : Unforged cfg obtained request) (no_code : NoCode cfg request)
    (answered : handle cfg request = .ok tokens) :
    ∀ token ∈ tokens, Challenge cfg token ∧ LogsIn cfg request := by
  cases request with
  | login now attempts found password =>
    obtain ⟨logs, userId, rfl⟩ := login_tokens answered
    intro token mem
    obtain rfl := List.mem_singleton.1 mem
    exact ⟨⟨now, userId, rfl⟩, logs⟩
  | mfaVerify now bearer users decrypt code refresh csrf =>
    obtain ⟨userId, challenge, rest⟩ := of_bind_ok answered
    obtain ⟨⟨user, secret⟩, enrolled, checked⟩ := of_bind_ok rest
    have wrong := no_code userId user secret challenge enrolled
    simp only [wrong] at checked
    cases checked
  | refresh now csrfHeader csrfCookie refreshCookie accessCookie rotate users csrf =>
    obtain ⟨_, -, rest⟩ := of_bind_ok answered
    have no_user : extractUserIdFromExpiredToken cfg accessCookie = none :=
      presented_no_user known unforged
    rw [no_user] at rest
    cases refreshCookie <;> cases rest
  | logout csrfHeader csrfCookie accessCookie =>
    obtain ⟨_, -, rest⟩ := of_bind_ok answered
    cases rest
    exact fun token mem => absurd mem List.not_mem_nil
  | mfaEnroll now xTenantId bearer users secret =>
    cases bearer with
    | none => cases answered
    | some token =>
      obtain ⟨tenant, accepted, -⟩ := of_bind_ok answered
      exact absurd accepted (presented_no_role known (unforged token rfl) tenant)

theorem step_challenges {next : List Token} (known : OnlyChallenges cfg obtained)
    (client : Unforged cfg obtained request ∧ NoCode cfg request)
    (taken : step cfg obtained request = some next) : OnlyChallenges cfg next := by
  obtain rfl := Option.some.inj taken
  intro token mem
  rcases List.mem_append.1 mem with held | new
  · exact known token held
  · cases answered : handle cfg request with
    | error refusal =>
      rw [answered] at new
      exact absurd new List.not_mem_nil
    | ok tokens =>
      rw [answered] at new
      exact (handle_tokens known client.1 client.2 answered token new).1

/-- A run without a code ends with tokens exactly where a login succeeded. -/
theorem run_tokens {requests : List (Request Token)} {s t : List Token}
    (known : OnlyChallenges cfg s)
    (client : Along (step cfg) (fun s request => Unforged cfg s request ∧
      NoCode cfg request) s requests)
    (run : exec (step cfg) s requests = some t) :
    t = [] ↔ s = [] ∧ ∀ request ∈ requests, ¬LogsIn cfg request := by
  induction requests generalizing s with
  | nil =>
    obtain rfl := Option.some.inj run
    simp
  | cons request requests ih =>
    obtain ⟨next, taken, rest⟩ := exec_cons.1 run
    obtain ⟨here, later⟩ := client
    have held := step_challenges known here taken
    have empty := ih held (later next taken) rest
    obtain rfl := Option.some.inj taken
    rw [empty, List.forall_mem_cons, List.append_eq_nil_iff, and_assoc]
    refine and_congr_right fun _ => and_congr_left fun _ => ?_
    cases answered : handle cfg request with
    | error refusal =>
      refine ⟨fun _ logs => ?_, fun _ => rfl⟩
      cases request with
      | login now attempts found password =>
        obtain ⟨userId, accepted⟩ := login_answers logs
        cases answered.symm.trans accepted
      | mfaVerify | refresh | logout | mfaEnroll => exact logs
    | ok tokens =>
      refine ⟨fun none logs => ?_, fun silent => ?_⟩
      · cases request with
        | login now attempts found password =>
          obtain ⟨userId, accepted⟩ := login_answers logs
          cases (answered.symm.trans accepted).symm.trans (congrArg Except.ok none)
        | mfaVerify | refresh | logout | mfaEnroll => exact logs
      · refine List.eq_nil_iff_forall_not_mem.2 fun token mem => silent ?_
        exact (handle_tokens known here.1 here.2 answered token mem).2

end Requests

/-- What a client without the second factor obtains is refused everywhere just in case
the tokens are verified with a JWKS or no login succeeds. It never opens a route
with a portal role and never renews a session. -/
theorem no_credential_iff {requests : List (Request Token)} {s : List Token}
    (run : exec (step cfg) [] requests = some s)
    (client : Along (step cfg) (fun s request => Unforged cfg s request ∧
      NoCode cfg request) [] requests) :
    ((∀ token ∈ s, Refused cfg token) ↔
      cfg.jwks.isSome = true ∨ ∀ request ∈ requests, ¬LogsIn cfg request) ∧
    ∀ token ∈ s,
      (∀ requiredRoles ⊆ portalRoles, ∀ now xTenantId tenant,
        requirePortalRole cfg requiredRoles now xTenantId token ≠ .ok tenant) ∧
      extractUserIdFromExpiredToken cfg (some token) = none := by
  have fresh : OnlyChallenges cfg [] :=
    fun _ mem => absurd mem List.not_mem_nil
  have challenges : OnlyChallenges cfg s := exec_invariant step_challenges client run fresh
  have empty := run_tokens fresh client run
  rw [eq_self_iff_true, true_and] at empty
  refine ⟨?_, fun token mem => ?_⟩
  · rw [← empty]
    constructor
    · intro refused
      cases s with
      | nil => exact .inr rfl
      | cons token rest =>
        obtain ⟨issued, userId, rfl⟩ := challenges token List.mem_cons_self
        exact .inl ((challenge_refused_iff issued userId).1 (refused _ List.mem_cons_self))
    · rintro (configured | rfl) token mem
      · obtain ⟨issued, userId, rfl⟩ := challenges token mem
        exact (challenge_refused_iff issued userId).2 configured
      · exact absurd mem List.not_mem_nil
  · obtain ⟨issued, userId, rfl⟩ := challenges token mem
    exact ⟨fun requiredRoles known now xTenantId tenant =>
      challenge_no_role issued userId known tenant,
      challenge_no_user issued userId⟩

/-- Tokens by who signed them. -/
inductive Signed
  | secret (payload : Payload)
  | provider (payload : Payload)

def Signed.withSecret : Signed → Except String Payload
  | .secret payload => .ok payload
  | .provider _ => .error "Signature verification failed."

def Signed.withProvider : Signed → Except String Payload
  | .secret _ => .error "Invalid token: Signature verification failed."
  | .provider payload => .ok payload

/-- Hashes are the passwords themselves, and no code is valid. -/
def deployment (jwks : Option (Nat → Signed → Except String Payload))
    (foreign : ∀ verify ∈ jwks, ∀ now payload claims, verify now (.secret payload) ≠ .ok claims) :
    Config Signed where
  encode := .secret
  decode := Signed.withSecret
  jwks := jwks
  decode_encode := fun _ => rfl
  foreign := foreign
  checkPassword := fun password hash => password == hash
  verifyTotp := fun _ _ _ => false

def withoutJwks : Config Signed := deployment none fun _ none => nomatch none

def withJwks : Config Signed := deployment (some fun _ => Signed.withProvider) (by
  rintro _ ⟨⟩ now payload claims accepted
  cases accepted)

def operator : User := ⟨"65f0", some "secret", true, some "enc", some ["portal:admin"]⟩

def password : Request Signed := .login 100 (some 1) (some operator) "secret"

theorem jwks_challenge_refused : ∃ s, exec (step withJwks) [] [password] = some s ∧
    Along (step withJwks) (fun s request => Unforged withJwks s request ∧
      NoCode withJwks request) []
      [password] ∧
    s ≠ [] ∧ ∀ token ∈ s, Refused withJwks token := by
  have client : Along (step withJwks)
      (fun s request => Unforged withJwks s request ∧ NoCode withJwks request) [] [password] :=
    ⟨⟨fun _ unpresented => (nomatch unpresented), trivial⟩, fun _ _ => trivial⟩
  refine ⟨_, rfl, client, List.cons_ne_nil _ _, ?_⟩
  exact (no_credential_iff withJwks rfl client).1.2 (.inl rfl)

/-- The password alone gives a bearer token for every route that asks for no portal
role. -/
theorem password_opens_routes : ∃ s, exec (step withoutJwks) [] [password] = some s ∧
    Along (step withoutJwks)
      (fun s request => Unforged withoutJwks s request ∧ NoCode withoutJwks request) [] [password] ∧
    ∃ token ∈ s, getCurrentTenant withoutJwks 100 none token =
      .ok ⟨"portal", "challenge:65f0", ["portal:mfa_challenge"], "agentoe-portal"⟩ := by
  refine ⟨_, rfl, ⟨⟨fun _ unpresented => (nomatch unpresented), trivial⟩, fun _ _ => trivial⟩, ?_⟩
  have marked : challengeMark ++ "65f0" = "challenge:65f0" := by decide
  refine ⟨createChallengeToken withoutJwks 100 "65f0", List.mem_cons_self, ?_⟩
  rw [challenge_accepted rfl, marked]
  rfl

end AgentOE.PortalAuth
