import AgentOE.Domain.PortalAuth
import AgentOE.Domain.SessionLimit

/-! The accounts of the portal under its endpoints, one database operation at a time,
and an administrator who deactivates and deletes accounts. -/
namespace AgentOE.PortalAccount
open Transition Collection
open PortalAuth (Refusal User Payload portalLogin challenged enrolledSecret accessToken checkCsrf
  extractUserIdFromExpiredToken requirePortalRole portalRoles Unsigned Challenge)

structure Account (Oid : Type) where
  objectId : Oid
  username : String
  isActive : Bool
  hashedPassword : Option String
  mfaEnabled : Bool
  mfaSecretEnc : Option String
  portalRoles : Option (List String)
  deriving DecidableEq

/-- `str` prints an `ObjectId`, `parse` reads one from a text. -/
structure Config (Token Oid : Type) extends PortalAuth.Config Token where
  sessions : PortalSession.Config
  str : Oid → String
  parse : String → Option Oid
  parse_str : ∀ id, parse (str id) = some id
  str_ne : ∀ id, str id ≠ ""

inductive Request (Token : Type) where
  /-- With the counter of the address. -/
  | login (attempts : Option Nat) (username password : String)
  | mfaVerify (bearer : Option Token) (code : String)
  | refresh (csrfHeader csrfCookie refreshCookie : Option String) (accessCookie : Option Token)
  | logout (csrfHeader csrfCookie : Option String) (accessCookie : Option Token)
  | mfaEnroll (now : Nat) (xTenantId : Option String) (bearer : Option Token) (secret : String)

inductive Answer (Token : Type) where
  | challenge (mfaRequired : Bool) (tokens : List Token)
  | granted (access : Token) (refresh csrf : String)
  | enrolled (secret : String)
  | loggedOut

/-- What a call waits for: its next operation on the users, or the end of its operations
on the sessions. -/
inductive Phase (Token Oid : Type) where
  | idle
  | loggingIn (attempts : Option Nat) (username password : String)
  | verifying (bearer : Option Token) (code : String)
  | granting (access : Token)
  | refreshing (userId : String)
  | loggingOut
  | enrolling (userId secret : String)
  | replacing (id : Oid) (secret : String)
  | returned (answer : Except Refusal (Answer Token))

structure State (Token Oid C : Type) where
  users : List (Account Oid)
  sessions : PortalSession.State C
  phase : C → Phase Token Oid

def State.initial (Token C : Type) (users : List (Account Oid))
    (docs : List PortalSession.SessionDoc) : State Token Oid C :=
  ⟨users, ⟨docs, fun _ => .idle⟩, fun _ => .idle⟩

/-- What a call reads beside the databases. A `decrypt` without a result has failed. -/
structure Reading where
  now : Nat
  decrypt : String → Option String
  encrypt : String → String
  csrf : String

inductive Label (Token Oid C : Type) where
  | start (c : C) (request : Request Token)
  | next (c : C) (reading : Reading)
  | session (action : PortalSession.Action C)
  | deactivate (id : Oid)
  | delete (id : Oid)

variable {Token Oid C : Type} [DecidableEq Oid] [DecidableEq C] (cfg : Config Token Oid)

def Account.user (account : Account Oid) : User :=
  ⟨cfg.str account.objectId, account.hashedPassword, account.mfaEnabled, account.mfaSecretEnc,
    account.portalRoles⟩

def activeUser (username : String) (account : Account Oid) : Bool :=
  account.username == username && account.isActive

def getUserByUsername (users : List (Account Oid)) (username : String) : Option User :=
  (findOne (activeUser username) users).map (Account.user cfg)

/-- Whether the account is active is not asked. -/
def getUserById (users : List (Account Oid)) (userId : String) : Option User :=
  ((cfg.parse userId).bind fun id => findOne (·.objectId == id) users).map (Account.user cfg)

def State.moveTo (σ : State Token Oid C) (c : C) (phase : Phase Token Oid) : State Token Oid C :=
  { σ with phase := Function.update σ.phase c phase }

/-- The refresh token and the user of a refresh. -/
def refreshed (csrfHeader csrfCookie refreshCookie : Option String) (accessCookie : Option Token) :
    Except Refusal (String × String) := do
  checkCsrf csrfHeader csrfCookie
  match refreshCookie.filter (· ≠ "") with
  | none => throw (.http 401 "No refresh token")
  | some presented => match extractUserIdFromExpiredToken cfg.toConfig accessCookie with
    | none => throw (.http 401 "Cannot identify user from access token")
    | some userId => return (presented, userId)

/-- The user and the roles of a code that is accepted. -/
def verified (users : List (Account Oid)) (reading : Reading) (bearer : Option Token)
    (code : String) : Except Refusal (String × List String) := do
  let userId ← challenged cfg.toConfig reading.now bearer
  let (user, secret) ← enrolledSecret (getUserById cfg users) reading.decrypt userId
  if cfg.verifyTotp reading.now secret code then
    return (userId, user.portalRoles.getD ["portal:viewer"])
  else throw (.http 401 "Invalid MFA code")

def start (σ : State Token Oid C) (c : C) : Request Token → Option (State Token Oid C)
  | .login attempts username password => some (σ.moveTo c (.loggingIn attempts username password))
  | .mfaVerify bearer code => some (σ.moveTo c (.verifying bearer code))
  | .refresh csrfHeader csrfCookie refreshCookie accessCookie =>
    match refreshed cfg csrfHeader csrfCookie refreshCookie accessCookie with
    | .error refusal => some (σ.moveTo c (.returned (.error refusal)))
    | .ok (presented, userId) =>
      (PortalSession.step cfg.sessions σ.sessions (.rotate c presented userId)).map fun sessions =>
        { σ with sessions := sessions }.moveTo c (.refreshing userId)
  | .logout csrfHeader csrfCookie accessCookie => match checkCsrf csrfHeader csrfCookie with
    | .error refusal => some (σ.moveTo c (.returned (.error refusal)))
    | .ok _ => match extractUserIdFromExpiredToken cfg.toConfig accessCookie with
      | none => some (σ.moveTo c (.returned (.ok .loggedOut)))
      | some userId => (PortalSession.step cfg.sessions σ.sessions (.revokeAll c userId)).map
          fun sessions => { σ with sessions := sessions }.moveTo c .loggingOut
  | .mfaEnroll now xTenantId bearer secret => match bearer with
    | none => some (σ.moveTo c (.returned (.error (.http 403 "Not authenticated"))))
    | some token => match requirePortalRole cfg.toConfig portalRoles now xTenantId token with
      | .error refusal => some (σ.moveTo c (.returned (.error refusal)))
      | .ok tenant => some (σ.moveTo c (.enrolling tenant.clientId secret))

def advance (σ : State Token Oid C) (c : C) (reading : Reading) :
    Phase Token Oid → Option (State Token Oid C)
  | .loggingIn attempts username password =>
    let found := getUserByUsername cfg σ.users username
    some (σ.moveTo c (.returned ((portalLogin cfg.toConfig reading.now attempts found password).map
      (.challenge (found.any User.mfaEnabled)))))
  | .verifying bearer code => match verified cfg σ.users reading bearer code with
    | .error refusal => some (σ.moveTo c (.returned (.error refusal)))
    | .ok (userId, roles) =>
      (PortalSession.step cfg.sessions σ.sessions (.login c
        { userId := userId, portalRoles := roles, expireHours := cfg.sessions.portalRefreshExpireHours })).map
        fun sessions => { σ with sessions := sessions }.moveTo c
          (.granting (accessToken cfg.toConfig reading.now userId roles))
  | .granting access => match σ.sessions.call c with
    | .returned _ (some refresh) =>
      some (σ.moveTo c (.returned (.ok (.granted access refresh reading.csrf))))
    | _ => none
  | .refreshing userId => match σ.sessions.call c with
    | .returned _ none =>
      some (σ.moveTo c (.returned (.error (.http 401 "Invalid or expired refresh token"))))
    | .returned _ (some refresh) =>
      let roles := match getUserById cfg σ.users userId with
        | some user => user.portalRoles.getD ["portal:viewer"]
        | none => []
      let access := accessToken cfg.toConfig reading.now userId roles
      some (σ.moveTo c (.returned (.ok (.granted access refresh reading.csrf))))
    | _ => none
  | .loggingOut => match σ.sessions.call c with
    | .revoked _ => some (σ.moveTo c (.returned (.ok .loggedOut)))
    | _ => none
  | .enrolling userId secret => match (cfg.parse userId).filter fun id =>
      (findOne (·.objectId == id) σ.users).isSome with
    | none => some (σ.moveTo c (.returned (.error (.http 404 "User not found"))))
    | some id => some (σ.moveTo c (.replacing id secret))
  -- MFA is off from here on: nothing sets it again
  | .replacing id secret =>
    let enrol := fun account : Account Oid =>
      { account with mfaSecretEnc := some (reading.encrypt secret), mfaEnabled := false }
    some ({ σ with users := updateOne (·.objectId == id) enrol σ.users }.moveTo c
      (.returned (.ok (.enrolled secret))))
  | .idle | .returned _ => none

def step (σ : State Token Oid C) : Label Token Oid C → Option (State Token Oid C)
  | .start c request => match σ.phase c with
    | .idle => start cfg σ c request
    | _ => none
  | .next c reading => advance cfg σ c reading (σ.phase c)
  | .session (.next c now) =>
    (PortalSession.step cfg.sessions σ.sessions (.next c now)).map fun sessions =>
      { σ with sessions := sessions }
  | .session (.insert c now token salt) =>
    (PortalSession.step cfg.sessions σ.sessions (.insert c now token salt)).map fun sessions =>
      { σ with sessions := sessions }
  | .session _ => none
  | .deactivate id =>
    some { σ with
      users := updateOne (·.objectId == id) (fun account => { account with isActive := false })
        σ.users }
  | .delete id => some { σ with users := deleteOne (·.objectId == id) σ.users }

def Phase.Finished : Phase Token Oid → Prop
  | .idle | .returned _ => True
  | _ => False

/-- The subject of the token is the user. -/
def For (id : Oid) (token : Token) : Prop :=
  ∃ payload, cfg.decode token = .ok payload ∧ payload.sub.bind cfg.parse = some id

/-- The call has returned an access token for the user. -/
def Grants (id : Oid) : Phase Token Oid → Prop
  | .returned (.ok (.granted access _ _)) => For cfg id access
  | _ => False

section Steps
variable {cfg} {σ τ : State Token Oid C} {c d : C}

omit [DecidableEq Oid] in
theorem moveTo_phase (σ : State Token Oid C) (c d : C) (phase : Phase Token Oid) :
    (σ.moveTo c phase).phase d = if d = c then phase else σ.phase d := by
  simp [State.moveTo, Function.update_apply]

/-- A step of a call leaves the other calls where they are. -/
structure Moves (σ τ : State Token Oid C) (c : C) : Prop where
  phase : ∀ d, d ≠ c → τ.phase d = σ.phase d
  sessions : ∀ d, d ≠ c → τ.sessions.call d = σ.sessions.call d

omit [DecidableEq Oid] in
theorem Moves.quiet (users : List (Account Oid)) (phase : Phase Token Oid) :
    Moves σ ({ σ with users := users }.moveTo c phase) c :=
  ⟨fun d other => by rw [moveTo_phase, if_neg other], fun _ _ => rfl⟩

omit [DecidableEq Oid] in
theorem Moves.with_sessions {action : PortalSession.Action C} {phase : Phase Token Oid}
    (stepped : (PortalSession.step cfg.sessions σ.sessions action).map (fun sessions =>
      State.moveTo { σ with sessions := sessions } action.caller phase) = some τ) :
    Moves σ τ action.caller := by
  obtain ⟨sessions, taken, rfl⟩ := Option.map_eq_some_iff.mp stepped
  exact ⟨fun d other => by rw [moveTo_phase, if_neg other],
    fun d other => PortalSession.step_others taken other⟩

omit [DecidableEq Oid] in
theorem start_moves {request : Request Token} (started : start cfg σ c request = some τ) :
    Moves σ τ c := by
  cases request with
  | login | mfaVerify =>
    obtain rfl := Option.some.inj started
    exact .quiet _ _
  | refresh =>
    simp only [start] at started
    split at started
    · obtain rfl := Option.some.inj started
      exact .quiet _ _
    · exact .with_sessions started
  | logout =>
    simp only [start] at started
    split at started
    · obtain rfl := Option.some.inj started
      exact .quiet _ _
    split at started
    · obtain rfl := Option.some.inj started
      exact .quiet _ _
    · exact .with_sessions started
  | mfaEnroll =>
    simp only [start] at started
    split at started
    · obtain rfl := Option.some.inj started
      exact .quiet _ _
    split at started <;> obtain rfl := Option.some.inj started <;> exact .quiet _ _

theorem advance_moves {reading : Reading} {phase : Phase Token Oid}
    (advanced : advance cfg σ c reading phase = some τ) : Moves σ τ c := by
  cases phase with
  | idle | returned => cases advanced
  | loggingIn | replacing =>
    obtain rfl := Option.some.inj advanced
    exact .quiet _ _
  | verifying bearer code =>
    simp only [advance] at advanced
    split at advanced
    · obtain rfl := Option.some.inj advanced
      exact .quiet _ _
    · exact .with_sessions advanced
  | granting | refreshing | loggingOut | enrolling =>
    simp only [advance] at advanced
    split at advanced <;> cases advanced <;> exact .quiet _ _

/-- The ways in which a step is about a call. -/
theorem step_call {l : Label Token Oid C} (stepped : step cfg σ l = some τ) (c : C) :
    (τ.phase c = σ.phase c ∧ τ.sessions.call c = σ.sessions.call c) ∨
      (∃ request, l = .start c request ∧ σ.phase c = .idle ∧ start cfg σ c request = some τ) ∨
      (∃ reading, l = .next c reading ∧ advance cfg σ c reading (σ.phase c) = some τ) ∨
      ∃ action, l = .session action ∧ action.caller = c ∧ τ.phase c = σ.phase c ∧
        PortalSession.step cfg.sessions σ.sessions action = some τ.sessions := by
  have sessions : ∀ action, (PortalSession.step cfg.sessions σ.sessions action).map
      (fun sessions => { σ with sessions := sessions }) = some τ → l = .session action →
      (τ.phase c = σ.phase c ∧ τ.sessions.call c = σ.sessions.call c) ∨
        ∃ action, l = .session action ∧ action.caller = c ∧ τ.phase c = σ.phase c ∧
          PortalSession.step cfg.sessions σ.sessions action = some τ.sessions := by
    intro action mapped label
    obtain ⟨next, taken, rfl⟩ := Option.map_eq_some_iff.mp mapped
    by_cases mine : c = action.caller
    · exact .inr ⟨action, label, mine.symm, rfl, taken⟩
    · exact .inl ⟨rfl, PortalSession.step_others taken mine⟩
  cases l with
  | start d request =>
    simp only [step] at stepped
    split at stepped
    · rename_i idle
      by_cases mine : c = d
      · subst mine
        exact .inr (.inl ⟨request, rfl, idle, stepped⟩)
      · have moves := start_moves stepped
        exact .inl ⟨moves.phase c mine, moves.sessions c mine⟩
    · cases stepped
  | next d reading =>
    by_cases mine : c = d
    · subst mine
      exact .inr (.inr (.inl ⟨reading, rfl, stepped⟩))
    · have moves := advance_moves stepped
      exact .inl ⟨moves.phase c mine, moves.sessions c mine⟩
  | session action =>
    cases action with
    | login | rotate | revokeAll => cases stepped
    | next | insert =>
      rcases sessions _ stepped rfl with same | taken
      · exact .inl same
      · exact .inr (.inr (.inr taken))
  | deactivate | delete =>
    obtain rfl := Option.some.inj stepped
    exact .inl ⟨rfl, rfl⟩

omit [DecidableEq Oid] in
theorem for_accessToken {id : Oid} (now : Nat) (userId : String) (roles : List String) :
    For cfg id (accessToken cfg.toConfig now userId roles) ↔ cfg.parse userId = some id := by
  unfold For accessToken PortalAuth.createAccessToken
  rw [cfg.decode_encode]
  constructor
  · rintro ⟨payload, decoded, named⟩
    rw [← Except.ok.inj decoded] at named
    exact named
  · exact fun named => ⟨_, rfl, named⟩

/-- Where a request leads, with the call of the sessions before and after. -/
inductive Begins (cfg : Config Token Oid) (before : PortalSession.Call) :
    Request Token → Phase Token Oid → PortalSession.Call → Prop where
  | login :
      Begins cfg before (.login attempts username password) (.loggingIn attempts username password)
        before
  | verify : Begins cfg before (.mfaVerify bearer code) (.verifying bearer code) before
  | refused : Begins cfg before request (.returned (.error refusal)) before
  | refresh : extractUserIdFromExpiredToken cfg.toConfig accessCookie = some userId →
      Begins cfg before (.refresh csrfHeader csrfCookie refreshCookie accessCookie)
        (.refreshing userId) (.rotating presented userId)
  | loggedOut :
      Begins cfg before (.logout csrfHeader csrfCookie accessCookie) (.returned (.ok .loggedOut))
        before
  | logout :
      Begins cfg before (.logout csrfHeader csrfCookie accessCookie) .loggingOut (.revoking userId)
  | enroll : requirePortalRole cfg.toConfig portalRoles now xTenantId token = .ok tenant →
      Begins cfg before (.mfaEnroll now xTenantId (some token) secret)
        (.enrolling tenant.clientId secret) before

omit [DecidableEq Oid] in
theorem refreshed_user {csrfHeader csrfCookie refreshCookie : Option String}
    {accessCookie : Option Token} {presented userId : String}
    (named : refreshed cfg csrfHeader csrfCookie refreshCookie accessCookie =
      .ok (presented, userId)) :
    extractUserIdFromExpiredToken cfg.toConfig accessCookie = some userId := by
  obtain ⟨_, -, rest⟩ := PortalAuth.of_bind_ok named
  split at rest
  · cases rest
  split at rest
  · cases rest
  · rename_i extracted
    cases rest
    exact extracted

omit [DecidableEq Oid] in
theorem start_begins {request : Request Token} (started : start cfg σ c request = some τ) :
    τ.users = σ.users ∧ Begins cfg (σ.sessions.call c) request (τ.phase c) (τ.sessions.call c) := by
  cases request with
  | login | mfaVerify =>
    obtain rfl := Option.some.inj started
    rw [moveTo_phase, if_pos rfl]
    exact ⟨rfl, by constructor⟩
  | refresh csrfHeader csrfCookie refreshCookie accessCookie =>
    simp only [start] at started
    split at started
    · obtain rfl := Option.some.inj started
      rw [moveTo_phase, if_pos rfl]
      exact ⟨rfl, .refused⟩
    · rename_i presented userId named
      obtain ⟨sessions, rotating, rfl⟩ := Option.map_eq_some_iff.mp started
      simp only [PortalSession.step, Option.ite_none_right_eq_some, Option.some.injEq] at rotating
      obtain ⟨-, rfl⟩ := rotating
      rw [moveTo_phase, if_pos rfl]
      refine ⟨rfl, ?_⟩
      change Begins cfg _ _ _ ((σ.sessions.moveTo c (.rotating presented userId)).call c)
      rw [PortalSession.moveTo_call, if_pos rfl]
      exact .refresh (refreshed_user named)
  | logout csrfHeader csrfCookie accessCookie =>
    simp only [start] at started
    split at started
    · obtain rfl := Option.some.inj started
      rw [moveTo_phase, if_pos rfl]
      exact ⟨rfl, .refused⟩
    split at started
    · obtain rfl := Option.some.inj started
      rw [moveTo_phase, if_pos rfl]
      exact ⟨rfl, .loggedOut⟩
    · rename_i userId named
      obtain ⟨sessions, revoking, rfl⟩ := Option.map_eq_some_iff.mp started
      simp only [PortalSession.step, Option.ite_none_right_eq_some, Option.some.injEq] at revoking
      obtain ⟨-, rfl⟩ := revoking
      rw [moveTo_phase, if_pos rfl]
      refine ⟨rfl, ?_⟩
      change Begins cfg _ _ _ ((σ.sessions.moveTo c (.revoking userId)).call c)
      rw [PortalSession.moveTo_call, if_pos rfl]
      exact .logout
  | mfaEnroll now xTenantId bearer secret =>
    simp only [start] at started
    split at started
    · obtain rfl := Option.some.inj started
      rw [moveTo_phase, if_pos rfl]
      exact ⟨rfl, .refused⟩
    split at started <;> obtain rfl := Option.some.inj started <;> rw [moveTo_phase, if_pos rfl]
    · exact ⟨rfl, .refused⟩
    · rename_i accepted
      exact ⟨rfl, .enroll accepted⟩

/-- A code that is accepted. -/
structure Accepts (cfg : Config Token Oid) (users : List (Account Oid)) (reading : Reading)
    (bearer : Option Token) (code userId : String) (user : User) (secret : String) : Prop where
  challenge : challenged cfg.toConfig reading.now bearer = .ok userId
  enrolled : enrolledSecret (getUserById cfg users) reading.decrypt userId = .ok (user, secret)
  valid : cfg.verifyTotp reading.now secret code = true

theorem verified_accepts {users : List (Account Oid)} {reading : Reading} {bearer : Option Token}
    {code userId : String} {roles : List String} :
    verified cfg users reading bearer code = .ok (userId, roles) ↔
    ∃ user secret, Accepts cfg users reading bearer code userId user secret ∧
      user.portalRoles.getD ["portal:viewer"] = roles := by
  constructor
  · intro accepted
    obtain ⟨found, challenge, rest⟩ := PortalAuth.of_bind_ok accepted
    obtain ⟨⟨user, secret⟩, enrolled, checked⟩ := PortalAuth.of_bind_ok rest
    dsimp only at checked
    split at checked <;> cases checked
    rename_i valid
    exact ⟨user, secret, ⟨challenge, enrolled, valid⟩, rfl⟩
  · rintro ⟨user, secret, accepts, rfl⟩
    simp only [verified, accepts.challenge, accepts.enrolled, bind, Except.bind, accepts.valid,
      if_true]
    rfl

/-- What a call goes on to, with the call of the sessions and the accounts after its
operation. -/
inductive Proceeds (cfg : Config Token Oid) (σ : State Token Oid C) (c : C) (reading : Reading) :
    Phase Token Oid → Phase Token Oid → PortalSession.Call → List (Account Oid) → Prop where
  | login : portalLogin cfg.toConfig reading.now attempts found password = .ok tokens →
      Proceeds cfg σ c reading (.loggingIn attempts username password)
        (.returned (.ok (.challenge required tokens))) (σ.sessions.call c) σ.users
  | denied :
      Proceeds cfg σ c reading (.loggingIn attempts username password) (.returned (.error refusal))
        (σ.sessions.call c) σ.users
  | rejected : (∀ userId user secret, ¬Accepts cfg σ.users reading bearer code userId user secret) →
      Proceeds cfg σ c reading (.verifying bearer code) (.returned (.error refusal))
        (σ.sessions.call c) σ.users
  | verify : Accepts cfg σ.users reading bearer code userId user secret →
      Proceeds cfg σ c reading (.verifying bearer code)
        (.granting (accessToken cfg.toConfig reading.now userId roles))
        (.creating .login grant .count) σ.users
  | grant : σ.sessions.call c = .returned origin (some refresh) →
      Proceeds cfg σ c reading (.granting access) (.returned (.ok (.granted access refresh csrf)))
        (σ.sessions.call c) σ.users
  | unmatched : σ.sessions.call c = .returned origin none →
      Proceeds cfg σ c reading (.refreshing userId) (.returned (.error refusal))
        (σ.sessions.call c) σ.users
  | renew : σ.sessions.call c = .returned origin (some refresh) →
      Proceeds cfg σ c reading (.refreshing userId) (.returned
        (.ok (.granted (accessToken cfg.toConfig reading.now userId roles) refresh csrf)))
        (σ.sessions.call c) σ.users
  | logout :
      Proceeds cfg σ c reading .loggingOut (.returned (.ok .loggedOut)) (σ.sessions.call c) σ.users
  | missing : Proceeds cfg σ c reading (.enrolling userId secret) (.returned (.error refusal))
      (σ.sessions.call c) σ.users
  | find : cfg.parse userId = some oid →
      Proceeds cfg σ c reading (.enrolling userId secret) (.replacing oid secret)
        (σ.sessions.call c) σ.users
  | replace : (∀ account, (enrol account).objectId = account.objectId ∧
        (enrol account).username = account.username ∧ (enrol account).mfaEnabled = false) →
      Proceeds cfg σ c reading (.replacing oid secret) (.returned (.ok (.enrolled secret)))
        (σ.sessions.call c) (updateOne (·.objectId == oid) enrol σ.users)

theorem advance_proceeds {reading : Reading}
    (advanced : advance cfg σ c reading (σ.phase c) = some τ) :
    Proceeds cfg σ c reading (σ.phase c) (τ.phase c) (τ.sessions.call c) τ.users := by
  cases phase : σ.phase c with
  | idle | returned =>
    rw [phase] at advanced
    cases advanced
  | loggingIn attempts username password =>
    rw [phase] at advanced
    obtain rfl := Option.some.inj advanced
    rw [moveTo_phase, if_pos rfl]
    cases answered : portalLogin cfg.toConfig reading.now attempts
      (getUserByUsername cfg σ.users username)
      password with
    | error refusal => exact .denied
    | ok tokens => exact .login answered
  | replacing id secret =>
    rw [phase] at advanced
    obtain rfl := Option.some.inj advanced
    rw [moveTo_phase, if_pos rfl]
    exact .replace fun account => ⟨rfl, rfl, rfl⟩
  | verifying bearer code =>
    rw [phase] at advanced
    simp only [advance] at advanced
    split at advanced
    · rename_i refused
      obtain rfl := Option.some.inj advanced
      rw [moveTo_phase, if_pos rfl]
      refine .rejected fun userId user secret accepts => ?_
      cases refused.symm.trans (verified_accepts.mpr ⟨user, secret, accepts, rfl⟩)
    · rename_i userId roles accepted
      obtain ⟨sessions, creating, rfl⟩ := Option.map_eq_some_iff.mp advanced
      obtain ⟨user, secret, accepts, -⟩ := verified_accepts.mp accepted
      simp only [PortalSession.step, Option.ite_none_right_eq_some, Option.some.injEq] at creating
      obtain ⟨-, rfl⟩ := creating
      rw [moveTo_phase, if_pos rfl]
      change Proceeds cfg σ c reading _ _
        ((σ.sessions.moveTo c (.creating .login _ .count)).call c) _
      rw [PortalSession.moveTo_call, if_pos rfl]
      exact .verify accepts
  | granting access =>
    rw [phase] at advanced
    simp only [advance] at advanced
    split at advanced <;> cases advanced
    rename_i answered
    rw [moveTo_phase, if_pos rfl]
    exact .grant answered
  | refreshing userId =>
    rw [phase] at advanced
    simp only [advance] at advanced
    split at advanced <;> cases advanced <;> rename_i answered <;> rw [moveTo_phase, if_pos rfl]
    · exact .unmatched answered
    · exact .renew answered
  | loggingOut =>
    rw [phase] at advanced
    simp only [advance] at advanced
    split at advanced <;> cases advanced
    rw [moveTo_phase, if_pos rfl]
    exact .logout
  | enrolling userId secret =>
    rw [phase] at advanced
    simp only [advance] at advanced
    split at advanced <;> cases advanced <;> rw [moveTo_phase, if_pos rfl]
    · exact .missing
    · rename_i found
      exact .find (Option.filter_eq_some_iff.mp found).1

end Steps

/-! Deactivation. -/

/-- No code of a late call is accepted for the user, and a refresh of a late call finds no
session of theirs. -/
def Unreached (id : Oid) (late : C → Prop) (σ : State Token Oid C) : Label Token Oid C → Prop
  | .next c reading =>
    late c → ∀ bearer code userId user secret, σ.phase c = .verifying bearer code →
    Accepts cfg σ.users reading bearer code userId user secret → cfg.parse userId ≠ some id
  | .session (.next c now) => late c → ∀ token userId, σ.sessions.call c = .rotating token userId →
    cfg.parse userId = some id →
    PortalSession.findMatch cfg.sessions σ.sessions.docs token userId now = none
  | _ => True

/-- The call neither has an access token of the user nor comes to one. -/
def Barred (id : Oid) (call : PortalSession.Call) : Phase Token Oid → Prop
  | .granting access => ¬For cfg id access
  | .refreshing userId => cfg.parse userId = some id →
    (∃ token, call = .rotating token userId) ∨ ∃ origin, call = .returned origin none
  | .returned (.ok (.granted access _ _)) => ¬For cfg id access
  | _ => True

section Deactivation
variable {cfg} {σ τ : State Token Oid C} {c : C} {id : Oid}

omit [DecidableEq Oid] in
theorem Begins.barred {request : Request Token} {phase : Phase Token Oid}
    {before call : PortalSession.Call} (begins : Begins cfg before request phase call) :
    Barred cfg id call phase := by
  cases begins with
  | refresh => exact fun _ => .inl ⟨_, rfl⟩
  | login | verify | refused | loggedOut | logout | enroll => trivial

omit [DecidableEq C] in
theorem Proceeds.barred {reading : Reading} {phase next : Phase Token Oid}
    {users : List (Account Oid)}
    {call : PortalSession.Call} (proceeds : Proceeds cfg σ c reading phase next call users)
    (barred : Barred cfg id (σ.sessions.call c) phase)
    (unreached : ∀ bearer code userId user secret, phase = .verifying bearer code →
      Accepts cfg σ.users reading bearer code userId user secret → cfg.parse userId ≠ some id) :
    Barred cfg id call next := by
  cases proceeds with
  | verify accepts => exact mt (for_accessToken ..).mp (unreached _ _ _ _ _ rfl accepts)
  | grant => exact barred
  | renew answered =>
    refine mt (for_accessToken ..).mp fun mine => ?_
    rcases barred mine with ⟨token, rotating⟩ | ⟨origin', refused⟩
    · cases answered.symm.trans rotating
    · cases answered.symm.trans refused
  | login | denied | rejected | unmatched | logout | missing | find | replace => trivial

omit [DecidableEq Oid] in
theorem session_barred {action : PortalSession.Action C} {phase : Phase Token Oid}
    {sessions : PortalSession.State C}
    (barred : Barred cfg id (σ.sessions.call action.caller) phase)
    (searches : ∀ c now token userId, action = .next c now →
      σ.sessions.call c = .rotating token userId →
      cfg.parse userId = some id →
      PortalSession.findMatch cfg.sessions σ.sessions.docs token userId now = none)
    (stepped : PortalSession.step cfg.sessions σ.sessions action = some sessions) :
    Barred cfg id (sessions.call action.caller) phase := by
  cases phase with
  | refreshing userId =>
    intro mine
    rcases barred mine with ⟨token, rotating⟩ | ⟨origin, refused⟩
    · cases action with
      | next c now =>
        have none_found := searches c now token userId rfl rotating mine
        simp only [PortalSession.Action.caller] at rotating
        simp only [PortalSession.step, rotating, PortalSession.advance, none_found,
          Option.some.injEq] at stepped
        subst stepped
        exact .inr ⟨_, by rw [PortalSession.moveTo_call]; exact if_pos rfl⟩
      | login | rotate | revokeAll =>
        simp only [PortalSession.Action.caller] at rotating
        simp only [PortalSession.step, rotating, Option.ite_none_right_eq_some] at stepped
        cases stepped.1
      | insert =>
        simp only [PortalSession.Action.caller] at rotating
        simp only [PortalSession.step, rotating] at stepped
        cases stepped
    · rw [PortalSession.step_returned refused] at stepped
      cases stepped
  | granting => exact barred
  | returned answer => rcases answer with _ | answer <;> [trivial; cases answer <;> exact barred]
  | idle | loggingIn | verifying | loggingOut | enrolling | replacing => trivial

theorem step_barred {late : C → Prop} {l : Label Token Oid C} (isLate : late c)
    (barred : Barred cfg id (σ.sessions.call c) (σ.phase c)) (unreached : Unreached cfg id late σ l)
    (stepped : step cfg σ l = some τ) : Barred cfg id (τ.sessions.call c) (τ.phase c) := by
  rcases step_call stepped c with ⟨phase, call⟩ | ⟨request, rfl, -, started⟩ |
    ⟨reading, rfl, advanced⟩ |
    ⟨action, rfl, rfl, phase, taken⟩
  · rwa [phase, call]
  · exact (start_begins started).2.barred
  · exact (advance_proceeds advanced).barred barred (unreached isLate)
  · rw [phase]
    refine session_barred barred ?_ taken
    rintro c now token userId rfl
    exact unreached isLate token userId

/-! Conversely, a late call that is reached ends with a token. -/

/-- A rotation is under way for a refresh only. -/
def Linked (call : PortalSession.Call) (phase : Phase Token Oid) : Prop :=
  ∀ token userId, call = .rotating token userId → phase = .refreshing userId

/-- The rotation has found its session. -/
def Succeeding : PortalSession.Call → Prop
  | .matched .. | .creating .. | .returned _ (some _) => True
  | _ => False

variable (cfg id) in
/-- The call is going to return an access token of the user, or has returned one. -/
def Committed (call : PortalSession.Call) : Phase Token Oid → Prop
  | .granting access => For cfg id access
  | .refreshing userId => cfg.parse userId = some id ∧ Succeeding call
  | .returned (.ok (.granted access _ _)) => For cfg id access
  | _ => False

omit [DecidableEq Oid] in
theorem Begins.linked {request : Request Token} {phase : Phase Token Oid}
    {before call : PortalSession.Call} (begins : Begins cfg before request phase call)
    (linked : Linked before (.idle : Phase Token Oid)) :
    Linked call phase := by
  cases begins with
  | refresh =>
    intro token userId rotating
    cases rotating
    rfl
  | logout => exact fun token userId rotating => nomatch rotating
  | login | verify | refused | loggedOut | enroll =>
    exact fun token userId rotating => nomatch linked token userId rotating

omit [DecidableEq C] in
theorem Proceeds.linked {reading : Reading} {phase next : Phase Token Oid}
    {users : List (Account Oid)} {call : PortalSession.Call}
    (proceeds : Proceeds cfg σ c reading phase next call users)
    (linked : Linked (σ.sessions.call c) phase) : Linked call next := by
  cases proceeds with
  | verify => exact fun token userId rotating => nomatch rotating
  | unmatched answered | renew answered =>
    exact fun token userId rotating => nomatch answered.symm.trans rotating
  | login | denied | rejected | grant | logout | missing | find | replace =>
    exact fun token userId rotating => nomatch linked token userId rotating

/-- What an operation on the sessions makes of the call that takes it. -/
theorem session_call {scfg : PortalSession.Config} {action : PortalSession.Action C}
    {before after : PortalSession.State C}
    (stepped : PortalSession.step scfg before action = some after)
    (busy : before.call action.caller ≠ .idle) :
    (∀ token userId, after.call action.caller ≠ .rotating token userId) ∧
      (Succeeding (before.call action.caller) → Succeeding (after.call action.caller)) := by
  cases action with
  | login c | rotate c | revokeAll c =>
    simp only [PortalSession.step, Option.ite_none_right_eq_some] at stepped
    exact absurd stepped.1 busy
  | insert c now token salt =>
    obtain ⟨-, ⟨origin, returned⟩, -⟩ := PortalSession.insert_returns stepped
    simp only [PortalSession.Action.caller, returned]
    exact ⟨by simp, fun _ => trivial⟩
  | next c now =>
    simp only [PortalSession.Action.caller, PortalSession.step] at stepped ⊢
    cases call : before.call c with
    | idle | returned | revoked =>
      rw [call] at stepped
      cases stepped
    | rotating token userId =>
      rw [call] at stepped
      simp only [PortalSession.advance] at stepped
      split at stepped <;> cases stepped <;> rw [PortalSession.moveTo_call, if_pos rfl] <;>
        exact ⟨by simp, False.elim⟩
    | matched token userId doc =>
      rw [call] at stepped
      cases stepped
      rw [PortalSession.moveTo_call, if_pos rfl]
      exact ⟨by simp, fun _ => trivial⟩
    | revoking userId =>
      rw [call] at stepped
      cases stepped
      rw [PortalSession.moveTo_call, if_pos rfl]
      exact ⟨by simp, False.elim⟩
    | creating origin grant stage =>
      rw [call] at stepped
      cases stage <;> cases stepped <;> rw [PortalSession.moveTo_call, if_pos rfl] <;>
        exact ⟨by simp, fun _ => trivial⟩

theorem session_busy {l : Label Token Oid C} {action : PortalSession.Action C}
    (label : l = .session action) (stepped : step cfg σ l = some τ) :
    σ.sessions.call action.caller ≠ .idle := by
  intro idle
  subst label
  cases action with
  | login | rotate | revokeAll => cases stepped
  | next c now =>
    obtain ⟨sessions, taken, -⟩ := Option.map_eq_some_iff.mp stepped
    simp only [PortalSession.Action.caller] at idle
    rw [PortalSession.step, idle] at taken
    cases taken
  | insert c now token salt =>
    obtain ⟨sessions, taken, -⟩ := Option.map_eq_some_iff.mp stepped
    simp only [PortalSession.Action.caller] at idle
    simp only [PortalSession.step, idle] at taken
    cases taken

theorem step_linked {l : Label Token Oid C} (linked : Linked (σ.sessions.call c) (σ.phase c))
    (stepped : step cfg σ l = some τ) : Linked (τ.sessions.call c) (τ.phase c) := by
  rcases step_call stepped c with ⟨phase, call⟩ | ⟨request, rfl, idle, started⟩ |
    ⟨reading, rfl, advanced⟩ |
    ⟨action, label, rfl, phase, taken⟩
  · rwa [phase, call]
  · exact (start_begins started).2.linked (idle ▸ linked)
  · exact (advance_proceeds advanced).linked linked
  · intro token userId rotating
    exact absurd rotating ((session_call taken (session_busy label stepped)).1 token userId)

theorem step_committed {l : Label Token Oid C}
    (committed : Committed cfg id (σ.sessions.call c) (σ.phase c))
    (stepped : step cfg σ l = some τ) : Committed cfg id (τ.sessions.call c) (τ.phase c) := by
  rcases step_call stepped c with ⟨phase, call⟩ | ⟨request, rfl, idle, started⟩ |
    ⟨reading, rfl, advanced⟩ |
    ⟨action, label, rfl, phase, taken⟩
  · rwa [phase, call]
  · rw [idle] at committed
    exact False.elim committed
  · have proceeds := advance_proceeds advanced
    generalize σ.phase c = phase, τ.phase c = next, τ.sessions.call c = call, τ.users = users at *
    cases proceeds with
    | grant => exact committed
    | renew answered => exact (for_accessToken ..).mpr committed.1
    | unmatched answered =>
      obtain ⟨-, succeeding⟩ := committed
      rw [answered] at succeeding
      exact False.elim succeeding
    | login | denied | rejected | verify | logout | missing | find | replace =>
      exact False.elim committed
  · rw [phase]
    have forward := (session_call taken (session_busy label stepped)).2
    cases here : σ.phase action.caller with
    | refreshing userId =>
      rw [here] at committed
      exact ⟨committed.1, forward committed.2⟩
    | granting access =>
      rw [here] at committed
      exact committed
    | returned answer =>
      rw [here] at committed
      rcases answer with refusal | answer
      · exact committed
      · cases answer <;> exact committed
    | idle | loggingIn | verifying | loggingOut | enrolling | replacing =>
      rw [here] at committed
      exact False.elim committed

/-- A late step that is not allowed commits its call. -/
theorem reached_commits {late : C → Prop} {l : Label Token Oid C}
    (linked : ∀ c, Linked (σ.sessions.call c) (σ.phase c)) (reached : ¬Unreached cfg id late σ l)
    (stepped : step cfg σ l = some τ) :
    ∃ c, late c ∧ Committed cfg id (τ.sessions.call c) (τ.phase c) := by
  cases l with
  | next c reading =>
    simp only [Unreached, not_forall, ne_eq, not_not] at reached
    obtain ⟨isLate, bearer, code, userId, user, secret, phase, accepts, mine⟩ := reached
    have proceeds := advance_proceeds (show advance cfg σ c reading (σ.phase c) =
      some τ from stepped)
    refine ⟨c, isLate, ?_⟩
    generalize τ.phase c = next, τ.sessions.call c = call, τ.users = users at *
    rw [phase] at proceeds
    cases proceeds with
    | rejected refused => exact absurd accepts (refused userId user secret)
    | verify accepts' =>
      rw [Except.ok.inj (accepts.challenge.symm.trans accepts'.challenge)] at mine
      exact (for_accessToken ..).mpr mine
  | session action =>
    cases action with
    | login | rotate | revokeAll => cases stepped
    | insert => exact absurd trivial reached
    | next c now =>
      simp only [Unreached, not_forall] at reached
      obtain ⟨isLate, token, userId, rotating, mine, found⟩ := reached
      obtain ⟨doc, found⟩ := Option.ne_none_iff_exists'.mp found
      obtain ⟨sessions, taken, rfl⟩ := Option.map_eq_some_iff.mp stepped
      simp only [PortalSession.step, rotating, PortalSession.advance, found, Option.some.injEq]
        at taken
      subst taken
      refine ⟨c, isLate, ?_⟩
      rw [linked c token userId rotating]
      refine ⟨mine, ?_⟩
      rw [PortalSession.moveTo_call, if_pos rfl]
      trivial
  | start | deactivate | delete => exact absurd trivial reached

theorem run_linked {users : List (Account Oid)} {docs : List PortalSession.SessionDoc}
    {labels : List (Label Token Oid C)}
    (run : exec (step cfg) (State.initial Token C users docs) labels = some σ) (c : C) :
    Linked (σ.sessions.call c) (σ.phase c) :=
  exec_preserves (fun σ => Linked (σ.sessions.call c) (σ.phase c))
    (fun _ _ _ linked stepped => step_linked linked stepped) run fun _ _ rotating =>
      nomatch rotating

omit [DecidableEq C] [DecidableEq Oid] in
theorem Committed.grants {call : PortalSession.Call} {phase : Phase Token Oid}
    (committed : Committed cfg id call phase) (finished : phase.Finished) :
    Grants cfg id phase := by
  cases phase with
  | returned answer =>
    rcases answer with refusal | answer
    · exact False.elim committed
    · cases answer <;> exact committed
  | idle => exact False.elim committed
  | loggingIn | verifying | granting | refreshing | loggingOut | enrolling | replacing =>
    exact False.elim finished

omit [DecidableEq C] [DecidableEq Oid] in
theorem Barred.no_grant {call : PortalSession.Call} {phase : Phase Token Oid}
    (barred : Barred cfg id call phase) : ¬Grants cfg id phase := by
  intro grants
  cases phase with
  | returned answer =>
    rcases answer with refusal | answer
    · exact grants
    · cases answer with
      | granted => exact barred grants
      | challenge | enrolled | loggedOut => exact grants
  | idle | loggingIn | verifying | granting | refreshing | loggingOut | enrolling | replacing =>
    exact grants

/-- From any point of a run on, the deactivation or deletion of a user in particular: the
calls that begin later return no access token for the user, unless one of them is reached. -/
theorem late_calls_barred {users : List (Account Oid)} {docs : List PortalSession.SessionDoc}
    {before after : List (Label Token Oid C)}
    (first : exec (step cfg) (State.initial Token C users docs) before = some σ)
    (later : exec (step cfg) σ after = some τ) :
    (Along (step cfg) (Unreached cfg id fun c => σ.phase c = .idle) σ after →
      ∀ c, σ.phase c = .idle → ¬Grants cfg id (τ.phase c)) ∧
    ((∀ c, (τ.phase c).Finished) → (∀ c, σ.phase c = .idle → ¬Grants cfg id (τ.phase c)) →
      Along (step cfg) (Unreached cfg id fun c => σ.phase c = .idle) σ after) := by
  constructor
  · intro unreached c idle
    let late : C → Prop := fun c => σ.phase c = .idle
    have preserves : ∀ {υ l ω}, Barred cfg id (υ.sessions.call c) (υ.phase c) →
        Unreached cfg id late υ l → step cfg υ l = some ω →
            Barred cfg id (ω.sessions.call c) (ω.phase c) :=
      fun barred allowed stepped => step_barred idle barred allowed stepped
    have initial : Barred cfg id (σ.sessions.call c) (σ.phase c) := by
      rw [idle]
      trivial
    exact (exec_invariant preserves unreached later initial).no_grant
  · intro finished unanswered
    by_contra reached
    obtain ⟨past, l, rest, υ, rfl, walked, -, bad⟩ := exists_of_not_along reached
    obtain ⟨υ', walked', remaining⟩ := exec_append.mp later
    cases Option.some.inj (walked.symm.trans walked')
    obtain ⟨ω, stepped, last⟩ := exec_cons.mp remaining
    have linked : ∀ c, Linked (υ.sessions.call c) (υ.phase c) :=
      run_linked (exec_append.mpr ⟨σ, first, walked⟩)
    obtain ⟨c, idle, committed⟩ := reached_commits linked bad stepped
    have still : Committed cfg id (τ.sessions.call c) (τ.phase c) :=
      exec_preserves (fun σ => Committed cfg id (σ.sessions.call c) (σ.phase c))
        (fun _ _ _ committed stepped => step_committed committed stepped) last committed
    exact unanswered c idle (still.grants (finished c))

end Deactivation

def digitText (id : Fin 10) : String := toString id.val

/-- Secrets are stored as they are and are their own codes. -/
def plainPortal : Config PortalAuth.Signed (Fin 10) where
  toConfig := { PortalAuth.withoutJwks with verifyTotp := fun _ secret code => secret == code }
  sessions := PortalSession.plainConfig
  str := digitText
  parse := fun text => (List.finRange 10).find? fun id => digitText id == text
  parse_str := by decide
  str_ne := by decide

def operator : Account (Fin 10) :=
  ⟨7, "kim", true, some "secret", true, some "314159", some ["portal:operator"]⟩

def plainReading (now : Nat) : Reading := ⟨now, some, id, "csrf"⟩

def challengeAt (now : Nat) : PortalAuth.Signed :=
  PortalAuth.createChallengeToken plainPortal.toConfig now "7"

/-- The operator logs in with the password. -/
def operatorLogin : List (Label PortalAuth.Signed (Fin 10) (Fin 3)) :=
  [.start 0 (.login (some 1) "kim" "secret"), .next 0 (plainReading 100)]

def afterLogin : State PortalAuth.Signed (Fin 10) (Fin 3) :=
  (exec (step plainPortal) (State.initial PortalAuth.Signed (Fin 3) [operator] [])
    operatorLogin).get rfl

def wrongCode : List (Label PortalAuth.Signed (Fin 10) (Fin 3)) :=
  [.deactivate 7, .start 1 (.mfaVerify (some (challengeAt 100)) "000000"),
    .next 1 (plainReading 130)]

theorem wrong_code_barred : ∃ τ, exec (step plainPortal) afterLogin wrongCode = some τ ∧
    ∀ c, afterLogin.phase c = .idle → ¬Grants plainPortal 7 (τ.phase c) := by
  obtain ⟨τ, later⟩ : ∃ τ, exec (step plainPortal) afterLogin wrongCode = some τ := ⟨_, rfl⟩
  refine ⟨τ, later, (late_calls_barred (Option.some_get _).symm later).1 ⟨trivial, ?_⟩⟩
  rintro _ ⟨⟩
  refine ⟨trivial, ?_⟩
  rintro _ ⟨⟩
  refine ⟨fun _ bearer code userId user secret phase accepts => ?_, fun _ _ => trivial⟩
  cases phase
  obtain ⟨challenge, enrolled, valid⟩ := accepts
  cases challenge
  cases enrolled
  cases valid

/-- The challenge is used after the deactivation, and the session after the deletion. -/
def lateAccess : List (Label PortalAuth.Signed (Fin 10) (Fin 3)) :=
  [.deactivate 7, .start 1 (.mfaVerify (some (challengeAt 100)) "314159"),
    .next 1 (plainReading 130),
    .session (.next 1 130), .session (.insert 1 130 "r-1" "salt"), .next 1 (plainReading 130),
    .delete 7, .start 2 (.refresh (some "csrf") (some "csrf") (some "r-1")
      (some (accessToken plainPortal.toConfig 130 "7" ["portal:operator"]))),
    .session (.next 2 900), .session (.next 2 900), .session (.next 2 900),
    .session (.insert 2 900 "r-2" "salt"), .next 2 (plainReading 900)]

theorem deactivated_user_served : ∃ σ τ,
    exec (step plainPortal) (State.initial PortalAuth.Signed (Fin 3) [operator] []) operatorLogin =
      some σ ∧ exec (step plainPortal) σ lateAccess = some τ ∧
    (σ.phase 1 = .idle ∧ Grants plainPortal 7 (τ.phase 1)) ∧ σ.phase 2 = .idle ∧
      Grants plainPortal 7 (τ.phase 2) := by
  refine ⟨_, _, rfl, rfl, ⟨rfl, _, rfl, ?_⟩, rfl, _, rfl, ?_⟩ <;> decide

end AgentOE.PortalAccount
