import AgentOE.Domain.PortalAccount

/-! The portal in a browser: the cookies, `AuthProvider`, and `apiFetch` where it is refused,
over the endpoints of the accounts. A call sends one request, and its answer may arrive at any
later time. -/
namespace AgentOE.AuthProvider
open Transition
open PortalAccount (Request Answer Config)

structure Cookie (α : Type) where
  value : α
  expires : Nat

structure Jar (Token : Type) where
  access : Option (Cookie Token) := none
  refresh : Option (Cookie String) := none
  csrf : Option (Cookie String) := none

inductive AuthStatus where
  | loading
  | unauthenticated
  | mfaChallenge
  | authenticated
  deriving DecidableEq

structure AuthState (Token : Type) where
  status : AuthStatus
  roles : List String := []
  username : Option String := none
  challengeToken : Option Token := none
  mfaEnrollRequired : Bool := false

/-- What the page does with the answer of a call. `elsewhere` is a call of another page, or of this
one before it was loaded again: only its cookies arrive. -/
inductive Purpose where
  | probe
  | timer
  | retry
  | login (username : String)
  | verify
  | logout
  | elsewhere
  deriving DecidableEq

/-- Times are seconds of the browser. `granted` is history: since the page was loaded or signed
out, it has been told of a session. -/
structure State (Token Oid C : Type) where
  server : PortalAccount.State Token Oid C
  clock : Nat := 0
  jar : Jar Token := {}
  page : AuthState Token := { status := .loading }
  timer : Option Nat := none
  awaiting : C → Option Purpose := fun _ => none
  granted : Bool := false

inductive Label (Token Oid C : Type) where
  | tick (seconds : Nat)
  /-- A step of the server, or a request of anybody else. -/
  | server (l : PortalAccount.Label Token Oid C)
  | load (c : C)
  | timer (c : C)
  /-- A request of `apiFetch` is answered with 401. -/
  | unauthorized (c : C)
  | login (c : C) (attempts : Option Nat) (username password : String)
  | verifyMfa (c : C) (code : String)
  | logout (c : C)
  | elsewhere (c : C) (request : Request Token)
  | receive (c : C)
  /-- `fetch` rejects. -/
  | fail (c : C)

def portalJwtExpire : Nat := 15 * 60

def refreshBefore : Nat := 60

/-- A cookie that has not expired is sent. -/
def sent {α : Type} (now : Nat) (cookie : Option (Cookie α)) : Option α :=
  (cookie.filter (now < ·.expires)).map (·.value)

variable {Token Oid C : Type} [DecidableEq Oid] [DecidableEq C] (cfg : Config Token Oid)

namespace State
variable (s : State Token Oid C)

def csrfCookie : Option String := sent s.clock s.jar.csrf

/-- `csrfHeaders`. -/
def csrfHeader : Option String := s.csrfCookie.filter (· ≠ "")

def refreshRequest : Request Token :=
  .refresh s.csrfHeader s.csrfCookie (sent s.clock s.jar.refresh) (sent s.clock s.jar.access)

def logoutRequest : Request Token := .logout s.csrfHeader s.csrfCookie (sent s.clock s.jar.access)

/-- A request of a call that is not under way. -/
def send (c : C) (purpose : Purpose) (request : Request Token) : Option (State Token Oid C) :=
  if s.awaiting c = none then
    (PortalAccount.step cfg s.server (.start c request)).map fun server =>
      { s with server, awaiting := Function.update s.awaiting c (some purpose) }
  else none

/-- The page is left. -/
def unload : State Token Oid C :=
  { s with
    page := { status := .loading }
    timer := none
    awaiting := fun c => (s.awaiting c).map fun _ => .elsewhere
    granted := false }

def scheduleRefresh : State Token Oid C :=
  { s with timer := some (s.clock + (portalJwtExpire - refreshBefore)) }

def signOut : State Token Oid C :=
  { s with page := { status := .unauthenticated }, granted := false }

/-- What the answer sets. An error is raised, and the cookies that its response would have
deleted stay. -/
def setCookies : Except PortalAuth.Refusal (Answer Token) → State Token Oid C
  | .ok (.granted access refresh csrf) =>
    let hours := cfg.sessions.portalRefreshExpireHours * 3600
    { s with jar := {
      access := some ⟨access, s.clock + cfg.portalJwtExpireMinutes * 60⟩
      refresh := some ⟨refresh, s.clock + hours⟩
      csrf := some ⟨csrf, s.clock + hours⟩ } }
  | .ok .loggedOut => { s with jar := {} }
  | .ok (.challenge ..) | .ok (.enrolled _) | .error _ => s

/-- The roles in the body of `mfa/verify` are those of the token. -/
def rolesOf (access : Token) : List String :=
  match cfg.decode access with
  | .ok payload => payload.roles.getD []
  | .error _ => []

/-- The page when the answer is there. -/
def settle : Purpose → Except PortalAuth.Refusal (Answer Token) → State Token Oid C
  | .probe, .ok _ =>
    { s with page := { status := .authenticated }, granted := true }.scheduleRefresh
  | .probe, .error _ => s.signOut
  | .timer, .ok _ => s.scheduleRefresh
  | .timer, .error _ => s.signOut
  | .retry, .ok _ => s
  | .retry, .error _ => s.unload
  | .login username, .ok (.challenge mfaRequired tokens) =>
    if mfaRequired then
      { s with page := { s.page with
        status := .mfaChallenge, username := some username, challengeToken := tokens.head?,
        mfaEnrollRequired := false } }
    else
      { s with page := { s.page with
        status := .authenticated, username := some username } }.scheduleRefresh
  | .verify, .ok (.granted access _ _) =>
    { s with
      page := { s.page with
        status := .authenticated, roles := rolesOf cfg access, challengeToken := none,
        mfaEnrollRequired := false }
      granted := true }.scheduleRefresh
  | .logout, _ => s.signOut
  | .login _, _ | .verify, _ | .elsewhere, _ => s

end State

/-- The form shows in front of a session, and the portal behind it. -/
def step (s : State Token Oid C) : Label Token Oid C → Option (State Token Oid C)
  | .tick seconds => some { s with clock := s.clock + seconds }
  | .server (.start c request) =>
    if s.awaiting c = none then
      (PortalAccount.step cfg s.server (.start c request)).map fun server => { s with server }
    else none
  | .server l => (PortalAccount.step cfg s.server l).map fun server => { s with server }
  | .load c => s.unload.send cfg c .probe s.refreshRequest
  | .timer c => match s.timer with
    | some due =>
      if due ≤ s.clock then { s with timer := none }.send cfg c .timer s.refreshRequest else none
    | none => none
  | .unauthorized c =>
    if s.page.status = .authenticated then s.send cfg c .retry s.refreshRequest else none
  | .login c attempts username password =>
    if s.page.status = .unauthenticated ∨ s.page.status = .mfaChallenge then
      s.send cfg c (.login username) (.login attempts username password)
    else none
  | .verifyMfa c code => match s.page.challengeToken with
    | some token => s.send cfg c .verify (.mfaVerify (some token) code)
    | none => none
  | .logout c =>
    if s.page.status = .authenticated then
      { s with timer := none }.send cfg c .logout s.logoutRequest
    else none
  | .elsewhere c request => match request with
    | .refresh .. => s.send cfg c .elsewhere s.refreshRequest
    | .logout .. => s.send cfg c .elsewhere s.logoutRequest
    | .login .. | .mfaVerify .. | .mfaEnroll .. => s.send cfg c .elsewhere request
  | .receive c => match s.awaiting c, s.server.phase c with
    | some purpose, .returned answer =>
      let s := { s with awaiting := Function.update s.awaiting c none }.setCookies cfg answer
      some (s.settle cfg purpose answer)
    | _, _ => none
  | .fail c => match s.awaiting c with
    | some purpose =>
      let s := { s with awaiting := Function.update s.awaiting c none }
      some (if purpose = .logout then s.signOut else s)
    | none => none

/-- An answer that gives the browser a session may come of the call. -/
def CanGrant : PortalAccount.Phase Token Oid → Prop
  | .verifying .. | .granting _ | .refreshing _ | .returned (.ok (.granted ..)) => True
  | .idle | .loggingIn .. | .loggingOut | .enrolling .. | .replacing .. => False
  | .returned (.error _) | .returned (.ok (.challenge ..)) | .returned (.ok (.enrolled _))
  | .returned (.ok .loggedOut) => False

/-- A refresh of the page is refused already, and no other call gives a session. -/
def Hopeless : Purpose → PortalAccount.Phase Token Oid → Prop
  | .probe, phase | .timer, phase | .retry, phase => ∃ refusal, phase = .returned (.error refusal)
  | .login _, phase | .verify, phase | .logout, phase | .elsewhere, phase => ¬CanGrant phase

/-- The access cookie is gone, and nothing under way brings another. -/
structure Stale (s : State Token Oid C) : Prop where
  expired : sent s.clock s.jar.access = none
  calls : ∀ c purpose, s.awaiting c = some purpose → Hopeless purpose (s.server.phase c)

/-- The second factor is presented. -/
def Label.Verifies : Label Token Oid C → Prop
  | .verifyMfa .. | .elsewhere _ (.mfaVerify ..) => True
  | _ => False

variable {cfg} {s t u : State Token Oid C} {l : Label Token Oid C}
    {ls ms : List (Label Token Oid C)} {c d : C}
variable {purpose : Purpose} {request : Request Token} {σ τ : PortalAccount.State Token Oid C}
variable {phase : PortalAccount.Phase Token Oid} {answer : Except PortalAuth.Refusal (Answer Token)}

/-! ### The server -/

omit [DecidableEq Oid] [DecidableEq C] in
theorem Hopeless.not_canGrant (hopeless : Hopeless purpose phase) : ¬CanGrant phase := by
  cases purpose with
  | probe | timer | retry =>
    obtain ⟨refusal, rfl⟩ := hopeless
    exact id
  | login | verify | logout | elsewhere => exact hopeless

theorem returned_stays {l : PortalAccount.Label Token Oid C}
    (stepped : PortalAccount.step cfg σ l = some τ) (was : σ.phase c = .returned answer) :
    τ.phase c = .returned answer := by
  rcases PortalAccount.step_call stepped c with
    ⟨same, -⟩ | ⟨request, -, idle, -⟩ | ⟨reading, -, advanced⟩ | ⟨action, -, -, same, -⟩
  · exact same.trans was
  · cases idle.symm.trans was
  · rw [was] at advanced
    cases advanced
  · exact same.trans was

theorem canGrant_of_step {l : PortalAccount.Label Token Oid C}
    (stepped : PortalAccount.step cfg σ l = some τ) (begun : ∀ request, l ≠ .start c request)
    (grants : CanGrant (τ.phase c)) : CanGrant (σ.phase c) := by
  rcases PortalAccount.step_call stepped c with
    ⟨same, -⟩ | ⟨request, start, -⟩ | ⟨reading, -, advanced⟩ | ⟨action, -, -, same, -⟩
  · exact same ▸ grants
  · exact absurd start (begun request)
  · have proceeds := PortalAccount.advance_proceeds advanced
    revert proceeds grants
    generalize σ.phase c = before
    generalize τ.phase c = after
    generalize τ.sessions.call c = call
    generalize τ.users = users
    intro grants proceeds
    cases proceeds
    case rejected | verify | grant | unmatched | renew => trivial
    all_goals exact absurd grants id
  · exact same ▸ grants

theorem Hopeless.step {l : PortalAccount.Label Token Oid C}
    (hopeless : Hopeless purpose (σ.phase c)) (stepped : PortalAccount.step cfg σ l = some τ)
    (begun : ∀ request, l ≠ .start c request) :
    Hopeless purpose (τ.phase c) := by
  cases purpose with
  | probe | timer | retry =>
    obtain ⟨refusal, was⟩ := hopeless
    exact ⟨refusal, returned_stays stepped was⟩
  | login | verify | logout | elsewhere =>
    exact fun grants => hopeless (canGrant_of_step stepped begun grants)

omit [DecidableEq Oid] in
/-- Without an access cookie nobody is named, and the refresh is refused. -/
theorem refresh_refused {csrfHeader csrfCookie refreshCookie : Option String}
    (started : PortalAccount.start cfg σ c (.refresh csrfHeader csrfCookie refreshCookie none) =
      some τ) : ∃ refusal, τ.phase c = .returned (.error refusal) := by
  have begins := (PortalAccount.start_begins started).2
  revert begins
  generalize τ.phase c = after
  generalize τ.sessions.call c = call
  intro begins
  cases begins with
  | refused => exact ⟨_, rfl⟩
  | refresh named => cases named

/-! ### The calls of the browser -/

/-- What a step of the browser is made of: a call that begins, one that ends, or neither. -/
inductive Does (cfg : Config Token Oid) (s t : State Token Oid C) : Label Token Oid C → Prop where
  | tick (seconds : Nat) (done : t = { s with clock := s.clock + seconds }) :
      Does cfg s t (.tick seconds)
  | server (l : PortalAccount.Label Token Oid C) (next : PortalAccount.State Token Oid C)
      (free : ∀ c request, l = .start c request → s.awaiting c = none)
      (stepped : PortalAccount.step cfg s.server l = some next)
      (done : t = { s with server := next }) : Does cfg s t (.server l)
  | send (l : Label Token Oid C) (c : C) (purpose : Purpose) (request : Request Token)
      (base : State Token Oid C) (clock : base.clock = s.clock) (jar : base.jar = s.jar)
      (server : base.server = s.server)
      (awaiting : ∀ d purpose, base.awaiting d = some purpose →
        s.awaiting d = some purpose ∨ purpose = .elsewhere ∧ s.awaiting d ≠ none)
      (page : base.page = s.page ∧ base.granted = s.granted ∨
        base.page.status = .loading ∧ base.granted = false)
      (asks : request = s.refreshRequest ∨
        (∀ csrfHeader csrfCookie refreshCookie accessCookie,
          request ≠ .refresh csrfHeader csrfCookie refreshCookie accessCookie) ∧
          purpose ≠ .probe ∧ purpose ≠ .timer ∧ purpose ≠ .retry ∧
          (¬l.Verifies → ∀ bearer code, request ≠ .mfaVerify bearer code))
      (begins : ∀ d, l ≠ .receive d) (sent : base.send cfg c purpose request = some t) :
      Does cfg s t l
  | receive (c : C) (purpose : Purpose) (answer : Except PortalAuth.Refusal (Answer Token))
      (was : s.awaiting c = some purpose) (returned : s.server.phase c = .returned answer)
      (done : t = ({ s with awaiting := Function.update s.awaiting c none }.setCookies cfg
        answer).settle cfg purpose answer) : Does cfg s t (.receive c)
  | fail (c : C) (base : State Token Oid C)
      (same : base = { s with awaiting := Function.update s.awaiting c none })
      (done : t = base ∨ t = base.signOut) : Does cfg s t (.fail c)

omit [DecidableEq Oid] [DecidableEq C] in
theorem unload_awaiting (s : State Token Oid C) (d : C) (purpose : Purpose)
    (is : s.unload.awaiting d = some purpose) :
    s.awaiting d = some purpose ∨ purpose = .elsewhere ∧ s.awaiting d ≠ none := by
  obtain ⟨before, was, rfl⟩ := Option.map_eq_some_iff.mp is
  exact .inr ⟨rfl, by rw [was]; exact Option.some_ne_none before⟩

theorem step_does (stepped : step cfg s l = some t) : Does cfg s t l := by
  cases l with
  | tick seconds => exact .tick seconds (Option.some.inj stepped).symm
  | server l =>
    cases l with
    | start c request =>
      obtain ⟨free, mapped⟩ := Option.ite_none_right_eq_some.mp stepped
      obtain ⟨next, taken, rfl⟩ := Option.map_eq_some_iff.mp mapped
      refine .server _ next (fun d _ same => ?_) taken rfl
      cases same
      exact free
    | next | session | deactivate | delete =>
      simp only [step] at stepped
      obtain ⟨next, taken, rfl⟩ := Option.map_eq_some_iff.mp stepped
      exact .server _ next (fun _ _ same => by cases same) taken rfl
  | load c =>
    exact .send _ c .probe _ s.unload rfl rfl rfl (unload_awaiting s) (.inr ⟨rfl, rfl⟩) (.inl rfl)
      (by simp) stepped
  | timer c =>
    simp only [step] at stepped
    split at stepped
    · obtain ⟨-, taken⟩ := Option.ite_none_right_eq_some.mp stepped
      exact .send _ c .timer _ { s with timer := none } rfl rfl rfl (fun _ _ => .inl)
        (.inl ⟨rfl, rfl⟩) (.inl rfl) (by simp) taken
    · cases stepped
  | unauthorized c =>
    obtain ⟨-, taken⟩ := Option.ite_none_right_eq_some.mp stepped
    exact .send _ c .retry _ _ rfl rfl rfl (fun _ _ => .inl) (.inl ⟨rfl, rfl⟩) (.inl rfl)
      (by simp) taken
  | login c attempts username password =>
    obtain ⟨-, taken⟩ := Option.ite_none_right_eq_some.mp stepped
    exact .send _ c (.login username) _ _ rfl rfl rfl (fun _ _ => .inl) (.inl ⟨rfl, rfl⟩)
      (.inr ⟨by simp, by simp, by simp, by simp, by simp⟩) (by simp) taken
  | verifyMfa c code =>
    simp only [step] at stepped
    split at stepped
    · exact .send _ c .verify _ _ rfl rfl rfl (fun _ _ => .inl) (.inl ⟨rfl, rfl⟩)
        (.inr ⟨by simp, by simp, by simp, by simp, fun without => absurd trivial without⟩)
          (by simp) stepped
    · cases stepped
  | logout c =>
    obtain ⟨-, taken⟩ := Option.ite_none_right_eq_some.mp stepped
    exact .send _ c .logout _ { s with timer := none } rfl rfl rfl (fun _ _ => .inl)
      (.inl ⟨rfl, rfl⟩)
      (.inr ⟨by simp [State.logoutRequest], by simp, by simp, by simp, by simp [State.logoutRequest]⟩) (by simp) taken
  | elsewhere c request =>
    cases request with
    | refresh =>
      exact .send _ c .elsewhere _ _ rfl rfl rfl (fun _ _ => .inl) (.inl ⟨rfl, rfl⟩) (.inl rfl)
        (by simp) stepped
    | logout =>
      exact .send _ c .elsewhere _ _ rfl rfl rfl (fun _ _ => .inl) (.inl ⟨rfl, rfl⟩)
        (.inr ⟨by simp [State.logoutRequest], by simp, by simp, by simp, by simp [State.logoutRequest]⟩) (by simp)
        stepped
    | mfaVerify =>
      exact .send _ c .elsewhere _ _ rfl rfl rfl (fun _ _ => .inl) (.inl ⟨rfl, rfl⟩)
        (.inr ⟨by simp, by simp, by simp, by simp, fun without => absurd trivial without⟩)
          (by simp) stepped
    | login | mfaEnroll =>
      exact .send _ c .elsewhere _ _ rfl rfl rfl (fun _ _ => .inl) (.inl ⟨rfl, rfl⟩)
        (.inr ⟨by simp, by simp, by simp, by simp, by simp⟩) (by simp) stepped
  | receive c =>
    simp only [step] at stepped
    split at stepped
    · rename_i purpose answer was returned
      exact .receive c purpose answer was returned (Option.some.inj stepped).symm
    · cases stepped
  | fail c =>
    simp only [step] at stepped
    split at stepped
    · refine .fail c _ rfl ?_
      cases Option.some.inj stepped
      split
      · exact .inr rfl
      · exact .inl rfl
    · cases stepped

/-! ### A session that is lost -/

omit [DecidableEq Oid] [DecidableEq C] in
theorem Hopeless.elsewhere (hopeless : Hopeless purpose phase) : Hopeless .elsewhere phase :=
  hopeless.not_canGrant

omit [DecidableEq Oid] [DecidableEq C] in
/-- What a state has to share with one that is stale. -/
theorem Stale.congr (stale : Stale s) (clock : t.clock = s.clock) (jar : t.jar = s.jar)
    (server : t.server = s.server) (awaiting : ∀ d purpose, t.awaiting d = some purpose →
      s.awaiting d = some purpose ∨ purpose = .elsewhere ∧ s.awaiting d ≠ none) : Stale t := by
  refine ⟨by rw [clock, jar]; exact stale.expired, fun d purpose is => ?_⟩
  rw [server]
  rcases awaiting d purpose is with was | ⟨rfl, some_⟩
  · exact stale.calls d purpose was
  · obtain ⟨before, was⟩ := Option.ne_none_iff_exists'.mp some_
    exact (stale.calls d before was).elsewhere

theorem send_frame (sent : s.send cfg c purpose request = some t) :
    t.page = s.page ∧ t.granted = s.granted ∧ t.clock = s.clock ∧ t.jar = s.jar := by
  obtain ⟨-, mapped⟩ := Option.ite_none_right_eq_some.mp sent
  obtain ⟨next, -, rfl⟩ := Option.map_eq_some_iff.mp mapped
  exact ⟨rfl, rfl, rfl, rfl⟩

/-- A call that begins is refused, or is none that gives a session. -/
theorem Stale.send (stale : Stale s) (sent : s.send cfg c purpose request = some t)
    (hopeless : ∀ τ, PortalAccount.start cfg s.server c request = some τ →
      Hopeless purpose (τ.phase c)) : Stale t := by
  obtain ⟨free, mapped⟩ := Option.ite_none_right_eq_some.mp sent
  obtain ⟨next, taken, rfl⟩ := Option.map_eq_some_iff.mp mapped
  refine ⟨stale.expired, fun d purpose' is => ?_⟩
  by_cases self : d = c
  · subst self
    simp only [Function.update_self] at is
    cases Option.some.inj is
    simp only [PortalAccount.step] at taken
    split at taken
    · exact hopeless next taken
    · cases taken
  · simp only [Function.update_of_ne self] at is
    refine (stale.calls d purpose' is).step taken fun other same => ?_
    cases same
    exact self rfl

omit [DecidableEq Oid] in
theorem start_hopeless (expired : sent s.clock s.jar.access = none)
    (asks : request = s.refreshRequest ∨
      (∀ csrfHeader csrfCookie refreshCookie accessCookie,
        request ≠ .refresh csrfHeader csrfCookie refreshCookie accessCookie) ∧
        purpose ≠ .probe ∧ purpose ≠ .timer ∧ purpose ≠ .retry ∧
          ∀ bearer code, request ≠ .mfaVerify bearer code)
    (started : PortalAccount.start cfg σ c request = some τ) : Hopeless purpose (τ.phase c) := by
  rcases asks with rfl | ⟨notRefresh, notProbe, notTimer, notRetry, notVerify⟩
  · rw [State.refreshRequest, expired] at started
    obtain ⟨refusal, refused⟩ := refresh_refused started
    cases purpose with
    | probe | timer | retry => exact ⟨refusal, refused⟩
    | login | verify | logout | elsewhere =>
      rw [refused]
      exact id
  · have cannot : ¬CanGrant (τ.phase c) := by
      have begins := (PortalAccount.start_begins started).2
      revert begins
      generalize τ.phase c = after
      generalize τ.sessions.call c = call
      intro begins
      cases begins
      case verify => exact absurd rfl (notVerify _ _)
      case refresh => exact absurd rfl (notRefresh _ _ _ _)
      all_goals exact id
    cases purpose with
    | probe => exact absurd rfl notProbe
    | timer => exact absurd rfl notTimer
    | retry => exact absurd rfl notRetry
    | login | verify | logout | elsewhere => exact cannot

/-- An answer that gives no session. -/
def Grantless : Except PortalAuth.Refusal (Answer Token) → Prop
  | .ok (.granted ..) => False
  | .ok (.challenge ..) | .ok (.enrolled _) | .ok .loggedOut | .error _ => True

omit [DecidableEq Oid] [DecidableEq C] in
theorem setCookies_expired (expired : sent s.clock s.jar.access = none)
    (grantless : Grantless answer) :
    (s.setCookies cfg answer).clock = s.clock ∧ (s.setCookies cfg answer).server = s.server ∧
      (s.setCookies cfg answer).awaiting = s.awaiting ∧
        (s.setCookies cfg answer).granted = s.granted ∧
      sent (s.setCookies cfg answer).clock (s.setCookies cfg answer).jar.access = none := by
  rcases answer with refusal | answer
  · exact ⟨rfl, rfl, rfl, rfl, expired⟩
  cases answer with
  | granted => exact grantless.elim
  | loggedOut => exact ⟨rfl, rfl, rfl, rfl, rfl⟩
  | challenge | enrolled => exact ⟨rfl, rfl, rfl, rfl, expired⟩

omit [DecidableEq Oid] [DecidableEq C] in
/-- The page has no hand in cookies, and in calls only when it is left. -/
theorem settle_frame (purpose : Purpose) (answer : Except PortalAuth.Refusal (Answer Token)) :
    (s.settle cfg purpose answer).clock = s.clock ∧ (s.settle cfg purpose answer).jar = s.jar ∧
      (s.settle cfg purpose answer).server = s.server ∧
      ((s.settle cfg purpose answer).awaiting = s.awaiting ∨
        (s.settle cfg purpose answer).awaiting = s.unload.awaiting) := by
  rcases answer with refusal | answer
  · cases purpose <;> exact ⟨rfl, rfl, rfl, by first | exact .inl rfl | exact .inr rfl⟩
  cases purpose with
  | login username =>
    cases answer with
    | challenge mfaRequired tokens => cases mfaRequired <;> exact ⟨rfl, rfl, rfl, .inl rfl⟩
    | granted | enrolled | loggedOut => exact ⟨rfl, rfl, rfl, .inl rfl⟩
  | verify => cases answer <;> exact ⟨rfl, rfl, rfl, .inl rfl⟩
  | probe | timer | retry | logout | elsewhere => exact ⟨rfl, rfl, rfl, .inl rfl⟩

omit [DecidableEq Oid] [DecidableEq C] in
theorem settle_granted
    (hopeless : Hopeless purpose (.returned answer : PortalAccount.Phase Token Oid))
    (granted : (s.settle cfg purpose answer).granted = true) : s.granted = true := by
  rcases answer with refusal | answer
  · cases purpose with
    | timer | probe | logout | retry => cases granted
    | login | verify | elsewhere => exact granted
  cases purpose with
  | probe | timer | retry =>
    obtain ⟨refusal, same⟩ := hopeless
    cases same
  | login username =>
    cases answer with
    | challenge mfaRequired tokens => cases mfaRequired <;> exact granted
    | granted | enrolled | loggedOut => exact granted
  | verify =>
    cases answer with
    | granted => exact absurd trivial hopeless
    | challenge | enrolled | loggedOut => exact granted
  | logout => cases granted
  | elsewhere => exact granted

/-- Without the second factor a step gives no session to a browser that has lost its own. -/
theorem step_stale (stale : Stale s) (stepped : step cfg s l = some t) (without : ¬l.Verifies) :
    Stale t ∧ (t.granted = true → s.granted = true) := by
  cases step_does stepped with
  | tick seconds done =>
    subst done
    refine ⟨⟨?_, stale.calls⟩, id⟩
    have expired := stale.expired
    simp only [sent, Option.map_eq_none_iff, Option.filter_eq_none_iff, decide_eq_true_eq]
      at expired ⊢
    intro cookie held later
    exact expired cookie held (by omega)
  | server l next free taken done =>
    subst done
    refine ⟨⟨stale.expired, fun d purpose is =>
      (stale.calls d purpose is).step taken fun request same => ?_⟩, id⟩
    cases (free d request same).symm.trans is
  | send _ c purpose request base clock jar server awaiting page asks begins sent =>
    have based : Stale base := stale.congr clock jar server awaiting
    refine ⟨based.send sent fun τ started => start_hopeless stale.expired ?_ started, ?_⟩
    · rcases asks with same | ⟨notRefresh, notProbe, notTimer, notRetry, notVerify⟩
      · exact .inl same
      · exact .inr ⟨notRefresh, notProbe, notTimer, notRetry, notVerify without⟩
    · obtain ⟨-, granted, -⟩ := send_frame sent
      rw [granted]
      rcases page with ⟨-, same⟩ | ⟨-, left⟩
      · exact fun now => same ▸ now
      · exact fun now => absurd now (by simp [left])
  | receive c purpose answer was returned done =>
    have hopeless : Hopeless purpose (.returned answer : PortalAccount.Phase Token Oid) :=
      returned ▸ stale.calls c purpose was
    have grantless : Grantless answer := by
      have cannot := hopeless.not_canGrant
      rcases answer with refusal | answer
      · trivial
      · cases answer with
        | granted => exact absurd trivial cannot
        | challenge | enrolled | loggedOut => trivial
    have cleared : Stale { s with awaiting := Function.update s.awaiting c none } := by
      refine ⟨stale.expired, fun d purpose' is => ?_⟩
      by_cases self : d = c
      · simp [self] at is
      · exact stale.calls d purpose' (by simpa [self] using is)
    obtain ⟨clock, server, awaiting, kept, expired⟩ :=
      @setCookies_expired _ _ _ cfg _ _ cleared.expired grantless
    have cookies : Stale
        ({ s with awaiting := Function.update s.awaiting c none }.setCookies cfg answer) :=
      ⟨expired, fun d purpose' is => by
        rw [awaiting] at is
        rw [server]
        exact cleared.calls d purpose' is⟩
    obtain ⟨clock', jar', server', awaiting'⟩ := @settle_frame _ _ _ cfg
      ({ s with awaiting := Function.update s.awaiting c none }.setCookies cfg answer)
        purpose answer
    subst done
    refine ⟨cookies.congr clock' jar' server' fun d purpose' is => ?_, fun granted => ?_⟩
    · rcases awaiting' with same | left
      · exact .inl (same ▸ is)
      · exact unload_awaiting _ d purpose' (left ▸ is)
    · exact kept ▸ settle_granted hopeless granted
  | fail c base same done =>
    have based : Stale base := by
      subst same
      refine ⟨stale.expired, fun d purpose' is => ?_⟩
      by_cases self : d = c
      · simp [self] at is
      · exact stale.calls d purpose' (by simpa [self] using is)
    rcases done with rfl | rfl
    · exact ⟨based, fun granted => by simpa [same] using granted⟩
    · exact ⟨based.congr rfl rfl rfl fun _ _ => .inl, fun granted => by cases granted⟩

/-- An access cookie is kept for as long as the token in it is valid. -/
def Bounded (cfg : Config Token Oid) (s : State Token Oid C) : Prop :=
  ∀ cookie ∈ s.jar.access, cookie.expires ≤ s.clock + cfg.portalJwtExpireMinutes * 60

theorem step_bounded (bounded : Bounded cfg s) (stepped : step cfg s l = some t) :
    Bounded cfg t := by
  have congr : ∀ {t : State Token Oid C}, t.clock = s.clock → t.jar = s.jar → Bounded cfg t := by
    intro t clock jar
    rw [Bounded, clock, jar]
    exact bounded
  cases step_does stepped with
  | tick seconds done =>
    subst done
    exact fun cookie held => (bounded cookie held).trans
      (Nat.add_le_add_right (Nat.le_add_right _ _) _)
  | server l next free taken done => exact congr (done ▸ rfl) (done ▸ rfl)
  | send _ c purpose request base clock jar server awaiting page asks begins sent =>
    obtain ⟨-, -, clock', jar'⟩ := send_frame sent
    exact congr (clock'.trans clock) (jar'.trans jar)
  | fail c base same done =>
    subst same
    rcases done with rfl | rfl
    · exact congr rfl rfl
    · exact congr rfl rfl
  | receive c purpose answer was returned done =>
    obtain ⟨clock, jar, -, -⟩ := @settle_frame _ _ _ cfg
      ({ s with awaiting := Function.update s.awaiting c none }.setCookies cfg answer)
        purpose answer
    subst done
    rw [Bounded, clock, jar]
    rcases answer with refusal | answer
    · exact bounded
    cases answer with
    | granted access refresh csrf =>
      intro cookie held
      cases Option.mem_some.mp held
      exact le_rfl
    | loggedOut => exact fun cookie held => by cases held
    | challenge | enrolled => exact bounded

def State.start (server : PortalAccount.State Token Oid C) : State Token Oid C := { server }

/-- A browser that is idle for as long as an access token is valid has lost its session,
whatever the server still knows of it: however the calls interleave from then on, every refresh
of the page is refused and no page is told of a session, until the second factor is presented
again. -/
theorem idle_session_lost {server : PortalAccount.State Token Oid C}
    (run : exec (step cfg) (.start server) ls = some s) (quiet : ∀ c, s.awaiting c = none)
    {seconds : Nat} (idle : cfg.portalJwtExpireMinutes * 60 ≤ seconds)
    (later : exec (step cfg) s (.tick seconds :: ms) = some t) (without : ∀ l ∈ ms, ¬l.Verifies) :
    (∀ c purpose, t.awaiting c = some purpose → purpose = .probe ∨ purpose = .timer ∨
      purpose = .retry → ∃ refusal, t.server.phase c = .returned (.error refusal)) ∧
        (t.granted = true → s.granted = true) := by
  have initial : Bounded cfg (.start server) := fun _ held => by cases held
  have bounded : Bounded cfg s :=
    exec_preserves (Bounded cfg) (fun _ _ _ before stepped =>
      step_bounded before stepped) run initial
  obtain ⟨u, ticked, later⟩ := exec_cons.mp later
  cases Option.some.inj ticked
  have stale : Stale { s with clock := s.clock + seconds } := by
    refine ⟨?_, fun c purpose is => by cases (quiet c).symm.trans is⟩
    simp only [sent, Option.map_eq_none_iff, Option.filter_eq_none_iff, decide_eq_true_eq]
    intro cookie held alive
    have short := bounded cookie held
    omega
  have along : Along (step cfg) (fun _ l => ¬l.Verifies) { s with clock := s.clock + seconds } ms :=
    along_of_forall (fun l mem _ => without l mem) _
  have preserves : ∀ {u : State Token Oid C} {l v}, Stale u ∧
      (u.granted = true → s.granted = true) → ¬l.Verifies →
      step cfg u l = some v → Stale v ∧ (v.granted = true → s.granted = true) := by
    intro u l v before allowed stepped
    obtain ⟨after, kept⟩ := step_stale before.1 stepped allowed
    exact ⟨after, fun granted => before.2 (kept granted)⟩
  obtain ⟨lost, granted⟩ := exec_invariant preserves along later ⟨stale, id⟩
  refine ⟨fun c purpose is refreshes => ?_, granted⟩
  have hopeless := lost.calls c purpose is
  rcases refreshes with rfl | rfl | rfl
  · exact hopeless
  · exact hopeless
  · exact hopeless

def portalServer : PortalAccount.State PortalAuth.Signed (Fin 10) (Fin 5) :=
  .initial PortalAuth.Signed (Fin 5) [PortalAccount.operator] []

/-- The operator opens the portal and signs in with both factors. -/
def signIn : List (Label PortalAuth.Signed (Fin 10) (Fin 5)) :=
  [.load 0, .receive 0, .login 1 (some 1) "kim" "secret",
    .server (.next 1 (PortalAccount.plainReading 100)),
    .receive 1, .verifyMfa 2 "314159", .server (.next 2 (PortalAccount.plainReading 130)),
    .server (.session (.next 2 130)), .server (.session (.insert 2 130 "r-1" "salt")),
    .server (.next 2 (PortalAccount.plainReading 130)), .receive 2]

/-- The lid is closed for a quarter of an hour. -/
theorem reopened_lost : ∃ s t, exec (step PortalAccount.plainPortal) (.start portalServer) signIn =
    some s ∧
    s.granted = true ∧ exec (step PortalAccount.plainPortal) s (.tick 900 :: [.load 3]) = some t ∧
    ∀ c purpose, t.awaiting c = some purpose → purpose = .probe ∨ purpose = .timer ∨
      purpose = .retry → ∃ refusal, t.server.phase c = .returned (.error refusal) := by
  have run : ∃ s, exec (step PortalAccount.plainPortal) (.start portalServer) signIn = some s ∧
      s.granted = true ∧ (∀ c, s.awaiting c = none) ∧
      ∃ t, exec (step PortalAccount.plainPortal) s (.tick 900 :: [.load 3]) = some t := by
    refine ⟨_, rfl, rfl, ?_, _, rfl⟩
    decide
  obtain ⟨s, run, granted, quiet, t, later⟩ := run
  have without : ∀ l ∈ [(.load 3 : Label PortalAuth.Signed (Fin 10) (Fin 5))], ¬l.Verifies := by
    intro l mem
    rw [List.mem_singleton.mp mem]
    exact id
  exact ⟨s, t, run, granted, later, (idle_session_lost run quiet (by decide) later without).1⟩

/-! ### What the page shows -/

/-- The portal is shown to whom a session has been granted. -/
def Shown (s : State Token Oid C) : Prop := s.page.status = .authenticated → s.granted = true

/-- The server accepts no password from the page's form for an account without a second factor. -/
def TwoFactor (cfg : Config Token Oid) (s : State Token Oid C) : Label Token Oid C → Prop
  | .server (.next c reading) => ∀ form attempts username password user tokens,
      s.awaiting c = some (.login form) → s.server.phase c = .loggingIn attempts username password →
      PortalAccount.getUserByUsername cfg s.server.users username = some user →
      PortalAuth.portalLogin cfg.toConfig reading.now attempts (some user) password = .ok tokens →
      user.mfaEnabled = true
  | _ => True

/-- No form of the page waits for an answer that leaves the second factor out. -/
structure Guarded (s : State Token Oid C) : Prop where
  shown : Shown s
  forms : ∀ c username tokens, s.awaiting c = some (.login username) →
    s.server.phase c ≠ .returned (.ok (.challenge false tokens))

omit [DecidableEq Oid] [DecidableEq C] in
theorem portalLogin_known {now : Nat} {attempts : Option Nat} {found : Option PortalAuth.User}
    {password : String} {tokens : List Token}
    (accepted : PortalAuth.portalLogin cfg.toConfig now attempts found password = .ok tokens) :
    ∃ user, found = some user := by
  obtain ⟨_, -, rest⟩ := PortalAuth.of_bind_ok accepted
  cases found with
  | none => cases rest
  | some user => exact ⟨user, rfl⟩

/-- Such an answer is that to a password accepted for an account without a second factor. -/
theorem accepted_of_challenge {reading : PortalAccount.Reading} {tokens : List Token}
    (advanced : PortalAccount.advance cfg σ c reading (σ.phase c) = some τ)
    (answered : τ.phase c = .returned (.ok (.challenge false tokens))) :
    ∃ attempts username password user, σ.phase c = .loggingIn attempts username password ∧
      PortalAccount.getUserByUsername cfg σ.users username = some user ∧
      PortalAuth.portalLogin cfg.toConfig reading.now attempts (some user) password = .ok tokens ∧
      user.mfaEnabled = false := by
  have form : ∃ attempts username password, σ.phase c = .loggingIn attempts username password := by
    have proceeds := PortalAccount.advance_proceeds advanced
    rw [answered] at proceeds
    revert proceeds
    generalize σ.phase c = before
    generalize τ.sessions.call c = call
    generalize τ.users = users
    intro proceeds
    cases proceeds
    exact ⟨_, _, _, rfl⟩
  obtain ⟨attempts, username, password, form⟩ := form
  rw [form] at advanced
  obtain rfl := Option.some.inj advanced
  rw [PortalAccount.moveTo_phase, if_pos rfl] at answered
  have answered := PortalAccount.Phase.returned.inj answered
  cases accepted : PortalAuth.portalLogin cfg.toConfig reading.now attempts
      (PortalAccount.getUserByUsername cfg σ.users username) password with
  | error refusal =>
    rw [accepted] at answered
    cases answered
  | ok tokens' =>
    obtain ⟨user, found⟩ := portalLogin_known accepted
    rw [accepted, found] at answered
    obtain ⟨factor, rfl⟩ := PortalAccount.Answer.challenge.inj (Except.ok.inj answered)
    exact ⟨attempts, username, password, user, form, found, found ▸ accepted, factor⟩

omit [DecidableEq Oid] [DecidableEq C] in
/-- Where an answer shows the portal. -/
theorem settle_shown (shown : Shown s) (purpose : Purpose)
    (answer : Except PortalAuth.Refusal (Answer Token)) :
    Shown (s.settle cfg purpose answer) ↔
      ∀ username tokens, purpose = .login username → answer = .ok (.challenge false tokens) →
        s.granted = true := by
  rcases answer with refusal | answer
  · refine iff_of_true ?_ (fun _ _ _ same => by cases same)
    cases purpose with
    | probe | timer | logout | retry => exact fun same => by cases same
    | login | verify | elsewhere => exact shown
  cases purpose with
  | login username =>
    cases answer with
    | challenge mfaRequired tokens =>
      cases mfaRequired with
      | true => exact iff_of_true (fun same => by cases same) fun _ _ _ same => by cases same
      | false =>
        exact ⟨fun after _ _ _ _ => after rfl, fun granted _ => granted username tokens rfl rfl⟩
    | granted | enrolled | loggedOut => exact iff_of_true shown fun _ _ _ same => by cases same
  | verify =>
    refine iff_of_true ?_ (fun _ _ same => by cases same)
    cases answer with
    | granted => exact fun _ => rfl
    | challenge | enrolled | loggedOut => exact shown
  | probe => exact iff_of_true (fun _ => rfl) fun _ _ same => by cases same
  | timer | retry | elsewhere => exact iff_of_true shown fun _ _ same => by cases same
  | logout => exact iff_of_true (fun same => by cases same) fun _ _ same => by cases same

/-- A call of the server brings no answer to a form that leaves the second factor out. -/
theorem server_forms {l : PortalAccount.Label Token Oid C} {next : PortalAccount.State Token Oid C}
    {username : String} {tokens : List Token} (guarded : Guarded s)
    (twoFactor : TwoFactor cfg s (.server l)) (awaits : s.awaiting c = some (.login username))
    (free : ∀ request, l ≠ .start c request)
    (stepped : PortalAccount.step cfg s.server l = some next) :
    next.phase c ≠ .returned (.ok (.challenge false tokens)) := by
  intro answered
  rcases PortalAccount.step_call stepped c with
    ⟨same, -⟩ | ⟨request, start, -⟩ | ⟨reading, rfl, advanced⟩ | ⟨action, -, -, same, -⟩
  · exact guarded.forms c username tokens awaits (same.symm.trans answered)
  · exact free request start
  · obtain ⟨attempts, username, password, user, form, found, accepted, factor⟩ :=
      accepted_of_challenge advanced answered
    have enabled := twoFactor _ attempts username password user tokens awaits form found accepted
    rw [factor] at enabled
    cases enabled
  · exact guarded.forms c username tokens awaits (same.symm.trans answered)

/-- A request that is sent is not answered with a challenge at once. -/
theorem send_forms {base : State Token Oid C} (guarded : Guarded s)
    (server : base.server = s.server) (awaiting : ∀ d purpose, base.awaiting d = some purpose →
      s.awaiting d = some purpose ∨ purpose = .elsewhere ∧ s.awaiting d ≠ none)
    (sent : base.send cfg c purpose request = some t) {username : String} {tokens : List Token}
    (awaits : t.awaiting d = some (.login username)) :
    t.server.phase d ≠ .returned (.ok (.challenge false tokens)) := by
  obtain ⟨-, mapped⟩ := Option.ite_none_right_eq_some.mp sent
  obtain ⟨next, taken, rfl⟩ := Option.map_eq_some_iff.mp mapped
  by_cases self : d = c
  · subst self
    intro answered
    simp only [PortalAccount.step] at taken
    split at taken
    · have begins := (PortalAccount.start_begins taken).2
      rw [show next.phase d = _ from answered] at begins
      cases begins
    · cases taken
  · simp only [Function.update_of_ne self] at awaits
    have before : s.awaiting d = some (.login username) :=
      (awaiting d _ awaits).resolve_right fun other => by cases other.1
    rw [server] at taken
    refine server_forms (l := .start c request) guarded trivial before
      (fun request same => ?_) taken
    cases same
    exact self rfl

omit [DecidableEq Oid] in
/-- A call whose answer is there is no longer awaited. -/
theorem Guarded.answered (guarded : Guarded s) (c : C) :
    Guarded { s with awaiting := Function.update s.awaiting c none } := by
  refine ⟨guarded.shown, fun d username tokens awaits => ?_⟩
  have other : d ≠ c := by
    rintro rfl
    simp at awaits
  exact guarded.forms d username tokens (by simpa [other] using awaits)

omit [DecidableEq Oid] [DecidableEq C] in
theorem setCookies_frame (s : State Token Oid C)
    (answer : Except PortalAuth.Refusal (Answer Token)) :
    (s.setCookies cfg answer).page = s.page ∧ (s.setCookies cfg answer).granted = s.granted ∧
      (s.setCookies cfg answer).server = s.server ∧
        (s.setCookies cfg answer).awaiting = s.awaiting := by
  rcases answer with refusal | answer
  · exact ⟨rfl, rfl, rfl, rfl⟩
  · cases answer <;> exact ⟨rfl, rfl, rfl, rfl⟩

theorem step_guarded (guarded : Guarded s) (twoFactor : TwoFactor cfg s l)
    (stepped : step cfg s l = some t) :
    Guarded t := by
  have congr : ∀ {t : State Token Oid C}, t.page = s.page → t.granted = s.granted → Shown t := by
    intro t page granted
    rw [Shown, page, granted]
    exact guarded.shown
  cases step_does stepped with
  | tick seconds done =>
    subst done
    exact ⟨guarded.shown, guarded.forms⟩
  | server l next free taken done =>
    subst done
    refine ⟨guarded.shown, fun d username tokens awaits => ?_⟩
    refine server_forms guarded twoFactor awaits (fun request same => ?_) taken
    cases (free d request same).symm.trans awaits
  | send _ c purpose request base clock jar server awaiting page asks begins sent =>
    refine ⟨?_, fun d username tokens awaits => send_forms guarded server awaiting sent awaits⟩
    obtain ⟨page', granted', -, -⟩ := send_frame sent
    rcases page with ⟨same, kept⟩ | ⟨loading, -⟩
    · exact congr (page'.trans same) (granted'.trans kept)
    · intro shows
      rw [page', loading] at shows
      cases shows
  | fail c base same done =>
    subst same
    rcases done with rfl | rfl
    · exact guarded.answered c
    · refine ⟨fun shows => ?_, (guarded.answered c).forms⟩
      cases shows
  | receive c purpose answer was returned done =>
    subst done
    obtain ⟨page, granted, server, awaiting⟩ :=
      @setCookies_frame _ _ _ cfg { s with awaiting := Function.update s.awaiting c none } answer
    obtain ⟨-, -, server', awaiting'⟩ := @settle_frame _ _ _ cfg
      ({ s with awaiting := Function.update s.awaiting c none }.setCookies cfg answer)
        purpose answer
    constructor
    · refine (settle_shown (congr page granted) purpose answer).mpr
        fun username tokens form bare => ?_
      rw [form] at was
      rw [bare] at returned
      exact absurd returned (guarded.forms c username tokens was)
    · intro d username tokens awaits
      rw [server', server]
      apply (guarded.answered c).forms d username tokens
      rw [← awaiting]
      rcases awaiting' with same | left
      · exact same ▸ awaits
      · refine (unload_awaiting _ d _ (left ▸ awaits)).resolve_right fun other => ?_
        cases other.1

/-- At every moment the portal is shown only to a page that has been granted a session since it was
loaded or signed out, as long as the server accepts no password from its form for an account without
a second factor. -/
theorem portal_shown_granted {server : PortalAccount.State Token Oid C}
    (twoFactor : Along (step cfg) (TwoFactor cfg) (.start server) ls) :
    ∀ past u, past <+: ls → exec (step cfg) (.start server) past = some u → Shown u := by
  rintro past u ⟨rest, rfl⟩ walked
  have initial : Guarded (.start server : State Token Oid C) := by
    refine ⟨fun shows => ?_, fun c username tokens awaits => ?_⟩
    · cases shows
    · cases awaits
  exact (exec_invariant step_guarded (along_append_left twoFactor) walked initial).shown

omit [DecidableEq Oid] [DecidableEq C] in
/-- Where every account has its second factor. -/
theorem twoFactor_of_enrolled
    (enrolled : (s.server.users.all fun account => account.mfaEnabled) = true) :
    TwoFactor cfg s l := by
  unfold TwoFactor
  split
  · intro form attempts username password user tokens _ _ found _
    obtain ⟨account, first, rfl⟩ := Option.map_eq_some_iff.mp found
    exact List.all_eq_true.mp enrolled account (Collection.findOne_mem first)
  · trivial

theorem operator_shown : ∃ t, exec (step PortalAccount.plainPortal) (.start portalServer) signIn =
    some t ∧ t.page.status = .authenticated ∧ Shown t := by
  have run : ∃ t, exec (step PortalAccount.plainPortal) (.start portalServer) signIn = some t ∧
      t.page.status = .authenticated := ⟨_, rfl, rfl⟩
  obtain ⟨t, run, shows⟩ := run
  have twoFactor : Along (step PortalAccount.plainPortal) (TwoFactor PortalAccount.plainPortal)
      (.start portalServer) signIn :=
    along_of_bool (p := fun s _ => s.server.users.all fun account => account.mfaEnabled)
      (fun _ _ => twoFactor_of_enrolled) rfl
  exact ⟨t, run, shows, portal_shown_granted twoFactor signIn t (List.prefix_refl _) run⟩

/-- An account that is not enrolled, of which its password is all that is asked. -/
def newcomer : PortalAccount.Account (Fin 10) :=
  { PortalAccount.operator with mfaEnabled := false, mfaSecretEnc := none }

def newcomerServer : PortalAccount.State PortalAuth.Signed (Fin 10) (Fin 5) :=
  .initial PortalAuth.Signed (Fin 5) [newcomer] []

/-- The condition is needed: the newcomer's page shows the portal without a session. -/
example : ∃ t, exec (step PortalAccount.plainPortal) (.start newcomerServer)
    [.load 0, .receive 0, .login 1 (some 1) "kim" "secret",
      .server (.next 1 (PortalAccount.plainReading 100)),
      .receive 1] = some t ∧ t.page.status = .authenticated ∧ t.granted = false :=
  ⟨_, rfl, rfl, rfl⟩

end AgentOE.AuthProvider
