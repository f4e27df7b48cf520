import AgentOE.Domain.PortalAccount
import Mathlib.Data.Fintype.EquivFin

/-! When an account can still be logged in to, with its password and the secret of its
authenticator alone. -/
namespace AgentOE.PortalAccount
open Transition Collection
open PortalAuth (Refusal User portalLogin challenged enrolledSecret accessToken dummyHash
  extractUserIdFromExpiredToken requirePortalRole portalRoles Unsigned Challenge)

variable {Token Oid C : Type} [DecidableEq Oid] [DecidableEq C] (cfg : Config Token Oid)

/-- The tokens that the server has signed. -/
def Answer.tokens : Answer Token → List Token
  | .challenge _ tokens => tokens
  | .granted access _ _ => [access]
  | .enrolled _ | .loggedOut => []

def presented : Request Token → Option Token
  | .login .. => none
  | .mfaVerify bearer _ | .mfaEnroll _ _ bearer _ => bearer
  | .refresh _ _ _ accessCookie | .logout _ _ accessCookie => accessCookie

/-- A client that begins with nothing: what it presents was answered to it, or no key
verifies it. `decrypt` is what the key decrypts, and may fail at any time. -/
def ByClient (decrypt : String → Option String) (begin σ : State Token Oid C) :
    Label Token Oid C → Prop
  | .start _ request => ∀ token ∈ presented request, Unsigned cfg.toConfig token ∨
    ∃ c answer, begin.phase c = .idle ∧ σ.phase c = .returned (.ok answer) ∧ token ∈ answer.tokens
  | .next _ reading =>
    ∀ text secret, reading.decrypt text = some secret → decrypt text = some secret
  | .session _ => True
  | .deactivate _ | .delete _ => False

/-- Some calls of such a client end with an access token of the user. -/
def AccessPossible (decrypt : String → Option String) (σ : State Token Oid C) (id : Oid) : Prop :=
  ∃ labels τ c, exec (step cfg) σ labels = some τ ∧
    Along (step cfg) (ByClient cfg decrypt σ) σ labels ∧
    σ.phase c = .idle ∧ Grants cfg id (τ.phase c)

/-- MFA is on, and a code of the stored secret is valid at some time. -/
def Verifiable (decrypt : String → Option String) (account : Account Oid) : Prop :=
  account.mfaEnabled = true ∧ ∃ secret now code, account.mfaSecretEnc.bind decrypt = some secret ∧
    cfg.verifyTotp now secret code = true

section Runs
variable {cfg} {σ τ : State Token Oid C} {c : C}

/-- The accounts after a step: what an account is known by does not change. -/
theorem step_users {l : Label Token Oid C} (stepped : step cfg σ l = some τ) :
    τ.users = σ.users ∨
      (∃ id f, (∀ account : Account Oid, (f account).objectId = account.objectId ∧
        (f account).username = account.username) ∧
          τ.users = updateOne (·.objectId == id) f σ.users) ∨
      ∃ id, τ.users = deleteOne (·.objectId == id) σ.users := by
  cases l with
  | start c request =>
    simp only [step] at stepped
    split at stepped
    · exact .inl (start_begins stepped).1
    · cases stepped
  | next c reading =>
    have proceeds := advance_proceeds (show advance cfg σ c reading (σ.phase c) =
      some τ from stepped)
    generalize σ.phase c = phase, τ.phase c = next, τ.sessions.call c = call, τ.users = users at *
    cases proceeds with
    | replace keeps =>
      exact .inr (.inl ⟨_, _, fun account => ⟨(keeps account).1, (keeps account).2.1⟩, rfl⟩)
    | login | denied | rejected | verify | grant | unmatched | renew | logout | missing | find =>
      exact .inl rfl
  | session action =>
    cases action with
    | login | rotate | revokeAll => cases stepped
    | next | insert =>
      obtain ⟨sessions, -, rfl⟩ := Option.map_eq_some_iff.mp stepped
      exact .inl rfl
  | deactivate id =>
    obtain rfl := Option.some.inj stepped
    exact .inr (.inl ⟨id, fun account => { account with isActive := false },
      fun account => ⟨rfl, rfl⟩, rfl⟩)
  | delete id =>
    obtain rfl := Option.some.inj stepped
    exact .inr (.inr ⟨id, rfl⟩)

theorem run_distinct {K : Type} {key : Account Oid → K}
    (keeps : ∀ account account' : Account Oid, account'.objectId = account.objectId →
      account'.username = account.username → key account' = key account)
    {labels : List (Label Token Oid C)} (run : exec (step cfg) σ labels = some τ)
    (distinct : (σ.users.map key).Nodup) : (τ.users.map key).Nodup := by
  refine exec_preserves (fun σ => (σ.users.map key).Nodup)
    (fun σ l τ distinct stepped => ?_) run distinct
  rcases step_users stepped with same | ⟨id, f, names, same⟩ | ⟨id, same⟩ <;> rw [same]
  · exact distinct
  · have related : List.Forall₂ (fun account account' => key account' = key account) σ.users
        (updateOne (·.objectId == id) f σ.users) :=
      forall₂_updateOne (fun _ => rfl)
        fun account _ => keeps account (f account) (names account).1 (names account).2
    rwa [forall₂_map_eq related fun _ _ equal => equal]
  · exact distinct.sublist (List.eraseP_sublist.map key)

/-- All but finitely many calls have not begun. -/
theorem run_idle {labels : List (Label Token Oid C)} {users : List (Account Oid)}
    {docs : List PortalSession.SessionDoc}
    (run : exec (step cfg) (State.initial Token C users docs) labels = some σ) :
    ∃ begun : Finset C, ∀ c ∉ begun, σ.phase c = .idle ∧ σ.sessions.call c = .idle := by
  refine exec_preserves (fun σ : State Token Oid C =>
    ∃ begun : Finset C, ∀ c ∉ begun, σ.phase c = .idle ∧ σ.sessions.call c = .idle)
    (fun σ l τ before stepped => ?_) run ⟨∅, fun _ _ => ⟨rfl, rfl⟩⟩
  obtain ⟨begun, idle⟩ := before
  have fresh : ∀ c ∉ begun, (∀ request, l ≠ .start c request) →
      τ.phase c = .idle ∧ τ.sessions.call c = .idle := by
    intro c out other
    obtain ⟨phase, call⟩ := idle c out
    rcases step_call stepped c with ⟨phase', call'⟩ | ⟨request, rfl, -, -⟩ |
      ⟨reading, rfl, advanced⟩ |
      ⟨action, label, rfl, -, -⟩
    · exact ⟨phase'.trans phase, call'.trans call⟩
    · exact absurd rfl (other request)
    · rw [phase] at advanced
      cases advanced
    · exact absurd call (session_busy label stepped)
  cases l with
  | start d request =>
    refine ⟨insert d begun, fun c out => fresh c (fun mem => out (Finset.mem_insert_of_mem mem)) ?_⟩
    rintro _ ⟨⟩
    exact out (Finset.mem_insert_self d begun)
  | next | session | deactivate | delete => exact ⟨begun, fun c out => fresh c out nofun⟩

end Runs

/-! Without a code, no token of the account is in reach. -/

/-- An access token of another user. -/
def Foreign (id : Oid) (token : Token) : Prop :=
  ∃ now userId roles, token = accessToken cfg.toConfig now userId roles ∧ cfg.parse userId ≠ some id

/-- The call has nothing to do with the user, but for challenges. -/
def Unrelated (id : Oid) : Phase Token Oid → Prop
  | .granting access => Foreign cfg id access
  | .refreshing userId => cfg.parse userId ≠ some id
  | .enrolling userId _ => cfg.parse userId ≠ some id
  | .replacing oid _ => oid ≠ id
  | .returned (.ok (.challenge _ tokens)) => ∀ token ∈ tokens, Challenge cfg.toConfig token
  | .returned (.ok (.granted access _ _)) => Foreign cfg id access
  | _ => True

/-- What calls of a client without a code leave as it was. -/
structure Excluded (begin : State Token Oid C) (account : Account Oid) (σ : State Token Oid C) :
    Prop where
  present : findOne (·.objectId == account.objectId) σ.users = some account
  calls : ∀ c, begin.phase c = .idle → Unrelated cfg account.objectId (σ.phase c)
  earlier : ∀ c, begin.phase c ≠ .idle → σ.phase c = begin.phase c

section Exclusion
variable {cfg} {id : Oid} {token : Token}

omit [DecidableEq Oid] in
theorem Foreign.not_for (foreign : Foreign cfg id token) : ¬For cfg id token := by
  obtain ⟨now, userId, roles, rfl, other⟩ := foreign
  exact mt (for_accessToken now userId roles).mp other

omit [DecidableEq Oid] in
theorem decode_accessToken (cfg : Config Token Oid) (now : Nat) (userId : String)
    (roles : List String) :
    ∃ payload, cfg.decode (accessToken cfg.toConfig now userId roles) = .ok payload ∧
      payload.sub = some userId :=
  ⟨_, cfg.decode_encode _, rfl⟩

omit [DecidableEq Oid] in
/-- The user that a foreign token names is another one. -/
theorem Foreign.extracts (foreign : Foreign cfg id token) {userId : String}
    (extracted : extractUserIdFromExpiredToken cfg.toConfig (some token) = some userId) :
    cfg.parse userId ≠ some id := by
  obtain ⟨now, sub, roles, rfl, other⟩ := foreign
  obtain ⟨payload, decoded, named⟩ := decode_accessToken cfg now sub roles
  simp only [extractUserIdFromExpiredToken, Option.map_some, decoded, named, Option.getD_some]
    at extracted
  split at extracted
  · cases extracted
  split at extracted <;> cases extracted
  exact other

omit [DecidableEq Oid] in
theorem Foreign.enrols (foreign : Foreign cfg id token) {now : Nat} {xTenantId : Option String}
    {tenant : PortalAuth.TenantContext}
    (accepted : requirePortalRole cfg.toConfig portalRoles now xTenantId token = .ok tenant) :
    cfg.parse tenant.clientId ≠ some id := by
  obtain ⟨issued, sub, roles, rfl, other⟩ := foreign
  obtain ⟨context, current, checked⟩ := PortalAuth.of_bind_ok accepted
  obtain ⟨payload, decoded, same⟩ := PortalAuth.getCurrentTenant_claims current
  have passed : tenant = context := by
    unfold PortalAuth.checkPortal at checked
    split at checked
    · cases checked
    split at checked
    · exact (Except.ok.inj checked).symm
    split at checked
    · exact (Except.ok.inj checked).symm
    · cases checked
  rcases PortalAuth.decodeToken_verified decoded with ⟨-, verified⟩ | ⟨verify, configured, verified⟩
  · obtain ⟨claims, read, named⟩ := decode_accessToken cfg issued sub roles
    cases Except.ok.inj (verified.symm.trans read)
    rw [passed, same]
    simpa only [named, Option.getD_some] using other
  · exact absurd verified (cfg.foreign verify configured now _ payload)

/-- What a client without an access token of the user can present. -/
def Harmless (cfg : Config Token Oid) (id : Oid) (token : Token) : Prop :=
  Unsigned cfg.toConfig token ∨ Challenge cfg.toConfig token ∨ Foreign cfg id token

omit [DecidableEq Oid] in
theorem Harmless.extracts (harmless : Harmless cfg id token) {userId : String}
    (extracted : extractUserIdFromExpiredToken cfg.toConfig (some token) = some userId) :
    cfg.parse userId ≠ some id := by
  rcases harmless with unsigned | ⟨issued, holder, rfl⟩ | foreign
  · have none : extractUserIdFromExpiredToken cfg.toConfig (some token) = none :=
      PortalAuth.presented_no_user (fun one (mem : one ∈ []) => nomatch mem)
        fun one same => .inr (Option.some.inj same ▸ unsigned)
    cases none.symm.trans extracted
  · cases (PortalAuth.challenge_no_user issued holder).symm.trans extracted
  · exact foreign.extracts extracted

omit [DecidableEq Oid] in
theorem Harmless.enrols (harmless : Harmless cfg id token) {now : Nat} {xTenantId : Option String}
    {tenant : PortalAuth.TenantContext}
    (accepted : requirePortalRole cfg.toConfig portalRoles now xTenantId token = .ok tenant) :
    cfg.parse tenant.clientId ≠ some id := by
  rcases harmless with unsigned | ⟨issued, holder, rfl⟩ | foreign
  · exact absurd accepted (PortalAuth.presented_no_role (fun one (mem : one ∈ []) => nomatch mem)
      (.inr unsigned) tenant)
  · exact absurd accepted (PortalAuth.challenge_no_role issued holder (List.Subset.refl _) tenant)
  · exact foreign.enrols accepted

variable {decrypt : String → Option String} {begin σ τ : State Token Oid C}
    {account : Account Oid} {c : C}

omit [DecidableEq Oid] in
theorem Begins.unrelated {before call : PortalSession.Call} {request : Request Token}
    {phase : Phase Token Oid} (begins : Begins cfg before request phase call)
    (harmless : ∀ token ∈ presented request, Harmless cfg id token) : Unrelated cfg id phase := by
  cases begins with
  | refresh extracted =>
    rename_i accessCookie _ _ _ _ _
    cases accessCookie with
    | none => cases extracted
    | some token => exact (harmless token rfl).extracts extracted
  | enroll accepted => exact (harmless _ rfl).enrols accepted
  | login | verify | refused | loggedOut | logout => trivial

/-- A code is accepted for the account only if there is one. -/
theorem Accepts.verifiable {users : List (Account Oid)} {reading : Reading} {bearer : Option Token}
    {code userId : String} {user : User} {secret : String}
    (accepts : Accepts cfg users reading bearer code userId user secret)
    (present : findOne (·.objectId == account.objectId) users = some account)
    (named : cfg.parse userId = some account.objectId)
    (honest : ∀ text secret, reading.decrypt text = some secret → decrypt text = some secret) :
    Verifiable cfg decrypt account := by
  have enrolled := accepts.enrolled
  simp only [enrolledSecret, getUserById, named, Option.bind_some, present, Option.map_some]
    at enrolled
  split at enrolled
  · rename_i enabled
    split at enrolled
    · cases enrolled
    · rename_i found decrypted
      cases enrolled
      obtain ⟨text, stored, opened⟩ := Option.bind_eq_some_iff.mp decrypted
      exact ⟨enabled, secret, reading.now, code,
        Option.bind_eq_some_iff.mpr ⟨text, stored, honest text secret opened⟩, accepts.valid⟩
  · cases enrolled

omit [DecidableEq C] in
theorem Proceeds.unrelated {reading : Reading} {phase next : Phase Token Oid}
    {users : List (Account Oid)} {call : PortalSession.Call}
    (proceeds : Proceeds cfg σ c reading phase next call users)
    (unrelated : Unrelated cfg account.objectId phase)
    (present : findOne (·.objectId == account.objectId) σ.users = some account)
    (honest : ∀ text secret, reading.decrypt text = some secret → decrypt text = some secret)
    (unverifiable : ¬Verifiable cfg decrypt account) : Unrelated cfg account.objectId next := by
  cases proceeds with
  | login answered =>
    obtain ⟨-, userId, rfl⟩ := PortalAuth.login_tokens answered
    intro token mem
    cases List.mem_singleton.mp mem
    exact ⟨_, userId, rfl⟩
  | verify accepts =>
    exact ⟨_, _, _, rfl, fun named => unverifiable (accepts.verifiable present named honest)⟩
  | grant => exact unrelated
  | renew => exact ⟨_, _, _, rfl, unrelated⟩
  | find named =>
    rintro rfl
    exact unrelated named
  | denied | rejected | unmatched | logout | missing | replace => trivial

omit [DecidableEq C] in
theorem Proceeds.present {reading : Reading} {phase next : Phase Token Oid}
    {users : List (Account Oid)} {call : PortalSession.Call}
    (proceeds : Proceeds cfg σ c reading phase next call users)
    (unrelated : Unrelated cfg account.objectId phase)
    (present : findOne (·.objectId == account.objectId) σ.users = some account) :
    findOne (·.objectId == account.objectId) users = some account := by
  cases proceeds with
  | replace keeps =>
    rw [findOne_updateOne_of_disjoint _ _]
    · exact present
    · intro other same
      rw [beq_iff_eq.mp same]
      exact beq_false_of_ne unrelated
    · intro other same
      rw [(keeps other).1, beq_iff_eq.mp same]
      exact beq_false_of_ne unrelated
  | login | denied | rejected | verify | grant | unmatched | renew | logout | missing | find =>
    exact present

theorem Excluded.step {l : Label Token Oid C} (excluded : Excluded cfg begin account σ)
    (quiet : ∀ c, (begin.phase c).Finished) (unverifiable : ¬Verifiable cfg decrypt account)
    (client : ByClient cfg decrypt begin σ l) (stepped : step cfg σ l = some τ) :
    Excluded cfg begin account τ := by
  have earlier : ∀ c, begin.phase c ≠ .idle → τ.phase c = begin.phase c := by
    intro c begun
    have same := excluded.earlier c begun
    rcases step_call stepped c with ⟨phase, -⟩ | ⟨request, -, idle, -⟩ | ⟨reading, -, advanced⟩ |
      ⟨action, -, -, phase, -⟩
    · exact phase.trans same
    · exact absurd (same.symm.trans idle) begun
    · have finished := quiet c
      rw [same] at advanced
      cases phase : begin.phase c with
      | idle => exact absurd phase begun
      | returned =>
        rw [phase] at advanced
        cases advanced
      | loggingIn | verifying | granting | refreshing | loggingOut | enrolling | replacing =>
        rw [phase] at finished
        exact False.elim finished
    · exact phase.trans same
  have late : ∀ c, σ.phase c = .idle → begin.phase c = .idle := by
    intro c idle
    by_contra begun
    exact begun ((excluded.earlier c begun).symm.trans idle)
  refine ⟨?_, fun c idle => ?_, earlier⟩
  · cases l with
    | start c request =>
      rw [show τ.users = σ.users from ?_]
      · exact excluded.present
      · simp only [PortalAccount.step] at stepped
        split at stepped
        · exact (start_begins stepped).1
        · cases stepped
    | next c reading =>
      by_cases idle : begin.phase c = .idle
      · exact (advance_proceeds stepped).present (excluded.calls c idle) excluded.present
      · have unmoved := advance_proceeds stepped
        rw [excluded.earlier c idle] at unmoved
        have finished := quiet c
        generalize begin.phase c = phase, τ.phase c = next, τ.sessions.call c = call,
          τ.users = users at *
        cases unmoved <;> exact False.elim finished
    | session action =>
      cases action with
      | login | rotate | revokeAll => cases stepped
      | next | insert =>
        obtain ⟨sessions, -, rfl⟩ := Option.map_eq_some_iff.mp stepped
        exact excluded.present
    | deactivate | delete => exact False.elim client
  · have unrelated := excluded.calls c idle
    rcases step_call stepped c with ⟨phase, -⟩ | ⟨request, rfl, -, started⟩ |
      ⟨reading, rfl, advanced⟩ |
      ⟨action, -, -, phase, -⟩
    · rwa [phase]
    · refine (start_begins started).2.unrelated fun token mem => ?_
      rcases client token mem with unsigned | ⟨d, answer, fresh, returned, given⟩
      · exact .inl unsigned
      · have held := excluded.calls d fresh
        rw [returned] at held
        cases answer with
        | challenge required tokens => exact .inr (.inl (held token given))
        | granted access refresh csrf =>
          cases List.mem_singleton.mp given
          exact .inr (.inr held)
        | enrolled | loggedOut => exact absurd given List.not_mem_nil
    · exact (advance_proceeds advanced).unrelated unrelated excluded.present client unverifiable
    · rwa [phase]

/-- While no code of the account is valid, or MFA is off, no calls end with a token of it. -/
theorem no_access (quiet : ∀ c, (begin.phase c).Finished)
    (present : findOne (·.objectId == account.objectId) begin.users = some account)
    (unverifiable : ¬Verifiable cfg decrypt account) :
    ¬AccessPossible cfg decrypt begin account.objectId := by
  rintro ⟨labels, τ, c, run, client, idle, grants⟩
  have initial : Excluded cfg begin account begin :=
    ⟨present, fun c idle => by rw [idle]; trivial, fun _ _ => rfl⟩
  have preserves : ∀ {υ l ω}, Excluded cfg begin account υ → ByClient cfg decrypt begin υ l →
      step cfg υ l = some ω → Excluded cfg begin account ω :=
    fun excluded client stepped => excluded.step quiet unverifiable client stepped
  have unrelated := (exec_invariant preserves client run initial).calls c idle
  cases phase : τ.phase c with
  | returned answer =>
    rw [phase] at unrelated grants
    rcases answer with refusal | answer
    · exact grants
    · cases answer with
      | granted => exact unrelated.not_for grants
      | challenge | enrolled | loggedOut => exact grants
  | idle | loggingIn | verifying | granting | refreshing | loggingOut | enrolling | replacing =>
    rw [phase] at grants
    exact grants

end Exclusion

/-! With a code, two calls are enough. -/

section Access
variable {cfg} {σ τ : State Token Oid C} {c d : C} {account : Account Oid}

/-- What is left to do before the insert. -/
def stageRank : PortalSession.Stage → Nat
  | .count => 3
  | .oldest _ => 2
  | .evict _ => 1
  | .insert => 0

theorem creating_next (scfg : PortalSession.Config) {before : PortalSession.State C}
    {origin : PortalSession.Origin} {grant : PortalSession.Grant} {stage : PortalSession.Stage}
    (creating : before.call c = .creating origin grant stage) (now : Nat)
    (early : stage ≠ .insert) :
    ∃ after stage', PortalSession.step scfg before (.next c now) = some after ∧
      after.call c = .creating origin grant stage' ∧ stageRank stage' < stageRank stage := by
  simp only [PortalSession.step, creating]
  cases stage with
  | insert => exact absurd rfl early
  | count =>
    refine ⟨_, _, rfl, by rw [PortalSession.moveTo_call, if_pos rfl], ?_⟩
    split <;> simp [stageRank]
  | oldest limit =>
    refine ⟨_, _, rfl, by rw [PortalSession.moveTo_call, if_pos rfl], ?_⟩
    split <;> simp [stageRank]
  | evict ids =>
    exact ⟨_, _, rfl, by rw [PortalSession.moveTo_call, if_pos rfl], by simp [stageRank]⟩

/-- A session that is being created gets created. -/
theorem creating_returns (cfg : Config Token Oid) {before : State Token Oid C}
    {origin : PortalSession.Origin} {grant : PortalSession.Grant} {stage : PortalSession.Stage}
    (creating : before.sessions.call c = .creating origin grant stage) :
    ∃ (actions : List (PortalSession.Action C)) (sessions : PortalSession.State C),
      exec (step cfg) before (actions.map .session) = some { before with sessions := sessions } ∧
        ∃ origin refresh, sessions.call c = .returned origin (some refresh) := by
  induction rank : stageRank stage using Nat.strong_induction_on generalizing before stage with
  | _ n ih =>
    subst rank
    by_cases last : stage = .insert
    · subst last
      obtain ⟨sessions, inserted⟩ : ∃ sessions,
          PortalSession.step cfg.sessions before.sessions (.insert c 0 "" "") = some sessions := by
        simp only [PortalSession.step, creating]
        exact ⟨_, rfl⟩
      obtain ⟨-, ⟨origin', returned⟩, -⟩ := PortalSession.insert_returns inserted
      refine ⟨[.insert c 0 "" ""], sessions, exec_cons.mpr ⟨_, ?_, rfl⟩, origin', "", returned⟩
      simp only [step, inserted, Option.map_some]
    · obtain ⟨sessions, stage', taken, creating', less⟩ :=
        creating_next cfg.sessions creating 0 last
      have next : ({ before with sessions := sessions } : State Token Oid C).sessions.call c =
          .creating origin grant stage' := creating'
      obtain ⟨actions, after, run, returned⟩ := ih _ less next rfl
      refine ⟨.next c 0 :: actions, after, exec_cons.mpr ⟨_, ?_, run⟩, returned⟩
      simp only [step, taken, Option.map_some]

omit [DecidableEq Oid] in
/-- A challenge is good for its user at the time at which it is made. -/
theorem challenged_own (id : Oid) (now : Nat) : challenged cfg.toConfig now
    (some (PortalAuth.createChallengeToken cfg.toConfig now (cfg.str id))) = .ok (cfg.str id) := by
  have alive : PortalAuth.decodeLegacyHs cfg.toConfig now
      (PortalAuth.createChallengeToken cfg.toConfig now (cfg.str id)) =
        .ok (PortalAuth.challengeClaims now (cfg.str id)) := by
    rw [PortalAuth.createChallengeToken_eq, PortalAuth.decodeLegacyHs, cfg.decode_encode]
    exact if_neg (by omega)
  have decoded : PortalAuth.decodeChallengeToken cfg.toConfig now
      (PortalAuth.createChallengeToken cfg.toConfig now (cfg.str id)) = some (cfg.str id) := by
    rw [PortalAuth.decodeChallengeToken, alive]
    simp only [PortalAuth.challengeClaims, if_true, Option.getD_some, PortalAuth.unmark_mark]
  rw [challenged, decoded]
  split
  · rename_i none
    cases none
  · rename_i empty
    exact absurd (Option.some.inj empty) (cfg.str_ne id)
  · rename_i userId _ named
    rw [Option.some.inj named]

/-- What a client reads while the key is available. -/
def clientReading (decrypt : String → Option String) (now : Nat) : Reading := ⟨now, decrypt, id, ""⟩

/-- The password gives a challenge. -/
theorem login_challenges {decrypt : String → Option String} {password : String} {now : Nat}
    (found : findOne (activeUser account.username) σ.users = some account)
    (correct : cfg.checkPassword password (account.hashedPassword.getD dummyHash) = true) :
    advance cfg σ c (clientReading decrypt now) (.loggingIn none account.username password) =
      some (σ.moveTo c (.returned (.ok (.challenge account.mfaEnabled
        [PortalAuth.createChallengeToken cfg.toConfig now (cfg.str account.objectId)])))) := by
  have answered : portalLogin cfg.toConfig now none (some (account.user cfg)) password =
      .ok [PortalAuth.createChallengeToken cfg.toConfig now (cfg.str account.objectId)] := by
    simp only [portalLogin, PortalAuth.checkLoginRateLimit, Account.user, bind, Except.bind,
      Option.any_none, Bool.false_eq_true, if_false, Option.bind_some, correct]
    rfl
  simp only [advance, getUserByUsername, found, Option.map_some, clientReading, answered]
  rfl

/-- The challenge and a code give a session that is being created. -/
theorem code_accepted {decrypt : String → Option String} {secret code : String} {now : Nat}
    (present : findOne (·.objectId == account.objectId) σ.users = some account)
    (enabled : account.mfaEnabled = true) (opened : account.mfaSecretEnc.bind decrypt = some secret)
    (valid : cfg.verifyTotp now secret code = true) (idle : σ.sessions.call d = .idle) :
    ∃ grant access, For cfg account.objectId access ∧
      advance cfg σ d (clientReading decrypt now)
        (.verifying (some (PortalAuth.createChallengeToken cfg.toConfig now
          (cfg.str account.objectId))) code) =
      some (State.moveTo { σ with sessions := σ.sessions.moveTo d (.creating .login grant .count) } d
        (.granting access)) := by
  have user : getUserById cfg σ.users (cfg.str account.objectId) = some (account.user cfg) := by
    simp only [getUserById, cfg.parse_str, Option.bind_some, present, Option.map_some]
  have enrolled : enrolledSecret (getUserById cfg σ.users) decrypt (cfg.str account.objectId) =
      .ok (account.user cfg, secret) := by
    simp only [enrolledSecret, user, Account.user, enabled, if_true, opened]
  have accepts : Accepts cfg σ.users (clientReading decrypt now)
      (some (PortalAuth.createChallengeToken cfg.toConfig now (cfg.str account.objectId))) code
      (cfg.str account.objectId) (account.user cfg) secret :=
    ⟨challenged_own account.objectId now, enrolled, valid⟩
  have accepted := verified_accepts.mpr ⟨account.user cfg, secret, accepts, rfl⟩
  let roles := account.portalRoles.getD ["portal:viewer"]
  refine ⟨⟨cfg.str account.objectId, roles, 3, cfg.sessions.portalRefreshExpireHours⟩,
    accessToken cfg.toConfig now (cfg.str account.objectId) roles,
    (for_accessToken ..).mpr (cfg.parse_str account.objectId), ?_⟩
  simp only [advance, accepted, PortalSession.step, idle, if_true, Option.map_some]
  rfl

/-- The password and a code, in two calls that have not begun. -/
theorem access_possible {decrypt : String → Option String} {password : String}
    (found : findOne (activeUser account.username) σ.users = some account)
    (present : findOne (·.objectId == account.objectId) σ.users = some account)
    (correct : cfg.checkPassword password (account.hashedPassword.getD dummyHash) = true)
    (verifiable : Verifiable cfg decrypt account) (different : d ≠ c) (first : σ.phase c = .idle)
    (second : σ.phase d = .idle) (unused : σ.sessions.call d = .idle) :
    AccessPossible cfg decrypt σ account.objectId := by
  obtain ⟨enabled, secret, now, code, opened, valid⟩ := verifiable
  let token := PortalAuth.createChallengeToken cfg.toConfig now (cfg.str account.objectId)
  let asking := σ.moveTo c (.loggingIn none account.username password)
  let answered := asking.moveTo c (.returned (.ok (.challenge account.mfaEnabled [token])))
  let verifying := answered.moveTo d (.verifying (some token) code)
  obtain ⟨grant, access, own, granting⟩ :=
    code_accepted (σ := verifying) (d := d) present enabled opened
    valid unused
  let issuing := State.moveTo { verifying with sessions := σ.sessions.moveTo d (.creating .login grant .count) } d
    (.granting access)
  have creating : issuing.sessions.call d = .creating .login grant .count := by
    change (σ.sessions.moveTo d (.creating .login grant .count)).call d = _
    rw [PortalSession.moveTo_call, if_pos rfl]
  obtain ⟨actions, sessions, run, origin, refresh, returned⟩ := creating_returns cfg creating
  let issued : State Token Oid C := { issuing with sessions := sessions }
  have start₁ : step cfg σ (.start c (.login none account.username password)) = some asking := by
    simp only [step, first, start]
    rfl
  have next₁ : step cfg asking (.next c (clientReading decrypt now)) = some answered := by
    have phase : asking.phase c = .loggingIn none account.username password := by
      rw [moveTo_phase, if_pos rfl]
    simp only [step, phase]
    exact login_challenges found correct
  have start₂ : step cfg answered (.start d (.mfaVerify (some token) code)) = some verifying := by
    have phase : answered.phase d = .idle := by
      rw [moveTo_phase, if_neg different, moveTo_phase, if_neg different, second]
    simp only [step, phase, start]
    rfl
  have next₂ : step cfg verifying (.next d (clientReading decrypt now)) = some issuing := by
    have phase : verifying.phase d = .verifying (some token) code := by
      rw [moveTo_phase, if_pos rfl]
    simp only [step, phase]
    exact granting
  have next₃ : step cfg issued (.next d (clientReading decrypt now)) =
      some (issued.moveTo d (.returned (.ok (.granted access refresh "")))) := by
    have phase : issued.phase d = .granting access := by
      change issuing.phase d = _
      rw [moveTo_phase, if_pos rfl]
    simp only [step, phase, advance]
    rw [show issued.sessions.call d = _ from returned]
    rfl
  have answer : answered.phase c = .returned (.ok (.challenge account.mfaEnabled [token])) := by
    rw [moveTo_phase, if_pos rfl]
  have last : exec (step cfg) issuing (actions.map .session ++
      [.next d (clientReading decrypt now)]) =
      some (issued.moveTo d (.returned (.ok (.granted access refresh "")))) :=
    exec_append.mpr ⟨issued, run, exec_cons.mpr ⟨_, next₃, rfl⟩⟩
  refine ⟨_, _, d, exec_cons.mpr ⟨_, start₁, exec_cons.mpr ⟨_, next₁, exec_cons.mpr ⟨_, start₂,
    exec_cons.mpr ⟨_, next₂, last⟩⟩⟩⟩, ?_, second, ?_⟩
  · refine along_cons ?_ start₁ (along_cons (fun _ _ => id) next₁ (along_cons ?_ start₂
      (along_cons (fun _ _ => id) next₂ (along_append ?_ fun υ walked => ?_))))
    · rintro _ ⟨⟩
    · rintro _ ⟨⟩
      exact .inr ⟨c, _, first, answer, List.mem_singleton_self token⟩
    · refine along_of_forall (fun l mem υ => ?_) issuing
      obtain ⟨action, -, rfl⟩ := List.mem_map.mp mem
      trivial
    · exact ⟨fun _ _ => id, fun _ _ => trivial⟩
  · rw [moveTo_phase, if_pos rfl]
    exact own

/-- In every reachable state: an active user with the password and the secret gets to an
access token if and only if MFA is on and the stored secret has codes. -/
theorem access_possible_iff [Infinite C] {users : List (Account Oid)}
    {docs : List PortalSession.SessionDoc} {labels : List (Label Token Oid C)}
    {decrypt : String → Option String} {password : String}
    (usernames : (users.map Account.username).Nodup) (ids : (users.map Account.objectId).Nodup)
    (run : exec (step cfg) (State.initial Token C users docs) labels = some σ)
    (quiet : ∀ c, (σ.phase c).Finished) (known : account ∈ σ.users)
    (active : account.isActive = true)
    (correct : cfg.checkPassword password (account.hashedPassword.getD dummyHash) = true) :
    AccessPossible cfg decrypt σ account.objectId ↔ Verifiable cfg decrypt account := by
  have present : findOne (·.objectId == account.objectId) σ.users = some account := by
    refine findOne_unique known (beq_self_eq_true _) fun other mem same => ?_
    exact List.inj_on_of_nodup_map (run_distinct (fun _ _ id _ => id) run ids) mem known
      (beq_iff_eq.mp same)
  have found : findOne (activeUser account.username) σ.users = some account := by
    refine findOne_unique known (by simp [activeUser, active]) fun other mem same => ?_
    simp only [activeUser, Bool.and_eq_true, beq_iff_eq] at same
    exact List.inj_on_of_nodup_map (run_distinct
      (fun _ _ _ name => name) run usernames) mem known same.1
  constructor
  · intro possible
    by_contra unverifiable
    exact no_access quiet present unverifiable possible
  · intro verifiable
    obtain ⟨begun, idle⟩ := run_idle run
    obtain ⟨c, fresh⟩ := Infinite.exists_notMem_finset begun
    obtain ⟨d, fresh'⟩ := Infinite.exists_notMem_finset (insert c begun)
    obtain ⟨different, apart⟩ := not_or.mp (mt Finset.mem_insert.mpr fresh')
    exact access_possible found present correct verifiable different (idle c fresh).1
      (idle d apart).1
      (idle d apart).2

end Access

theorem operator_access_possible :
    AccessPossible plainPortal some (State.initial PortalAuth.Signed Nat [operator] []) 7 := by
  have run : exec (step plainPortal) (State.initial PortalAuth.Signed Nat [operator] []) [] =
      some (State.initial PortalAuth.Signed Nat [operator] []) := rfl
  have correct : plainPortal.checkPassword "secret" (operator.hashedPassword.getD dummyHash) =
    true := rfl
  exact (access_possible_iff (by decide) (by decide) run
    (fun _ => trivial) List.mem_cons_self rfl correct).mpr
    ⟨rfl, "314159", 0, "314159", rfl, rfl⟩

/-- An account that has not enrolled yet. -/
def newcomer : Account (Fin 10) :=
  ⟨8, "lee", true, some "password", false, none, some ["portal:viewer"]⟩

/-- The operator logs in with a code and enrols again. -/
def enrolAgain : List (Label PortalAuth.Signed (Fin 10) Nat) :=
  [.start 0 (.login (some 1) "kim" "secret"), .next 0 (plainReading 100),
    .start 1 (.mfaVerify (some (challengeAt 100)) "314159"), .next 1 (plainReading 130),
    .session (.next 1 130), .session (.insert 1 130 "r-1" "salt"), .next 1 (plainReading 130),
    .start 2 (.mfaEnroll 140 none
      (some (accessToken plainPortal.toConfig 130 "7" ["portal:operator"])) "271828"),
    .next 2 (plainReading 140), .next 2 (plainReading 140)]

/-- Neither the account that has yet to enrol nor the one that has enrolled again can be
logged in to. -/
theorem enrolment_locks_out :
    ¬AccessPossible plainPortal some (State.initial PortalAuth.Signed Nat [newcomer] []) 8 ∧
    ∃ σ, exec (step plainPortal) (State.initial PortalAuth.Signed Nat [operator] []) enrolAgain =
      some σ ∧
      σ.phase 2 = .returned (.ok (.enrolled "271828")) ∧ ¬AccessPossible plainPortal some σ 7 := by
  constructor
  · let begin : State PortalAuth.Signed (Fin 10) Nat :=
      State.initial PortalAuth.Signed Nat [newcomer] []
    have quiet : ∀ c, (begin.phase c).Finished := fun _ => trivial
    have present : findOne (·.objectId == newcomer.objectId) begin.users = some newcomer := rfl
    exact no_access quiet present fun verifiable => Bool.false_ne_true verifiable.1
  · let again : Account (Fin 10) :=
      { operator with mfaSecretEnc := some "271828", mfaEnabled := false }
    obtain ⟨σ, run, returned, quiet, present⟩ : ∃ σ, exec (step plainPortal)
        (State.initial PortalAuth.Signed Nat [operator] []) enrolAgain = some σ ∧
        σ.phase 2 = .returned (.ok (.enrolled "271828")) ∧ (∀ c, (σ.phase c).Finished) ∧
        findOne (·.objectId == again.objectId) σ.users = some again := by
      refine ⟨_, rfl, rfl, ?_, rfl⟩
      rintro (_ | _ | _ | c) <;> trivial
    exact ⟨σ, run, returned, no_access quiet present fun verifiable =>
      Bool.false_ne_true verifiable.1⟩

end AgentOE.PortalAccount
