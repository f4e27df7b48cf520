import Mathlib.Data.List.Dedup
import Mathlib.Data.String.Basic
import AgentOE.Collection
import AgentOE.Domain.PortalAuth

/-! The settings that the portal keeps for each environment: `get_config`, `get_config_diff` and
`update_config` of `admin.py`, with one operation on the collection `portal_configs` at a time. -/
namespace AgentOE.PortalConfig
open Transition Collection
open PortalAuth (Refusal TenantContext Payload requirePortalRole getCurrentTenant checkPortal
  decodeToken blank
  portalRoles portalIssuer platformAdminRoles)

/-- `dict[str, str]`. -/
abbrev Values := {entries : List (String × String) // (entries.map Prod.fst).Nodup}

structure ConfigDoc where
  env : String
  values : Values
  updatedBy : String
  updatedAt : String
  deriving DecidableEq

structure ConfigUpdateBody where
  updatedBy : String
  values : Values

def validEnvs : List String := ["dev", "staging", "prod"]

/-- `repr` is Python's, of a text. -/
structure Config (Token : Type) extends PortalAuth.Config Token where
  repr : String → String

structure Request (Token : Type) where
  bearer : Option Token
  xTenantId : Option String
  csrfHeader : Option String
  csrfCookie : Option String
  env : String
  body : ConfigUpdateBody

structure AuditRow where
  actor : TenantContext
  env : String
  before : Option ConfigDoc
  after : ConfigDoc
  deriving DecidableEq

/-- Where an update is: before its snapshot, its replacement, the insertion of a replacement that
has found nothing, and its row in the audit log. -/
inductive Phase where
  | idle
  | accepted (actor : TenantContext) (doc : ConfigDoc)
  | replacing (actor : TenantContext) (before : Option ConfigDoc) (doc : ConfigDoc)
  | inserting (actor : TenantContext) (before : Option ConfigDoc) (doc : ConfigDoc)
  | auditing (actor : TenantContext) (before : Option ConfigDoc) (doc : ConfigDoc)
  | returned (answer : Except Refusal ConfigDoc)

/-- The document of an update that has looked for one to replace and found none. -/
def Phase.insertion : Phase → Option ConfigDoc
  | .inserting _ _ doc => some doc
  | .idle | .accepted .. | .replacing .. | .auditing .. | .returned _ => none

/-- `written` is history: every document in the order in which it was stored. -/
structure State (C : Type) where
  docs : List ConfigDoc
  written : List ConfigDoc
  audited : List AuditRow := []
  phase : C → Phase := fun _ => .idle

/-- The collection has no index that makes `env` unique. A snapshot that fails is suppressed, a
row that is not logged as well. -/
inductive Label (Token C : Type) where
  | update (c : C) (now : Nat) (request : Request Token) (nowIso : String)
  | snapshot (c : C) (failed : Bool)
  | replace (c : C)
  | insert (c : C)
  | fail (c : C)
  | audit (c : C) (logged : Bool)

def ascii (text : String) : Bool := text.toList.all fun c => c.val < 128

/-- `hmac.compare_digest` raises for a text that is not ASCII. -/
def requireCsrf (header cookie : Option String) : Except Refusal Unit :=
  if blank header || blank cookie then .error (.http 403 "CSRF token mismatch")
  else if !(ascii (header.getD "") && ascii (cookie.getD "")) then
    .error (.http 500 "Internal Server Error")
  else if header ≠ cookie then .error (.http 403 "CSRF token mismatch")
  else .ok ()

def ofEnv (env : String) (doc : ConfigDoc) : Bool := doc.env == env

/-- What a dictionary by `env` keeps of the documents. -/
def lastOf (env : String) (docs : List ConfigDoc) : Option ConfigDoc :=
  (docs.filter (ofEnv env)).getLast?

def document (request : Request Token) (nowIso : String) : ConfigDoc :=
  ⟨request.env, request.body.values, request.body.updatedBy, nowIso⟩

section Endpoints
variable {Token : Type} (cfg : Config Token)

def authorize (requiredRoles : List String) (now : Nat) (xTenantId : Option String)
    (bearer : Option Token) : Except Refusal TenantContext :=
  match bearer with
  | none => .error (.http 403 "Not authenticated")
  | some token => requirePortalRole cfg.toConfig requiredRoles now xTenantId token

def invalidEnv (env : String) : Refusal :=
  .http 400 ("Invalid env: " ++ cfg.repr env ++ ". Must be dev|staging|prod.")

/-- `update_config` up to its first operation. -/
def acceptUpdate (now : Nat) (request : Request Token) : Except Refusal TenantContext := do
  let tenant ←
    authorize cfg ["portal:operator", "portal:admin"] now request.xTenantId request.bearer
  requireCsrf request.csrfHeader request.csrfCookie
  if request.env ∉ validEnvs then .error (invalidEnv cfg request.env)
  else if request.env = "prod" ∧ "portal:admin" ∉ tenant.roles then
    .error (.http 403 "Updating prod config requires portal:admin role.")
  else .ok tenant

def getConfig (now : Nat) (xTenantId : Option String) (bearer : Option Token) (env nowIso : String)
    (docs : List ConfigDoc) : Except Refusal ConfigDoc := do
  let _ ← authorize cfg portalRoles now xTenantId bearer
  if env ∉ validEnvs then .error (invalidEnv cfg env)
  else match findOne (ofEnv env) docs with
    | none => .ok ⟨env, ⟨[], List.nodup_nil⟩, "", nowIso⟩
    | some doc => .ok doc

structure Diff where
  key : String
  dev : Option String
  staging : Option String
  prod : Option String
  deriving DecidableEq

/-- `str`, of a value or `None`. -/
def str (value : Option String) : String := value.getD "None"

def valueOf (key : String) (doc : Option ConfigDoc) : Option String :=
  doc.bind (·.values.1.lookup key)

def Diff.of (docs : String → Option ConfigDoc) (key : String) : Diff :=
  ⟨key, valueOf key (docs "dev"), valueOf key (docs "staging"), valueOf key (docs "prod")⟩

def Diff.values (diff : Diff) : List String := [str diff.dev, str diff.staging, str diff.prod]

def allKeys (docs : String → Option ConfigDoc) : List String :=
  ((validEnvs.filterMap docs).flatMap fun doc => doc.values.1.map Prod.fst).dedup.mergeSort (· ≤ ·)

def diffs (docs : String → Option ConfigDoc) : List Diff :=
  ((allKeys docs).map (Diff.of docs)).filter fun diff => 1 < diff.values.dedup.length

def getConfigDiff (now : Nat) (xTenantId : Option String) (bearer : Option Token)
    (docs : List ConfigDoc) : Except Refusal (List Diff × Nat) := do
  let _ ← authorize cfg portalRoles now xTenantId bearer
  let found := diffs fun env => lastOf env docs
  .ok (found, found.length)

end Endpoints

variable {Token C : Type} [DecidableEq C] (cfg : Config Token)

def State.start (C : Type) (docs : List ConfigDoc) : State C := { docs, written := docs }

def State.moveTo (s : State C) (c : C) (phase : Phase) : State C :=
  { s with phase := Function.update s.phase c phase }

def update (s : State C) (c : C) (now : Nat) (request : Request Token) (nowIso : String) :
    State C :=
  match acceptUpdate cfg now request with
  | .error refusal => s.moveTo c (.returned (.error refusal))
  | .ok actor => s.moveTo c (.accepted actor (document request nowIso))

/-- `find_one_and_replace` where its query finds a document. -/
def replaceOne (doc : ConfigDoc) (docs : List ConfigDoc) : List ConfigDoc :=
  updateOne (ofEnv doc.env) (fun _ => doc) docs

/-- A call begins once. -/
def step (s : State C) : Label Token C → Option (State C)
  | .update c now request nowIso => match s.phase c with
    | .idle => some (update cfg s c now request nowIso)
    | _ => none
  | .snapshot c failed => match s.phase c with
    | .accepted actor doc =>
      let before := if failed then none else findOne (ofEnv doc.env) s.docs
      some (s.moveTo c (.replacing actor before doc))
    | _ => none
  | .replace c => match s.phase c with
    | .replacing actor before doc => match findOne (ofEnv doc.env) s.docs with
      | none => some (s.moveTo c (.inserting actor before doc))
      | some _ =>
        some ({ s with docs := replaceOne doc s.docs, written := s.written ++ [doc] }.moveTo c
          (.auditing actor before doc))
    | _ => none
  | .insert c => match s.phase c with
    | .inserting actor before doc =>
      some ({ s with docs := insertOne doc s.docs, written := s.written ++ [doc] }.moveTo c
        (.auditing actor before doc))
    | _ => none
  | .fail c => match s.phase c with
    | .replacing .. | .inserting .. =>
      some (s.moveTo c (.returned (.error (.http 500 "Internal Server Error"))))
    | _ => none
  | .audit c logged => match s.phase c with
    | .auditing actor before doc =>
      let rows := if logged then [⟨actor, doc.env, before, doc⟩] else []
      some ({ s with audited := s.audited ++ rows }.moveTo c (.returned (.ok doc)))
    | _ => none

variable {cfg} {s t : State C} {l : Label Token C} {past ls : List (Label Token C)} {c c' : C}
    {p : Phase}
variable {actor : TenantContext} {before : Option ConfigDoc} {doc other : ConfigDoc}
    {docs : List ConfigDoc}
variable {now : Nat} {request : Request Token} {nowIso env key : String} {xTenantId : Option String}
variable {bearer : Option Token}

/-- What a step does beside moving its call on. -/
inductive Does (s t : State C) : Label Token C → Prop where
  | refused (c : C) (now : Nat) (request : Request Token) (nowIso : String) (refusal : Refusal)
      (was : s.phase c = .idle) (done : t = s.moveTo c (.returned (.error refusal))) :
      Does s t (.update c now request nowIso)
  | accepted (c : C) (now : Nat) (request : Request Token) (nowIso : String) (actor : TenantContext)
      (was : s.phase c = .idle) (allowed : acceptUpdate cfg now request = .ok actor)
      (done : t = s.moveTo c (.accepted actor (document request nowIso))) :
      Does s t (.update c now request nowIso)
  | snapshot (c : C) (failed : Bool) (actor : TenantContext) (before : Option ConfigDoc)
      (doc : ConfigDoc) (was : s.phase c = .accepted actor doc)
      (done : t = s.moveTo c (.replacing actor before doc)) : Does s t (.snapshot c failed)
  | missed (c : C) (actor : TenantContext) (before : Option ConfigDoc) (doc : ConfigDoc)
      (was : s.phase c = .replacing actor before doc)
      (done : t = s.moveTo c (.inserting actor before doc)) : Does s t (.replace c)
  | replaced (c : C) (actor : TenantContext) (before : Option ConfigDoc) (doc old : ConfigDoc)
      (was : s.phase c = .replacing actor before doc)
      (found : findOne (ofEnv doc.env) s.docs = some old)
      (done : t = { s with docs := replaceOne doc s.docs, written := s.written ++ [doc] }.moveTo c
        (.auditing actor before doc)) : Does s t (.replace c)
  | inserted (c : C) (actor : TenantContext) (before : Option ConfigDoc) (doc : ConfigDoc)
      (was : s.phase c = .inserting actor before doc)
      (done : t = { s with docs := insertOne doc s.docs, written := s.written ++ [doc] }.moveTo c
        (.auditing actor before doc)) : Does s t (.insert c)
  | failed (c : C)
      (done : t = s.moveTo c (.returned (.error (.http 500 "Internal Server Error")))) :
      Does s t (.fail c)
  | audited (c : C) (logged : Bool) (actor : TenantContext) (before : Option ConfigDoc)
      (doc : ConfigDoc) (was : s.phase c = .auditing actor before doc)
      (done : t = { s with
        audited := s.audited ++
          (if logged then [⟨actor, doc.env, before, doc⟩] else [] : List AuditRow) }.moveTo c
        (.returned (.ok doc))) : Does s t (.audit c logged)

theorem step_does (stepped : step cfg s l = some t) : @Does Token C _ cfg s t l := by
  cases l with
  | update c now request nowIso =>
    simp only [step] at stepped
    split at stepped
    · rename_i was
      cases Option.some.inj stepped
      simp only [update]
      split
      · exact .refused c now request nowIso _ was rfl
      · rename_i actor allowed
        exact .accepted c now request nowIso actor was allowed rfl
    · cases stepped
  | snapshot c failed =>
    simp only [step] at stepped
    split at stepped
    · rename_i actor doc was
      exact .snapshot c failed actor _ doc was (Option.some.inj stepped).symm
    · cases stepped
  | replace c =>
    simp only [step] at stepped
    split at stepped
    · rename_i actor before doc was
      split at stepped
      · exact .missed c actor before doc was (Option.some.inj stepped).symm
      · rename_i old found
        exact .replaced c actor before doc old was found (Option.some.inj stepped).symm
    · cases stepped
  | insert c =>
    simp only [step] at stepped
    split at stepped
    · rename_i actor before doc was
      exact .inserted c actor before doc was (Option.some.inj stepped).symm
    · cases stepped
  | fail c =>
    simp only [step] at stepped
    split at stepped
    · exact .failed c (Option.some.inj stepped).symm
    · exact .failed c (Option.some.inj stepped).symm
    · cases stepped
  | audit c logged =>
    simp only [step] at stepped
    split at stepped
    · rename_i actor before doc was
      exact .audited c logged actor before doc was (Option.some.inj stepped).symm
    · cases stepped

/-! ### Who writes -/

/-- A request that may store a document: its token is signed for the portal, its roles reach, those
of production are the administrator's, and its CSRF values are the same. -/
structure Permitted (cfg : Config Token) (now : Nat) (request : Request Token)
    (actor : TenantContext) : Prop where
  signed : ∃ token payload, request.bearer = some token ∧
    decodeToken cfg.toConfig now token = .ok payload ∧
    payload.iss = some portalIssuer ∧ payload.roles.getD [] = actor.roles
  reaches : ∃ role ∈ actor.roles, role = "portal:operator" ∨ role ∈ platformAdminRoles
  prod : request.env = "prod" → "portal:admin" ∈ actor.roles
  env : request.env ∈ validEnvs
  csrf : ∃ value, value ≠ "" ∧ request.csrfHeader = some value ∧ request.csrfCookie = some value

theorem checkPortal_ok {roles : List String} {tenant : TenantContext}
    (passed : checkPortal roles tenant = .ok actor) :
    actor = tenant ∧ tenant.issuer = portalIssuer ∧
      ∃ role ∈ tenant.roles, role ∈ platformAdminRoles ∨ role ∈ roles := by
  rw [checkPortal] at passed
  split at passed
  · cases passed
  · rename_i issuer
    split at passed
    · rename_i admin
      obtain ⟨role, mem, inside⟩ := List.any_eq_true.mp admin
      exact ⟨(Except.ok.inj passed).symm, not_not.mp issuer, role, mem,
        .inl (List.contains_iff_mem.mp inside)⟩
    · split at passed
      · rename_i member
        obtain ⟨role, mem, inside⟩ := List.any_eq_true.mp member
        exact ⟨(Except.ok.inj passed).symm, not_not.mp issuer, role,
          List.contains_iff_mem.mp inside, .inr mem⟩
      · cases passed

theorem requireCsrf_ok {header cookie : Option String}
    (passed : requireCsrf header cookie = .ok ()) :
    ∃ value, value ≠ "" ∧ header = some value ∧ cookie = some value := by
  rw [requireCsrf] at passed
  split_ifs at passed with empty wide same
  cases header with
  | none => simp [blank] at empty
  | some value =>
    refine ⟨value, ?_, rfl, (not_not.mp same).symm⟩
    rintro rfl
    simp [blank] at empty

theorem acceptUpdate_ok (allowed : acceptUpdate cfg now request = .ok actor) :
    Permitted cfg now request actor := by
  obtain ⟨tenant, authorized, rest⟩ := PortalAuth.of_bind_ok allowed
  obtain ⟨⟨⟩, csrf, rest⟩ := PortalAuth.of_bind_ok rest
  split_ifs at rest with outside foreign
  cases rest
  unfold authorize at authorized
  split at authorized
  · cases authorized
  · rename_i token presented
    obtain ⟨claimed, current, checked⟩ := PortalAuth.of_bind_ok authorized
    obtain ⟨payload, decoded, context⟩ := PortalAuth.getCurrentTenant_claims current
    obtain ⟨rfl, issuer, role, mem, reaches⟩ := checkPortal_ok checked
    refine ⟨⟨token, payload, presented, decoded, ?_, by rw [context]⟩, ⟨role, mem, ?_⟩, ?_, outside,
      requireCsrf_ok csrf⟩
    · rw [context] at issuer
      cases field : payload.iss with
      | none => simp [field, portalIssuer] at issuer
      | some iss => simpa [field] using issuer
    · rcases reaches with admin | listed
      · exact .inr admin
      · rcases List.mem_pair.mp listed with rfl | rfl
        · exact .inl rfl
        · exact .inr (by decide)
    · intro prod
      by_contra missing
      exact foreign ⟨prod, missing⟩

/-- A document of an earlier request that was accepted for the actor. -/
def Asked (cfg : Config Token) (past : List (Label Token C)) (actor : TenantContext)
    (doc : ConfigDoc) : Prop :=
  ∃ c now request nowIso, .update c now request nowIso ∈ past ∧ Permitted cfg now request actor ∧
    doc = document request nowIso

/-- What a call has in hand. -/
def Carries (cfg : Config Token) (past : List (Label Token C)) (s : State C) : Phase → Prop
  | .idle | .returned (.error _) => True
  | .accepted actor doc | .replacing actor _ doc | .inserting actor _ doc =>
    Asked cfg past actor doc
  | .auditing actor _ doc => Asked cfg past actor doc ∧ doc ∈ s.written
  | .returned (.ok doc) => doc ∈ s.written

structure Kept (cfg : Config Token) (docs : List ConfigDoc) (past : List (Label Token C))
    (s : State C) : Prop where
  stored : ∀ doc ∈ s.docs, doc ∈ s.written
  written : ∀ doc ∈ s.written, doc ∈ docs ∨ ∃ actor, Asked cfg past actor doc
  audited : ∀ row ∈ s.audited, row.after ∈ s.written ∧ row.env = row.after.env ∧
    Asked cfg past row.actor row.after
  calls : ∀ c, Carries cfg past s (s.phase c)

omit [DecidableEq C] in
theorem Asked.mono (asked : Asked cfg past actor doc) : Asked cfg (past ++ [l]) actor doc := by
  obtain ⟨c, now, request, nowIso, mem, permitted, same⟩ := asked
  exact ⟨c, now, request, nowIso, List.mem_append_left _ mem, permitted, same⟩

omit [DecidableEq C] in
theorem Carries.mono (carries : Carries cfg past s p) (more : s.written ⊆ t.written) :
    Carries cfg (past ++ [l]) t p := by
  cases p with
  | idle => trivial
  | accepted actor doc | replacing actor before doc | inserting actor before doc =>
    exact Asked.mono carries
  | auditing actor before doc => exact ⟨carries.1.mono, more carries.2⟩
  | returned answer => cases answer with
    | error refusal => trivial
    | ok doc => exact more carries

omit [DecidableEq C] in
theorem Kept.call (kept : Kept cfg docs past s) (was : s.phase c = p) : Carries cfg past s p :=
  was ▸ kept.calls c

/-- A call moves on with what it may have in hand, and nothing else is stored or logged. -/
theorem Kept.moveTo (kept : Kept cfg docs past s) (here : Carries cfg (past ++ [l]) t p)
    (same : t.docs = s.docs ∧ t.written = s.written ∧ t.audited = s.audited)
    (phase : t.phase = Function.update s.phase c p) : Kept cfg docs (past ++ [l]) t := by
  obtain ⟨docs', written, audited⟩ := same
  refine ⟨?_, ?_, ?_, ?_⟩
  · rw [docs', written]
    exact kept.stored
  · rw [written]
    exact fun doc mem => (kept.written doc mem).imp_right fun ⟨actor, asked⟩ => ⟨actor, asked.mono⟩
  · rw [audited, written]
    intro row mem
    obtain ⟨after, env, asked⟩ := kept.audited row mem
    exact ⟨after, env, asked.mono⟩
  · intro c'
    rw [phase]
    by_cases self : c' = c
    · rw [self, Function.update_self]
      exact here
    · rw [Function.update_of_ne self]
      exact (kept.calls c').mono fun _ mem => written.symm ▸ mem

/-- A call stores the document that it has in hand. -/
theorem Kept.store (kept : Kept cfg docs past s) (asked : Asked cfg past actor doc)
    (stored : ∀ other ∈ t.docs, other ∈ s.docs ∨ other = doc)
    (written : t.written = s.written ++ [doc]) (audited : t.audited = s.audited)
    (phase : t.phase = Function.update s.phase c (.auditing actor before doc)) :
    Kept cfg docs (past ++ [l]) t := by
  have more : s.written ⊆ t.written := by
    rw [written]
    exact List.subset_append_left _ _
  have last : doc ∈ t.written := by
    rw [written]
    exact List.mem_append_right _ (List.mem_singleton_self doc)
  refine ⟨?_, ?_, ?_, ?_⟩
  · intro other mem
    rcases stored other mem with older | rfl
    · exact more (kept.stored other older)
    · exact last
  · intro other mem
    rw [written] at mem
    rcases List.mem_append.mp mem with older | new
    · exact (kept.written other older).imp_right fun ⟨actor, asked⟩ => ⟨actor, asked.mono⟩
    · rw [List.mem_singleton.mp new]
      exact .inr ⟨actor, asked.mono⟩
  · rw [audited]
    intro row mem
    obtain ⟨after, env, asked⟩ := kept.audited row mem
    exact ⟨more after, env, asked.mono⟩
  · intro c'
    rw [phase]
    by_cases self : c' = c
    · rw [self, Function.update_self]
      exact ⟨asked.mono, last⟩
    · rw [Function.update_of_ne self]
      exact (kept.calls c').mono more

theorem step_kept (kept : Kept cfg docs past s) (stepped : step cfg s l = some t) :
    Kept cfg docs (past ++ [l]) t := by
  cases step_does stepped with
  | refused c now request nowIso refusal was done =>
    subst done
    exact kept.moveTo (p := .returned (.error refusal)) trivial ⟨rfl, rfl, rfl⟩ rfl
  | accepted c now request nowIso actor was allowed done =>
    subst done
    have asked : Asked cfg (past ++ [.update c now request nowIso]) actor
        (document request nowIso) :=
      ⟨c, now, request, nowIso, List.mem_append_right _ (List.mem_singleton_self _),
        acceptUpdate_ok allowed, rfl⟩
    exact kept.moveTo (p := .accepted actor _) asked ⟨rfl, rfl, rfl⟩ rfl
  | snapshot c failed actor before doc was done =>
    subst done
    have asked : Asked cfg past actor doc := kept.call was
    exact kept.moveTo (p := .replacing actor before doc) asked.mono ⟨rfl, rfl, rfl⟩ rfl
  | missed c actor before doc was done =>
    subst done
    have asked : Asked cfg past actor doc := kept.call was
    exact kept.moveTo (p := .inserting actor before doc) asked.mono ⟨rfl, rfl, rfl⟩ rfl
  | replaced c actor before doc old was found done =>
    subst done
    have asked : Asked cfg past actor doc := kept.call was
    refine kept.store asked (fun other mem => ?_) rfl rfl rfl
    exact (mem_updateOne mem).imp_right fun ⟨_, _, same⟩ => same
  | inserted c actor before doc was done =>
    subst done
    have asked : Asked cfg past actor doc := kept.call was
    refine kept.store asked (fun other mem => ?_) rfl rfl rfl
    exact (List.mem_append.mp mem).imp_right List.mem_singleton.mp
  | failed c done =>
    subst done
    exact kept.moveTo (p := .returned (.error _)) trivial ⟨rfl, rfl, rfl⟩ rfl
  | audited c logged actor before doc was done =>
    subst done
    obtain ⟨asked, written⟩ : Asked cfg past actor doc ∧ doc ∈ s.written := kept.call was
    have moved := kept.moveTo (l := .audit c logged) (c := c) (p := .returned (.ok doc))
      (t := s.moveTo c (.returned (.ok doc))) written ⟨rfl, rfl, rfl⟩ rfl
    refine ⟨moved.stored, moved.written, fun row mem => ?_, moved.calls⟩
    rcases List.mem_append.mp mem with older | new
    · exact moved.audited row older
    · cases logged with
      | false => cases new
      | true =>
        rw [List.mem_singleton.mp new]
        exact ⟨written, rfl, asked.mono⟩

/-- However updates interleave: what is stored and was not there at the start, and what the
audit log shows, was asked for by the request of a permitted caller; and what a caller is told
is stored was. -/
theorem config_permitted (run : exec (step cfg) (.start C docs) ls = some t) :
    (∀ doc ∈ t.docs, doc ∈ docs ∨ ∃ actor, Asked cfg ls actor doc) ∧
    (∀ row ∈ t.audited, row.after ∈ t.written ∧ row.env = row.after.env ∧
      Asked cfg ls row.actor row.after) ∧
    ∀ c doc, t.phase c = .returned (.ok doc) → doc ∈ t.written := by
  have start : Kept cfg docs [] (.start C docs) :=
    ⟨fun _ mem => mem, fun _ mem => .inl mem, fun _ mem => (List.not_mem_nil mem).elim,
      fun _ => trivial⟩
  have kept := exec_history (Kept cfg docs) (fun _ _ _ _ before stepped =>
    step_kept before stepped) run start
  refine ⟨fun doc mem => kept.written doc (kept.stored doc mem), kept.audited,
    fun c doc answered => ?_⟩
  exact kept.call answered

def adminToken : PortalAuth.Signed :=
  .secret ⟨some "agentoe-portal", some "65f0", some "portal", some ["portal:admin"], some 1000⟩

def portal : Config PortalAuth.Signed where
  toConfig := PortalAuth.withoutJwks
  repr := fun text => "'" ++ text ++ "'"

def settings (value : String) : Values := ⟨[("LOG_LEVEL", value)], by simp⟩

def put (env value : String) : Request PortalAuth.Signed :=
  ⟨some adminToken, none, some "csrf", some "csrf", env, "ops", settings value⟩

def production : List (Label PortalAuth.Signed Bool) :=
  [.update true 100 (put "prod" "INFO") "09:00", .snapshot true false, .replace true, .insert true,
    .audit true true]

theorem production_permitted : ∃ t, exec (step portal) (.start Bool []) production = some t ∧
    t.docs ≠ [] ∧ ∀ doc ∈ t.docs, doc ∈ [] ∨ ∃ actor, Asked portal production actor doc := by
  have run : ∃ t, exec (step portal) (.start Bool []) production = some t ∧ t.docs ≠ [] :=
    ⟨_, rfl, List.cons_ne_nil _ _⟩
  obtain ⟨t, run, stored⟩ := run
  exact ⟨t, run, stored, (config_permitted run).1⟩

/-! ### What is read -/

/-- Each environment has one document at most, which is the last that was written. -/
def Exact (s : State C) : Prop := ∀ env, s.docs.filter (ofEnv env) = (lastOf env s.written).toList

/-- No document is inserted beside another of its environment. -/
def Alone (s : State C) : Label Token C → Prop
  | .insert c => ∀ doc ∈ (s.phase c).insertion, findOne (ofEnv doc.env) s.docs = none
  | .update .. | .snapshot .. | .replace _ | .fail _ | .audit .. => True

instance Alone.decidable (s : State C) : (l : Label Token C) → Decidable (Alone s l)
  | .insert c =>
    inferInstanceAs (Decidable (∀ doc ∈ (s.phase c).insertion,
      findOne (ofEnv doc.env) s.docs = none))
  | .update .. | .snapshot .. | .replace _ | .fail _ | .audit .. => .isTrue trivial

theorem ofEnv_iff : ofEnv env doc = true ↔ doc.env = env := beq_iff_eq

theorem lastOf_append : lastOf env (docs ++ [doc]) = if doc.env =
    env then some doc else lastOf env docs := by
  by_cases same : doc.env = env
  · simp [lastOf, ofEnv, same]
  · simp [lastOf, ofEnv, same]

theorem filter_insertOne : (insertOne doc docs).filter (ofEnv env) =
    docs.filter (ofEnv env) ++ if doc.env = env then [doc] else [] := by
  by_cases same : doc.env = env
  · simp [insertOne, ofEnv, same]
  · simp [insertOne, ofEnv, same]

theorem filter_replaceOne (only : docs.filter (ofEnv doc.env) = [other]) :
    (replaceOne doc docs).filter (ofEnv env) = if doc.env =
      env then [doc] else docs.filter (ofEnv env) := by
  have self : ofEnv doc.env doc = true := ofEnv_iff.mpr rfl
  obtain ⟨inside, outside⟩ :=
    @filter_updateOne _ (ofEnv doc.env) (ofEnv doc.env) (fun _ => doc) docs
    fun _ found => ⟨findOne_match found, self⟩
  split_ifs with same
  · have first : ofEnv doc.env other = true :=
      (List.mem_filter.mp (only ▸ List.mem_singleton_self other : other ∈
        docs.filter (ofEnv doc.env))).2
    rw [← same, replaceOne, inside, only, updateOne, if_pos first]
  · have apart : ∀ doc', (ofEnv env doc' && !ofEnv doc.env doc') = ofEnv env doc' := by
      intro doc'
      by_cases here : doc'.env = env
      · simp [ofEnv, here, Ne.symm same]
      · simp [ofEnv, here]
    have split : ∀ docs : List ConfigDoc, (docs.filter fun doc' => !ofEnv doc.env doc').filter
        (ofEnv env) = docs.filter (ofEnv env) := by
      intro docs
      rw [List.filter_filter]
      exact List.filter_congr fun doc' _ => apart doc'
    rw [← split, replaceOne, outside, split]

omit [DecidableEq C] in
theorem Exact.findOne (exact_ : Exact s) : findOne (ofEnv env) s.docs = lastOf env s.written := by
  rw [Collection.findOne, ← List.head?_filter, exact_ env]
  cases lastOf env s.written <;> rfl

omit [DecidableEq C] in
theorem Exact.lastOf (exact_ : Exact s) : lastOf env s.docs = lastOf env s.written := by
  rw [PortalConfig.lastOf, exact_ env]
  cases PortalConfig.lastOf env s.written <;> rfl

omit [DecidableEq C] in
theorem Exact.congr (exact_ : Exact s) (docs : t.docs = s.docs) (written : t.written = s.written) :
    Exact t := by
  intro env
  rw [docs, written]
  exact exact_ env

omit [DecidableEq C] in
/-- An insertion keeps the collection exact just when it is alone. -/
theorem insert_exact_iff (exact_ : Exact s) (docs : t.docs = insertOne doc s.docs)
    (written : t.written = s.written ++ [doc]) :
    Exact t ↔ Collection.findOne (ofEnv doc.env) s.docs = none := by
  constructor
  · intro after
    have here := after doc.env
    rw [docs, written, filter_insertOne, lastOf_append, if_pos rfl, if_pos rfl, Option.toList_some]
      at here
    have none : s.docs.filter (ofEnv doc.env) = [] := List.append_left_eq_self.mp here
    rw [Collection.findOne, ← List.head?_filter, none, List.head?_nil]
  · intro alone env
    rw [docs, written, filter_insertOne, lastOf_append]
    split_ifs with same
    · subst same
      rw [exact_ doc.env, ← exact_.findOne, alone]
      rfl
    · rw [List.append_nil, exact_ env]

omit [DecidableEq C] in
theorem replace_exact (exact_ : Exact s)
    (found : Collection.findOne (ofEnv doc.env) s.docs = some other)
    (docs : t.docs = replaceOne doc s.docs) (written : t.written = s.written ++ [doc]) :
    Exact t := by
  have only : s.docs.filter (ofEnv doc.env) = [other] := by
    rw [exact_ doc.env, ← exact_.findOne, found, Option.toList_some]
  intro env
  rw [docs, written, filter_replaceOne only, lastOf_append]
  split_ifs with same
  · rfl
  · exact exact_ env

theorem step_exact (exact_ : Exact s) (stepped : step cfg s l = some t) : Exact t ↔ Alone s l := by
  cases step_does stepped with
  | refused c now request nowIso refusal was done =>
    exact ⟨fun _ => trivial, fun _ => exact_.congr (done ▸ rfl) (done ▸ rfl)⟩
  | accepted c now request nowIso actor was allowed done =>
    exact ⟨fun _ => trivial, fun _ => exact_.congr (done ▸ rfl) (done ▸ rfl)⟩
  | snapshot c failed actor before doc was done =>
    exact ⟨fun _ => trivial, fun _ => exact_.congr (done ▸ rfl) (done ▸ rfl)⟩
  | missed c actor before doc was done =>
    exact ⟨fun _ => trivial, fun _ => exact_.congr (done ▸ rfl) (done ▸ rfl)⟩
  | replaced c actor before doc old was found done =>
    exact ⟨fun _ => trivial, fun _ => replace_exact exact_ found (done ▸ rfl) (done ▸ rfl)⟩
  | inserted c actor before doc was done =>
    rw [@insert_exact_iff _ _ _ doc exact_ (done ▸ rfl) (done ▸ rfl)]
    simp [Alone, was, Phase.insertion]
  | failed c done => exact ⟨fun _ => trivial, fun _ => exact_.congr (done ▸ rfl) (done ▸ rfl)⟩
  | audited c logged actor before doc was done =>
    exact ⟨fun _ => trivial, fun _ => exact_.congr (done ▸ rfl) (done ▸ rfl)⟩

omit [DecidableEq C] in
theorem start_exact (distinct : (docs.map ConfigDoc.env).Nodup) : Exact (.start C docs) := by
  intro env
  have distinct : ((docs.filter (ofEnv env)).map ConfigDoc.env).Nodup :=
    distinct.sublist (List.filter_sublist.map _)
  have inside : ∀ doc ∈ docs.filter (ofEnv env), doc.env = env :=
    fun doc mem => ofEnv_iff.mp (List.mem_filter.mp mem).2
  change docs.filter (ofEnv env) = (docs.filter (ofEnv env)).getLast?.toList
  revert distinct inside
  rcases docs.filter (ofEnv env) with _ | ⟨first, _ | ⟨second, rest⟩⟩ <;> intro distinct inside
  · rfl
  · rfl
  · have both : first.env = second.env :=
      (inside first List.mem_cons_self).trans
        (inside second (List.mem_cons_of_mem _ List.mem_cons_self)).symm
    simp [both] at distinct

/-- Updates in any interleaving: at every moment each environment has at most one document, the last
that was written for it, just when no update inserts where another has inserted since it looked. -/
theorem config_exact_iff (distinct : (docs.map ConfigDoc.env).Nodup)
    (run : exec (step cfg) (.start C docs) ls = some t) :
    (∀ past u, past <+: ls → exec (step cfg) (.start C docs) past = some u → Exact u) ↔
      Along (step cfg) Alone (.start C docs) ls :=
  reached_iff_along (Q := fun _ _ => True) Exact
    (fun before _ stepped after => (step_exact before stepped).mp after)
    (fun before _ stepped alone => (step_exact before stepped).mpr alone) (fun exact_ => exact_)
    (start_exact distinct) (along_true _) run

/-- Two first updates of an environment, both of which find no document. -/
def crossed : List (Label PortalAuth.Signed Bool) :=
  [.update true 100 (put "dev" "INFO") "09:00", .update false 100 (put "dev" "DEBUG") "09:00",
    .snapshot true false,
    .snapshot false false, .replace true, .replace false, .insert true, .insert false]

theorem crossed_exact_iff : ∃ t, exec (step portal) (.start Bool []) crossed = some t ∧
    ((∀ past u, past <+: crossed → exec (step portal) (.start Bool []) past = some u → Exact u) ↔
      Along (step portal) Alone (.start Bool []) crossed) := by
  have run : ∃ t, exec (step portal) (.start Bool []) crossed = some t := ⟨_, rfl⟩
  obtain ⟨t, run⟩ := run
  exact ⟨t, run, config_exact_iff List.nodup_nil run⟩

/-! ### The comparison -/

theorem one_lt_dedup {a b c : String} : 1 < [a, b, c].dedup.length ↔ ¬(a = b ∧ b = c) := by
  by_cases ab : a = b
  · subst ab
    by_cases bc : a = c <;> simp [bc]
  · by_cases bc : b = c
    · subst bc
      simp [ab]
    · by_cases ac : a = c <;> simp [ab, bc, ac]

variable {found : String → Option ConfigDoc} {diff : Diff}

theorem valueOf_unlisted (unlisted : key ∉ allKeys found) (valid : env ∈ validEnvs) :
    valueOf key (found env) = none := by
  cases stored : found env with
  | none => rfl
  | some doc =>
    have outside : key ∉ doc.values.1.map Prod.fst := by
      intro mem
      apply unlisted
      rw [allKeys, List.mem_mergeSort, List.mem_dedup, List.mem_flatMap]
      exact ⟨doc, List.mem_filterMap.mpr ⟨env, valid, stored⟩, mem⟩
    exact List.lookup_eq_none_iff.mpr fun entry mem => by
      simpa using fun same : key = entry.1 => outside (same ▸ List.mem_map_of_mem mem)

theorem allKeys_sorted : (allKeys found).Pairwise (· < ·) := by
  have sorted : (allKeys found).Pairwise (fun a b => decide (a ≤ b) = true) := by
    apply List.pairwise_mergeSort
    · simp only [decide_eq_true_eq]
      exact fun _ _ _ => le_trans
    · simp only [Bool.or_eq_true, decide_eq_true_eq]
      exact le_total
  have distinct : (allKeys found).Nodup :=
    (List.mergeSort_perm _ _).nodup_iff.mpr (List.nodup_dedup _)
  exact (sorted.and distinct).imp fun both => lt_of_le_of_ne (of_decide_eq_true both.1) both.2

theorem mem_diffs : diff ∈ diffs found ↔ diff = .of found diff.key ∧
    ¬(str diff.dev = str diff.staging ∧ str diff.staging = str diff.prod) := by
  rw [diffs, List.mem_filter, decide_eq_true_eq, Diff.values, one_lt_dedup, List.mem_map]
  refine and_congr_left fun different => ⟨?_, fun same => ⟨diff.key, ?_, same.symm⟩⟩
  · rintro ⟨key, -, rfl⟩
    rfl
  · by_contra unlisted
    rw [same] at different
    apply different
    simp only [Diff.of]
    rw [valueOf_unlisted unlisted (by decide), valueOf_unlisted unlisted (by decide),
      valueOf_unlisted unlisted (by decide)]
    exact ⟨rfl, rfl⟩

theorem diffs_sorted : ((diffs found).map Diff.key).Pairwise (· < ·) := by
  have keys : ((allKeys found).map (Diff.of found)).map Diff.key = allKeys found := by
    rw [List.map_map]
    exact List.map_id _
  have sub : ((diffs found).map Diff.key).Sublist (allKeys found) :=
    keys ▸ List.filter_sublist.map _
  exact allKeys_sorted.sublist sub

/-- Where updates have not overlapped, the portal reads what was written last: the settings of an
environment, and the keys whose values differ. A value that is missing reads as the text `None`. -/
theorem config_read_last (distinct : (docs.map ConfigDoc.env).Nodup)
    (run : exec (step cfg) (.start C docs) ls = some t)
    (alone : Along (step cfg) Alone (.start C docs) ls)
    (authorized : authorize cfg portalRoles now xTenantId bearer = .ok actor) :
    (∀ env ∈ validEnvs, ∀ nowIso, getConfig cfg now xTenantId bearer env nowIso t.docs =
      .ok ((lastOf env t.written).getD ⟨env, ⟨[], List.nodup_nil⟩, "", nowIso⟩)) ∧
    ∃ found, getConfigDiff cfg now xTenantId bearer t.docs = .ok (found, found.length) ∧
      (found.map Diff.key).Pairwise (· < ·) ∧
      ∀ diff, diff ∈ found ↔ diff = .of (fun env => lastOf env t.written) diff.key ∧
        ¬(str diff.dev = str diff.staging ∧ str diff.staging = str diff.prod) := by
  have exact_ : Exact t :=
    exec_invariant (fun before lone stepped => (step_exact before stepped).mpr lone) alone run
      (start_exact distinct)
  have last : (fun env => lastOf env t.docs) = fun env => lastOf env t.written := funext fun env =>
    exact_.lastOf
  constructor
  · intro env valid nowIso
    rw [getConfig, authorized]
    change (if env ∉ validEnvs then _ else _) = _
    rw [if_neg (not_not.mpr valid), exact_.findOne]
    cases lastOf env t.written <;> rfl
  · refine ⟨diffs fun env => lastOf env t.docs, ?_, diffs_sorted, fun diff => ?_⟩
    · rw [getConfigDiff, authorized]
      rfl
    · rw [last]
      exact mem_diffs

def promotion : List (Label PortalAuth.Signed Bool) :=
  production ++ [.update false 110 (put "dev" "DEBUG") "10:00", .snapshot false true,
    .replace false, .insert false]

theorem promotion_read : ∃ t, exec (step portal) (.start Bool []) promotion = some t ∧
    ∃ found, getConfigDiff portal 120 none (some adminToken) t.docs = .ok (found, found.length) ∧
      (found.map Diff.key).Pairwise (· < ·) ∧
      ∀ diff, diff ∈ found ↔ diff = .of (fun env => lastOf env t.written) diff.key ∧
        ¬(str diff.dev = str diff.staging ∧ str diff.staging = str diff.prod) := by
  have run : ∃ t, exec (step portal) (.start Bool []) promotion = some t := ⟨_, rfl⟩
  obtain ⟨t, run⟩ := run
  have alone : Along (step portal) Alone (.start Bool []) promotion := by decide +kernel
  have distinct : (([] : List ConfigDoc).map ConfigDoc.env).Nodup := List.nodup_nil
  have authorized : authorize portal portalRoles 120 none (some adminToken) =
      .ok ⟨"portal", "65f0", ["portal:admin"], "agentoe-portal"⟩ := rfl
  exact ⟨t, run, (config_read_last distinct run alone authorized).2⟩

end AgentOE.PortalConfig
