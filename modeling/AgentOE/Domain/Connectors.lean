import AgentOE.Collection
import AgentOE.Json
import AgentOE.Transition
import AgentOE.Agentic.ScenarioCompiler
import AgentOE.Domain.PortalAuth

/-! The connectors of all tenants in one collection, under the requests of one of
them. A request is one operation on the collection. -/
namespace AgentOE.Connectors
open Collection Json Transition
open Agentic (dictSet lookup_dictSet)
open PortalAuth (Refusal TenantContext tupleText)

variable {F : Type}

def matchesText (text : String) : Value F → Bool
  | .str value => value == text
  -- a filter on a string also matches a list that contains it
  | .arr items => items.any fun
    | .str value => value == text
    | _ => false
  | _ => false

def byField (key text : String) (doc : Dict F) : Bool := (doc.lookup key).any (matchesText text)

/-- The connector is the tenant's, as `assert_tenant_ownership` reads `tenant_id`. -/
def owned (tenantId : String) (doc : Dict F) : Bool := match doc.lookup "tenant_id" with
  | some (.str owner) => owner == tenantId
  | _ => false

/-- MongoDB. `set` is `$set` on a document, without a result where the server refuses it. -/
structure Database (F : Type) where
  sameId : Value F → Value F → Bool
  insertable : Dict F → Bool
  settable : Dict F → Bool
  set : Dict F → Dict F → Option (Dict F)
  /-- By `created_at`, descending. -/
  newestFirst : Dict F → Dict F → Bool
  /-- A path below `tenant_id` cannot be set while that is a string. -/
  set_tenant : ∀ {doc update doc' owner}, doc.lookup "tenant_id" = some (.str owner) →
    set doc update = some doc' →
    doc'.lookup "tenant_id" = (update.lookup "tenant_id").or (some (.str owner))

/-- A request with what the server draws for it: an `ObjectId`, the digits of a UUID, a
clock reading. -/
inductive Request (F : Type) where
  | list
  | create (payload : Dict F) (objectId : Value F) (hex : String) (now : Value F)
  | get (connectorId : String)
  | update (connectorId : String) (payload : Dict F) (now : Value F)
  | delete (connectorId : String)
  | test (connectorId : String)

inductive Response (F : Type) where
  | items (items : List (Dict F)) (total : Nat)
  | created (doc : Dict F)
  | ok (doc : Dict F)
  | noContent
  | registered (connectorId : String) (type enabled : Value F) (note : String)
  | refused (refusal : Refusal)
  /-- Nothing handles an error of the database. -/
  | serverError

def notFound (connectorId : String) : Response F :=
  .refused (.http 404 ("Connector '" ++ connectorId ++ "' not found"))

def requiredRoles : List String := ["admin", "super_admin"]

def allowed (tenant : TenantContext) : Bool := requiredRoles.any tenant.roles.contains

def setDefault (key : String) (value : Value F) (entries : Dict F) : Dict F :=
  if (entries.lookup key).isSome then entries else dictSet key value entries

def withoutId (doc : Dict F) : Dict F := doc.filter (·.1 ≠ "_id")

/-- What `create_connector` and `create` make of a payload, and `insert_one` adds. -/
def newConnector (tenantId : String) (payload : Dict F) (objectId : Value F) (hex : String)
    (now : Value F) : Dict F :=
  let payload := dictSet "tenant_id" (.str tenantId) payload
  let data :=
    setDefault "connector_id" (.str ("conn_" ++ String.ofList (hex.toList.take 12))) payload
  let data := dictSet "created_at" now data
  let data := setDefault "enabled" (.bool true) data
  let data := setDefault "whitelist" (.arr []) data
  setDefault "_id" objectId data

def idOf (doc : Dict F) : Value F := (doc.lookup "_id").getD .null

variable (db : Database F)

def insert (doc : Dict F) (docs : List (Dict F)) : Response F × List (Dict F) :=
  if docs.any (fun other => db.sameId (idOf other) (idOf doc)) || !db.insertable doc then
    (.serverError, docs)
  else (.created (withoutId doc), insertOne doc docs)

def getById (connectorId : String) (docs : List (Dict F)) : Option (Dict F) :=
  findOne (byField "connector_id" connectorId) docs

def update (connectorId : String) (update : Dict F) (docs : List (Dict F)) :
    Response F × List (Dict F) :=
  if db.settable update then
    match getById connectorId docs with
    | none => (notFound connectorId, docs)
    | some doc => match db.set doc update with
      | none => (.serverError, docs)
      | some changed => (.ok (withoutId changed),
        updateOne (byField "connector_id" connectorId)
          (fun doc => (db.set doc update).getD doc) docs)
  else (.serverError, docs)

def guarded (tenant : TenantContext) (docs : List (Dict F))
    (serve : Response F × List (Dict F)) : Response F × List (Dict F) :=
  if allowed tenant then serve
  else (.refused (.authorization ("Required roles: " ++ tupleText requiredRoles)), docs)

def serve (tenant : TenantContext) (docs : List (Dict F)) : Request F → Response F × List (Dict F)
  | .list =>
    let items := (((docs.filter (byField "tenant_id" tenant.tenantId)).mergeSort db.newestFirst).map
      withoutId).take 200
    (.items items items.length, docs)
  | .create payload objectId hex now =>
    guarded tenant docs (insert db (newConnector tenant.tenantId payload objectId hex now) docs)
  | .get connectorId => match getById connectorId docs with
    | none => (notFound connectorId, docs)
    | some doc => (.ok (withoutId doc), docs)
  | .update connectorId payload now =>
    guarded tenant docs (update db connectorId (dictSet "updated_at" now payload) docs)
  | .delete connectorId => guarded tenant docs (match getById connectorId docs with
    | none => (notFound connectorId, docs)
    | some _ => (.noContent, deleteOne (byField "connector_id" connectorId) docs))
  | .test connectorId => match getById connectorId docs with
    | none => (notFound connectorId, docs)
    | some doc => (.registered connectorId ((doc.lookup "type").getD .null)
        ((doc.lookup "enabled").getD .null)
        "Full connectivity test requires runtime connector initialization", docs)

/-- The responses to a sequence of requests, and the collection after it. -/
def serveAll : List (Dict F) → List (TenantContext × Request F) → List (Response F) × List (Dict F)
  | docs, [] => ([], docs)
  | docs, (tenant, request) :: requests =>
    let (response, docs) := serve db tenant docs request
    let (responses, docs) := serveAll docs requests
    (response :: responses, docs)

def step (docs : List (Dict F)) (request : TenantContext × Request F) : Option (List (Dict F)) :=
  some (serve db request.1 docs request.2).2

def foreign (tenantId : String) (doc : Dict F) : Bool := !owned tenantId doc

/-- What the request reaches is the tenant's and stays so: a new connector takes the
`_id` of no other tenant's. -/
def Confined (docs : List (Dict F)) : TenantContext × Request F → Prop
  | (tenant, .list) => ∀ doc ∈ docs, byField "tenant_id" tenant.tenantId doc = true →
    owned tenant.tenantId doc = true
  | (tenant, .create payload objectId hex now) => allowed tenant = true →
    ∀ doc ∈ docs, foreign tenant.tenantId doc = true →
      db.sameId (idOf doc) (idOf (newConnector tenant.tenantId payload objectId hex now)) = false
  | (tenant, .get connectorId) | (tenant, .test connectorId) => ∀ doc,
    getById connectorId docs = some doc → owned tenant.tenantId doc = true
  | (tenant, .update connectorId payload _) => allowed tenant = true → ∀ doc,
    getById connectorId docs = some doc → owned tenant.tenantId doc = true ∧
      ∀ value ∈ payload.lookup "tenant_id", value = .str tenant.tenantId
  | (tenant, .delete connectorId) => allowed tenant = true → ∀ doc,
    getById connectorId docs = some doc → owned tenant.tenantId doc = true

section Isolation
variable {db} {tenantId : String} {docs : List (Dict F)} {tenant : TenantContext}

theorem owned_iff {doc : Dict F} :
    owned tenantId doc = true ↔ doc.lookup "tenant_id" = some (.str tenantId) := by
  unfold owned
  split
  next owner read => simp [read]
  next unread =>
    refine iff_of_false nofun fun read => unread tenantId read

theorem lookup_setDefault {name key : String} (other : name ≠ key) (value : Value F)
    (entries : Dict F) : (setDefault key value entries).lookup name = entries.lookup name := by
  unfold setDefault
  split
  · rfl
  · rw [lookup_dictSet, beq_false_of_ne other]
    rfl

theorem newConnector_owned (payload : Dict F) (objectId : Value F) (hex : String) (now : Value F) :
    owned tenantId (newConnector tenantId payload objectId hex now) = true := by
  rw [owned_iff, newConnector, lookup_setDefault (by decide), lookup_setDefault (by decide),
    lookup_setDefault (by decide), lookup_dictSet, if_neg (by decide),
    lookup_setDefault (by decide), lookup_dictSet, if_pos (by decide)]

theorem owned_matches {doc : Dict F} (own : owned tenantId doc = true) :
    byField "tenant_id" tenantId doc = true := by
  rw [byField, owned_iff.mp own]
  exact beq_self_eq_true tenantId

/-- An update that names no other tenant leaves the connector with its own. -/
theorem set_owned {doc changed payload : Dict F} {now : Value F} (own : owned tenantId doc = true)
    (kept : ∀ value ∈ payload.lookup "tenant_id", value = .str tenantId)
    (set : db.set doc (dictSet "updated_at" now payload) = some changed) :
    owned tenantId changed = true := by
  rw [owned_iff, db.set_tenant (owned_iff.mp own) set, lookup_dictSet, if_neg (by decide)]
  cases named : payload.lookup "tenant_id" with
  | none => rfl
  | some value => rw [kept value named, Option.some_or]

/-- What a confined request answers and leaves behind depends on the tenant's connectors. -/
structure Isolated (tenantId : String) (docs : List (Dict F))
    (serve : List (Dict F) → Response F × List (Dict F)) : Prop where
  answer : (serve docs).1 = (serve (docs.filter (owned tenantId))).1
  own : (serve docs).2.filter (owned tenantId) = (serve (docs.filter (owned tenantId))).2
  others : (serve docs).2.filter (foreign tenantId) = docs.filter (foreign tenantId)

theorem Isolated.reads {answer : List (Dict F) → Response F}
    (same : answer docs = answer (docs.filter (owned tenantId))) :
    Isolated tenantId docs fun docs => (answer docs, docs) := ⟨same, rfl, rfl⟩

theorem Isolated.guarded {serve : List (Dict F) → Response F × List (Dict F)}
    (isolated : allowed tenant = true → Isolated tenantId docs serve) :
    Isolated tenantId docs fun docs => guarded tenant docs (serve docs) := by
  by_cases permitted : allowed tenant = true
  · simpa only [Connectors.guarded, permitted, if_true] using isolated permitted
  · simpa only [Connectors.guarded, permitted, if_false, Bool.false_eq_true]
      using Isolated.reads rfl

theorem insert_isolated {doc : Dict F} (own : owned tenantId doc = true)
    (apart : ∀ other ∈ docs, foreign tenantId other = true →
      db.sameId (idOf other) (idOf doc) = false) :
    Isolated tenantId docs (insert db doc) := by
  have clashes : (docs.filter (owned tenantId)).any
      (fun other => db.sameId (idOf other) (idOf doc)) =
      docs.any fun other => db.sameId (idOf other) (idOf doc) := by
    rw [List.any_filter, Bool.eq_iff_iff, List.any_eq_true, List.any_eq_true]
    refine exists_congr fun other => and_congr_right fun mem => ?_
    cases owner : owned tenantId other with
    | true => rw [Bool.true_and]
    | false => rw [Bool.false_and, apart other mem (by rw [foreign, owner]; rfl)]
  by_cases refused :
    (docs.any (fun other => db.sameId (idOf other) (idOf doc)) || !db.insertable doc) = true
  · constructor <;> simp only [insert, clashes, refused, if_true]
  · constructor
    · simp only [insert, clashes, refused, Bool.false_eq_true, if_false]
    · simp only [insert, clashes, refused, Bool.false_eq_true, if_false, insertOne,
        List.filter_append]
      rw [List.filter_singleton, own]
      rfl
    · simp only [insert, refused, Bool.false_eq_true, if_false, insertOne, List.filter_append]
      rw [List.filter_singleton, foreign, own]
      exact List.append_nil _

theorem getById_filter {connectorId : String}
    (mine : ∀ doc, getById connectorId docs = some doc → owned tenantId doc = true) :
    getById connectorId
      (docs.filter (owned tenantId)) = getById connectorId docs := findOne_filter mine

theorem update_isolated {connectorId : String} {payload : Dict F} {now : Value F}
    (mine : ∀ doc, getById connectorId docs = some doc → owned tenantId doc = true ∧
      ∀ value ∈ payload.lookup "tenant_id", value = .str tenantId) :
    Isolated tenantId docs (update db connectorId (dictSet "updated_at" now payload)) := by
  have same := getById_filter fun doc found => (mine doc found).1
  by_cases parsed : db.settable (dictSet "updated_at" now payload) = true
  · cases found : getById connectorId docs with
    | none =>
      rw [found] at same
      constructor <;> simp only [update, parsed, if_true, found, same]
    | some doc =>
      rw [found] at same
      obtain ⟨own, kept⟩ := mine doc found
      cases set : db.set doc (dictSet "updated_at" now payload) with
      | none => constructor <;> simp only [update, parsed, if_true, found, same, set]
      | some changed =>
        have split := filter_updateOne (q := owned tenantId)
            (f := fun doc => (db.set doc (dictSet "updated_at" now payload)).getD doc)
            (p := byField "connector_id" connectorId)
            fun first (isFirst : getById connectorId docs = some first) => by
              cases Option.some.inj (found.symm.trans isFirst)
              rw [set]
              exact ⟨own, set_owned own kept set⟩
        constructor
        · simp only [update, parsed, if_true, found, same, set]
        · simp only [update, parsed, if_true, found, same, set]
          exact split.1
        · simp only [update, parsed, if_true, found, set]
          exact split.2
  · constructor <;> simp only [update, parsed, Bool.false_eq_true, if_false]

theorem serve_isolated {request : Request F} (confined : Confined db docs (tenant, request)) :
    Isolated tenant.tenantId docs (serve db tenant · request) := by
  cases request with
  | list =>
    apply Isolated.reads
    have listed : (docs.filter (owned tenant.tenantId)).filter
        (byField "tenant_id" tenant.tenantId) =
        docs.filter (byField "tenant_id" tenant.tenantId) := by
      rw [List.filter_filter]
      apply List.filter_congr
      intro doc mem
      cases own : owned tenant.tenantId doc with
      | true => rw [owned_matches own]; rfl
      | false =>
        cases matched : byField "tenant_id" tenant.tenantId doc with
        | true => exact absurd (confined doc mem matched) (by rw [own]; nofun)
        | false => rfl
    simp only [listed]
  | create payload objectId hex now =>
    exact .guarded fun permitted => insert_isolated (newConnector_owned ..) (confined permitted)
  | get connectorId | test connectorId =>
    have same := getById_filter confined
    cases found : getById connectorId docs <;> rw [found] at same <;> constructor <;>
      simp only [serve, found, same]
  | update connectorId payload now =>
    exact .guarded fun permitted => update_isolated (confined permitted)
  | delete connectorId =>
    refine .guarded fun permitted => ?_
    have same := getById_filter (confined permitted)
    obtain ⟨own, others⟩ := filter_deleteOne_inside (confined permitted)
    cases found : getById connectorId docs with
    | none =>
      rw [found] at same
      constructor <;> simp only [found, same]
    | some doc =>
      rw [found] at same
      constructor
      · simp only [found, same]
      · simp only [found, same]
        exact own
      · simp only [found]
        exact others

/-- The responses are those that the tenant's own connectors alone would give. -/
theorem serveAll_isolated {requests : List (TenantContext × Request F)}
    (callers : ∀ request ∈ requests, request.1.tenantId = tenantId)
    (confined : Along (step db) (Confined db) docs requests) :
    (serveAll db docs requests).1 = (serveAll db (docs.filter (owned tenantId)) requests).1 ∧
      (serveAll db docs requests).2.filter (foreign tenantId) = docs.filter (foreign tenantId) := by
  induction requests generalizing docs with
  | nil => exact ⟨rfl, rfl⟩
  | cons request requests ih =>
    obtain ⟨caller, callers⟩ := List.forall_mem_cons.mp callers
    obtain ⟨answer, own, others⟩ := serve_isolated confined.1
    obtain ⟨answers, later⟩ := ih callers (confined.2 _ rfl)
    rw [caller] at answer own others
    constructor
    · simp only [serveAll]
      rw [answer, answers, own]
    · exact later.trans others

/-- What a tenant's requests answer does not depend on the connectors of others, and
these stay as they are. -/
theorem connectors_isolated {requests : List (TenantContext × Request F)}
    (callers : ∀ request ∈ requests, request.1.tenantId = tenantId)
    (confined : Along (step db) (Confined db) docs requests) :
    (∀ docs', docs'.filter (owned tenantId) = docs.filter (owned tenantId) →
      Along (step db) (Confined db) docs' requests →
      (serveAll db docs' requests).1 = (serveAll db docs requests).1) ∧
    (serveAll db docs requests).1 = (serveAll db (docs.filter (owned tenantId)) requests).1 ∧
    (serveAll db docs requests).2.filter (foreign tenantId) = docs.filter (foreign tenantId) := by
  obtain ⟨answers, others⟩ := serveAll_isolated callers confined
  refine ⟨fun docs' same confined' => ?_, answers, others⟩
  rw [(serveAll_isolated callers confined').1, same, answers]

end Isolation

/-- Keys without dots, no change of `_id`. -/
def plainSet (doc update : Dict F) : Dict F :=
  update.foldr (fun entry => dictSet entry.1 entry.2) doc

theorem lookup_plainSet (doc update : Dict F) (key : String) :
    (plainSet doc update).lookup key = (update.lookup key).or (doc.lookup key) := by
  induction update with
  | nil => rfl
  | cons entry update ih =>
    rw [plainSet, List.foldr_cons, lookup_dictSet, List.lookup_cons]
    cases key == entry.1 with
    | true => rfl
    | false => exact ih

def texts : Value F → Value F → Bool
  | .str value, other => matchesText value other
  | _, _ => false

def plainDatabase : Database Unit where
  sameId := texts
  insertable := fun _ => true
  settable := fun _ => true
  set := fun doc update => some (plainSet doc update)
  newestFirst := fun _ _ => true
  set_tenant := by
    intro doc update doc' owner read set
    rw [← Option.some.inj set, lookup_plainSet, read]

def crm : Dict Unit :=
  [("_id", .str "1"), ("connector_id", .str "crm"), ("tenant_id", .str "acme"),
    ("type", .str "crm")]

def globex : TenantContext := ⟨"globex", "svc", ["admin"], "agentoe-api"⟩

/-- An own connector is created, updated and deleted beside the other tenant's. -/
theorem own_connector_isolated :
    (serveAll plainDatabase [crm] [(globex, .create [("connector_id", .str "sms")] (.str "2") ""
      (.int 5)), (globex, .update "sms" [("enabled", .bool false)] (.int 6)), (globex, .list),
      (globex, .delete "sms")]).2.filter (foreign "globex") = [crm] := by
  refine (connectors_isolated (by simp [globex]) ?_).2.2
  refine ⟨fun _ doc mem _ => ?_, ?_⟩
  · cases List.mem_singleton.mp mem
    rfl
  rintro _ ⟨⟩
  refine ⟨fun _ doc found => ?_, ?_⟩
  · cases found
    exact ⟨rfl, nofun⟩
  rintro _ ⟨⟩
  refine ⟨fun doc mem listed => ?_, ?_⟩
  · rcases List.mem_cons.mp mem with rfl | mem
    · cases listed
    · cases List.mem_singleton.mp mem
      rfl
  rintro _ ⟨⟩
  refine ⟨fun _ doc found => ?_, fun _ _ => trivial⟩
  cases found
  rfl

/-- The tenant reads another tenant's connector and takes it over. -/
theorem connectors_exposed :
    (serveAll plainDatabase [crm] [(globex, .get "crm")]).1 ≠
      (serveAll plainDatabase ([crm].filter (owned "globex")) [(globex, .get "crm")]).1 ∧
    [crm].filter (foreign "globex") = [crm] ∧
    (serveAll plainDatabase [crm]
      [(globex, .update "crm" [("tenant_id", .str "globex")] (.int 5))]).2.filter
        (foreign "globex") = [] := by
  refine ⟨?_, rfl, rfl⟩
  nofun

end AgentOE.Connectors
