import AgentOE.Json
import AgentOE.Agentic.NodeConfig
import AgentOE.Agentic.Branch
import AgentOE.Agentic.VersionStore

/-! Scenarios as documents: what `model_dump` writes with aliases, what the
repository adds to it, and what the schema accepts again. -/
namespace AgentOE.Agentic
open Json Collection VersionStore

structure NodeRecord (F : Type) where
  id : String
  label : Option String
  description : Option String
  config : NodeConfig F (Value F)

structure EdgeRecord where
  from_ : String
  to_ : String
  when_ : Option String
  label : Option String
  deriving DecidableEq

structure ScenarioLimits (F : Type) where
  maxTurns : Int
  maxDurationS : Int
  maxToolCallsPerTurn : Int
  maxCostCentsPerSession : F

structure ScenarioRecord (F : Type) where
  scenarioId : String
  tenantId : String
  version : Int
  name : String
  description : Option String
  entry : String
  fallbackNode : Option String
  nodes : List (NodeRecord F)
  edges : List EdgeRecord
  limits : ScenarioLimits F
  tags : List String
  createdBy : Option String
  createdAt : Option String
  published : Bool

/-- What the schema library decides: scalars, floats in tenths for the defaults,
and a node without a `type`, for which it picks the best member of the union. -/
structure Schema (F : Type) extends Scalars F where
  tenths : Nat → F
  nonneg : F → Bool
  untyped : Dict F → Option (NodeRecord F)

variable {F : Type}

def ScenarioRecord.fields (x : ScenarioRecord F) : ScenarioFields (NodeConfig F (Value F)) where
  entry := x.entry
  fallbackNode := x.fallbackNode
  nodes := x.nodes.map fun node => ⟨node.id, node.config.type, node.config⟩
  edges := x.edges.map fun edge => ⟨edge.from_, edge.to_, edge.when_⟩

/-! Writing. -/

def nodeTypes : List (String × NodeType) :=
  [("start", .start), ("intent", .intent), ("llm", .llm), ("tool", .tool), ("branch", .branch),
    ("transfer", .transfer), ("wait", .wait), ("context", .context), ("end", .end)]

def NodeType.name : NodeType → String
  | .start => "start"
  | .intent => "intent"
  | .llm => "llm"
  | .tool => "tool"
  | .branch => "branch"
  | .transfer => "transfer"
  | .wait => "wait"
  | .context => "context"
  | .end => "end"

def triggerTypes : List (String × TriggerType) :=
  [("inbound_call", .inboundCall), ("outbound_call", .outboundCall), ("scheduled", .scheduled)]

def TriggerType.name : TriggerType → String
  | .inboundCall => "inbound_call"
  | .outboundCall => "outbound_call"
  | .scheduled => "scheduled"

def branchModes : List (String × BranchMode) :=
  [("expr", .expr), ("intent", .intent), ("slot", .slot)]

def BranchMode.name : BranchMode → String
  | .expr => "expr"
  | .intent => "intent"
  | .slot => "slot"

def errorPolicies : List (String × OnError) :=
  [("fallback", .fallback), ("raise", .raise), ("continue", .continue)]

def OnError.name : OnError → String
  | .fallback => "fallback"
  | .raise => "raise"
  | .continue => "continue"

def dumpConfig : NodeConfig F (Value F) → Dict F
  | .start config =>
    [("trigger_type", .str config.triggerType.name),
      ("greeting_message", nullable .str config.greetingMessage)]
  | .intent config =>
    [("labels", .arr (config.labels.map .str)), ("model", .str config.model),
      ("prompt_template", nullable .str config.promptTemplate),
      ("threshold", .float config.threshold)]
  | .llm config =>
    [("model", .str config.model), ("fallback_model", .str config.fallbackModel),
      ("system_prompt", .str config.systemPrompt),
      ("prompt_template", nullable .str config.promptTemplate),
      ("temperature", .float config.temperature), ("max_tokens", .int config.maxTokens),
      ("streaming", .bool config.streaming), ("enable_filler", .bool config.enableFiller)]
  | .tool config =>
    [("tool_name", .str config.toolName),
      ("args_template", .obj (config.argsTemplate.map fun entry => (entry.1, .str entry.2))),
      ("timeout_s", .float config.timeoutS), ("retry", .int config.retry),
      ("on_error", .str config.onError.name)]
  | .branch config =>
    [("mode", .str config.mode.name), ("slot_key", nullable .str config.slotKey)]
  | .transfer config =>
    [("queue", .str config.queue), ("reason", .str config.reason),
      ("include_summary", .bool config.includeSummary)]
  | .wait config =>
    [("timeout_s", .float config.timeoutS),
      ("prompt_on_timeout", nullable .str config.promptOnTimeout)]
  | .context config =>
    [("set_slots", .obj config.setSlots),
      ("clear_slots", .arr (config.clearSlots.map .str))]
  | .end config => [("closing_message", nullable .str config.closingMessage)]

def dumpNode (node : NodeRecord F) : Value F := .obj
  [("id", .str node.id), ("label", nullable .str node.label),
    ("description", nullable .str node.description), ("type", .str node.config.type.name),
    ("config", .obj (dumpConfig node.config))]

def dumpEdge (edge : EdgeRecord) : Value F := .obj
  [("from", .str edge.from_), ("to", .str edge.to_), ("when", nullable .str edge.when_),
    ("label", nullable .str edge.label)]

def dumpLimits (limits : ScenarioLimits F) : Value F := .obj
  [("max_turns", .int limits.maxTurns), ("max_duration_s", .int limits.maxDurationS),
    ("max_tool_calls_per_turn", .int limits.maxToolCallsPerTurn),
    ("max_cost_cents_per_session", .float limits.maxCostCentsPerSession)]

/-- `model_dump(by_alias=True)`. -/
def ScenarioRecord.dump (x : ScenarioRecord F) : Dict F :=
  [("scenario_id", .str x.scenarioId), ("tenant_id", .str x.tenantId), ("version", .int x.version),
    ("name", .str x.name), ("description", nullable .str x.description), ("entry", .str x.entry),
    ("fallback_node", nullable .str x.fallbackNode), ("nodes", .arr (x.nodes.map dumpNode)),
    ("edges", .arr (x.edges.map dumpEdge)), ("limits", dumpLimits x.limits),
    ("tags", .arr (x.tags.map .str)), ("created_by", nullable .str x.createdBy),
    ("created_at", nullable .str x.createdAt), ("published", .bool x.published)]

/-! Reading. Only the scenario itself forbids other keys. -/

variable (py : Schema F)

def optionalStr : Reader F (Option String) := optional py.str

def readConfig (type : NodeType) (config : Dict F) : Option (NodeConfig F (Value F)) :=
  match type with
  | .start => do
    let triggerType ← defaulted (literal triggerTypes) .inboundCall "trigger_type" config
    let greetingMessage ← defaulted (optionalStr py) none "greeting_message" config
    some (.start ⟨triggerType, greetingMessage⟩)
  | .intent => do
    let labels ← required (checked (2 ≤ ·.length) (list py.str)) "labels" config
    let model ← defaulted py.str "groq-llama-3.3-70b" "model" config
    let promptTemplate ← defaulted (optionalStr py) none "prompt_template" config
    let threshold ← defaulted py.float (py.tenths 5) "threshold" config
    some (.intent ⟨labels, model, promptTemplate, threshold⟩)
  | .llm => do
    let model ← defaulted py.str "groq-llama-4-scout" "model" config
    let fallbackModel ← defaulted py.str "groq-llama-3.3-70b" "fallback_model" config
    let systemPrompt ← required py.str "system_prompt" config
    let promptTemplate ← defaulted (optionalStr py) none "prompt_template" config
    let temperature ← defaulted py.float (py.tenths 7) "temperature" config
    let maxTokens ← defaulted py.int 512 "max_tokens" config
    let streaming ← defaulted py.bool true "streaming" config
    let enableFiller ← defaulted py.bool true "enable_filler" config
    some (.llm ⟨model, fallbackModel, systemPrompt, promptTemplate, temperature, maxTokens,
      streaming, enableFiller⟩)
  | .tool => do
    let toolName ← required py.str "tool_name" config
    let argsTemplate ← defaulted (dict py.str) [] "args_template" config
    let timeoutS ← defaulted py.float (py.tenths 50) "timeout_s" config
    let retry ← defaulted py.int 1 "retry" config
    let onError ← defaulted (literal errorPolicies) .fallback "on_error" config
    some (.tool ⟨toolName, argsTemplate, timeoutS, retry, onError⟩)
  | .branch => do
    let mode ← defaulted (literal branchModes) .intent "mode" config
    let slotKey ← defaulted (optionalStr py) none "slot_key" config
    some (.branch ⟨mode, slotKey⟩)
  | .transfer => do
    let queue ← defaulted py.str "default" "queue" config
    let reason ← defaulted py.str "user_request" "reason" config
    let includeSummary ← defaulted py.bool true "include_summary" config
    some (.transfer ⟨queue, reason, includeSummary⟩)
  | .wait => do
    let timeoutS ← defaulted py.float (py.tenths 150) "timeout_s" config
    let promptOnTimeout ← defaulted (optionalStr py)
      (some "죄송합니다, 말씀 못 들었습니다. 다시 말씀해 주세요.") "prompt_on_timeout" config
    some (.wait ⟨timeoutS, promptOnTimeout⟩)
  | .context => do
    let setSlots ← defaulted (dict some) [] "set_slots" config
    let clearSlots ← defaulted (list py.str) [] "clear_slots" config
    some (.context ⟨setSlots, clearSlots⟩)
  | .end => do
    let closingMessage ← defaulted (optionalStr py) none "closing_message" config
    some (.end ⟨closingMessage⟩)

/-- Start and end nodes have a default configuration. -/
def readNodeConfig (type : NodeType) (entries : Dict F) : Option (NodeConfig F (Value F)) :=
  match entries.lookup "config" with
  | some (.obj config) => readConfig py type config
  | some _ => none
  | none => if type = .start ∨ type = .end then readConfig py type [] else none

/-- The literal in `type` leaves one member of the union. -/
def readNode : Reader F (NodeRecord F)
  | .obj entries => match entries.lookup "type" with
    | none => py.untyped entries
    | some literalType => do
      let type ← literal nodeTypes literalType
      let id ← required (checked nodeIdPattern py.str) "id" entries
      let label ← defaulted (optionalStr py) none "label" entries
      let description ← defaulted (optionalStr py) none "description" entries
      let config ← readNodeConfig py type entries
      some ⟨id, label, description, config⟩
  | _ => none

def nonempty (text : String) : Bool := text ≠ ""

/-- The alias comes before the field's own name. -/
def readEdge : Reader F EdgeRecord
  | .obj entries => do
    let from_ ← (required (checked nonempty py.str) "from" entries).or
      (if (entries.lookup "from").isNone then required (checked nonempty py.str) "from_" entries
        else none)
    let to_ ← required (checked nonempty py.str) "to" entries
    let when_ ← defaulted (optionalStr py) none "when" entries
    let label ← defaulted (optionalStr py) none "label" entries
    some ⟨from_, to_, when_, label⟩
  | _ => none

def between (low high : Int) (value : Int) : Bool := low ≤ value ∧ value ≤ high

def defaultLimits : ScenarioLimits F := ⟨30, 900, 3, py.tenths 500⟩

def readLimits : Reader F (ScenarioLimits F)
  | .obj entries => do
    let maxTurns ← defaulted (checked (between 1 200) py.int) 30 "max_turns" entries
    let maxDurationS ← defaulted (checked (between 10 3600) py.int) 900 "max_duration_s" entries
    let maxToolCallsPerTurn ←
      defaulted (checked (between 0 10) py.int) 3 "max_tool_calls_per_turn" entries
    let maxCostCentsPerSession ← defaulted (checked py.nonneg py.float) (py.tenths 500)
      "max_cost_cents_per_session" entries
    some ⟨maxTurns, maxDurationS, maxToolCallsPerTurn, maxCostCentsPerSession⟩
  | _ => none

def scenarioKeys : List String :=
  ["scenario_id", "tenant_id", "version", "name", "description", "entry", "fallback_node", "nodes",
    "edges", "limits", "tags", "created_by", "created_at", "published"]

/-- `^[a-z0-9_-]+$`, at most 64 characters. -/
def scenarioIdPattern (id : String) : Bool :=
  1 ≤ id.length && id.length ≤ 64 &&
    id.toList.all fun c => c.isLower || c.isDigit || c = '_' || c = '-'

def tenantIdLength (id : String) : Bool := 1 ≤ id.length && id.length ≤ 64

def readFields (document : Dict F) : Option (ScenarioRecord F) := do
  let scenarioId ← required (checked scenarioIdPattern py.str) "scenario_id" document
  let tenantId ← required (checked tenantIdLength py.str) "tenant_id" document
  let version ← defaulted (checked (1 ≤ ·) py.int) 1 "version" document
  let name ← required py.str "name" document
  let description ← defaulted (optionalStr py) none "description" document
  let entry ← required py.str "entry" document
  let fallbackNode ← defaulted (optionalStr py) none "fallback_node" document
  let nodes ← required (list (readNode py)) "nodes" document
  let edges ← required (list (readEdge py)) "edges" document
  let limits ← defaulted (readLimits py) (defaultLimits py) "limits" document
  let tags ← defaulted (list py.str) [] "tags" document
  let createdBy ← defaulted (optionalStr py) none "created_by" document
  let createdAt ← defaulted (optionalStr py) none "created_at" document
  let published ← defaulted py.bool false "published" document
  some ⟨scenarioId, tenantId, version, name, description, entry, fallbackNode, nodes, edges, limits,
    tags, createdBy, createdAt, published⟩

/-- `Scenario(**document)`, with `none` for a validation error. -/
def validate (document : Dict F) : Option (ScenarioRecord F) :=
  if ∀ entry ∈ document, entry.1 ∈ scenarioKeys then
    (readFields py document).filter fun x => (validateGraph x.fields).isOk
  else none

/-- What the fields' constraints and the graph check ask for. -/
structure Valid (x : ScenarioRecord F) : Prop where
  scenarioId : scenarioIdPattern x.scenarioId = true
  tenantId : tenantIdLength x.tenantId = true
  version : 1 ≤ x.version
  nodeIds : ∀ node ∈ x.nodes, nodeIdPattern node.id = true
  labels : ∀ node ∈ x.nodes, ∀ config, node.config = .intent config → 2 ≤ config.labels.length
  edgeEnds : ∀ edge ∈ x.edges, nonempty edge.from_ = true ∧ nonempty edge.to_ = true
  maxTurns : between 1 200 x.limits.maxTurns = true
  maxDurationS : between 10 3600 x.limits.maxDurationS = true
  maxToolCallsPerTurn : between 0 10 x.limits.maxToolCallsPerTurn = true
  maxCostCentsPerSession : py.nonneg x.limits.maxCostCentsPerSession = true
  graph : (validateGraph x.fields).isOk = true

structure ValidScenario extends ScenarioRecord F where
  valid : Valid py toScenarioRecord

variable {py}

/-! What is accepted is well formed. -/

/-- What the schema asks of a node. -/
def NodeRecord.Sound (node : NodeRecord F) : Prop :=
  nodeIdPattern node.id = true ∧
    ∀ config, node.config = .intent config → 2 ≤ config.labels.length

theorem readConfig_labels {entries : Dict F} {config : IntentNodeConfig F}
    (accepted : readConfig py type entries = some (.intent config)) : 2 ≤ config.labels.length := by
  cases type with
  | intent =>
    simp only [readConfig, Option.bind_eq_bind, Option.bind_eq_some_iff] at accepted
    obtain ⟨labels, enough, _, -, _, -, _, -, same⟩ := accepted
    cases same
    simpa using required_passes enough
  | _ =>
    simp [readConfig, Option.bind_eq_some_iff] at accepted

theorem readNodeConfig_labels {entries : Dict F} {config : IntentNodeConfig F}
    (accepted : readNodeConfig py type entries = some (.intent config)) :
    2 ≤ config.labels.length := by
  unfold readNodeConfig at accepted
  split at accepted
  · exact readConfig_labels accepted
  · cases accepted
  · split at accepted
    · exact readConfig_labels accepted
    · cases accepted

theorem readEdge_sound (value : Value F) (edge : EdgeRecord)
    (accepted : readEdge py value = some edge) :
    nonempty edge.from_ = true ∧ nonempty edge.to_ = true := by
  cases value with
  | obj entries =>
    simp only [readEdge, Option.bind_eq_bind, Option.bind_eq_some_iff] at accepted
    obtain ⟨from_, source, to_, target, _, -, _, -, same⟩ := accepted
    cases same
    refine ⟨?_, required_passes target⟩
    rcases Option.or_eq_some_iff.mp source with alias_ | ⟨-, named⟩
    · exact required_passes alias_
    · split at named
      · exact required_passes named
      · cases named
  | _ => cases accepted

structure ScenarioLimits.Sound (py : Schema F) (limits : ScenarioLimits F) : Prop where
  maxTurns : between 1 200 limits.maxTurns = true
  maxDurationS : between 10 3600 limits.maxDurationS = true
  maxToolCallsPerTurn : between 0 10 limits.maxToolCallsPerTurn = true
  maxCostCentsPerSession : py.nonneg limits.maxCostCentsPerSession = true

/-- Every default of the limits passes its own check. -/
theorem defaultLimits_sound (positive : py.nonneg (py.tenths 500) = true) :
    (defaultLimits py).Sound py := ⟨rfl, rfl, rfl, positive⟩

theorem readLimits_sound (positive : py.nonneg (py.tenths 500) = true) {value : Value F}
    {limits : ScenarioLimits F} (accepted : readLimits py value = some limits) :
    limits.Sound py := by
  have default := defaultLimits_sound positive
  cases value with
  | obj entries =>
    simp only [readLimits, Option.bind_eq_bind, Option.bind_eq_some_iff] at accepted
    obtain ⟨_, turns, _, duration, _, calls, _, cost, same⟩ := accepted
    cases same
    exact ⟨defaulted_passes default.maxTurns turns, defaulted_passes default.maxDurationS duration,
      defaulted_passes default.maxToolCallsPerTurn calls, defaulted_passes positive cost⟩
  | _ => cases accepted

theorem readNode_sound (typed : ∀ entries node, py.untyped entries = some node → node.Sound)
    (value : Value F) (node : NodeRecord F)
    (accepted : readNode py value = some node) : node.Sound := by
  cases value with
  | obj entries =>
    simp only [readNode] at accepted
    split at accepted
    · exact typed entries node accepted
    · simp only [Option.bind_eq_bind, Option.bind_eq_some_iff] at accepted
      obtain ⟨type, -, id, identifier, _, -, _, -, config, read, same⟩ := accepted
      cases same
      refine ⟨required_passes identifier, ?_⟩
      rintro intent rfl
      exact readNodeConfig_labels read
  | _ => cases accepted

/-- A document is accepted only as a valid scenario. -/
theorem validate_valid (positive : py.nonneg (py.tenths 500) = true)
    (typed : ∀ entries node, py.untyped entries = some node → node.Sound)
    {x : ScenarioRecord F} (accepted : validate py answer = some x) : Valid py x := by
  unfold validate at accepted
  split at accepted
  · obtain ⟨fields, graph⟩ := Option.filter_eq_some_iff.mp accepted
    obtain ⟨_, scenarioId, fields⟩ := Option.bind_eq_some_iff.mp fields
    obtain ⟨_, tenantId, fields⟩ := Option.bind_eq_some_iff.mp fields
    obtain ⟨_, version, fields⟩ := Option.bind_eq_some_iff.mp fields
    obtain ⟨_, -, fields⟩ := Option.bind_eq_some_iff.mp fields
    obtain ⟨_, -, fields⟩ := Option.bind_eq_some_iff.mp fields
    obtain ⟨_, -, fields⟩ := Option.bind_eq_some_iff.mp fields
    obtain ⟨_, -, fields⟩ := Option.bind_eq_some_iff.mp fields
    obtain ⟨nodes, readNodes, fields⟩ := Option.bind_eq_some_iff.mp fields
    obtain ⟨edges, readEdges, fields⟩ := Option.bind_eq_some_iff.mp fields
    obtain ⟨limits, readLimits, fields⟩ := Option.bind_eq_some_iff.mp fields
    obtain ⟨_, -, fields⟩ := Option.bind_eq_some_iff.mp fields
    obtain ⟨_, -, fields⟩ := Option.bind_eq_some_iff.mp fields
    obtain ⟨_, -, fields⟩ := Option.bind_eq_some_iff.mp fields
    obtain ⟨_, -, fields⟩ := Option.bind_eq_some_iff.mp fields
    cases fields
    have sound : limits.Sound py := by
      unfold defaulted at readLimits
      cases found : answer.lookup "limits" with
      | none =>
        rw [found] at readLimits
        cases readLimits
        exact defaultLimits_sound positive
      | some value =>
        rw [found] at readLimits
        exact readLimits_sound positive readLimits
    exact
      { scenarioId := required_passes scenarioId
        tenantId := required_passes tenantId
        version := by simpa using defaulted_passes (by decide) version
        nodeIds := fun node mem => (list_forall (readNode_sound typed) readNodes node mem).1
        labels := fun node mem => (list_forall (readNode_sound typed) readNodes node mem).2
        edgeEnds := list_forall readEdge_sound readEdges
        maxTurns := sound.maxTurns
        maxDurationS := sound.maxDurationS
        maxToolCallsPerTurn := sound.maxToolCallsPerTurn
        maxCostCentsPerSession := sound.maxCostCentsPerSession
        graph := graph }
  · cases accepted

/-- A valid record is an accepted scenario of the graph model. -/
def ValidScenario.scenario (x : ValidScenario py) : Scenario (NodeConfig F (Value F)) where
  toScenarioFields := x.fields
  nodeIds := by
    intro node mem
    obtain ⟨record, inside, rfl⟩ := List.mem_map.mp mem
    exact x.valid.nodeIds record inside
  edgeEnds := by
    intro edge mem
    obtain ⟨record, inside, rfl⟩ := List.mem_map.mp mem
    simpa [nonempty] using x.valid.edgeEnds record inside
  graph := by
    have accepted := x.valid.graph
    cases checked : validateGraph x.fields with
    | ok _ => rfl
    | error message =>
      rw [checked] at accepted
      cases accepted

theorem validate_scenario (positive : py.nonneg (py.tenths 500) = true)
    (typed : ∀ entries node, py.untyped entries = some node → node.Sound)
    {x : ScenarioRecord F} (accepted : validate py answer = some x) :
    ∃ s : Scenario (NodeConfig F (Value F)), s.toScenarioFields = x.fields :=
  ⟨ValidScenario.scenario ⟨x, validate_valid positive typed accepted⟩, rfl⟩

/-! The repository's documents: the dumped scenario with four keys set. -/

def ScenarioRecord.draft (x : ScenarioRecord F) : Draft (Dict F) :=
  ⟨x.tenantId, x.scenarioId, x.createdAt, x.dump⟩

def document (doc : Stored (Dict F)) : Dict F :=
  dictSet "updated_at" (.str doc.updatedAt) (dictSet "created_at" (.str doc.createdAt)
    (dictSet "published" (.bool doc.published) (dictSet "version" (.int doc.version) doc.content)))

def getVersion (tenantId scenarioId : String) (version : Int) (docs : List (Stored (Dict F))) :
    Option (Dict F) :=
  (findOne (ofVersion tenantId scenarioId version) docs).map document

/-- The first document of the highest version. -/
def getLatest (tenantId scenarioId : String) (docs : List (Stored (Dict F))) : Option (Dict F) :=
  (((docs.filter (ofScenario tenantId scenarioId)).map Stored.version).max?).bind fun version =>
    getVersion tenantId scenarioId version docs

def getPublished (tenantId scenarioId : String) (docs : List (Stored (Dict F))) : Option (Dict F) :=
  (findOne (isPublished tenantId scenarioId) docs).map document

/-- The document validates, and only version, publication and times differ. -/
def RoundTrips (py : Schema F) (x : ScenarioRecord F) (answer : Dict F) : Prop :=
  ∃ y, validate py answer = some y ∧
    { y with version := x.version, published := x.published, createdAt := x.createdAt } = x

theorem dictSet_dictSet {entries : List (String × β)} :
    dictSet key value (dictSet key other entries) = dictSet key value entries := by
  induction entries with
  | nil => simp [dictSet]
  | cons entry entries ih =>
    by_cases same : entry.1 = key
    · simp [dictSet, same]
    · simp [dictSet, same, ih]

theorem dictSet_comm {entries : List (String × β)} (present : key ∈ entries.map Prod.fst)
    (different : key ≠ name) :
    dictSet key value (dictSet name other entries) =
      dictSet name other (dictSet key value entries) := by
  induction entries with
  | nil => cases present
  | cons entry entries ih =>
    by_cases same : entry.1 = key
    · have apart : entry.1 ≠ name := fun also => different (same.symm.trans also)
      simp [dictSet, same, different]
    · have inside : key ∈ entries.map Prod.fst := by
        simpa [Ne.symm same] using present
      by_cases also : entry.1 = name
      · simp [dictSet, also, Ne.symm different]
      · simp [dictSet, same, also, ih inside]

theorem dictSet_published (doc : Stored (Dict F)) (published : Bool) :
    dictSet "published" (.bool published) (document doc) =
      document { doc with published := published } := by
  have first : "published" ∈ (dictSet "published" (.bool doc.published)
      (dictSet "version" (.int doc.version) doc.content)).map Prod.fst :=
    mem_keys_dictSet.mpr (.inl rfl)
  have second : "published" ∈ (dictSet "created_at" (.str doc.createdAt)
      (dictSet "published" (.bool doc.published)
        (dictSet "version" (.int doc.version) doc.content))).map Prod.fst :=
    mem_keys_dictSet.mpr (.inr first)
  rw [document, dictSet_comm second (by decide), dictSet_comm first (by decide), dictSet_dictSet]
  rfl

/-- The updates of `publish` set keys of the documents themselves. -/
theorem document_unpublish (doc : Stored (Dict F)) :
    document (unpublish doc) = dictSet "published" (.bool false) (document doc) :=
  (dictSet_published doc false).symm

theorem document_publishAt (doc : Stored (Dict F)) (now : String) :
    document (publishAt now doc) =
      dictSet "updated_at" (.str now) (dictSet "published" (.bool true) (document doc)) := by
  rw [dictSet_published, document, document, dictSet_dictSet]
  rfl

theorem updated_at_mem (doc : Stored (Dict F)) : "updated_at" ∈ (document doc).map Prod.fst := by
  rw [document, mem_keys_dictSet]
  exact .inl rfl

/-- The schema has no field for the time of the last update. -/
theorem validate_document (doc : Stored (Dict F)) : validate py (document doc) = none := by
  obtain ⟨entry, mem, key⟩ := List.mem_map.mp (updated_at_mem doc)
  refine if_neg fun allowed => ?_
  have known : "updated_at" ∈ scenarioKeys := key ▸ allowed entry mem
  revert known
  decide

theorem getVersion_document {docs : List (Stored (Dict F))}
    (found : getVersion tenantId scenarioId version docs = some answer) :
    ∃ doc ∈ docs, answer = document doc := by
  obtain ⟨doc, stored, rfl⟩ := Option.map_eq_some_iff.mp found
  exact ⟨doc, findOne_mem stored, rfl⟩

theorem getLatest_document {docs : List (Stored (Dict F))}
    (found : getLatest tenantId scenarioId docs = some answer) :
    ∃ doc ∈ docs, answer = document doc := by
  obtain ⟨version, -, found⟩ := Option.bind_eq_some_iff.mp found
  exact getVersion_document found

theorem getPublished_document {docs : List (Stored (Dict F))}
    (found : getPublished tenantId scenarioId docs = some answer) :
    ∃ doc ∈ docs, answer = document doc := by
  obtain ⟨doc, stored, rfl⟩ := Option.map_eq_some_iff.mp found
  exact ⟨doc, findOne_mem stored, rfl⟩

theorem document_not_roundTrips (x : ScenarioRecord F) (doc : Stored (Dict F)) :
    ¬RoundTrips py x (document doc) := by
  rintro ⟨y, accepted, -⟩
  rw [validate_document] at accepted
  cases accepted

/-- No valid scenario comes back, neither from `save` nor from any later query. -/
theorem stored_never_round_trips (py : Schema F) (x : ValidScenario py) (now : String)
    (version : Int) :
    ¬RoundTrips py x.toScenarioRecord (document (x.draft.stored now version)) ∧
    ∀ (docs : List (Stored (Dict F))) (tenantId scenarioId : String) (wanted : Int)
      (answer : Dict F), getVersion tenantId scenarioId wanted docs = some answer ∨
        getLatest tenantId scenarioId docs = some answer ∨
        getPublished tenantId scenarioId docs = some answer →
      ¬RoundTrips py x.toScenarioRecord answer := by
  refine ⟨document_not_roundTrips _ _, ?_⟩
  intro docs tenantId scenarioId wanted answer found
  have stored : ∃ doc ∈ docs, answer = document doc := by
    rcases found with found | found | found
    · exact getVersion_document found
    · exact getLatest_document found
    · exact getPublished_document found
  obtain ⟨doc, -, rfl⟩ := stored
  exact document_not_roundTrips _ _

/-! Without that key the document would come back. -/

section Lawful
variable (lawful : py.toScalars.Lawful)
include lawful

theorem optionalStr_nullable (value : Option String) :
    optionalStr py (nullable .str value) = some value :=
  optional_nullable lawful.str (fun _ => by simp) value

theorem list_str (items : List String) : list py.str (.arr (items.map .str)) = some items :=
  list_arr fun item _ => lawful.str item

theorem readConfig_dump {config : NodeConfig F (Value F)}
    (labels : ∀ intent, config = .intent intent → 2 ≤ intent.labels.length) :
    readConfig py config.type (dumpConfig config) = some config := by
  have text := optionalStr_nullable lawful
  have texts := list_str lawful
  cases config with
  | start config =>
    have trigger : literal triggerTypes (.str config.triggerType.name : Value F) =
        some config.triggerType := by cases config.triggerType <;> rfl
    simp [readConfig, dumpConfig, NodeConfig.type, defaulted, List.lookup_cons, trigger, text]
  | intent config =>
    have enough : checked (2 ≤ ·.length) (list py.str) (.arr (config.labels.map .str)) =
        some config.labels := checked_some (texts config.labels) (by simpa using labels config rfl)
    simp [readConfig, dumpConfig, NodeConfig.type, required, defaulted, List.lookup_cons, enough,
      text, lawful.str, lawful.float]
  | llm config =>
    simp [readConfig, dumpConfig, NodeConfig.type, required, defaulted, List.lookup_cons, text,
      lawful.str, lawful.float, lawful.int, lawful.bool]
  | tool config =>
    have policy : literal errorPolicies (.str config.onError.name : Value F) =
        some config.onError := by cases config.onError <;> rfl
    have args : dict py.str (.obj (config.argsTemplate.map fun entry => (entry.1, .str entry.2))) =
        some config.argsTemplate := dict_obj lawful.str
    simp [readConfig, dumpConfig, NodeConfig.type, required, defaulted, List.lookup_cons, policy,
      args, lawful.str, lawful.float, lawful.int]
  | branch config =>
    have mode : literal branchModes (.str config.mode.name : Value F) = some config.mode := by
      cases config.mode <;> rfl
    simp [readConfig, dumpConfig, NodeConfig.type, defaulted, List.lookup_cons, mode, text]
  | transfer config =>
    simp [readConfig, dumpConfig, NodeConfig.type, defaulted, List.lookup_cons, lawful.str,
      lawful.bool]
  | wait config =>
    simp [readConfig, dumpConfig, NodeConfig.type, defaulted, List.lookup_cons, text, lawful.float]
  | context config =>
    have slots : dict some (.obj config.setSlots) = some config.setSlots := by
      simpa using @dict_obj F (Value F) some id config.setSlots fun _ => rfl
    simp [readConfig, dumpConfig, NodeConfig.type, defaulted, List.lookup_cons, slots, texts]
  | «end» config => simp [readConfig, dumpConfig, NodeConfig.type, defaulted, text]

theorem readNode_dump {node : NodeRecord F} (id : nodeIdPattern node.id = true)
    (labels : ∀ intent, node.config = .intent intent → 2 ≤ intent.labels.length) :
    readNode py (dumpNode node) = some node := by
  have text := optionalStr_nullable lawful
  have named : literal nodeTypes (.str node.config.type.name : Value F) =
      some node.config.type := by
    cases node.config.type <;> rfl
  have identifier : checked nodeIdPattern py.str (.str node.id) = some node.id :=
    checked_some (lawful.str node.id) id
  have config := readConfig_dump lawful labels
  simp [readNode, dumpNode, readNodeConfig, required, defaulted, List.lookup_cons, named,
    identifier, text, config]

theorem readEdge_dump {edge : EdgeRecord}
    (ends : nonempty edge.from_ = true ∧ nonempty edge.to_ = true) :
    readEdge py (dumpEdge edge) = some edge := by
  have text := optionalStr_nullable lawful
  have source : checked nonempty py.str (.str edge.from_) = some edge.from_ :=
    checked_some (lawful.str edge.from_) ends.1
  have target : checked nonempty py.str (.str edge.to_) = some edge.to_ :=
    checked_some (lawful.str edge.to_) ends.2
  simp [readEdge, dumpEdge, required, defaulted, List.lookup_cons, source, target, text]

theorem readLimits_dump {x : ScenarioRecord F} (valid : Valid py x) :
    readLimits py (dumpLimits x.limits) = some x.limits := by
  have turns : checked (between 1 200) py.int (.int x.limits.maxTurns) = some x.limits.maxTurns :=
    checked_some (lawful.int _) valid.maxTurns
  have duration : checked (between 10 3600) py.int (.int x.limits.maxDurationS) =
      some x.limits.maxDurationS := checked_some (lawful.int _) valid.maxDurationS
  have calls : checked (between 0 10) py.int (.int x.limits.maxToolCallsPerTurn) =
      some x.limits.maxToolCallsPerTurn := checked_some (lawful.int _) valid.maxToolCallsPerTurn
  have cost : checked py.nonneg py.float (.float x.limits.maxCostCentsPerSession) =
      some x.limits.maxCostCentsPerSession :=
    checked_some (lawful.float _) valid.maxCostCentsPerSession
  simp [readLimits, dumpLimits, defaulted, List.lookup_cons, turns, duration, calls, cost]

theorem readFields_dump {x : ScenarioRecord F} (valid : Valid py x) :
    readFields py x.dump = some x := by
  have text := optionalStr_nullable lawful
  have texts := list_str lawful
  have scenarioId : checked scenarioIdPattern py.str (.str x.scenarioId) = some x.scenarioId :=
    checked_some (lawful.str _) valid.scenarioId
  have tenantId : checked tenantIdLength py.str (.str x.tenantId) = some x.tenantId :=
    checked_some (lawful.str _) valid.tenantId
  have version : checked (1 ≤ ·) py.int (.int x.version) = some x.version :=
    checked_some (lawful.int _) (by simpa using valid.version)
  have nodes : list (readNode py) (.arr (x.nodes.map dumpNode)) = some x.nodes :=
    list_arr fun node mem => readNode_dump lawful (valid.nodeIds node mem) (valid.labels node mem)
  have edges : list (readEdge py) (.arr (x.edges.map dumpEdge)) = some x.edges :=
    list_arr fun edge mem => readEdge_dump lawful (valid.edgeEnds edge mem)
  have limits := readLimits_dump lawful valid
  simp [readFields, ScenarioRecord.dump, required, defaulted, List.lookup_cons, text, texts,
    scenarioId, tenantId, version, nodes, edges, limits, lawful.str, lawful.bool]

/-- A valid scenario is read back from its dump. -/
theorem validate_dump {x : ScenarioRecord F} (valid : Valid py x) :
    validate py x.dump = some x := by
  have allowed : ∀ entry ∈ x.dump, entry.1 ∈ scenarioKeys := by
    simp [ScenarioRecord.dump, scenarioKeys]
  rw [validate, if_pos allowed, readFields_dump lawful valid, Option.filter_some,
    if_pos valid.graph]

/-- `updated_at` alone keeps a saved scenario from being read back. -/
theorem validate_without_updated_at {x : ScenarioRecord F} (valid : Valid py x) (now : String)
    {version : Int} (positive : 1 ≤ version) :
    validate py ((document (x.draft.stored now version)).filter (·.1 ≠ "updated_at")) =
      some { x with version := version, published := false,
                    createdAt := some (x.draft.stored now version).createdAt } := by
  have same : (document (x.draft.stored now version)).filter (·.1 ≠ "updated_at") =
      ScenarioRecord.dump { x with version := version, published := false,
                                   createdAt := some (x.draft.stored now version).createdAt } := by
    simp [document, Draft.stored, ScenarioRecord.draft, ScenarioRecord.dump, dictSet, nullable]
  rw [same]
  exact validate_dump lawful { valid with version := positive }

end Lawful

/-- A schema without conversions. -/
def strictSchema : Schema Int where
  str
    | .str value => some value
    | _ => none
  int
    | .int value => some value
    | _ => none
  float
    | .float value => some value
    | _ => none
  bool
    | .bool value => some value
    | _ => none
  tenths n := n / 10
  nonneg value := 0 ≤ value
  untyped _ := none

def greeting : ValidScenario strictSchema where
  scenarioId := "s"
  tenantId := "t"
  version := 1
  name := "greeting"
  description := none
  entry := "a"
  fallbackNode := none
  nodes := [⟨"a", none, none, .start ⟨.inboundCall, none⟩⟩, ⟨"b", none, none, .end ⟨none⟩⟩]
  edges := [⟨"a", "b", none, none⟩]
  limits := ⟨30, 900, 3, 50⟩
  tags := []
  createdBy := none
  createdAt := none
  published := false
  valid :=
    { scenarioId := by decide +kernel
      tenantId := by decide +kernel
      version := by decide
      nodeIds := by
        intro node mem
        simp only [List.mem_cons, List.not_mem_nil, or_false] at mem
        rcases mem with rfl | rfl <;> decide +kernel
      labels := by
        intro node mem
        simp only [List.mem_cons, List.not_mem_nil, or_false] at mem
        rcases mem with rfl | rfl <;> simp
      edgeEnds := by decide +kernel
      maxTurns := by decide
      maxDurationS := by decide
      maxToolCallsPerTurn := by decide
      maxCostCentsPerSession := by decide
      graph := by decide +kernel }

/-- The dump of the smallest scenario is accepted, its document is not. -/
theorem greeting_not_read_back :
    (validate strictSchema greeting.dump).isSome = true ∧
      (validate strictSchema (document (greeting.draft.stored "now" 1))).isSome = false ∧
      ¬RoundTrips strictSchema greeting.toScenarioRecord
        (document (greeting.draft.stored "now" 1)) := by
  exact ⟨by decide +kernel, by decide +kernel, document_not_roundTrips _ _⟩

end AgentOE.Agentic
