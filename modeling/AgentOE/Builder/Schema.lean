import AgentOE.Agentic.ScenarioDocument
import Mathlib.Algebra.Ring.Int.Defs
import Mathlib.Algebra.Ring.Nat

/-! The schema of the scenario builder. Its values are those of JavaScript: a key may
be absent or null, and an integral number is an `int`. -/
namespace AgentOE.Builder
open Json Agentic

/-- Double precision. `integral` is the integer that a number is. -/
structure Numbers (F : Type) where
  tenths : Nat → F
  nonneg : F → Bool
  ofInt : Int → F
  integral : F → Option Int
  finite : F → Bool
  ofInt_integral : ∀ {f n}, integral f = some n → ofInt n = f
  finite_integral : ∀ {f n}, integral f = some n → finite f = true
  fifty : nonneg (tenths 500) = true

structure StartConfig where
  triggerType : TriggerType
  greetingMessage : Option (Option String)
  deriving DecidableEq

structure EndConfig where
  closingMessage : Option (Option String)
  deriving DecidableEq

/-- Of what may be absent, only the two messages may also be null. -/
inductive Config (F : Type) where
  | start (config : StartConfig)
  | intent (config : IntentNodeConfig F)
  | llm (config : LlmNodeConfig F)
  | tool (config : ToolNodeConfig F)
  | branch (config : BranchNodeConfig)
  | transfer (config : TransferNodeConfig)
  | wait (config : WaitNodeConfig F)
  | context (config : ContextUpdateNodeConfig (Value F))
  | «end» (config : EndConfig)

structure Node (F : Type) where
  id : String
  label : Option String
  description : Option String
  config : Config F

structure Edge where
  from_ : String
  to_ : String
  when_ : Option (Option String)
  label : Option (Option String)
  deriving DecidableEq

structure Scenario (F : Type) where
  scenarioId : String
  tenantId : String
  version : Int
  name : String
  description : Option String
  entry : String
  fallbackNode : Option (Option String)
  nodes : List (Node F)
  edges : List Edge
  limits : ScenarioLimits F
  tags : List String
  createdBy : Option (Option String)
  createdAt : Option (Option String)
  published : Bool

variable {F : Type}

def Config.type : Config F → NodeType
  | .start _ => .start
  | .intent _ => .intent
  | .llm _ => .llm
  | .tool _ => .tool
  | .branch _ => .branch
  | .transfer _ => .transfer
  | .wait _ => .wait
  | .context _ => .context
  | .end _ => .end

/-! Parsing. -/

variable (num : Numbers F)

def text : Reader F String
  | .str value => some value
  | _ => none

def flag : Reader F Bool
  | .bool value => some value
  | _ => none

/-- `z.number()`. -/
def Numbers.read : Reader F F
  | .int value => some (num.ofInt value)
  | .float value => some value
  | _ => none

/-- `z.number().int()`. -/
def Numbers.readInt : Reader F Int
  | .int value => some value
  | .float value => num.integral value
  | _ => none

/-- `__proto__` is the one key that `z.record` leaves out. -/
def withoutProto (entries : List (String × α)) : List (String × α) :=
  entries.filter (·.1 ≠ "__proto__")

/-- `z.record`. -/
def record (read : Reader F α) : Reader F (List (String × α)) := fun value =>
  (dict read value).map withoutProto

def readConfig (type : NodeType) (config : Dict F) : Option (Config F) :=
  match type with
  | .start => do
    let triggerType ← defaulted (literal triggerTypes) .inboundCall "trigger_type" config
    let greetingMessage ← maybe (optional text) "greeting_message" config
    some (.start ⟨triggerType, greetingMessage⟩)
  | .intent => do
    let labels ← required (checked (2 ≤ ·.length) (list text)) "labels" config
    let model ← defaulted text "groq-llama-3.3-70b" "model" config
    let promptTemplate ← maybe text "prompt_template" config
    let threshold ← defaulted num.read (num.tenths 5) "threshold" config
    some (.intent ⟨labels, model, promptTemplate, threshold⟩)
  | .llm => do
    let model ← defaulted text "groq-llama-4-scout" "model" config
    let fallbackModel ← defaulted text "groq-llama-3.3-70b" "fallback_model" config
    let systemPrompt ← required text "system_prompt" config
    let promptTemplate ← maybe text "prompt_template" config
    let temperature ← defaulted num.read (num.tenths 7) "temperature" config
    let maxTokens ← defaulted num.readInt 512 "max_tokens" config
    let streaming ← defaulted flag true "streaming" config
    let enableFiller ← defaulted flag true "enable_filler" config
    some (.llm ⟨model, fallbackModel, systemPrompt, promptTemplate, temperature, maxTokens,
      streaming, enableFiller⟩)
  | .tool => do
    let toolName ← required (checked nonempty text) "tool_name" config
    let argsTemplate ← defaulted (record text) [] "args_template" config
    let timeoutS ← defaulted num.read (num.tenths 50) "timeout_s" config
    let retry ← defaulted num.readInt 1 "retry" config
    let onError ← defaulted (literal errorPolicies) .fallback "on_error" config
    some (.tool ⟨toolName, argsTemplate, timeoutS, retry, onError⟩)
  | .branch => do
    let mode ← defaulted (literal branchModes) .intent "mode" config
    let slotKey ← maybe text "slot_key" config
    some (.branch ⟨mode, slotKey⟩)
  | .transfer => do
    let queue ← defaulted text "default" "queue" config
    let reason ← defaulted text "user_request" "reason" config
    let includeSummary ← defaulted flag true "include_summary" config
    some (.transfer ⟨queue, reason, includeSummary⟩)
  | .wait => do
    let timeoutS ← defaulted num.read (num.tenths 150) "timeout_s" config
    let promptOnTimeout ← defaulted (optional text)
      (some "죄송합니다, 말씀 못 들었습니다. 다시 말씀해 주세요.") "prompt_on_timeout" config
    some (.wait ⟨timeoutS, promptOnTimeout⟩)
  | .context => do
    let setSlots ← defaulted (record some) [] "set_slots" config
    let clearSlots ← defaulted (list text) [] "clear_slots" config
    some (.context ⟨setSlots, clearSlots⟩)
  | .end => do
    let closingMessage ← maybe (optional text) "closing_message" config
    some (.end ⟨closingMessage⟩)

def readNodeConfig (type : NodeType) (entries : Dict F) : Option (Config F) :=
  match entries.lookup "config" with
  | some (.obj config) => readConfig num type config
  | some _ => none
  | none => if type = .start ∨ type = .end then readConfig num type [] else none

/-- `NodeSchema`. -/
def readNode : Reader F (Node F)
  | .obj entries => do
    let type ← required (literal nodeTypes) "type" entries
    let id ← required (checked nodeIdPattern text) "id" entries
    let label ← maybe text "label" entries
    let description ← maybe text "description" entries
    let config ← readNodeConfig num type entries
    some ⟨id, label, description, config⟩
  | _ => none

/-- `EdgeSchema`. -/
def readEdge : Reader F Edge
  | .obj entries => do
    let from_ ← required (checked nonempty text) "from" entries
    let to_ ← required (checked nonempty text) "to" entries
    let when_ ← maybe (optional text) "when" entries
    let label ← maybe (optional text) "label" entries
    some ⟨from_, to_, when_, label⟩
  | _ => none

def defaultLimits : ScenarioLimits F := ⟨30, 900, 3, num.tenths 500⟩

/-- `ScenarioLimitsSchema`. -/
def readLimits : Reader F (ScenarioLimits F)
  | .obj entries => do
    let maxTurns ← defaulted (checked (between 1 200) num.readInt) 30 "max_turns" entries
    let maxDurationS ← defaulted
      (checked (between 10 3600) num.readInt) 900 "max_duration_s" entries
    let maxToolCallsPerTurn ←
      defaulted (checked (between 0 10) num.readInt) 3 "max_tool_calls_per_turn" entries
    let maxCostCentsPerSession ← defaulted (checked num.nonneg num.read) (num.tenths 500)
      "max_cost_cents_per_session" entries
    some ⟨maxTurns, maxDurationS, maxToolCallsPerTurn, maxCostCentsPerSession⟩
  | _ => none

/-- JavaScript counts a character outside the basic plane twice. -/
def utf16Length (s : String) : Nat := (s.toList.map fun c => if c.toNat < 0x10000 then 1 else 2).sum

def tenantIdLength (id : String) : Bool := 1 ≤ utf16Length id && utf16Length id ≤ 64

def readFields (draft : Dict F) : Option (Scenario F) := do
  let scenarioId ← required (checked scenarioIdPattern text) "scenario_id" draft
  let tenantId ← required (checked tenantIdLength text) "tenant_id" draft
  let version ← defaulted (checked (1 ≤ ·) num.readInt) 1 "version" draft
  let name ← required (checked nonempty text) "name" draft
  let description ← maybe text "description" draft
  let entry ← required (checked nonempty text) "entry" draft
  let fallbackNode ← maybe (optional text) "fallback_node" draft
  let nodes ← required (list (readNode num)) "nodes" draft
  let edges ← required (list readEdge) "edges" draft
  let limits ← defaulted (readLimits num) (defaultLimits num) "limits" draft
  let tags ← defaulted (list text) [] "tags" draft
  let createdBy ← maybe (optional text) "created_by" draft
  let createdAt ← maybe (optional text) "created_at" draft
  let published ← defaulted flag false "published" draft
  some ⟨scenarioId, tenantId, version, name, description, entry, fallbackNode, nodes, edges, limits,
    tags, createdBy, createdAt, published⟩

/-- `ScenarioSchema.parse` of an object, which is strict. -/
def parse (draft : Dict F) : Option (Scenario F) :=
  if ∀ entry ∈ draft, entry.1 ∈ scenarioKeys then readFields num draft else none

/-! The objects that the values are. -/

def Numbers.write (value : F) : Value F := (num.integral value).elim (.float value) .int

def nullish (value : Option (Option String)) : Option (Value F) := value.map (nullable .str)

def Config.raw : Config F → Dict F
  | .start config =>
    ("trigger_type", .str config.triggerType.name) ::
      field "greeting_message" (nullish config.greetingMessage)
  | .intent config =>
    ("labels", .arr (config.labels.map .str)) :: ("model", .str config.model) ::
      (field "prompt_template" (config.promptTemplate.map .str) ++
        [("threshold", num.write config.threshold)])
  | .llm config =>
    ("model", .str config.model) :: ("fallback_model", .str config.fallbackModel) ::
      ("system_prompt", .str config.systemPrompt) ::
      (field "prompt_template" (config.promptTemplate.map .str) ++
        [("temperature", num.write config.temperature), ("max_tokens", .int config.maxTokens),
          ("streaming", .bool config.streaming), ("enable_filler", .bool config.enableFiller)])
  | .tool config =>
    [("tool_name", .str config.toolName),
      ("args_template", .obj (config.argsTemplate.map fun entry => (entry.1, .str entry.2))),
      ("timeout_s", num.write config.timeoutS), ("retry", .int config.retry),
      ("on_error", .str config.onError.name)]
  | .branch config =>
    ("mode", .str config.mode.name) :: field "slot_key" (config.slotKey.map .str)
  | .transfer config =>
    [("queue", .str config.queue), ("reason", .str config.reason),
      ("include_summary", .bool config.includeSummary)]
  | .wait config =>
    [("timeout_s", num.write config.timeoutS),
      ("prompt_on_timeout", nullable .str config.promptOnTimeout)]
  | .context config =>
    [("set_slots", .obj config.setSlots),
      ("clear_slots", .arr (config.clearSlots.map .str))]
  | .end config => field "closing_message" (nullish config.closingMessage)

def Node.raw (node : Node F) : Value F := .obj
  (("id", .str node.id) :: (field "label" (node.label.map .str) ++
    (field "description" (node.description.map .str) ++
      [("type", .str node.config.type.name), ("config", .obj (node.config.raw num))])))

def Edge.raw (edge : Edge) : Value F := .obj
  (("from", .str edge.from_) :: ("to", .str edge.to_) ::
    (field "when" (nullish edge.when_) ++ field "label" (nullish edge.label)))

def rawLimits (limits : ScenarioLimits F) : Value F := .obj
  [("max_turns", .int limits.maxTurns), ("max_duration_s", .int limits.maxDurationS),
    ("max_tool_calls_per_turn", .int limits.maxToolCallsPerTurn),
    ("max_cost_cents_per_session", num.write limits.maxCostCentsPerSession)]

/-- All but the nodes and edges. -/
def Scenario.meta (s : Scenario F) : Dict F :=
  ("scenario_id", .str s.scenarioId) :: ("tenant_id", .str s.tenantId) ::
    ("version", .int s.version) ::
    ("name", .str s.name) :: (field "description" (s.description.map .str) ++
    ("entry", .str s.entry) :: (field "fallback_node" (nullish s.fallbackNode) ++
    ("limits", rawLimits num s.limits) :: ("tags", .arr (s.tags.map .str)) ::
    (field "created_by" (nullish s.createdBy) ++ (field "created_at" (nullish s.createdAt) ++
    [("published", .bool s.published)]))))

def Scenario.raw (s : Scenario F) : Dict F :=
  s.meta num ++ [("nodes", .arr (s.nodes.map (Node.raw num))),
    ("edges", .arr (s.edges.map Edge.raw))]

/-! What the schema asks for. -/

/-- The constraints of the fields. -/
def Config.Fits : Config F → Prop
  | .intent config => 2 ≤ config.labels.length
  | .tool config => nonempty config.toolName = true
  | _ => True

/-- No record has the key that `z.record` leaves out. -/
def Config.Clean : Config F → Prop
  | .tool config => ∀ arg ∈ config.argsTemplate, arg.1 ≠ "__proto__"
  | .context config => ∀ slot ∈ config.setSlots, slot.1 ≠ "__proto__"
  | _ => True

/-- The configuration without that key. -/
def Config.cleaned : Config F → Config F
  | .tool config => .tool { config with argsTemplate := withoutProto config.argsTemplate }
  | .context config => .context { config with setSlots := withoutProto config.setSlots }
  | config => config

structure Node.Fits (node : Node F) : Prop where
  id : nodeIdPattern node.id = true
  config : node.config.Fits

def Node.cleaned (node : Node F) : Node F := { node with config := node.config.cleaned }

structure Node.Sound (node : Node F) : Prop extends node.Fits where
  clean : node.config.Clean

structure SoundLimits (limits : ScenarioLimits F) : Prop where
  maxTurns : between 1 200 limits.maxTurns = true
  maxDurationS : between 10 3600 limits.maxDurationS = true
  maxToolCallsPerTurn : between 0 10 limits.maxToolCallsPerTurn = true
  maxCostCentsPerSession : num.nonneg limits.maxCostCentsPerSession = true

structure Scenario.Sound (s : Scenario F) : Prop where
  scenarioId : scenarioIdPattern s.scenarioId = true
  tenantId : tenantIdLength s.tenantId = true
  version : 1 ≤ s.version
  name : nonempty s.name = true
  entry : nonempty s.entry = true
  nodes : ∀ node ∈ s.nodes, node.Sound
  edges : ∀ edge ∈ s.edges, nonempty edge.from_ = true ∧ nonempty edge.to_ = true
  limits : SoundLimits num s.limits

section Write
variable {num}

@[simp] theorem read_write (value : F) : num.read (num.write value) = some value := by
  unfold Numbers.write
  cases integral : num.integral value with
  | none => rfl
  | some n => exact congrArg some (num.ofInt_integral integral)

@[simp] theorem text_str (value : String) : text (.str value : Value F) = some value := rfl

@[simp] theorem flag_bool (value : Bool) : flag (.bool value : Value F) = some value := rfl

@[simp] theorem readInt_int (value : Int) : num.readInt (.int value) = some value := rfl

@[simp] theorem maybe_text (value : Option String) :
    value.elim (some none) ((fun raw : Value F => (text raw).map some) ∘ .str) = some value := by
  cases value <;> rfl

theorem optional_text (value : Option String) :
    optional text (nullable .str value : Value F) = some value := by
  cases value <;> rfl

theorem maybe_nullish (value : Option (Option String)) :
    (nullish value).elim (some none) (fun raw : Value F => (optional text raw).map some) =
      some value := by
  cases value with
  | none => rfl
  | some value => exact congrArg (Option.map some) (optional_text value)

theorem list_text (items : List String) : list text (.arr (items.map .str) : Value F) =
    some items := list_arr fun _ _ => rfl

theorem record_obj {read : Reader F α} {write : α → Value F} {entries : List (String × α)}
    (reads : ∀ value, read (write value) = some value) :
    record read (.obj (entries.map fun one => (one.1, write one.2))) =
      some (withoutProto entries) := by
  rw [record, dict_obj reads, Option.map_some]

theorem readConfig_raw {config : Config F} (fits : config.Fits) :
    readConfig num config.type (config.raw num) = some config.cleaned := by
  cases config with
  | start config =>
    have trigger : literal triggerTypes (.str config.triggerType.name : Value F) =
        some config.triggerType := by cases config.triggerType <;> rfl
    simp [readConfig, Config.raw, Config.type, Config.cleaned, defaulted, maybe, List.lookup_cons,
      lookup_field, trigger, maybe_nullish]
  | intent config =>
    have enough : checked (2 ≤ ·.length) (list text) (.arr (config.labels.map .str) : Value F) =
        some config.labels := checked_some (list_text config.labels) (decide_eq_true fits)
    simp [readConfig, Config.raw, Config.type, Config.cleaned, required, defaulted, maybe,
      List.lookup_cons, lookup_field_append, enough]
  | llm config =>
    simp [readConfig, Config.raw, Config.type, Config.cleaned, required, defaulted, maybe,
      List.lookup_cons, lookup_field_append]
  | tool config =>
    have named : checked nonempty text (.str config.toolName : Value F) = some config.toolName :=
      checked_some rfl fits
    have policy : literal errorPolicies (.str config.onError.name : Value F) =
        some config.onError := by cases config.onError <;> rfl
    have args : record text (.obj (config.argsTemplate.map fun arg =>
        (arg.1, .str arg.2) : Dict F)) =
        some (withoutProto config.argsTemplate) := record_obj fun _ => rfl
    simp [readConfig, Config.raw, Config.type, Config.cleaned, required, defaulted,
      List.lookup_cons, named, policy, args]
  | branch config =>
    have mode : literal branchModes (.str config.mode.name : Value F) = some config.mode := by
      cases config.mode <;> rfl
    simp [readConfig, Config.raw, Config.type, Config.cleaned, defaulted, maybe, List.lookup_cons,
      lookup_field, mode]
  | transfer config =>
    simp [readConfig, Config.raw, Config.type, Config.cleaned, defaulted, List.lookup_cons]
  | wait config =>
    simp [readConfig, Config.raw, Config.type, Config.cleaned, defaulted, List.lookup_cons,
      optional_text]
  | context config =>
    have slots : record some (.obj config.setSlots) = some (withoutProto config.setSlots) := by
      simpa using @record_obj F (Value F) some id config.setSlots fun _ => rfl
    simp [readConfig, Config.raw, Config.type, Config.cleaned, defaulted, List.lookup_cons, slots,
      list_text]
  | «end» config =>
    simp [readConfig, Config.raw, Config.type, Config.cleaned, maybe, defaulted, lookup_field,
      maybe_nullish]

theorem readConfig_unfit {config : Config F} (unfit : ¬config.Fits) :
    readConfig num config.type (config.raw num) = none := by
  cases config with
  | intent config =>
    have few : checked (2 ≤ ·.length) (list text) (.arr (config.labels.map .str) : Value F) =
        none := by
      have short : ¬2 ≤ config.labels.length := unfit
      rw [checked, list_text, Option.filter_some, if_neg (by simpa using short)]
    simp [readConfig, Config.raw, Config.type, required, few]
  | tool config =>
    have unnamed : checked nonempty text (.str config.toolName : Value F) = none := by
      have empty : ¬nonempty config.toolName = true := unfit
      rw [checked, text_str, Option.filter_some, if_neg empty]
    simp [readConfig, Config.raw, Config.type, required, unnamed]
  | start | llm | branch | transfer | wait | context | «end» => exact absurd trivial unfit

theorem readNode_raw_eq (node : Node F) : readNode num (node.raw num) =
    (checked nodeIdPattern text (.str node.id : Value F)).bind fun id =>
      (readConfig num node.config.type (node.config.raw num)).bind fun config =>
        some ⟨id, node.label, node.description, config⟩ := by
  have literal_name : literal nodeTypes (.str node.config.type.name : Value F) =
      some node.config.type := by
    cases node.config.type <;> rfl
  simp [readNode, Node.raw, readNodeConfig, required, maybe, defaulted, List.lookup_cons,
    lookup_field_append, literal_name]

/-- What is read from the object of a node is the node. -/
theorem readNode_raw_iff {node parsed : Node F} :
    readNode num (node.raw num) = some parsed ↔ node.Fits ∧ node.cleaned = parsed := by
  rw [readNode_raw_eq]
  constructor
  · intro accepted
    obtain ⟨id, identified, accepted⟩ := Option.bind_eq_some_iff.mp accepted
    obtain ⟨config, read, same⟩ := Option.bind_eq_some_iff.mp accepted
    obtain rfl := Option.some.inj same
    have fits : node.config.Fits := by
      by_contra unfit
      rw [readConfig_unfit unfit] at read
      cases read
    rw [readConfig_raw fits] at read
    obtain ⟨same, pattern⟩ := Option.filter_eq_some_iff.mp identified
    obtain rfl := Option.some.inj same
    obtain rfl := Option.some.inj read
    exact ⟨⟨pattern, fits⟩, rfl⟩
  · rintro ⟨fits, rfl⟩
    have identified : checked nodeIdPattern text (.str node.id : Value F) = some node.id :=
      checked_some rfl fits.id
    rw [identified, readConfig_raw fits.config]
    rfl

theorem withoutProto_eq_self_iff {entries : List (String × α)} :
    withoutProto entries = entries ↔ ∀ one ∈ entries, one.1 ≠ "__proto__" := by
  simp only [withoutProto, List.filter_eq_self, decide_eq_true_eq]

theorem cleaned_of_clean {config : Config F} (clean : config.Clean) : config.cleaned = config := by
  cases config with
  | tool config => rw [Config.cleaned, withoutProto_eq_self_iff.mpr clean]
  | context config => rw [Config.cleaned, withoutProto_eq_self_iff.mpr clean]
  | start | intent | llm | branch | transfer | wait | «end» => rfl

theorem Node.cleaned_of_sound {node : Node F} (sound : node.Sound) : node.cleaned = node := by
  rw [cleaned, cleaned_of_clean sound.clean]

theorem readEdge_raw_iff {edge parsed : Edge} : readEdge (edge.raw : Value F) = some parsed ↔
    (nonempty edge.from_ = true ∧ nonempty edge.to_ = true) ∧ edge = parsed := by
  have read : readEdge (edge.raw : Value F) =
      (checked nonempty text (.str edge.from_ : Value F)).bind fun source =>
        (checked nonempty text (.str edge.to_ : Value F)).bind fun target =>
          some ⟨source, target, edge.when_, edge.label⟩ := by
    simp [readEdge, Edge.raw, required, maybe, defaulted, List.lookup_cons, lookup_field_append,
      lookup_field, maybe_nullish]
  simp only [read, checked, text_str, Option.bind_eq_some_iff, Option.filter_eq_some_iff,
    Option.some.injEq]
  constructor
  · rintro ⟨source, ⟨rfl, first⟩, target, ⟨rfl, second⟩, rfl⟩
    exact ⟨⟨first, second⟩, rfl⟩
  · rintro ⟨⟨first, second⟩, rfl⟩
    exact ⟨_, ⟨rfl, first⟩, _, ⟨rfl, second⟩, rfl⟩

theorem readLimits_raw {limits : ScenarioLimits F} (sound : SoundLimits num limits) :
    readLimits num (rawLimits num limits) = some limits := by
  have turns : checked (between 1 200) num.readInt (.int limits.maxTurns) = some limits.maxTurns :=
    checked_some rfl sound.maxTurns
  have duration : checked (between 10 3600) num.readInt (.int limits.maxDurationS) =
      some limits.maxDurationS := checked_some rfl sound.maxDurationS
  have calls : checked (between 0 10) num.readInt (.int limits.maxToolCallsPerTurn) =
      some limits.maxToolCallsPerTurn := checked_some rfl sound.maxToolCallsPerTurn
  have cost : checked num.nonneg num.read (num.write limits.maxCostCentsPerSession) =
      some limits.maxCostCentsPerSession :=
    checked_some (read_write _) sound.maxCostCentsPerSession
  simp [readLimits, rawLimits, defaulted, List.lookup_cons, turns, duration, calls, cost]

end Write

section Parse
variable {num}

theorem record_clean {read : Reader F α} (accepted : record read value = some entries) :
    ∀ one ∈ entries, one.1 ≠ "__proto__" := by
  obtain ⟨all, -, rfl⟩ := Option.map_eq_some_iff.mp accepted
  intro one mem
  exact of_decide_eq_true (List.mem_filter.mp mem).2

theorem defaulted_record_clean {read : Reader F α}
    (accepted : defaulted (record read) [] key config = some entries) :
    ∀ one ∈ entries, one.1 ≠ "__proto__" := by
  unfold defaulted at accepted
  cases found : config.lookup key with
  | none =>
    rw [found] at accepted
    cases accepted
    exact fun _ mem => absurd mem List.not_mem_nil
  | some value =>
    rw [found] at accepted
    exact record_clean accepted

theorem readConfig_sound {config : Dict F} {parsed : Config F}
    (accepted : readConfig num type config = some parsed) : parsed.Fits ∧ parsed.Clean := by
  cases type <;>
    simp only [readConfig, Option.bind_eq_bind, Option.bind_eq_some_iff, Option.some.injEq]
      at accepted
  case intent =>
    obtain ⟨labels, enough, _, -, _, -, _, -, rfl⟩ := accepted
    have many := required_passes enough
    have two : 2 ≤ labels.length := of_decide_eq_true many
    exact ⟨two, trivial⟩
  case tool =>
    obtain ⟨toolName, filled, args, clean, _, -, _, -, _, -, rfl⟩ := accepted
    exact ⟨required_passes filled, defaulted_record_clean clean⟩
  case context =>
    obtain ⟨slots, clean, _, -, rfl⟩ := accepted
    exact ⟨trivial, defaulted_record_clean clean⟩
  case llm =>
    obtain ⟨_, -, _, -, _, -, _, -, _, -, _, -, _, -, _, -, rfl⟩ := accepted
    exact ⟨trivial, trivial⟩
  case transfer =>
    obtain ⟨_, -, _, -, _, -, rfl⟩ := accepted
    exact ⟨trivial, trivial⟩
  case start | branch | wait =>
    obtain ⟨_, -, _, -, rfl⟩ := accepted
    exact ⟨trivial, trivial⟩
  case «end» =>
    obtain ⟨_, -, rfl⟩ := accepted
    exact ⟨trivial, trivial⟩

theorem readNode_sound {raw : Value F} {node : Node F} (accepted : readNode num raw = some node) :
    node.Sound := by
  cases raw with
  | obj entries =>
    simp only [readNode, Option.bind_eq_bind, Option.bind_eq_some_iff, Option.some.injEq]
      at accepted
    obtain ⟨type, -, id, identified, label, -, description, -, config, read, rfl⟩ := accepted
    have sound : config.Fits ∧ config.Clean := by
      unfold readNodeConfig at read
      split at read
      · exact readConfig_sound read
      · cases read
      · split at read
        · exact readConfig_sound read
        · cases read
    exact ⟨⟨required_passes identified, sound.1⟩, sound.2⟩
  | _ => cases accepted

theorem readEdge_sound {raw : Value F} {edge : Edge} (accepted : readEdge raw = some edge) :
    nonempty edge.from_ = true ∧ nonempty edge.to_ = true := by
  cases raw with
  | obj entries =>
    simp only [readEdge, Option.bind_eq_bind, Option.bind_eq_some_iff, Option.some.injEq]
      at accepted
    obtain ⟨source, left, target, right, _, -, _, -, rfl⟩ := accepted
    exact ⟨required_passes left, required_passes right⟩
  | _ => cases accepted

theorem readLimits_sound {raw : Value F} {limits : ScenarioLimits F}
    (accepted : readLimits num raw = some limits) : SoundLimits num limits := by
  cases raw with
  | obj entries =>
    simp only [readLimits, Option.bind_eq_bind, Option.bind_eq_some_iff, Option.some.injEq]
      at accepted
    obtain ⟨turns, first, duration, second, calls, third, cost, fourth, rfl⟩ := accepted
    exact ⟨defaulted_passes (by decide) first, defaulted_passes (by decide) second,
      defaulted_passes (by decide) third, defaulted_passes num.fifty fourth⟩
  | _ => cases accepted

/-- What each key of a draft gives. -/
structure Reads (num : Numbers F) (draft : Dict F) (s : Scenario F) : Prop where
  scenarioId : required (checked scenarioIdPattern text) "scenario_id" draft = some s.scenarioId
  tenantId : required (checked tenantIdLength text) "tenant_id" draft = some s.tenantId
  version : defaulted (checked (1 ≤ ·) num.readInt) 1 "version" draft = some s.version
  name : required (checked nonempty text) "name" draft = some s.name
  description : maybe text "description" draft = some s.description
  entry : required (checked nonempty text) "entry" draft = some s.entry
  fallbackNode : maybe (optional text) "fallback_node" draft = some s.fallbackNode
  nodes : required (list (readNode num)) "nodes" draft = some s.nodes
  edges : required (list readEdge) "edges" draft = some s.edges
  limits : defaulted (readLimits num) (defaultLimits num) "limits" draft = some s.limits
  tags : defaulted (list text) [] "tags" draft = some s.tags
  createdBy : maybe (optional text) "created_by" draft = some s.createdBy
  createdAt : maybe (optional text) "created_at" draft = some s.createdAt
  published : defaulted flag false "published" draft = some s.published

theorem readFields_iff {draft : Dict F} {s : Scenario F} :
    readFields num draft = some s ↔ Reads num draft s := by
  constructor
  · intro accepted
    rw [readFields] at accepted
    obtain ⟨_, scenarioId, accepted⟩ := Option.bind_eq_some_iff.mp accepted
    obtain ⟨_, tenantId, accepted⟩ := Option.bind_eq_some_iff.mp accepted
    obtain ⟨_, version, accepted⟩ := Option.bind_eq_some_iff.mp accepted
    obtain ⟨_, name, accepted⟩ := Option.bind_eq_some_iff.mp accepted
    obtain ⟨_, description, accepted⟩ := Option.bind_eq_some_iff.mp accepted
    obtain ⟨_, entry, accepted⟩ := Option.bind_eq_some_iff.mp accepted
    obtain ⟨_, fallbackNode, accepted⟩ := Option.bind_eq_some_iff.mp accepted
    obtain ⟨_, nodes, accepted⟩ := Option.bind_eq_some_iff.mp accepted
    obtain ⟨_, edges, accepted⟩ := Option.bind_eq_some_iff.mp accepted
    obtain ⟨_, limits, accepted⟩ := Option.bind_eq_some_iff.mp accepted
    obtain ⟨_, tags, accepted⟩ := Option.bind_eq_some_iff.mp accepted
    obtain ⟨_, createdBy, accepted⟩ := Option.bind_eq_some_iff.mp accepted
    obtain ⟨_, createdAt, accepted⟩ := Option.bind_eq_some_iff.mp accepted
    obtain ⟨_, published, accepted⟩ := Option.bind_eq_some_iff.mp accepted
    cases accepted
    exact ⟨scenarioId, tenantId, version, name, description, entry, fallbackNode, nodes,
      edges, limits, tags, createdBy, createdAt, published⟩
  · intro reads
    simp only [readFields, reads.scenarioId, reads.tenantId, reads.version, reads.name,
      reads.description,
      reads.entry, reads.fallbackNode, reads.nodes, reads.edges, reads.limits, reads.tags,
      reads.createdBy, reads.createdAt, reads.published, Option.bind_eq_bind, Option.bind_some]

theorem parse_iff {draft : Dict F} {s : Scenario F} :
    parse num draft = some s ↔ (∀ one ∈ draft, one.1 ∈ scenarioKeys) ∧ Reads num draft s := by
  unfold parse
  split
  next known => exact readFields_iff.trans (and_iff_right known).symm
  next unknown => exact ⟨fun accepted => (nomatch accepted), fun reads => absurd reads.1 unknown⟩

theorem defaultLimits_sound : SoundLimits num (defaultLimits num) :=
  ⟨rfl, rfl, rfl, num.fifty⟩

/-- What is accepted is well formed. -/
theorem parse_sound {draft : Dict F} {s : Scenario F} (accepted : parse num draft = some s) :
    s.Sound num := by
  obtain ⟨-, reads⟩ := parse_iff.mp accepted
  refine ⟨required_passes reads.scenarioId, required_passes reads.tenantId, ?_,
    required_passes reads.name, required_passes reads.entry, ?_, ?_, ?_⟩
  · have positive := defaulted_passes rfl reads.version
    exact of_decide_eq_true positive
  · exact list_forall (fun _ _ => readNode_sound) reads.nodes
  · exact list_forall (fun _ _ => readEdge_sound) reads.edges
  · have read := reads.limits
    unfold defaulted at read
    cases found : draft.lookup "limits" with
    | none =>
      rw [found] at read
      rw [← Option.some.inj read]
      exact defaultLimits_sound
    | some raw =>
      rw [found] at read
      exact readLimits_sound read

end Parse

/-- All numbers are whole. -/
def wholeNumbers : Numbers Int where
  tenths n := n / 10
  nonneg value := 0 ≤ value
  ofInt := id
  integral := some
  finite _ := true
  ofInt_integral := fun same => (Option.some.inj same).symm
  finite_integral := fun _ => rfl
  fifty := rfl

end AgentOE.Builder
