import AgentOE.Builder.Backend
import AgentOE.Builder.Store

/-! A stored scenario that is opened in the builder and assembled again without an edit. -/
namespace AgentOE.Builder
open Json Agentic VersionStore

variable {F : Type} (num : Numbers F)

/-- What `assembleScenario` gives to `fromGraph`. The limits are always the same. -/
def assembledMeta (info : BuilderMeta F) : Dict F :=
  ("scenario_id", .str info.scenarioId) :: ("tenant_id", .str info.tenantId) ::
    ("version", info.version) :: ("name", .str info.name) ::
    (field "description" (nullish info.description) ++
      [("entry", .str info.entry), ("fallback_node", nullable .str info.fallbackNode),
        ("tags", .arr (info.tags.map .str)), ("published", .bool info.published),
        ("limits", rawLimits num (defaultLimits num))])

/-- `none` for the error of the schema. -/
def assembleScenario (s : BuilderState F) : Option (Scenario F) :=
  fromGraph num ⟨s.nodes, s.edges⟩ (assembledMeta num s.meta_)

/-! What it has to keep. -/

/-- A number of Python as the equal number of JavaScript. -/
def Numbers.canonical : Value F → Value F
  | .float value => num.write value
  | value => value

/-- The integers that are doubles. -/
def Numbers.Exact : Value F → Prop
  | .int value => num.integral (num.ofInt value) = some value
  | _ => True

def canonicalNode (node : NodeRecord F) : NodeRecord F :=
  { node with config := mapSlots (replaceEntries num.canonical) node.config }

def Node.record (node : Node F) : NodeRecord F :=
  ⟨node.id, node.label, node.description, node.config.record⟩

/-- The fields that a user can set are equal. -/
structure Agrees (x : ScenarioRecord F) (s : Scenario F) : Prop where
  name : s.name = x.name
  description : s.description = x.description
  entry : s.entry = x.entry
  fallbackNode : s.fallbackNode.join = x.fallbackNode
  nodes : s.nodes.map Node.record = x.nodes.map (canonicalNode num)
  edges : s.edges.map Edge.record = x.edges
  limits : s.limits = x.limits
  tags : s.tags = x.tags

/-! What it takes for that. -/

def KeptConfig : NodeConfig F (Value F) → Prop
  | .intent config => config.promptTemplate ≠ none
  | .llm config => config.promptTemplate ≠ none ∧ num.Exact (.int config.maxTokens)
  | .tool config => config.toolName ≠ "" ∧ (∀ arg ∈ config.argsTemplate, arg.1 ≠ "__proto__") ∧
      num.Exact (.int config.retry)
  | .branch config => config.slotKey ≠ none
  | .context config => (∀ slot ∈ config.setSlots, slot.1 ≠ "__proto__") ∧
      EveryEntry num.Exact config.setSlots
  | _ => True

structure KeptNode (node : NodeRecord F) : Prop where
  label : node.label ≠ none
  description : node.description ≠ none
  config : KeptConfig num node.config

/-- A version that is read again, and nothing that the schema refuses or the store forgets. -/
structure Kept (x : ScenarioRecord F) (version : Int) : Prop where
  tenantId : utf16Length x.tenantId ≤ 64
  version : ∃ read, num.integral (num.ofInt version) = some read ∧ 1 ≤ read
  name : x.name ≠ ""
  description : x.description ≠ none
  limits : x.limits = defaultLimits num
  nodes : ∀ node ∈ x.nodes, KeptNode num node

section Received
variable {num}

theorem received_str (value : String) : (.str value : Value F).replace num.received = .str value :=
  rfl

theorem received_bool (value : Bool) : (.bool value : Value F).replace num.received = .bool value :=
  rfl

theorem received_int (value : Int) :
    (.int value : Value F).replace num.received = num.write (num.ofInt value) := rfl

theorem received_float (value : F) :
    (.float value : Value F).replace num.received = num.write value := rfl

theorem received_nullable (value : Option String) :
    (nullable .str value : Value F).replace num.received = nullable .str value := by
  cases value <;> rfl

theorem received_strings (items : List String) :
    (.arr (items.map .str) : Value F).replace num.received = .arr (items.map .str) := by
  rw [Value.replace_arr, List.map_map]
  rfl

/-- `z.string().optional()` refuses null. -/
theorem text_nullable (value : Option String) : text (nullable .str value : Value F) = value := by
  cases value <;> rfl

theorem readInt_write (value : F) : num.readInt (num.write value) = num.integral value := by
  unfold Numbers.write
  cases integral : num.integral value with
  | none => exact integral
  | some n => rfl

theorem write_eq_int_iff {value : F} {n : Int} :
    num.write value = .int n ↔ num.integral value = some n := by
  unfold Numbers.write
  cases num.integral value <;> simp

theorem received_eq_canonical : (fun scalar => num.received scalar = num.canonical scalar) =
    num.Exact := by
  funext scalar
  refine propext ?_
  cases scalar with
  | int n => exact write_eq_int_iff
  | _ => exact iff_of_true rfl trivial

theorem received_slots_iff {slots : Dict F} :
    withoutProto (replaceEntries num.received slots) = replaceEntries num.canonical slots ↔
      (∀ slot ∈ slots, slot.1 ≠ "__proto__") ∧ EveryEntry num.Exact slots := by
  have exact_iff := @replaceEntries_eq_iff F num.received num.canonical slots
  rw [received_eq_canonical] at exact_iff
  rw [← exact_iff]
  have size : ∀ f : Value F → Value F, (replaceEntries f slots).length = slots.length := by
    intro f
    rw [replaceEntries_eq_map, List.length_map]
  constructor
  · intro same
    have whole : withoutProto (replaceEntries num.received slots) =
        replaceEntries num.received slots := by
      refine List.filter_sublist.eq_of_length ?_
      exact (congrArg List.length same).trans ((size num.canonical).trans (size num.received).symm)
    refine ⟨fun slot mem => ?_, whole.symm.trans same⟩
    have inside : (slot.1, slot.2.replace num.received) ∈ replaceEntries num.received slots := by
      rw [replaceEntries_eq_map]
      exact List.mem_map_of_mem mem
    exact withoutProto_eq_self_iff.mp whole (slot.1, slot.2.replace num.received) inside
  · rintro ⟨clean, same⟩
    rw [← same, withoutProto_eq_self_iff, replaceEntries_eq_map, List.forall_mem_map]
    exact clean

/-- What the schema makes of a configuration that comes back. -/
def reread (num : Numbers F) : NodeConfig F (Value F) → Option (Config F)
  | .start config => some (.start ⟨config.triggerType, some config.greetingMessage⟩)
  | .intent config => if config.promptTemplate = none then none else some (.intent config)
  | .llm config =>
    if config.promptTemplate = none then none
    else (num.integral (num.ofInt config.maxTokens)).map fun maxTokens =>
      .llm { config with maxTokens := maxTokens }
  | .tool config =>
    if config.toolName = "" then none
    else (num.integral (num.ofInt config.retry)).map fun retry =>
      .tool { config with argsTemplate := withoutProto config.argsTemplate, retry := retry }
  | .branch config => if config.slotKey = none then none else some (.branch config)
  | .transfer config => some (.transfer config)
  | .wait config => some (.wait config)
  | .context config =>
    some (.context { config with setSlots := withoutProto (replaceEntries num.received config.setSlots) })
  | .end config => some (.end ⟨some config.closingMessage⟩)

theorem readConfig_received {config : NodeConfig F (Value F)}
    (labels : ∀ intent, config = .intent intent → 2 ≤ intent.labels.length) :
    readConfig num config.type (replaceEntries num.received (dumpConfig config)) =
      reread num config := by
  cases config with
  | start config =>
    have trigger : literal triggerTypes (.str config.triggerType.name : Value F) =
        some config.triggerType := by cases config.triggerType <;> rfl
    simp [readConfig, dumpConfig, NodeConfig.type, reread, defaulted, maybe, lookup_replaceEntries,
      List.lookup_cons, received_str, received_nullable, trigger, optional_text]
  | intent config =>
    have enough : checked (2 ≤ ·.length) (list text) (.arr (config.labels.map .str) : Value F) =
        some config.labels := checked_some (list_text config.labels)
          (decide_eq_true (labels config rfl))
    rcases config with ⟨labels, model, _ | prompt, threshold⟩ <;>
      simp [readConfig, dumpConfig, NodeConfig.type, reread, required, defaulted, maybe,
        lookup_replaceEntries, List.lookup_cons, received_str, received_nullable, received_strings,
        received_float, text_nullable, enough]
  | llm config =>
    rcases config with ⟨model, fallback, system, _ | prompt, temperature, tokens, streaming,
      filler⟩ <;>
      simp [readConfig, dumpConfig, NodeConfig.type, reread, required, defaulted, maybe,
        Option.map_eq_bind, lookup_replaceEntries, List.lookup_cons, received_str,
        received_nullable, received_bool, received_float, received_int, readInt_write,
        text_nullable, Function.comp_def]
  | tool config =>
    have policy : literal errorPolicies (.str config.onError.name : Value F) =
        some config.onError := by cases config.onError <;> rfl
    have args : record text ((.obj (config.argsTemplate.map fun arg => (arg.1, .str arg.2)) :
        Value F).replace num.received) = some (withoutProto config.argsTemplate) := by
      rw [Value.replace_obj, replaceEntries_eq_map, List.map_map]
      exact record_obj fun _ => rfl
    have named : ∀ name, checked nonempty text (.str name : Value F) =
        if name = "" then none else some name := by
      intro name
      rw [checked, text_str, Option.filter_some]
      simp [nonempty]
    by_cases empty : config.toolName = "" <;>
      simp [readConfig, dumpConfig, NodeConfig.type, reread, required, defaulted,
        lookup_replaceEntries, List.lookup_cons, received_str, received_float, received_int,
        readInt_write, policy, args, named, empty, Option.map_eq_bind, Function.comp_def]
  | branch config =>
    have mode : literal branchModes (.str config.mode.name : Value F) = some config.mode := by
      cases config.mode <;> rfl
    rcases config with ⟨mode, _ | slot⟩ <;>
      simp [readConfig, dumpConfig, NodeConfig.type, reread, defaulted, maybe,
        lookup_replaceEntries,
        List.lookup_cons, received_str, received_nullable, text_nullable, mode]
  | transfer config =>
    simp [readConfig, dumpConfig, NodeConfig.type, reread, defaulted, lookup_replaceEntries,
      List.lookup_cons, received_str, received_bool]
  | wait config =>
    simp [readConfig, dumpConfig, NodeConfig.type, reread, defaulted, lookup_replaceEntries,
      List.lookup_cons, received_float, received_nullable, optional_text]
  | context config =>
    have slots : record some ((.obj config.setSlots : Value F).replace num.received) =
        some (withoutProto (replaceEntries num.received config.setSlots)) := by
      rw [Value.replace_obj]
      simpa using @record_obj F (Value F) some id (replaceEntries num.received config.setSlots)
        fun _ => rfl
    simp [readConfig, dumpConfig, NodeConfig.type, reread, defaulted, lookup_replaceEntries,
      List.lookup_cons, received_strings, slots, list_text]
  | «end» config =>
    simp [readConfig, dumpConfig, NodeConfig.type, reread, defaulted, maybe, lookup_replaceEntries,
      received_nullable, optional_text]

/-- The configuration of an equal scenario. -/
def reopened (num : Numbers F) : NodeConfig F (Value F) → Config F
  | .start config => .start ⟨config.triggerType, some config.greetingMessage⟩
  | .intent config => .intent config
  | .llm config => .llm config
  | .tool config => .tool config
  | .branch config => .branch config
  | .transfer config => .transfer config
  | .wait config => .wait config
  | .context config =>
    .context { config with setSlots := replaceEntries num.canonical config.setSlots }
  | .end config => .end ⟨some config.closingMessage⟩

theorem reread_kept {config : NodeConfig F (Value F)} (kept : KeptConfig num config) :
    reread num config = some (reopened num config) := by
  cases config with
  | intent config => exact if_neg kept
  | branch config => exact if_neg kept
  | llm config =>
    have same : num.integral (num.ofInt config.maxTokens) = some config.maxTokens := kept.2
    rw [reread, if_neg kept.1, same, Option.map_some, reopened]
  | tool config =>
    obtain ⟨named, clean, same⟩ := kept
    have exact_retry : num.integral (num.ofInt config.retry) = some config.retry := same
    rw [reread, if_neg named, exact_retry, Option.map_some, withoutProto_eq_self_iff.mpr clean,
      reopened]
  | context config => rw [reread, reopened, received_slots_iff.mpr kept]
  | start | transfer | wait | «end» => rfl

theorem reopened_record (config : NodeConfig F (Value F)) :
    (reopened num config).record = mapSlots (replaceEntries num.canonical) config := by
  cases config <;> rfl

theorem kept_of_reread {config : NodeConfig F (Value F)} {parsed : Config F}
    (read : reread num config = some parsed)
    (same : parsed.record = mapSlots (replaceEntries num.canonical) config) :
    KeptConfig num config := by
  cases config with
  | intent config =>
    intro none
    rw [reread, if_pos none] at read
    cases read
  | branch config =>
    intro none
    rw [reread, if_pos none] at read
    cases read
  | llm config =>
    rw [reread] at read
    split at read
    next => cases read
    next prompted =>
      obtain ⟨maxTokens, integral, rfl⟩ := Option.map_eq_some_iff.mp read
      have tokens : maxTokens = config.maxTokens :=
        congrArg LlmNodeConfig.maxTokens (NodeConfig.llm.inj same)
      exact ⟨prompted, tokens ▸ integral⟩
  | tool config =>
    rw [reread] at read
    split at read
    next => cases read
    next named =>
      obtain ⟨retry, integral, rfl⟩ := Option.map_eq_some_iff.mp read
      have tool := NodeConfig.tool.inj same
      have args : withoutProto config.argsTemplate = config.argsTemplate :=
        congrArg ToolNodeConfig.argsTemplate tool
      have again : retry = config.retry := congrArg ToolNodeConfig.retry tool
      exact ⟨named, withoutProto_eq_self_iff.mp args, again ▸ integral⟩
  | context config =>
    cases read
    have slots := congrArg ContextUpdateNodeConfig.setSlots (NodeConfig.context.inj same)
    exact received_slots_iff.mp slots
  | start | transfer | wait | «end» => trivial

theorem readNode_received {node : NodeRecord F} (id : nodeIdPattern node.id = true)
    (labels : ∀ intent, node.config = .intent intent → 2 ≤ intent.labels.length) {parsed : Node F} :
    readNode num ((dumpNode node).replace num.received) = some parsed ↔
      ∃ label description config, node.label = some label ∧ node.description = some description ∧
        reread num node.config = some config ∧
          ⟨node.id, some label, some description, config⟩ = parsed := by
  have type : literal nodeTypes (.str node.config.type.name : Value F) = some node.config.type := by
    cases node.config.type <;> rfl
  have identified : checked nodeIdPattern text (.str node.id : Value F) = some node.id :=
    checked_some rfl id
  have config := @readConfig_received F num node.config labels
  rcases node with ⟨id, _ | label, _ | description, config⟩ <;>
    simp [readNode, readNodeConfig, dumpNode, Value.replace_obj, lookup_replaceEntries, required,
      maybe, defaulted, List.lookup_cons, received_str, received_nullable, text_nullable, type,
      identified, config, Option.bind_eq_some_iff]

/-- A node comes back equal where the condition holds. -/
theorem keptNode_iff {node : NodeRecord F} (id : nodeIdPattern node.id = true)
    (labels : ∀ intent, node.config = .intent intent → 2 ≤ intent.labels.length) :
    (∃ parsed, readNode num ((dumpNode node).replace num.received) = some parsed ∧
      parsed.record = canonicalNode num node) ↔ KeptNode num node := by
  simp only [readNode_received id labels]
  constructor
  · rintro ⟨_, ⟨label, description, config, labelled, described, read, rfl⟩, same⟩
    have configs := congrArg NodeRecord.config same
    exact ⟨Option.ne_none_iff_exists'.mpr ⟨label, labelled⟩,
      Option.ne_none_iff_exists'.mpr ⟨description, described⟩, kept_of_reread read configs⟩
  · intro kept
    obtain ⟨label, labelled⟩ := Option.ne_none_iff_exists'.mp kept.label
    obtain ⟨description, described⟩ := Option.ne_none_iff_exists'.mp kept.description
    refine ⟨_, ⟨label, description, _, labelled, described, reread_kept kept.config, rfl⟩, ?_⟩
    rw [Node.record, reopened_record, ← labelled, ← described, canonicalNode]

/-- An edge that comes back. -/
def reopenedEdge (edge : EdgeRecord) : Edge :=
  ⟨edge.from_, edge.to_, edge.when_.map some, edge.label.map some⟩

theorem reopened_edge_record (edge : EdgeRecord) : (reopenedEdge edge).record = edge := by
  rcases edge with ⟨from_, to_, _ | _, _ | _⟩ <;> rfl

theorem canvas_edges (nodes : List (Value F)) (edges : List EdgeRecord) :
    (toGraph num nodes (edges.map fun edge => (dumpEdge edge).replace num.received)
        fun _ => none).edges.map BuilderEdge.raw = edges.map fun edge =>
          ((reopenedEdge edge).raw : Value F) := by
  have written : edges.map (fun edge => (dumpEdge edge : Value F).replace num.received) =
      (edges.map fun edge => (⟨edge.from_, edge.to_, some edge.when_, some edge.label⟩ : Edge)).map
          Edge.raw := by
    rw [List.map_map]
    refine List.map_congr_left fun edge _ => ?_
    rcases edge with ⟨from_, to_, _ | _, _ | _⟩ <;> rfl
  rw [written, toGraph_edges, List.map_map]
  rfl

section Reopen
variable {py : Schema F} {x : ScenarioRecord F} {doc : Stored (Dict F)}

/-- The draft that is parsed again. -/
def redraft (num : Numbers F) (x : ScenarioRecord F) (doc : Stored (Dict F)) : Dict F :=
  draft (x.nodes.map fun node => (dumpNode node).replace num.received)
    (x.edges.map fun edge => (reopenedEdge edge).raw)
    (assembledMeta num ⟨x.scenarioId, x.tenantId, x.name, some x.description,
      num.write (num.ofInt doc.version), x.entry, x.fallbackNode, doc.published, x.tags⟩)

theorem assembleScenario_loadScenario (content : doc.content = x.dump) :
    assembleScenario num (loadScenario num (response num doc)) = parse num (redraft num x doc) := by
  rw [assembleScenario, fromGraph, loadScenario_meta content]
  simp only [loadScenario, toGraph_payloads, itemsOf_nodes content, itemsOf_edges content,
    canvas_edges]
  rfl

theorem resolvedEntry_received (checked : x.fields.Checked) (info : Dict F) :
    resolvedEntry (x.nodes.map fun node => (dumpNode node).replace num.received) info =
      .str x.entry := by
  rw [resolvedEntry]
  cases found : (x.nodes.map fun node => (dumpNode node).replace num.received).find? isStart with
  | some raw =>
    obtain ⟨record, inside, rfl⟩ := List.mem_map.mp (List.mem_of_find?_eq_some found)
    have start := List.find?_some found
    rw [isStart_received] at start
    have entry := checked.start_id (List.mem_map_of_mem inside) (of_decide_eq_true start)
    exact congrArg Value.str ((textOf_received record).trans entry)
  | none =>
    obtain ⟨start, mem, type, -⟩ := checked.exists_start
    obtain ⟨record, inside, rfl⟩ := List.mem_map.mp mem
    have refused := List.find?_eq_none.mp found _ (List.mem_map_of_mem inside)
    rw [isStart_received] at refused
    exact absurd (decide_eq_true type) refused

theorem entry_filled (valid : Valid py x) : x.entry ≠ "" := by
  have checked := validateGraph_isOk_iff.mp valid.graph
  obtain ⟨node, mem, same⟩ := List.mem_map.mp checked.entry_mem
  obtain ⟨record, inside, rfl⟩ := List.mem_map.mp mem
  exact (show record.id = x.entry from same) ▸ nodeIdPattern_filled (valid.nodeIds record inside)

/-- What is assembled, from what is read of the version and the nodes. -/
def again (num : Numbers F) (x : ScenarioRecord F) (published : Bool) (version : Int)
    (nodes : List (Node F)) : Scenario F where
  scenarioId := x.scenarioId
  tenantId := x.tenantId
  version := version
  name := x.name
  description := x.description
  entry := x.entry
  fallbackNode := some x.fallbackNode
  nodes := nodes
  edges := x.edges.map reopenedEdge
  limits := defaultLimits num
  tags := x.tags
  createdBy := none
  createdAt := none
  published := published

theorem assembledMeta_known (info : BuilderMeta F) :
    ∀ one ∈ assembledMeta num info, one.1 ∈ scenarioKeys := by
  have optional : ∀ one ∈ field "description" (nullish info.description : Option (Value F)),
      one.1 ∈ scenarioKeys := by
    have known : "description" ∈ scenarioKeys := by decide
    intro one mem
    obtain ⟨raw, -, rfl⟩ := List.mem_map.mp mem
    exact known
  simp only [assembledMeta, List.forall_mem_cons, List.forall_mem_append]
  exact ⟨by decide, by decide, by decide, by decide, optional, by decide, by decide, by decide, by decide,
    by decide, fun _ none => absurd none List.not_mem_nil⟩

theorem tenantId_read (valid : Valid py x) : checked tenantIdLength text
    (.str x.tenantId : Value F) =
    if utf16Length x.tenantId ≤ 64 then some x.tenantId else none := by
  have counts := length_le_utf16Length x.tenantId
  have filled := valid.tenantId
  simp only [Agentic.tenantIdLength, Bool.and_eq_true, decide_eq_true_eq] at filled
  have positive : 1 ≤ utf16Length x.tenantId := filled.1.trans counts.1
  rw [checked, text_str, Option.filter_some]
  simp [tenantIdLength, positive]

theorem parse_redraft_iff (valid : Valid py x) {s : Scenario F} :
    parse num (redraft num x doc) = some s ↔ utf16Length x.tenantId ≤ 64 ∧
      ∃ version, (num.integral (num.ofInt doc.version) = some version ∧ 1 ≤ version) ∧ x.name ≠ "" ∧
        x.description ≠ none ∧ ∃ nodes, readAll (readNode num)
            (x.nodes.map fun node => (dumpNode node).replace num.received) = some nodes ∧
          again num x doc.published version nodes = s := by
  have known : ∀ one ∈ redraft num x doc, one.1 ∈ scenarioKeys :=
    draft_known (assembledMeta_known _)
  have keys := draft_lookup (x.nodes.map fun node => (dumpNode node).replace num.received)
    (x.edges.map fun edge => (reopenedEdge edge).raw)
      (assembledMeta num ⟨x.scenarioId, x.tenantId, x.name,
      some x.description, num.write (num.ofInt doc.version), x.entry, x.fallbackNode, doc.published,
        x.tags⟩)
  have scenarioId : required (checked scenarioIdPattern text) "scenario_id" (redraft num x doc) =
      some x.scenarioId := by
    rw [required, redraft, keys "scenario_id" (by decide)]
    exact checked_some rfl valid.scenarioId
  have tenantId : required (checked tenantIdLength text) "tenant_id" (redraft num x doc) =
      if utf16Length x.tenantId ≤ 64 then some x.tenantId else none := by
    rw [required, redraft, keys "tenant_id" (by decide)]
    exact tenantId_read valid
  have version : defaulted (checked (1 ≤ ·) num.readInt) 1 "version" (redraft num x doc) =
      (num.integral (num.ofInt doc.version)).filter (1 ≤ ·) := by
    rw [defaulted, redraft, keys "version" (by decide)]
    exact congrArg (Option.filter _) (readInt_write _)
  have name : required (checked nonempty text) "name" (redraft num x doc) =
      if x.name = "" then none else some x.name := by
    rw [required, redraft, keys "name" (by decide)]
    simp [assembledMeta, List.lookup_cons, checked, nonempty, Option.filter_some]
  have description : maybe text "description" (redraft num x doc) = x.description.map some := by
    rw [maybe, defaulted, redraft, keys "description" (by decide)]
    cases x.description <;> rfl
  have entry : required (checked nonempty text) "entry" (redraft num x doc) = some x.entry := by
    rw [required, redraft, draft_entry, resolvedEntry_received
      (validateGraph_isOk_iff.mp valid.graph)]
    exact checked_some rfl (decide_eq_true (entry_filled valid))
  have fallbackNode : maybe (optional text) "fallback_node" (redraft num x doc) =
      some (some x.fallbackNode) := by
    rw [maybe, defaulted, redraft, keys "fallback_node" (by decide)]
    cases x.fallbackNode <;> rfl
  have nodes : required (list (readNode num)) "nodes" (redraft num x doc) =
      readAll (readNode num) (x.nodes.map fun node => (dumpNode node).replace num.received) := by
    rw [required, redraft, draft_nodes]
    rfl
  have edges : required (list readEdge) "edges" (redraft num x doc) =
      some (x.edges.map reopenedEdge) := by
    rw [required, redraft, draft_edges, Option.bind_some, list]
    exact (readAll_map_iff fun _ _ _ => readEdge_raw_iff).mpr ⟨valid.edgeEnds, rfl⟩
  have limits : defaulted (readLimits num) (defaultLimits num) "limits" (redraft num x doc) =
      some (defaultLimits num) := by
    rw [defaulted, redraft, keys "limits" (by decide)]
    exact readLimits_raw defaultLimits_sound
  have tags : defaulted (list text) [] "tags" (redraft num x doc) = some x.tags := by
    rw [defaulted, redraft, keys "tags" (by decide)]
    exact list_text x.tags
  have createdBy : maybe (optional text) "created_by" (redraft num x doc) = some none := by
    rw [maybe, defaulted, redraft, keys "created_by" (by decide)]
    cases x.description <;> rfl
  have createdAt : maybe (optional text) "created_at" (redraft num x doc) = some none := by
    rw [maybe, defaulted, redraft, keys "created_at" (by decide)]
    cases x.description <;> rfl
  have published : defaulted flag false "published" (redraft num x doc) = some doc.published := by
    rw [defaulted, redraft, keys "published" (by decide)]
    rfl
  rw [parse, if_pos known]
  simp only [readFields, scenarioId, tenantId, version, name, description, entry, fallbackNode,
    nodes, edges, limits, tags, createdBy, createdAt, published, Option.bind_eq_bind,
    Option.bind_some, Option.bind_eq_some_iff, Option.ite_none_right_eq_some, Option.some.injEq,
    Option.filter_eq_some_iff, decide_eq_true_eq, Option.ite_none_left_eq_some,
    Option.map_eq_some_iff, exists_exists_and_eq_and, ↓existsAndEq, and_true, ne_eq,
    and_congr_right_iff]
  refine fun short => ⟨?_, ?_⟩
  · rintro ⟨read, positive, named, text, described, nodes, all, rfl⟩
    exact ⟨read, positive, named, by simp [described], nodes, all, by rw [again, described]⟩
  · rintro ⟨read, positive, named, described, nodes, all, rfl⟩
    obtain ⟨text, set⟩ := Option.ne_none_iff_exists'.mp described
    exact ⟨read, positive, named, text, set, nodes, all, by rw [again, set]⟩

theorem again_agrees {version : Int} {nodes : List (Node F)} (limits : x.limits = defaultLimits num)
    (same : nodes.map Node.record = x.nodes.map (canonicalNode num)) :
    Agrees num x (again num x doc.published version nodes) where
  name := rfl
  description := rfl
  entry := rfl
  fallbackNode := rfl
  nodes := same
  edges := by
    simp only [again, List.map_map]
    exact (List.map_congr_left fun edge _ => reopened_edge_record edge).trans (List.map_id x.edges)
  limits := limits.symm
  tags := rfl

end Reopen

end Received

/-- A stored scenario survives being opened and assembled exactly when nothing in it
is null, renumbered, reset or dropped on the way. -/
theorem reopened_equal_iff (num : Numbers F) {py : Schema F} {x : ScenarioRecord F}
    (valid : Valid py x) {doc : Stored (Dict F)} (content : doc.content = x.dump) :
    (∃ s, assembleScenario num (loadScenario num (response num doc)) = some s ∧ Agrees num x s) ↔
      Kept num x doc.version := by
  rw [assembleScenario_loadScenario content]
  have nodes : (∃ parsed, readAll (readNode num)
      (x.nodes.map fun node => (dumpNode node).replace num.received) =
      some parsed ∧ parsed.map Node.record = x.nodes.map (canonicalNode num)) ↔
      ∀ node ∈ x.nodes, ∃ parsed, readNode num ((dumpNode node).replace num.received) =
        some parsed ∧ parsed.record = canonicalNode num node := readAll_view_iff
  constructor
  · rintro ⟨s, parsed, agrees⟩
    obtain ⟨short, version, read, named, described, parsedNodes, all, rfl⟩ :=
      (parse_redraft_iff valid).mp parsed
    refine ⟨short, ⟨version, read⟩, named, described, agrees.limits.symm, fun node mem => ?_⟩
    have each := nodes.mp ⟨parsedNodes, all, agrees.nodes⟩ node mem
    exact (keptNode_iff (valid.nodeIds node mem) (valid.labels node mem)).mp each
  · intro kept
    obtain ⟨parsedNodes, all, same⟩ := nodes.mpr fun node mem =>
      (keptNode_iff (valid.nodeIds node mem) (valid.labels node mem)).mpr (kept.nodes node mem)
    obtain ⟨version, read⟩ := kept.version
    refine ⟨_, (parse_redraft_iff valid).mpr ⟨kept.tenantId, version, read, kept.name,
      kept.description, parsedNodes, all, rfl⟩, again_agrees kept.limits same⟩

/-- The smallest scenario with the same text, or none, in every place for one. -/
def captioned (text : Option String) : ValidScenario strictSchema where
  toScenarioRecord := { greeting.toScenarioRecord with
    description := text
    nodes := [⟨"a", text, text, .start ⟨.inboundCall, none⟩⟩, ⟨"b", text, text, .end ⟨none⟩⟩] }
  valid := { greeting.valid with
    nodeIds := by
      simp only [List.forall_mem_cons]
      exact ⟨by decide +kernel, by decide +kernel, fun _ none => absurd none List.not_mem_nil⟩
    labels := by simp }

theorem captioned_reopened : ∃ s, assembleScenario wholeNumbers (loadScenario wholeNumbers
    (response wholeNumbers ((captioned (some "hello")).draft.stored "now" 1))) = some s ∧
      Agrees wholeNumbers (captioned (some "hello")).toScenarioRecord s := by
  refine (reopened_equal_iff wholeNumbers (captioned (some "hello")).valid rfl).mpr
    ⟨by decide +kernel, ⟨1, rfl, by decide⟩, by decide +kernel, by decide, rfl, ?_⟩
  exact List.forall_mem_cons.mpr ⟨⟨nofun, nofun, trivial⟩,
    List.forall_mem_singleton.mpr ⟨nofun, nofun, trivial⟩⟩

/-- Without a description and labels, as the backend allows, nothing is assembled. -/
theorem uncaptioned_not_reopened :
    (assembleScenario wholeNumbers (loadScenario wholeNumbers
        (response wholeNumbers ((captioned none).draft.stored "now" 1)))).isNone = true ∧
      ¬∃ s, assembleScenario wholeNumbers (loadScenario wholeNumbers
        (response wholeNumbers ((captioned none).draft.stored "now" 1))) = some s ∧
          Agrees wholeNumbers (captioned none).toScenarioRecord s := by
  have refused : (assembleScenario wholeNumbers (loadScenario wholeNumbers
      (response wholeNumbers ((captioned none).draft.stored "now" 1)))).isNone =
        true := by decide +kernel
  refine ⟨refused, fun ⟨s, assembled, _⟩ => ?_⟩
  rw [assembled] at refused
  cases refused

end AgentOE.Builder
