import AgentOE.Builder.Graph

/-! The validator of the builder and the backend's schema on the same JSON. -/
namespace AgentOE.Builder
open Json Agentic

variable {F : Type} (num : Numbers F) (py : Schema F)

/-! What arrives. -/

/-- A large number is written with an exponent, which is read as a float, and there
is no text for an infinite one. -/
def Numbers.sent : Value F → Value F
  | .int value => if value.natAbs < 10 ^ 21 then .int value else .float (num.ofInt value)
  | .float value => if num.finite value then .float value else .null
  | value => value

/-- A configuration as the backend has it. -/
def Config.record : Config F → NodeConfig F (Value F)
  | .start config => .start ⟨config.triggerType, config.greetingMessage.join⟩
  | .intent config => .intent config
  | .llm config => .llm config
  | .tool config => .tool config
  | .branch config => .branch config
  | .transfer config => .transfer config
  | .wait config => .wait config
  | .context config => .context config
  | .end config => .end ⟨config.closingMessage.join⟩

def mapSlots (f : Dict F → Dict F) : NodeConfig F (Value F) → NodeConfig F (Value F)
  | .context config => .context { config with setSlots := f config.setSlots }
  | config => config

def Config.posted (config : Config F) : NodeConfig F (Value F) :=
  mapSlots (replaceEntries num.sent) config.record

def Node.posted (node : Node F) : NodeRecord F :=
  ⟨node.id, node.label, node.description, node.config.posted num⟩

def Edge.record (edge : Edge) : EdgeRecord :=
  ⟨edge.from_, edge.to_, edge.when_.join, edge.label.join⟩

def Scenario.posted (s : Scenario F) : ScenarioRecord F where
  scenarioId := s.scenarioId
  tenantId := s.tenantId
  version := s.version
  name := s.name
  description := s.description
  entry := s.entry
  fallbackNode := s.fallbackNode.join
  nodes := s.nodes.map (Node.posted num)
  edges := s.edges.map Edge.record
  limits := s.limits
  tags := s.tags
  createdBy := s.createdBy.join
  createdAt := s.createdAt.join
  published := s.published

/-- The numbers for which there is such a text. -/
def Config.Portable : Config F → Prop
  | .intent config => num.finite config.threshold = true
  | .llm config => num.finite config.temperature = true ∧ config.maxTokens.natAbs < 10 ^ 21
  | .tool config => num.finite config.timeoutS = true ∧ config.retry.natAbs < 10 ^ 21
  | .wait config => num.finite config.timeoutS = true
  | _ => True

structure Scenario.Portable (s : Scenario F) : Prop where
  version : s.version.natAbs < 10 ^ 21
  nodes : ∀ node ∈ s.nodes, node.config.Portable num
  cost : num.finite s.limits.maxCostCentsPerSession = true

/-- How the backend reads numbers. -/
structure ReadsNumbers : Prop where
  scalars : py.toScalars.Lawful
  whole : ∀ value, py.float (.int value) = some (num.ofInt value)
  null : py.float .null = none
  large : ∀ value : Int, 10 ^ 21 ≤ value.natAbs → py.int (.float (num.ofInt value)) = none
  nonneg : ∀ value, num.nonneg value = true → py.nonneg value = true

section Read
variable {num py} (reads : ReadsNumbers num py)
include reads

theorem float_sent (value : F) : py.float ((num.write value).replace num.sent) =
    if num.finite value then some value else none := by
  unfold Numbers.write
  cases integral : num.integral value with
  | none =>
    simp only [Option.elim_none, Value.replace, Numbers.sent]
    split
    · exact reads.scalars.float value
    · exact reads.null
  | some n =>
    rw [if_pos (num.finite_integral integral), ← num.ofInt_integral integral]
    simp only [Option.elim_some, Value.replace, Numbers.sent]
    split
    · exact reads.whole n
    · exact reads.scalars.float _

theorem int_sent (value : Int) : py.int ((.int value : Value F).replace num.sent) =
    if value.natAbs < 10 ^ 21 then some value else none := by
  simp only [Value.replace, Numbers.sent]
  split
  next small => exact reads.scalars.int value
  next large => exact reads.large value (not_lt.mp large)

omit reads in
@[simp] theorem sent_str (value : String) : (.str value : Value F).replace num.sent = .str value :=
  rfl

omit reads in
@[simp] theorem sent_bool (value : Bool) : (.bool value : Value F).replace num.sent = .bool value :=
  rfl

theorem optionalStr_sent (value : Option String) :
    optionalStr py ((nullable .str value).replace num.sent) = some value := by
  have same : (nullable .str value : Value F).replace num.sent = nullable .str value := by
    cases value <;> rfl
  rw [same, optionalStr_nullable reads.scalars]

/-- An absent key and null are the same to the backend. -/
theorem nullish_sent (value : Option (Option String)) :
    ((nullish value).map (Value.replace num.sent)).elim (some none) (optionalStr py) =
      some value.join := by
  cases value with
  | none => rfl
  | some value => exact optionalStr_sent reads value

theorem absent_sent (value : Option String) :
    value.elim (some none) (optionalStr py ∘ Value.replace num.sent ∘ .str) = some value := by
  cases value with
  | none => rfl
  | some value => exact optionalStr_sent reads (some value)

theorem strings_sent (items : List String) :
    list py.str ((.arr (items.map .str) : Value F).replace num.sent) = some items := by
  rw [Value.replace_arr, List.map_map]
  exact list_arr fun item _ => reads.scalars.str item

theorem readConfig_sent_iff {config : Config F} (fits : config.Fits)
    {parsed : NodeConfig F (Value F)} :
    Agentic.readConfig py config.type (replaceEntries num.sent (config.raw num)) = some parsed ↔
      config.Portable num ∧ config.posted num = parsed := by
  have float := float_sent reads
  have int := int_sent reads
  have nullable := nullish_sent reads
  have absent := absent_sent reads
  have strings := strings_sent reads
  have str := reads.scalars.str
  have bool := reads.scalars.bool
  cases config with
  | start config =>
    have trigger : literal triggerTypes (.str config.triggerType.name : Value F) =
        some config.triggerType := by cases config.triggerType <;> rfl
    simp [Agentic.readConfig, Config.raw, Config.type, Config.posted, Config.record, mapSlots,
      Config.Portable, defaulted, lookup_replaceEntries, List.lookup_cons, lookup_field, trigger,
        nullable]
  | intent config =>
    have enough : checked (2 ≤ ·.length) (list py.str)
        ((.arr (config.labels.map .str) : Value F).replace num.sent) = some config.labels :=
      checked_some (strings config.labels) (decide_eq_true fits)
    simp [Agentic.readConfig, Config.raw, Config.type, Config.posted, Config.record, mapSlots,
      Config.Portable, required, defaulted, lookup_replaceEntries, List.lookup_cons,
      lookup_field_append, enough, absent, str, float, Option.bind_eq_some_iff]
  | llm config =>
    simp [Agentic.readConfig, Config.raw, Config.type, Config.posted, Config.record, mapSlots,
      Config.Portable, required, defaulted, lookup_replaceEntries, List.lookup_cons,
      lookup_field_append, absent, str, float, int, bool, and_assoc, Option.bind_eq_some_iff]
  | tool config =>
    have policy : literal errorPolicies (.str config.onError.name : Value F) =
        some config.onError := by cases config.onError <;> rfl
    have args : dict py.str ((.obj (config.argsTemplate.map fun arg => (arg.1, .str arg.2)) :
        Value F).replace num.sent) = some config.argsTemplate := by
      rw [Value.replace_obj, replaceEntries_eq_map, List.map_map]
      exact dict_obj str
    simp [Agentic.readConfig, Config.raw, Config.type, Config.posted, Config.record, mapSlots,
      Config.Portable, required, defaulted, lookup_replaceEntries, List.lookup_cons, policy, args,
      str, float, int, and_assoc, Option.bind_eq_some_iff]
  | branch config =>
    have mode : literal branchModes (.str config.mode.name : Value F) = some config.mode := by
      cases config.mode <;> rfl
    simp [Agentic.readConfig, Config.raw, Config.type, Config.posted, Config.record, mapSlots,
      Config.Portable, defaulted, lookup_replaceEntries, List.lookup_cons, lookup_field,
        mode, absent]
  | transfer config =>
    simp [Agentic.readConfig, Config.raw, Config.type, Config.posted, Config.record, mapSlots,
      Config.Portable, defaulted, lookup_replaceEntries, List.lookup_cons, str, bool]
  | wait config =>
    have prompt := optionalStr_sent reads config.promptOnTimeout
    simp [Agentic.readConfig, Config.raw, Config.type, Config.posted, Config.record, mapSlots,
      Config.Portable, defaulted, lookup_replaceEntries, List.lookup_cons, float, prompt,
      Option.bind_eq_some_iff]
  | context config =>
    have slots : dict some ((.obj config.setSlots : Value F).replace num.sent) =
        some (replaceEntries num.sent config.setSlots) := by
      rw [Value.replace_obj]
      simpa using @dict_obj F (Value F) some id (replaceEntries num.sent config.setSlots)
        fun _ => rfl
    simp [Agentic.readConfig, Config.raw, Config.type, Config.posted, Config.record, mapSlots,
      Config.Portable, defaulted, lookup_replaceEntries, List.lookup_cons, slots, strings]
  | «end» config =>
    simp [Agentic.readConfig, Config.raw, Config.type, Config.posted, Config.record, mapSlots,
      Config.Portable, defaulted, lookup_replaceEntries, lookup_field, nullable]

theorem readNode_sent_iff {node : Node F} (fits : node.Fits) {parsed : NodeRecord F} :
    Agentic.readNode py ((node.raw num).replace num.sent) = some parsed ↔
      node.config.Portable num ∧ node.posted num = parsed := by
  have type : literal nodeTypes (.str node.config.type.name : Value F) = some node.config.type := by
    cases node.config.type <;> rfl
  have identified : checked nodeIdPattern py.str (.str node.id) = some node.id :=
    checked_some (reads.scalars.str node.id) fits.id
  have config : Agentic.readNodeConfig py node.config.type
      (replaceEntries num.sent (("id", .str node.id) :: (field "label" (node.label.map .str) ++
        (field "description" (node.description.map .str) ++
          [("type", .str node.config.type.name), ("config", .obj (node.config.raw num))])))) =
      Agentic.readConfig py node.config.type (replaceEntries num.sent (node.config.raw num)) := by
    simp [Agentic.readNodeConfig, lookup_replaceEntries, List.lookup_cons, lookup_field_append,
      Value.replace_obj]
  have read : Agentic.readNode py ((node.raw num).replace num.sent) =
      (Agentic.readConfig py node.config.type (replaceEntries num.sent (node.config.raw num))).bind
        fun config => some ⟨node.id, node.label, node.description, config⟩ := by
    rw [← config]
    simp [Agentic.readNode, Node.raw, Value.replace_obj, lookup_replaceEntries, List.lookup_cons,
      lookup_field_append, type, identified, required, defaulted, absent_sent reads]
  simp only [read, Option.bind_eq_some_iff, Option.some.injEq,
    readConfig_sent_iff reads fits.config]
  constructor
  · rintro ⟨_, ⟨portable, rfl⟩, rfl⟩
    exact ⟨portable, rfl⟩
  · rintro ⟨portable, rfl⟩
    exact ⟨_, ⟨portable, rfl⟩, rfl⟩

theorem readEdge_sent {edge : Edge} (ends : nonempty edge.from_ = true ∧ nonempty edge.to_ = true) :
    Agentic.readEdge py ((edge.raw : Value F).replace num.sent) = some edge.record := by
  have source : checked nonempty py.str (.str edge.from_) = some edge.from_ :=
    checked_some (reads.scalars.str edge.from_) ends.1
  have target : checked nonempty py.str (.str edge.to_) = some edge.to_ :=
    checked_some (reads.scalars.str edge.to_) ends.2
  simp [Agentic.readEdge, Edge.raw, Edge.record, Value.replace_obj, required, defaulted,
    lookup_replaceEntries,
    List.lookup_cons, lookup_field_append, lookup_field, source, target, nullish_sent reads]

omit reads in
theorem between_small {low high value : Int} (inside : between low high value = true)
    (bounds : -10 ^ 21 < low ∧ high < 10 ^ 21) : value.natAbs < 10 ^ 21 := by
  have limits : low ≤ value ∧ value ≤ high := of_decide_eq_true inside
  omega

theorem readLimits_sent_iff {limits parsed : ScenarioLimits F} (sound : SoundLimits num limits) :
    Agentic.readLimits py ((rawLimits num limits).replace num.sent) = some parsed ↔
      num.finite limits.maxCostCentsPerSession = true ∧ limits = parsed := by
  have turns : checked (between 1 200) py.int ((.int limits.maxTurns : Value F).replace num.sent) =
      some limits.maxTurns := by
    refine checked_some ?_ sound.maxTurns
    rw [int_sent reads, if_pos (between_small sound.maxTurns (by decide))]
  have duration : checked (between 10 3600) py.int
      ((.int limits.maxDurationS : Value F).replace num.sent) =
      some limits.maxDurationS := by
    refine checked_some ?_ sound.maxDurationS
    rw [int_sent reads, if_pos (between_small sound.maxDurationS (by decide))]
  have calls : checked (between 0 10) py.int
      ((.int limits.maxToolCallsPerTurn : Value F).replace num.sent) =
          some limits.maxToolCallsPerTurn := by
    refine checked_some ?_ sound.maxToolCallsPerTurn
    rw [int_sent reads, if_pos (between_small sound.maxToolCallsPerTurn (by decide))]
  have cost : checked py.nonneg py.float
      ((num.write limits.maxCostCentsPerSession).replace num.sent) =
      if num.finite limits.maxCostCentsPerSession then some limits.maxCostCentsPerSession
      else none := by
    rw [checked, float_sent reads]
    split
    · exact Option.filter_some_pos (reads.nonneg _ sound.maxCostCentsPerSession)
    · rfl
  simp [Agentic.readLimits, rawLimits, Value.replace_obj, lookup_replaceEntries, defaulted,
    List.lookup_cons, turns, duration, calls, cost, Option.bind_eq_some_iff]

omit reads in
theorem length_le_utf16Length (s : String) : s.length ≤ utf16Length s ∧
    utf16Length s ≤ 2 * s.length := by
  have count : ∀ chars : List Char, let units :=
    (chars.map fun c => if c.toNat < 0x10000 then 1 else 2).sum
      chars.length ≤ units ∧ units ≤ 2 * chars.length := by
    intro chars
    induction chars with
    | nil => simp
    | cons c chars ih =>
      simp only [List.map_cons, List.sum_cons, List.length_cons] at ih ⊢
      split <;> omega
  rw [utf16Length, ← String.length_toList]
  exact count s.toList

omit reads in
/-- The backend counts fewer characters. -/
theorem tenantIdLength_backend {id : String} (accepted : tenantIdLength id = true) :
    Agentic.tenantIdLength id = true := by
  have counts := length_le_utf16Length id
  simp only [tenantIdLength, Agentic.tenantIdLength, Bool.and_eq_true, decide_eq_true_eq]
    at accepted ⊢
  omega

theorem readFields_sent_iff {s : Scenario F} (sound : s.Sound num) {x : ScenarioRecord F} :
    Agentic.readFields py (replaceEntries num.sent (s.raw num)) = some x ↔
      s.Portable num ∧ s.posted num = x := by
  have str := reads.scalars.str
  have scenarioId : checked scenarioIdPattern py.str (.str s.scenarioId) = some s.scenarioId :=
    checked_some (str _) sound.scenarioId
  have tenantId : checked Agentic.tenantIdLength py.str (.str s.tenantId) = some s.tenantId :=
    checked_some (str _) (tenantIdLength_backend sound.tenantId)
  have version : checked (1 ≤ ·) py.int ((.int s.version : Value F).replace num.sent) =
      if s.version.natAbs < 10 ^ 21 then some s.version else none := by
    rw [checked, int_sent reads]
    split
    · exact Option.filter_some_pos (decide_eq_true sound.version)
    · rfl
  have nodes : ∀ parsed, list (Agentic.readNode py)
      ((.arr (s.nodes.map (Node.raw num)) : Value F).replace num.sent) = some parsed ↔
        (∀ node ∈ s.nodes, node.config.Portable num) ∧ s.nodes.map (Node.posted num) = parsed := by
    intro parsed
    rw [Value.replace_arr, List.map_map, list]
    exact readAll_map_iff fun node mem _ => readNode_sent_iff reads (sound.nodes node mem).toFits
  have edges : list (Agentic.readEdge py)
      ((.arr (s.edges.map Edge.raw) : Value F).replace num.sent) =
          some (s.edges.map Edge.record) := by
    have each : ∀ edge ∈ s.edges, ∀ value, Agentic.readEdge py
        ((edge.raw : Value F).replace num.sent) =
        some value ↔ True ∧ edge.record = value := by
      intro edge mem value
      rw [readEdge_sent reads (sound.edges edge mem), Option.some.injEq, true_and]
    rw [Value.replace_arr, List.map_map, list]
    exact (readAll_map_iff each).mpr ⟨fun _ _ => trivial, rfl⟩
  have limits := fun parsed => @readLimits_sent_iff F num py reads s.limits parsed sound.limits
  have texts := strings_sent reads s.tags
  simp [Agentic.readFields, Scenario.raw, Scenario.meta, required, defaulted, lookup_replaceEntries,
    List.lookup_cons, lookup_field_append, scenarioId, tenantId, version, nodes, edges, limits,
    texts, str, reads.scalars.bool, absent_sent reads, nullish_sent reads, Option.bind_eq_some_iff]
  constructor
  · rintro ⟨version, nodes, cost, rfl⟩
    exact ⟨⟨version, nodes, cost⟩, rfl⟩
  · rintro ⟨portable, rfl⟩
    exact ⟨portable.version, portable.nodes, portable.cost, rfl⟩

omit reads in
theorem raw_known (s : Scenario F) : ∀ one ∈ replaceEntries num.sent (s.raw num),
    one.1 ∈ scenarioKeys := by
  rw [replaceEntries_eq_map, List.forall_mem_map, Scenario.raw, List.forall_mem_append]
  exact ⟨meta_known s, by simp [scenarioKeys]⟩

theorem validate_sent_iff {s : Scenario F} (sound : s.Sound num) :
    (validate py (replaceEntries num.sent (s.raw num))).isSome = true ↔
      s.Portable num ∧ (s.posted num).fields.Checked := by
  rw [validate, if_pos (raw_known s), Option.isSome_iff_exists]
  simp only [Option.filter_eq_some_iff, readFields_sent_iff reads sound, validateGraph_isOk_iff]
  constructor
  · rintro ⟨_, ⟨portable, rfl⟩, accepted⟩
    exact ⟨portable, accepted⟩
  · rintro ⟨portable, checked⟩
    exact ⟨_, ⟨portable, rfl⟩, checked⟩

end Read

/-! The validator. -/

inductive Severity where
  | error
  | warning
  deriving DecidableEq

structure GraphValidationIssue where
  severity : Severity
  code : String
  message : String
  nodeId : Option String
  edgeIndex : Option Nat
  deriving DecidableEq

def duplicateIssues : List String → List (Node F) → List GraphValidationIssue
  | _, [] => []
  | idSet, node :: nodes =>
    (if node.id ∈ idSet then
      [⟨.error, "DUPLICATE_NODE_ID", "중복된 노드 id: " ++ node.id, some node.id, none⟩]
    else []) ++ duplicateIssues (node.id :: idSet) nodes

def startIssues (nodes : List (Node F)) : List GraphValidationIssue :=
  match nodes.filter (·.config.type = .start) with
  | [] => [⟨.error, "START_NODE_MISSING",
      "시나리오에 Start 노드가 없습니다. 팔레트에서 Start 노드를 추가하세요.", none, none⟩]
  | [_] => []
  | startNodes => [⟨.error, "START_NODE_DUPLICATE",
      "Start 노드가 " ++ toString startNodes.length ++ "개입니다. 정확히 1개만 허용됩니다.", none, none⟩]

def endIssues (nodes : List (Node F)) : List GraphValidationIssue :=
  match nodes.filter (·.config.type = .end) with
  | [] => [⟨.error, "END_NODE_MISSING",
      "시나리오에 End 노드가 없습니다. 반드시 1개 이상 추가하세요.", none, none⟩]
  | _ => []

def entryIssues (s : Scenario F) : List GraphValidationIssue :=
  if s.entry ∈ s.nodes.map Node.id then []
  else [⟨.error, "ENTRY_MISSING", "entry 노드 '" ++ s.entry ++ "' 가 그래프에 없습니다", none, none⟩]

/-- The fallback node, if there is one and it is not empty. -/
def Scenario.fallback (s : Scenario F) : Option String := s.fallbackNode.join.filter (· ≠ "")

def fallbackIssues (s : Scenario F) : List GraphValidationIssue :=
  match s.fallback.filter (· ∉ s.nodes.map Node.id) with
  | some fallback => [⟨.error, "FALLBACK_MISSING",
      "fallback_node '" ++ fallback ++ "' 가 그래프에 없습니다", none, none⟩]
  | none => []

def edgeIssues (idSet : List String) (idx : Nat) (edge : Edge) : List GraphValidationIssue :=
  (if edge.from_ ∈ idSet then []
  else [⟨.error, "EDGE_FROM_MISSING", "엣지 from='" ++ edge.from_ ++ "' 가 그래프에 없습니다", none,
    some idx⟩]) ++
  if edge.to_ ∈ idSet then []
  else [⟨.error, "EDGE_TO_MISSING", "엣지 to='" ++ edge.to_ ++ "' 가 그래프에 없습니다", none, some idx⟩]

/-- The edges as the loop sees them. -/
def Scenario.links (s : Scenario F) : List Agentic.Edge :=
  s.edges.map fun edge => ⟨edge.from_, edge.to_, edge.when_.join⟩

def unreachableIssues (s : Scenario F) : List GraphValidationIssue :=
  if s.entry ∈ s.nodes.map Node.id then
    ((s.nodes.map Node.id).eraseDups.filter fun id =>
      some id ≠ s.fallbackNode.join ∧ id ∉ reachableFrom s.links [s.entry]).map fun id =>
        ⟨.warning, "UNREACHABLE_NODE", "entry 에서 도달 불가: " ++ id, some id, none⟩
  else []

def validateGraph (s : Scenario F) : List GraphValidationIssue :=
  duplicateIssues [] s.nodes ++ startIssues s.nodes ++ endIssues s.nodes ++ entryIssues s ++
    fallbackIssues s ++ (s.edges.mapIdx (edgeIssues (s.nodes.map Node.id))).flatten ++
      unreachableIssues s

def NoErrors (issues : List GraphValidationIssue) : Prop :=
  ∀ issue ∈ issues, issue.severity ≠ .error

/-- What the errors rule out. -/
structure Scenario.Drawn (s : Scenario F) : Prop where
  unique : (s.nodes.map Node.id).Nodup
  start : ∃ start, s.nodes.filter (·.config.type = .start) = [start]
  finish : ∃ node ∈ s.nodes, node.config.type = .end
  entry : s.entry ∈ s.nodes.map Node.id
  fallback : ∀ fallback, s.fallback = some fallback → fallback ∈ s.nodes.map Node.id
  ends : ∀ edge ∈ s.edges, edge.from_ ∈ s.nodes.map Node.id ∧ edge.to_ ∈ s.nodes.map Node.id

theorem noErrors_append {issues more : List GraphValidationIssue} :
    NoErrors (issues ++ more) ↔ NoErrors issues ∧ NoErrors more := List.forall_mem_append

theorem noErrors_nil : NoErrors [] := fun _ mem => absurd mem List.not_mem_nil

theorem not_noErrors {issue : GraphValidationIssue} (error : issue.severity = .error) :
    ¬NoErrors [issue] := fun none => none issue (List.mem_singleton.mpr rfl) error

theorem duplicateIssues_iff (idSet : List String) (nodes : List (Node F)) :
    NoErrors (duplicateIssues idSet nodes) ↔
      (nodes.map Node.id).Nodup ∧ ∀ node ∈ nodes, node.id ∉ idSet := by
  induction nodes generalizing idSet with
  | nil => simp [duplicateIssues, noErrors_nil]
  | cons node nodes ih =>
    rw [duplicateIssues, noErrors_append, ih, List.map_cons, List.nodup_cons, List.forall_mem_cons]
    split
    next seen => exact iff_of_false (fun both => not_noErrors rfl both.1) fun both => both.2.1 seen
    next fresh =>
      simp only [noErrors_nil, true_and, List.mem_cons, not_or]
      constructor
      · rintro ⟨unique, others⟩
        refine ⟨⟨fun again => ?_, unique⟩, fresh, fun other mem => (others other mem).2⟩
        obtain ⟨other, mem, same⟩ := List.mem_map.mp again
        exact (others other mem).1 same
      · rintro ⟨⟨alone, unique⟩, -, others⟩
        exact ⟨unique, fun other mem =>
          ⟨fun same => alone (same ▸ List.mem_map_of_mem mem), others other mem⟩⟩

theorem startIssues_iff {nodes : List (Node F)} : NoErrors (startIssues nodes) ↔
    ∃ start, nodes.filter (·.config.type = .start) = [start] := by
  unfold startIssues
  split
  next none => exact iff_of_false (not_noErrors rfl) (by simp [none])
  next start only => exact iff_of_true noErrors_nil ⟨start, only⟩
  next startNodes some several => exact iff_of_false (not_noErrors rfl) fun ⟨start, only⟩ => several start only

theorem endIssues_iff {nodes : List (Node F)} : NoErrors (endIssues nodes) ↔
    ∃ node ∈ nodes, node.config.type = .end := by
  unfold endIssues
  split
  next none =>
    refine iff_of_false (not_noErrors rfl) ?_
    simpa using none
  next some =>
    refine iff_of_true noErrors_nil ?_
    simpa using some

theorem fallbackIssues_iff {s : Scenario F} : NoErrors (fallbackIssues s) ↔
    ∀ fallback, s.fallback = some fallback → fallback ∈ s.nodes.map Node.id := by
  unfold fallbackIssues
  split
  next fallback missing =>
    obtain ⟨set, outside⟩ := Option.filter_eq_some_iff.mp missing
    exact iff_of_false (not_noErrors rfl) fun all => of_decide_eq_true outside (all fallback set)
  next none =>
    refine iff_of_true noErrors_nil fun fallback set => ?_
    have inside := Option.filter_eq_none_iff.mp none fallback set
    simpa using inside

theorem edgeIssues_iff {idSet : List String} {idx : Nat} {edge : Edge} :
    NoErrors (edgeIssues idSet idx edge) ↔ edge.from_ ∈ idSet ∧ edge.to_ ∈ idSet := by
  rw [edgeIssues, noErrors_append]
  refine and_congr ?_ ?_
  · split
    next inside => exact iff_of_true noErrors_nil inside
    next outside => exact iff_of_false (not_noErrors rfl) outside
  · split
    next inside => exact iff_of_true noErrors_nil inside
    next outside => exact iff_of_false (not_noErrors rfl) outside

theorem unreachableIssues_noErrors (s : Scenario F) : NoErrors (unreachableIssues s) := by
  unfold unreachableIssues
  split
  · intro issue mem
    obtain ⟨id, -, rfl⟩ := List.mem_map.mp mem
    exact Severity.noConfusion
  · exact noErrors_nil

/-- The validator finds no error in a drawn scenario, and in no other. -/
theorem validateGraph_iff {s : Scenario F} : NoErrors (validateGraph s) ↔ s.Drawn := by
  have entry : NoErrors (entryIssues s) ↔ s.entry ∈ s.nodes.map Node.id := by
    unfold entryIssues
    split
    next inside => exact iff_of_true noErrors_nil inside
    next outside => exact iff_of_false (not_noErrors rfl) outside
  have edges : NoErrors (s.edges.mapIdx (edgeIssues (s.nodes.map Node.id))).flatten ↔
      ∀ edge ∈ s.edges, edge.from_ ∈ s.nodes.map Node.id ∧ edge.to_ ∈ s.nodes.map Node.id := by
    constructor
    · intro none edge mem
      obtain ⟨idx, bound, same⟩ := List.mem_iff_getElem.mp mem
      have clear : NoErrors (edgeIssues (s.nodes.map Node.id) idx edge) := fun issue inside =>
        none issue (List.mem_flatten.mpr ⟨_, List.mem_mapIdx.mpr ⟨idx, bound, by rw [same]⟩,
          inside⟩)
      exact edgeIssues_iff.mp clear
    · intro all issue mem
      obtain ⟨issues, among, inside⟩ := List.mem_flatten.mp mem
      obtain ⟨idx, bound, rfl⟩ := List.mem_mapIdx.mp among
      exact edgeIssues_iff.mpr (all _ (List.getElem_mem bound)) issue inside
  rw [validateGraph]
  simp only [noErrors_append, duplicateIssues_iff, startIssues_iff, endIssues_iff, entry,
    fallbackIssues_iff, edges, unreachableIssues_noErrors]
  constructor
  · rintro ⟨⟨⟨⟨⟨⟨⟨unique, -⟩, start⟩, finish⟩, entry⟩, fallback⟩, ends⟩, -⟩
    exact ⟨unique, start, finish, entry, fallback, ends⟩
  · intro drawn
    exact ⟨⟨⟨⟨⟨⟨⟨drawn.unique, fun _ _ => List.not_mem_nil⟩, drawn.start⟩, drawn.finish⟩,
      drawn.entry⟩, drawn.fallback⟩, drawn.ends⟩, trivial⟩

/-- What the backend asks for besides. -/
structure Scenario.SafeToPost (num : Numbers F) (s : Scenario F) : Prop where
  entry : ∀ node ∈ s.nodes, node.config.type = .start → node.id = s.entry
  reached : ∀ node ∈ s.nodes, s.fallbackNode.join ≠ some node.id →
    Relation.ReflTransGen (Leads s.links) s.entry node.id
  portable : s.Portable num

section Fields
variable {num}

theorem posted_type (config : Config F) : (config.posted num).type = config.type := by
  cases config <;> rfl

theorem posted_ids (s : Scenario F) :
    (s.posted num).fields.nodes.map Agentic.Node.id = s.nodes.map Node.id := by
  simp only [ScenarioRecord.fields, Scenario.posted, List.map_map]
  rfl

theorem posted_links (s : Scenario F) : (s.posted num).fields.edges = s.links := by
  simp only [ScenarioRecord.fields, Scenario.posted, List.map_map]
  rfl

theorem posted_start (s : Scenario F) : ((s.posted num).fields.nodes.filter (·.type = .start)).map
    Agentic.Node.id = (s.nodes.filter (·.config.type = .start)).map Node.id := by
  simp only [ScenarioRecord.fields, Scenario.posted, List.map_map, List.filter_map,
    Function.comp_def, Node.posted, posted_type]

theorem nodeIdPattern_filled {id : String} (identified : nodeIdPattern id = true) : id ≠ "" := by
  rintro rfl
  revert identified
  decide

theorem fallback_eq_some_iff {s : Scenario F} {id : String} (identified : nodeIdPattern id = true) :
    s.fallback = some id ↔ s.fallbackNode.join = some id := by
  rw [Scenario.fallback, Option.filter_eq_some_iff]
  exact and_iff_left (decide_eq_true (nodeIdPattern_filled identified))

theorem checked_iff {s : Scenario F} (sound : s.Sound num) (drawn : s.Drawn) :
    (s.posted num).fields.Checked ↔
      (∀ node ∈ s.nodes, node.config.type = .start → node.id = s.entry) ∧
        ∀ node ∈ s.nodes, s.fallbackNode.join ≠ some node.id →
          Relation.ReflTransGen (Leads s.links) s.entry node.id := by
  have starts := @posted_start F num s
  constructor
  · intro checked
    obtain ⟨start, only, entry⟩ := checked.start
    refine ⟨fun node mem type => ?_, fun node mem other => ?_⟩
    · rw [only] at starts
      have among : node.id ∈ (s.nodes.filter (·.config.type = .start)).map Node.id :=
        List.mem_map_of_mem (List.mem_filter.mpr ⟨mem, decide_eq_true type⟩)
      rw [← starts] at among
      exact (List.mem_singleton.mp among).trans entry.symm
    · have path := checked.reached node.id (posted_ids s ▸ List.mem_map_of_mem mem) fun set =>
        other ((fallback_eq_some_iff (sound.nodes node mem).id).mp set)
      rwa [posted_links] at path
  · rintro ⟨entry, reached⟩
    obtain ⟨start, only⟩ := drawn.start
    have first : start ∈ s.nodes ∧ start.config.type = .start := by
      have among : start ∈ s.nodes.filter (·.config.type = .start) := by simp [only]
      obtain ⟨mem, type⟩ := List.mem_filter.mp among
      exact ⟨mem, of_decide_eq_true type⟩
    refine ⟨posted_ids s ▸ drawn.unique, ?_, posted_ids s ▸ drawn.fallback, ?_, ?_⟩
    · rw [only, List.map_singleton, List.map_eq_singleton_iff] at starts
      obtain ⟨record, alone, same⟩ := starts
      exact ⟨record, alone, ((entry start first.1 first.2).symm.trans same.symm)⟩
    · rw [posted_ids, posted_links]
      intro edge mem
      obtain ⟨old, inside, rfl⟩ := List.mem_map.mp mem
      exact drawn.ends old inside
    · rw [posted_ids, posted_links]
      intro id mem other
      obtain ⟨node, inside, rfl⟩ := List.mem_map.mp mem
      exact reached node inside fun set =>
        other ((fallback_eq_some_iff (sound.nodes node inside).id).mpr set)

end Fields

/-- Without errors, the backend accepts what is safe to post. -/
theorem no_errors_accepted_iff {num : Numbers F} {py : Schema F} (reads : ReadsNumbers num py)
    {draft : Dict F} {s : Scenario F} (parsed : parse num draft = some s)
    (none : NoErrors (validateGraph s)) :
    (validate py (replaceEntries num.sent (s.raw num))).isSome = true ↔ s.SafeToPost num := by
  have sound := parse_sound parsed
  rw [validate_sent_iff reads sound, checked_iff sound (validateGraph_iff.mp none)]
  exact ⟨fun ⟨portable, entry, reached⟩ => ⟨entry, reached, portable⟩,
    fun safe => ⟨safe.portable, safe.entry, safe.reached⟩⟩

/-- Reads whole numbers, and no float for an integer. -/
def wholeSchema : Schema Int :=
  { strictSchema with
    float := fun
      | .int value | .float value => some value
      | _ => none }

theorem wholeSchema_reads : ReadsNumbers wholeNumbers wholeSchema where
  scalars := ⟨fun _ => rfl, fun _ => rfl, fun _ => rfl, fun _ => rfl⟩
  whole _ := rfl
  null := rfl
  large _ _ := rfl
  nonneg _ positive := positive

/-- A start node and an end node. -/
def sketch (edges : List Edge) : Scenario Int where
  scenarioId := "sc_sketch"
  tenantId := "t"
  version := 1
  name := "sketch"
  description := none
  entry := "start_1"
  fallbackNode := none
  nodes := [⟨"start_1", none, none, .start ⟨.inboundCall, none⟩⟩,
    ⟨"end_1", none, none, .end ⟨none⟩⟩]
  edges := edges
  limits := defaultLimits wholeNumbers
  tags := []
  createdBy := none
  createdAt := none
  published := false

theorem connected_sketch_accepted :
    (validate wholeSchema (replaceEntries wholeNumbers.sent
      ((sketch [⟨"start_1", "end_1", none, none⟩]).raw wholeNumbers))).isSome = true := by
  have parsed : parse wholeNumbers ((sketch [⟨"start_1", "end_1", none, none⟩]).raw wholeNumbers) =
      some (sketch [⟨"start_1", "end_1", none, none⟩]) := by rfl
  have clear : NoErrors (validateGraph (sketch [⟨"start_1", "end_1", none, none⟩])) := by
    unfold NoErrors
    decide +kernel
  refine (no_errors_accepted_iff wholeSchema_reads parsed clear).mpr ⟨?_, ?_, ?_⟩
  · simp [sketch, Config.type]
  · have path : Relation.ReflTransGen (Leads (sketch [⟨"start_1", "end_1", none, none⟩]).links)
        "start_1" "end_1" := .single ⟨_, List.mem_singleton.mpr rfl, rfl, rfl⟩
    exact List.forall_mem_cons.mpr ⟨fun _ => .refl, List.forall_mem_singleton.mpr fun _ => path⟩
  · exact ⟨by decide, by simp [sketch, Config.Portable], rfl⟩

/-- Without the edge there is only a warning. -/
theorem loose_sketch_refused :
    parse wholeNumbers ((sketch []).raw wholeNumbers) = some (sketch []) ∧
      NoErrors (validateGraph (sketch [])) ∧
      (validate wholeSchema (replaceEntries wholeNumbers.sent
        ((sketch []).raw wholeNumbers))).isSome =
        false := by
  refine ⟨by rfl, ?_, by decide +kernel⟩
  unfold NoErrors
  decide +kernel

end AgentOE.Builder
