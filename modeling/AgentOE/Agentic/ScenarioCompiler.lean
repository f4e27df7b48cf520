import AgentOE.Agentic.ScenarioDsl

/-! From a scenario to a state graph. The graph library is a parameter: an
arbitrary builder whose operations may raise. So are the node factories, which
only build closures over a configuration and the service bundle. -/
namespace AgentOE.Agentic

inductive Target where
  | node (id : String)
  | «end»
  deriving DecidableEq

/-- The builder `StateGraph` and what can be seen of it. -/
structure StateGraph (B F D : Type) where
  new : B
  addNode : B → String → F → Except String B
  addEdge : B → String → Target → Except String B
  addConditionalEdges : B → String → D → List (String × Target) → Except String B
  setEntryPoint : B → String → Except String B
  nodes : B → List String
  edgesFrom : B → String → List Target
  entry : B → Option String

/-- The factories `make_*_node`, applied to the services. -/
structure ServiceBundle (K F D : Type) where
  makeIntentNode : K → F
  makeLlmNode : K → F
  makeToolNode : K → F
  makeBranchNode : K → F
  makeTransferNode : K → F
  makeWaitNode : K → F
  makeContextNode : K → F
  makeEndNode : K → F
  makeBranchDispatcher : Node K → List Edge → D

/-- `graph` is missing after a dry run. -/
structure CompiledScenario (B : Type) where
  graph : Option B
  nodeCount : Nat
  edgeCount : Nat
  waitNodeIds : List String
  dryRun : Bool

variable {K B F D : Type}

/-- The chain of `isinstance` tests, in the order of the source. -/
def makeNode (services : ServiceBundle K F D) (node : Node K) : Except String F :=
  match node.type with
  | .intent => .ok (services.makeIntentNode node.config)
  | .llm => .ok (services.makeLlmNode node.config)
  | .tool => .ok (services.makeToolNode node.config)
  | .branch => .ok (services.makeBranchNode node.config)
  | .transfer => .ok (services.makeTransferNode node.config)
  | .wait => .ok (services.makeWaitNode node.config)
  | .context => .ok (services.makeContextNode node.config)
  | .end => .ok (services.makeEndNode node.config)
  | .start => .error "Unknown node type: StartNode"

def addNodes (lib : StateGraph B F D) (services : ServiceBundle K F D) :
    List (Node K) → B → Except String B
  | [], builder => .ok builder
  | node :: nodes, builder =>
    (makeNode services node).bind fun fn =>
      (lib.addNode builder node.id fn).bind fun next => addNodes lib services nodes next

/-- Python's `dict` assignment: an existing key keeps its place. -/
def dictSet [DecidableEq α] (key : α) (value : β) : List (α × β) → List (α × β)
  | [] => [(key, value)]
  | (k, v) :: rest => if k = key then (k, value) :: rest else (k, v) :: dictSet key value rest

theorem lookup_dictSet (name key : String) (value : β) (entries : List (String × β)) :
    (dictSet key value entries).lookup name =
      if name == key then some value else entries.lookup name := by
  induction entries with
  | nil => cases same : name == key <;> simp [dictSet, List.lookup_cons, same]
  | cons entry entries ih =>
    obtain ⟨stored, known⟩ := entry
    rw [dictSet]
    split
    next found =>
      subst found
      cases same : name == stored <;> simp [List.lookup_cons, same]
    next other =>
      cases here : name == stored with
      | false => simp only [List.lookup_cons, here, ih]
      | true =>
        have different : (name == key) = false := by
          rw [beq_iff_eq.mp here]
          exact beq_false_of_ne other
        simp [List.lookup_cons, here, different]

/-- The targets of a branch, with the scenario's fallback where it has no default. -/
def branchMapping (s : ScenarioFields K) (outgoing : List Edge) : List (String × String) :=
  let mapping := outgoing.foldl
    (fun mapping edge => dictSet ((edge.when_.filter (· ≠ "")).getD "default") edge.to_ mapping) []
  if mapping.any (·.1 = "default") then mapping
  else s.fallback.elim mapping fun fallback => mapping ++ [("default", fallback)]

def identityMapping (mapping : List (String × String)) : List (String × Target) :=
  dictSet "__end__" .end
    (mapping.foldl (fun targets entry => dictSet entry.2 (.node entry.2) targets) [])

def ScenarioFields.outgoing (s : ScenarioFields K) (id : String) : List Edge :=
  s.edges.filter (·.from_ = id)

/-- The edges out of one node. -/
def addNodeEdges (lib : StateGraph B F D) (services : ServiceBundle K F D)
    (s : ScenarioFields K) (node : Node K) (builder : B) : Except String B :=
  let outgoing := s.outgoing node.id
  match node.type with
  | .branch => lib.addConditionalEdges builder node.id
      (services.makeBranchDispatcher node outgoing) (identityMapping (branchMapping s outgoing))
  | .transfer | .end => lib.addEdge builder node.id .end
  | _ => match outgoing with
    | [] => lib.addEdge builder node.id .end
    | [edge] => lib.addEdge builder node.id (.node edge.to_)
    | edges => .error ("Non-branch node '" ++ node.id ++ "' has " ++ toString edges.length ++
        " outgoing edges")

def addEdges (lib : StateGraph B F D) (services : ServiceBundle K F D) (s : ScenarioFields K) :
    List (Node K) → B → Except String B
  | [], builder => .ok builder
  | node :: nodes, builder =>
    (addNodeEdges lib services s node builder).bind fun next => addEdges lib services s nodes next

def waitNodeIds (s : ScenarioFields K) : List String :=
  (s.nodes.filter (·.type = .wait)).map Node.id

/-- With the graph library installed. -/
def compileScenario (lib : StateGraph B F D) (services : ServiceBundle K F D)
    (s : ScenarioFields K) : Except String (CompiledScenario B) :=
  (addNodes lib services s.nodes lib.new).bind fun withNodes =>
    (addEdges lib services s s.nodes withNodes).bind fun withEdges =>
      (lib.setEntryPoint withEdges s.entry).map fun graph =>
        ⟨some graph, s.nodes.length, s.edges.length, waitNodeIds s, false⟩

def dryRunCompile (B : Type) (s : ScenarioFields K) : CompiledScenario B :=
  ⟨none, s.nodes.length, s.edges.length, waitNodeIds s, true⟩

/-- The compiled graph has the scenario's nodes, entry and edges, and its counts
are those of a dry run. -/
structure Compiles (lib : StateGraph B F D) (s : ScenarioFields K)
    (compiled : CompiledScenario B) : Prop where
  graph : ∃ graph, compiled.graph = some graph ∧
    lib.nodes graph = s.nodes.map Node.id ∧ lib.entry graph = some s.entry ∧
    (∀ node ∈ s.nodes, node.type ∉ [.branch, .transfer, .end] → ∀ edge,
      s.outgoing node.id = [edge] → lib.edgesFrom graph node.id = [.node edge.to_]) ∧
    ∀ node ∈ s.nodes, node.type ∈ [.transfer, .end] ∨
        (node.type ≠ .branch ∧ s.outgoing node.id = []) →
      lib.edgesFrom graph node.id = [.end]
  counts : compiled.nodeCount = (dryRunCompile B s).nodeCount ∧
    compiled.edgeCount = (dryRunCompile B s).edgeCount ∧
    compiled.waitNodeIds = (dryRunCompile B s).waitNodeIds

theorem validateGraph_start {s : ScenarioFields K} (valid : validateGraph s = .ok ()) :
    ∃ node ∈ s.nodes, node.type = .start := by
  obtain ⟨start, mem, type, -⟩ := (validateGraph_ok_iff.mp valid).exists_start
  exact ⟨start, mem, type⟩

/-- The compiler has no branch for the start node. -/
theorem addNodes_start (lib : StateGraph B F D) (services : ServiceBundle K F D)
    {nodes : List (Node K)} (start : ∃ node ∈ nodes, node.type = .start) (builder : B) :
    ∃ message, addNodes lib services nodes builder = .error message := by
  induction nodes generalizing builder with
  | nil =>
    obtain ⟨node, mem, -⟩ := start
    cases mem
  | cons first nodes ih =>
    rw [addNodes]
    cases made : makeNode services first with
    | error message => exact ⟨message, rfl⟩
    | ok fn =>
      cases added : lib.addNode builder first.id fn with
      | error message => exact ⟨message, by simp [Except.bind, added]⟩
      | ok next =>
        obtain ⟨node, mem, type⟩ := start
        rcases List.mem_cons.mp mem with rfl | mem
        · simp [makeNode, type] at made
        · obtain ⟨message, failed⟩ := ih ⟨node, mem, type⟩ next
          exact ⟨message, by simp [Except.bind, added, failed]⟩

theorem compileScenario_raises (lib : StateGraph B F D) (services : ServiceBundle K F D)
    (s : Scenario K) :
    ∃ message, compileScenario lib services s.toScenarioFields = .error message := by
  obtain ⟨message, failed⟩ := addNodes_start lib services (validateGraph_start s.graph) lib.new
  exact ⟨message, by rw [compileScenario, failed]; rfl⟩

/-- No accepted scenario compiles, whatever the graph library and the services. -/
theorem scenario_never_compiles (lib : StateGraph B F D) (services : ServiceBundle K F D)
    (s : Scenario K) : ¬∃ compiled, compileScenario lib services s.toScenarioFields = .ok compiled ∧
      Compiles lib s.toScenarioFields compiled := by
  rintro ⟨compiled, succeeded, -⟩
  obtain ⟨message, failed⟩ := compileScenario_raises lib services s
  rw [failed] at succeeded
  cases succeeded

/-- A graph library that records what it is told. -/
structure Recorded where
  nodes : List String
  edges : List (String × Target)
  entry : Option String

def recorder : StateGraph Recorded Unit Unit where
  new := ⟨[], [], none⟩
  addNode graph id _ := .ok { graph with nodes := graph.nodes ++ [id] }
  addEdge graph id target := .ok { graph with edges := graph.edges ++ [(id, target)] }
  addConditionalEdges graph id _ mapping :=
    .ok { graph with edges := graph.edges ++ mapping.map fun entry => (id, entry.2) }
  setEntryPoint graph id := .ok { graph with entry := some id }
  nodes := Recorded.nodes
  edgesFrom graph id := (graph.edges.filter (·.1 = id)).map Prod.snd
  entry := Recorded.entry

def noServices : ServiceBundle Unit Unit Unit :=
  ⟨id, id, id, id, id, id, id, id, fun _ _ => ()⟩

/-- Start and end, the smallest scenario of the source's tests. -/
def minimalScenario : Scenario Unit where
  entry := "s"
  fallbackNode := none
  nodes := [⟨"s", .start, ()⟩, ⟨"e", .end, ()⟩]
  edges := [⟨"s", "e", none⟩]
  nodeIds := by decide +kernel
  edgeEnds := by decide
  graph := by decide +kernel

theorem minimalScenario_not_compiled :
    compileScenario recorder noServices minimalScenario.toScenarioFields =
        .error "Unknown node type: StartNode" ∧
      ¬∃ compiled, compileScenario recorder noServices minimalScenario.toScenarioFields =
        .ok compiled ∧ Compiles recorder minimalScenario.toScenarioFields compiled := by
  refine ⟨rfl, ?_⟩
  rintro ⟨compiled, succeeded, -⟩
  cases succeeded

end AgentOE.Agentic
