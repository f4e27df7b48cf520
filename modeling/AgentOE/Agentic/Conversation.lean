import AgentOE.Agentic.Branch
import AgentOE.Collection
import AgentOE.Transition

/-! Conversations of several turns over one compiled graph and its checkpoint. -/
namespace AgentOE.Agentic
open Transition Collection

/-- The builder of the graph library and what its compiled graph runs. -/
structure GraphBuilder (B F V : Type) extends StateGraph B (NodeFn F V)
    (CallbotState F V → String) where
  nodeFn : B → String → Option (NodeFn F V)
  branch : B → String → Option ((CallbotState F V → String) × List (String × Target))

variable {B F V : Type}

/-- A dispatcher's answer that is no key of its mapping raises. -/
def GraphBuilder.next (lib : GraphBuilder B F V) (graph : B) (id : String) (σ : CallbotState F V) :
    Except String Target :=
  match lib.branch graph id with
  | some (dispatch, mapping) => match mapping.lookup (dispatch σ) with
    | some target => .ok target
    | none => .error (dispatch σ)
  | none => .ok ((lib.edgesFrom graph id).headD .end)

/-- The update of a node is applied before its edges are followed. -/
def GraphBuilder.superstep (lib : GraphBuilder B F V) (graph : B) (id : String)
    (σ : CallbotState F V) (outcome : Outcome F V) : Except String (Update F V × Target) :=
  match lib.nodeFn graph id with
  | none => .error id
  | some fn => (fn σ outcome).bind fun update =>
    (lib.next graph id (σ.merge update)).map fun target => (update, target)

/-- The updates of a run in order, and the checkpoint that it leaves. -/
structure Streamed (F V : Type) where
  updates : List (String × Update F V)
  state : CallbotState F V
  failed : Option String

/-- The graph library. `stream` is `astream` from one node on, with the steps that it may still
take; they index the outcomes of the services. -/
structure LangGraph (B F V : Type) extends GraphBuilder B F V where
  stream : B → List String → (Nat → Outcome F V) → Nat → String → CallbotState F V → Streamed F V

/-- A graph has the nodes and dispatchers that its builder was given. A run goes from
superstep to superstep until it ends, fails, meets a node in `waits` or has no steps left. -/
structure LangGraph.Lawful (lib : LangGraph B F V) : Prop where
  new : ∀ id, lib.nodeFn lib.new id = none ∧ lib.branch lib.new id = none
  addNode : ∀ {graph id fn after}, lib.addNode graph id fn = .ok after →
    lib.branch after = lib.branch graph ∧
    ∀ name one, lib.nodeFn after name = some one → lib.nodeFn graph name = some one ∨ one = fn
  addEdge : ∀ {graph id target after}, lib.addEdge graph id target = .ok after →
    lib.nodeFn after = lib.nodeFn graph ∧ lib.branch after = lib.branch graph
  addConditionalEdges : ∀ {graph id dispatch mapping after},
    lib.addConditionalEdges graph id dispatch mapping = .ok after →
      lib.nodeFn after = lib.nodeFn graph ∧
      ∀ name one, lib.branch after name = some one → lib.branch graph name = some one ∨
        one = (dispatch, mapping)
  setEntryPoint : ∀ {graph id after}, lib.setEntryPoint graph id = .ok after →
    lib.nodeFn after = lib.nodeFn graph ∧ lib.branch after = lib.branch graph
  exhausted : ∀ graph waits outcome id σ, (lib.stream graph waits outcome 0 id σ).updates = []
  interrupted : ∀ graph waits outcome left id σ, id ∈ waits →
    (lib.stream graph waits outcome (left + 1) id σ).updates = []
  failed : ∀ graph waits outcome left id σ reason, id ∉ waits →
    lib.superstep graph id σ (outcome left) = .error reason →
    (lib.stream graph waits outcome (left + 1) id σ).updates = []
  ended : ∀ graph waits outcome left id σ update, id ∉ waits →
    lib.superstep graph id σ (outcome left) = .ok (update, .end) →
    (lib.stream graph waits outcome (left + 1) id σ).updates = [(id, update)]
  moved : ∀ graph waits outcome left id σ update next, id ∉ waits →
    lib.superstep graph id σ (outcome left) = .ok (update, .node next) →
    (lib.stream graph waits outcome (left + 1) id σ).updates =
      (id, update) :: (lib.stream graph waits outcome left next (σ.merge update)).updates

/-- A node whose type and configuration differ cannot be built in the source. -/
def mistyped : NodeFn F V := fun _ _ => .error "AttributeError"

def serviceBundle (py : Builtins F V) (streamSink : Bool) :
    ServiceBundle (NodeConfig F V) (NodeFn F V) (CallbotState F V → String) where
  makeIntentNode
    | .intent config => makeIntentNode py config
    | _ => mistyped
  makeLlmNode
    | .llm config => makeLlmNode streamSink config
    | _ => mistyped
  makeToolNode
    | .tool config => makeToolNode py config
    | _ => mistyped
  makeBranchNode _ := makeBranchNode
  makeTransferNode
    | .transfer config => makeTransferNode config
    | _ => mistyped
  makeWaitNode _ := makeWaitNode
  makeContextNode
    | .context config => makeContextNode config
    | _ => mistyped
  makeEndNode
    | .end config => makeEndNode config
    | _ => mistyped
  makeBranchDispatcher node outgoing := match node.config with
    | .branch config => makeBranchDispatcher py config outgoing
    | _ => fun _ => "__end__"

def recursionLimit : Nat := 50

/-- One call of `stream_turn`, with what its services do. -/
structure Turn (F V : Type) where
  userInput : String
  stateReadable : Bool
  outcome : Nat → Outcome F V

def userMessage (userInput : String) : Message := ⟨.user, userInput, "input"⟩

/-- The input of the first turn, all fields of `empty_state`. -/
def seed (py : Builtins F V) (userInput : String) : Update F V where
  messages := [userMessage userInput]
  userInput := some userInput
  assistantOutput := some ""
  intent := some none
  slots := some []
  nextNode := some none
  shouldTransfer := some false
  shouldEnd := some false
  fallbackTriggered := some false
  turnLatencyMs := some py.zero

def followUp (userInput : String) : Update F V where
  messages := [userMessage userInput]
  userInput := some userInput

/-- The state in which a turn starts to run: the input is merged into the checkpoint. A
checkpoint that cannot be read is seeded again. -/
def turnStart (py : Builtins F V) (checkpoint : Option (CallbotState F V)) (turn : Turn F V) :
    CallbotState F V :=
  match checkpoint with
  | none => (emptyState py.zero).merge (seed py turn.userInput)
  | some σ =>
    σ.merge (if turn.stateReadable then followUp turn.userInput else seed py turn.userInput)

inductive StreamEvent where
  | nodeDone (node : String)
  | fallback (node : String)
  | tool (tool : String) (failed : Bool)
  | errorEvent (node reason : String)
  | final (transfer «end» : Bool) (assistantOutput : String)
  | error (reason : String)
  deriving DecidableEq

def eventsOf (entry : String × Update F V) : List StreamEvent :=
  (if entry.2.assistantOutput.any (· ≠ "") then [.nodeDone entry.1] else []) ++
  (if entry.2.fallbackTriggered = some true then [.fallback entry.1] else []) ++
  entry.2.toolCalls.map (fun call => match call with
    | .ok tool _ _ _ => StreamEvent.tool tool false
    | .error tool reason => StreamEvent.tool tool (reason ≠ "")) ++
  entry.2.errors.map fun error => StreamEvent.errorEvent error.node error.reason

variable (lib : LangGraph B F V) (py : Builtins F V) (compiled : CompiledScenario B)

/-- The run behind a turn; there is none without a graph. -/
def runTurn (checkpoint : Option (CallbotState F V)) (turn : Turn F V) : Option (Streamed F V) :=
  compiled.graph.bind fun graph => (lib.entry graph).map fun entry =>
    lib.stream graph compiled.waitNodeIds turn.outcome recursionLimit entry
      (turnStart py checkpoint turn)

def streamTurn (checkpoint : Option (CallbotState F V)) (turn : Turn F V) :
    List StreamEvent × Option (CallbotState F V) :=
  match runTurn lib py compiled checkpoint turn with
  | none => ([.error "langgraph unavailable (dry-run)"], checkpoint)
  | some streamed => (streamed.updates.flatMap eventsOf ++ (match streamed.failed with
      | some reason => [.error (clip reason)]
      | none => [.final streamed.state.shouldTransfer streamed.state.shouldEnd
          streamed.state.assistantOutput]), some streamed.state)

/-- The nodes that a turn runs, in order. -/
def visited (checkpoint : Option (CallbotState F V)) (turn : Turn F V) : List String :=
  ((runTurn lib py compiled checkpoint turn).map fun streamed =>
    streamed.updates.map Prod.fst).getD []

/-- The checkpoint from turn to turn. -/
def converse (checkpoint : Option (CallbotState F V)) (turn : Turn F V) :
    Option (Option (CallbotState F V)) := some (streamTurn lib py compiled checkpoint turn).2

/-- What a turn may know of the ones before it. -/
def remembered (checkpoint : Option (CallbotState F V)) : Option (CallbotState F V) :=
  checkpoint.map fun σ =>
    { (emptyState py.zero : CallbotState F V) with slots := σ.slots, intent := σ.intent }

/-- The path of a turn depends on the slots and the intent that it finds, and on
nothing else that earlier turns have left. -/
def Confined (checkpoint : Option (CallbotState F V)) (turn : Turn F V) : Prop :=
  visited lib py compiled checkpoint turn = visited lib py compiled (remembered py checkpoint) turn

/-- No branch of the scenario has a default edge. -/
def Undefaulted (s : ScenarioFields K) : Prop :=
  ∀ node ∈ s.nodes, node.type = .branch → defaultEdge (s.outgoing node.id) = none

/-- The flag of an earlier failure is not there when the turn starts, or no branch
would look at it. -/
def Unforced (s : ScenarioFields K) (checkpoint : Option (CallbotState F V)) (turn : Turn F V) :
    Prop :=
  (∀ σ, checkpoint = some σ → turn.stateReadable = true → σ.fallbackTriggered = false) ∨
    Undefaulted s

/-- Two states that a graph cannot tell apart. -/
structure Agree (unread : Prop) (σ τ : CallbotState F V) : Prop where
  slots : σ.slots = τ.slots
  intent : σ.intent = τ.intent
  userInput : σ.userInput = τ.userInput
  fallback : σ.fallbackTriggered = τ.fallbackTriggered ∨ unread

theorem Agree.merge (agree : Agree unread σ τ) (update : Update F V) :
    Agree unread (σ.merge update) (τ.merge update) := by
  refine ⟨?_, ?_, ?_, ?_⟩
  · simp only [CallbotState.merge, agree.slots]
  · simp only [CallbotState.merge, agree.intent]
  · simp only [CallbotState.merge, agree.userInput]
  · exact agree.fallback.imp_left fun same => by simp only [CallbotState.merge, same]

/-- The node reads the slots, the intent and the input of the state at most. -/
def Respectful (fn : NodeFn F V) : Prop :=
  ∀ σ τ outcome, σ.slots = τ.slots → σ.intent = τ.intent → σ.userInput = τ.userInput →
    fn σ outcome = fn τ outcome

variable {lib py compiled}

theorem makeNode_respectful {node : Node (NodeConfig F V)}
    (made : makeNode (serviceBundle py streamSink) node = .ok fn) : Respectful fn := by
  intro σ τ outcome slots intent userInput
  obtain ⟨id, type, config⟩ := node
  cases type <;> cases config <;> cases made <;>
    simp only [serviceBundle, mistyped, makeIntentNode, makeLlmNode, makeToolNode, makeBranchNode,
      makeTransferNode, makeWaitNode, makeContextNode, makeEndNode, bindArgs, slots, intent,
        userInput]

theorem branchValue_agree (config : BranchNodeConfig) (agree : Agree unread σ τ) :
    branchValue py config σ = branchValue py config τ := by
  simp only [branchValue, agree.slots, agree.intent, agree.userInput]

theorem makeBranchDispatcher_agree (config : BranchNodeConfig) {outgoing : List Edge}
    (agree : Agree unread σ τ) (none : unread → defaultEdge outgoing = none) :
    makeBranchDispatcher py config outgoing σ = makeBranchDispatcher py config outgoing τ := by
  simp only [makeBranchDispatcher, branchValue_agree config agree]
  rcases agree.fallback with same | unread
  · rw [same]
  · simp [collectCases_default, none unread]

/-- What holds of the builder before the nodes are added and is kept by each of
them holds after all. -/
theorem addNodes_preserves {lib : StateGraph B N D} {services : ServiceBundle K N D}
    (P : B → Prop) {nodes : List (Node K)}
    (keeps : ∀ node ∈ nodes, ∀ {fn builder next}, makeNode services node = .ok fn →
      lib.addNode builder node.id fn = .ok next → P builder → P next)
    (added : addNodes lib services nodes builder = .ok after) (before : P builder) : P after := by
  induction nodes generalizing builder with
  | nil =>
    cases added
    exact before
  | cons node nodes ih =>
    obtain ⟨first, keeps⟩ := List.forall_mem_cons.mp keeps
    rw [addNodes] at added
    cases made : makeNode services node with
    | error reason => simp [made, Except.bind] at added
    | ok fn =>
      cases extended : lib.addNode builder node.id fn with
      | error reason => simp [made, extended, Except.bind] at added
      | ok next =>
        simp only [made, extended, Except.bind] at added
        exact ih keeps added (first made extended before)

theorem addEdges_preserves {lib : StateGraph B N D} {services : ServiceBundle K N D}
    {s : ScenarioFields K} (P : B → Prop) {nodes : List (Node K)}
    (keeps : ∀ node ∈ nodes, ∀ {builder next},
      addNodeEdges lib services s node builder = .ok next → P builder → P next)
    (added : addEdges lib services s nodes builder = .ok after) (before : P builder) : P after := by
  induction nodes generalizing builder with
  | nil =>
    cases added
    exact before
  | cons node nodes ih =>
    obtain ⟨first, keeps⟩ := List.forall_mem_cons.mp keeps
    rw [addEdges] at added
    cases extended : addNodeEdges lib services s node builder with
    | error reason => simp [extended, Except.bind] at added
    | ok next =>
      simp only [extended, Except.bind] at added
      exact ih keeps added (first extended before)

/-- A graph that runs alike from states that agree. -/
structure LangGraph.Respectful (lib : LangGraph B F V) (unread : Prop) (graph : B) : Prop where
  nodes : ∀ id fn, lib.nodeFn graph id = some fn → Agentic.Respectful fn
  branches : ∀ id one, lib.branch graph id = some one → ∀ σ τ, Agree unread σ τ → one.1 σ = one.1 τ

theorem LangGraph.Respectful.same {graph after : B} (respects : lib.Respectful unread graph)
    (same : lib.nodeFn after = lib.nodeFn graph ∧ lib.branch after = lib.branch graph) :
    lib.Respectful unread after :=
  ⟨same.1 ▸ respects.nodes, same.2 ▸ respects.branches⟩

theorem addNode_respectful (lawful : lib.Lawful) {graph after : B} {id : String}
    (respects : lib.Respectful unread graph) (fits : Respectful fn)
    (added : lib.addNode graph id fn = .ok after) :
    lib.Respectful unread after := by
  obtain ⟨branch, nodeFn⟩ := lawful.addNode added
  refine ⟨fun name one found => ?_, branch ▸ respects.branches⟩
  rcases nodeFn name one found with old | rfl
  · exact respects.nodes name one old
  · exact fits

theorem serviceBundle_dispatcher (streamSink : Bool) (node : Node (NodeConfig F V))
    {outgoing : List Edge} (agree : Agree unread σ τ)
    (none : unread → defaultEdge outgoing = none) :
    (serviceBundle py streamSink).makeBranchDispatcher node outgoing σ =
      (serviceBundle py streamSink).makeBranchDispatcher node outgoing τ := by
  obtain ⟨id, type, config⟩ := node
  cases config with
  | branch config => exact makeBranchDispatcher_agree config agree none
  | _ => rfl

/-- Only a branch node adds a dispatcher. -/
theorem addNodeEdges_respectful (lawful : lib.Lawful) {s : ScenarioFields (NodeConfig F V)}
    {graph after : B} (mem : node ∈ s.nodes) (respects : lib.Respectful (Undefaulted s) graph)
    (added : addNodeEdges lib.toStateGraph (serviceBundle py streamSink) s node graph = .ok after) :
    lib.Respectful (Undefaulted s) after := by
  simp only [addNodeEdges] at added
  split at added
  · rename_i branch
    obtain ⟨nodeFn, given⟩ := lawful.addConditionalEdges added
    refine ⟨nodeFn ▸ respects.nodes, fun name one found => ?_⟩
    rcases given name one found with old | rfl
    · exact respects.branches name one old
    · exact fun σ τ agree => serviceBundle_dispatcher streamSink node agree fun none =>
        none node mem branch
  · exact respects.same (lawful.addEdge added)
  · exact respects.same (lawful.addEdge added)
  · split at added
    · exact respects.same (lawful.addEdge added)
    · exact respects.same (lawful.addEdge added)
    · cases added

theorem compileScenario_respectful (lawful : lib.Lawful) {s : ScenarioFields (NodeConfig F V)}
    (compiles : compileScenario lib.toStateGraph (serviceBundle py streamSink) s = .ok compiled)
    (built : compiled.graph = some graph) : lib.Respectful (Undefaulted s) graph := by
  unfold compileScenario at compiles
  cases nodes : addNodes lib.toStateGraph (serviceBundle py streamSink) s.nodes lib.new with
  | error reason => simp [nodes, Except.bind] at compiles
  | ok withNodes =>
    cases edges : addEdges lib.toStateGraph (serviceBundle py streamSink) s s.nodes withNodes with
    | error reason => simp [nodes, edges, Except.bind] at compiles
    | ok withEdges =>
      cases entered : lib.setEntryPoint withEdges s.entry with
      | error reason => simp [nodes, edges, entered, Except.bind, Except.map] at compiles
      | ok whole =>
        simp only [nodes, edges, entered, Except.bind, Except.map] at compiles
        cases compiles
        cases built
        have first : lib.Respectful (Undefaulted s) withNodes := by
          refine addNodes_preserves _ ?_ nodes ⟨?_, ?_⟩
          · exact fun node _ _ _ _ made added respects =>
              addNode_respectful lawful respects (makeNode_respectful made) added
          · exact fun id _ found => by simp [(lawful.new id).1] at found
          · exact fun id _ found => by simp [(lawful.new id).2] at found
        have second : lib.Respectful (Undefaulted s) withEdges :=
          addEdges_preserves _ (fun node mem _ _ added respects =>
            addNodeEdges_respectful lawful mem respects added) edges first
        exact second.same (lawful.setEntryPoint entered)

theorem GraphBuilder.next_agree {graph : B} (respects : lib.Respectful unread graph)
    (agree : Agree unread σ τ) (id : String) : lib.next graph id σ = lib.next graph id τ := by
  unfold GraphBuilder.next
  cases branch : lib.branch graph id with
  | none => rfl
  | some one =>
    obtain ⟨dispatch, mapping⟩ := one
    have same : dispatch σ = dispatch τ := respects.branches id _ branch σ τ agree
    simp only [same]

theorem GraphBuilder.superstep_agree {graph : B} (respects : lib.Respectful unread graph)
    (agree : Agree unread σ τ) (id : String) (outcome : Outcome F V) :
    lib.superstep graph id σ outcome = lib.superstep graph id τ outcome := by
  unfold GraphBuilder.superstep
  cases found : lib.nodeFn graph id with
  | none => rfl
  | some fn =>
    have same : fn σ outcome = fn τ outcome :=
      respects.nodes id fn found σ τ outcome agree.slots agree.intent agree.userInput
    simp only [same, GraphBuilder.next_agree respects (agree.merge _)]

/-- States that agree are taken along the same path. -/
theorem LangGraph.stream_agree (lawful : lib.Lawful) {graph : B}
    (respects : lib.Respectful unread graph) (agree : Agree unread σ τ) (waits : List String)
    (outcome : Nat → Outcome F V) (left : Nat) (id : String) :
    (lib.stream graph waits outcome left id σ).updates =
      (lib.stream graph waits outcome left id τ).updates := by
  induction left generalizing id σ τ with
  | zero => rw [lawful.exhausted, lawful.exhausted]
  | succ left ih =>
    by_cases waiting : id ∈ waits
    · rw [lawful.interrupted _ _ _ _ _ _ waiting, lawful.interrupted _ _ _ _ _ _ waiting]
    · have same := GraphBuilder.superstep_agree respects agree id (outcome left)
      cases stepped : lib.superstep graph id τ (outcome left) with
      | error reason =>
        rw [lawful.failed _ _ _ _ _ _ _ waiting (same.trans stepped),
          lawful.failed _ _ _ _ _ _ _ waiting stepped]
      | ok taken =>
        obtain ⟨update, target⟩ := taken
        cases target with
        | «end» =>
          rw [lawful.ended _ _ _ _ _ _ _ waiting (same.trans stepped),
            lawful.ended _ _ _ _ _ _ _ waiting stepped]
        | node next =>
          rw [lawful.moved _ _ _ _ _ _ _ _ waiting (same.trans stepped),
            lawful.moved _ _ _ _ _ _ _ _ waiting stepped, ih (agree.merge update) next]

/-- A turn starts as it would from the slots and the intent alone. -/
theorem turnStart_agree {s : ScenarioFields K} {checkpoint : Option (CallbotState F V)}
    {turn : Turn F V} (unforced : Unforced s checkpoint turn) :
    Agree (Undefaulted s) (turnStart py checkpoint turn)
      (turnStart py (remembered py checkpoint) turn) := by
  cases checkpoint with
  | none => exact ⟨rfl, rfl, rfl, .inl rfl⟩
  | some σ =>
    simp only [remembered, Option.map_some, turnStart]
    cases readable : turn.stateReadable with
    | false => exact ⟨rfl, rfl, rfl, .inl rfl⟩
    | true =>
      refine ⟨rfl, rfl, rfl, unforced.imp_left fun clear => ?_⟩
      exact clear σ rfl readable

theorem confined_of_unforced (lawful : lib.Lawful) {s : ScenarioFields (NodeConfig F V)}
    (compiles : compileScenario lib.toStateGraph (serviceBundle py streamSink) s = .ok compiled)
    (unforced : Unforced s checkpoint turn) : Confined lib py compiled checkpoint turn := by
  unfold Confined visited runTurn
  cases built : compiled.graph with
  | none => rfl
  | some graph =>
    cases entry : lib.entry graph with
    | none => simp [entry]
    | some id =>
      have respects := compileScenario_respectful lawful compiles built
      simp only [Option.bind_some, entry, Option.map_some, Option.getD_some]
      rw [LangGraph.stream_agree lawful respects (turnStart_agree unforced)]

/-- Fallback stays within its turn in every conversation none of whose turns finds
the flag of an earlier one. -/
theorem fallback_confined (lawful : lib.Lawful) {s : ScenarioFields (NodeConfig F V)}
    (compiles : compileScenario lib.toStateGraph (serviceBundle py streamSink) s = .ok compiled)
    (unforced : Along (converse lib py compiled) (Unforced s) checkpoint turns) :
    Along (converse lib py compiled) (Confined lib py compiled) checkpoint turns := by
  induction turns generalizing checkpoint with
  | nil => trivial
  | cons turn turns ih =>
    exact ⟨confined_of_unforced lawful compiles unforced.1,
      fun next taken => ih (unforced.2 next taken)⟩

/-- The builder as a record of what it was told. -/
structure Graph (F V : Type) where
  nodes : List (String × NodeFn F V)
  edges : List (String × Target)
  branches : List (String × (CallbotState F V → String) × List (String × Target))
  entry : Option String

def graphBuilder : GraphBuilder (Graph F V) F V where
  new := ⟨[], [], [], none⟩
  addNode graph id fn :=
    if id ∈ graph.nodes.map Prod.fst then .error ("Node `" ++ id ++ "` already present.")
    else .ok { graph with nodes := graph.nodes ++ [(id, fn)] }
  addEdge graph id target := .ok { graph with edges := graph.edges ++ [(id, target)] }
  addConditionalEdges graph id dispatch mapping :=
    .ok { graph with branches := graph.branches ++ [(id, dispatch, mapping)] }
  setEntryPoint graph id := .ok { graph with entry := some id }
  nodes graph := graph.nodes.map Prod.fst
  edgesFrom graph id := (graph.edges.filter (·.1 = id)).map Prod.snd
  entry := Graph.entry
  nodeFn graph id := graph.nodes.lookup id
  branch graph id := graph.branches.lookup id

def Graph.stream (graph : Graph F V) (waits : List String) (outcome : Nat → Outcome F V) :
    Nat → String → CallbotState F V → Streamed F V
  | 0, _, σ => ⟨[], σ, some "Recursion limit of 50 reached without hitting a stop condition."⟩
  | left + 1, id, σ =>
    if id ∈ waits then ⟨[], σ, none⟩
    else match graphBuilder.superstep graph id σ (outcome left) with
      | .error reason => ⟨[], σ, some reason⟩
      | .ok (update, .end) => ⟨[(id, update)], σ.merge update, none⟩
      | .ok (update, .node next) =>
        let rest := graph.stream waits outcome left next (σ.merge update)
        ⟨(id, update) :: rest.updates, rest.state, rest.failed⟩

def langgraph : LangGraph (Graph F V) F V := { graphBuilder with stream := Graph.stream }

theorem lookup_concat {entries : List (String × α)} {id : String}
    (found : (entries ++ [(id, last)]).lookup name = some one) :
    entries.lookup name = some one ∨ one = last := by
  rw [List.lookup_append] at found
  rcases Option.or_eq_some_iff.mp found with old | ⟨-, new⟩
  · exact .inl old
  · obtain ⟨-, value⟩ := Prod.mk.inj (List.mem_singleton.mp (mem_of_lookup new))
    exact .inr value

theorem langgraph_lawful : (langgraph : LangGraph (Graph F V) F V).Lawful where
  new _ := ⟨rfl, rfl⟩
  addNode := by
    intro graph id fn after added
    simp only [langgraph, graphBuilder] at added
    split at added
    · cases added
    · cases added
      exact ⟨rfl, fun _ _ => lookup_concat⟩
  addEdge := by
    rintro _ _ _ _ ⟨⟩
    exact ⟨rfl, rfl⟩
  addConditionalEdges := by
    rintro _ _ _ _ _ ⟨⟩
    exact ⟨rfl, fun _ _ => lookup_concat⟩
  setEntryPoint := by
    rintro _ _ _ ⟨⟩
    exact ⟨rfl, rfl⟩
  exhausted _ _ _ _ _ := rfl
  interrupted _ _ _ _ _ _ waiting := by simp only [langgraph, Graph.stream, if_pos waiting]
  failed graph _ outcome left id σ reason going failed := by
    have failed : graphBuilder.superstep graph id σ (outcome left) = .error reason := failed
    simp only [langgraph, Graph.stream, if_neg going, failed]
  ended graph _ outcome left id σ update going ended := by
    have ended : graphBuilder.superstep graph id σ (outcome left) = .ok (update, .end) := ended
    simp only [langgraph, Graph.stream, if_neg going, ended]
  moved graph _ outcome left id σ update next going moved := by
    have moved : graphBuilder.superstep graph id σ (outcome left) =
      .ok (update, .node next) := moved
    simp only [langgraph, Graph.stream, if_neg going, moved]

/-- A tool, a classifier and a branch on its label, without a start node so that it
compiles. -/
def billingFields : ScenarioFields (NodeConfig Int String) where
  entry := "t"
  fallbackNode := none
  nodes := [⟨"t", .tool, .tool ⟨"crm", [], 5, 0, .fallback⟩⟩,
    ⟨"i", .intent, .intent ⟨["billing", "other"], "m", none, 0⟩⟩,
    ⟨"b", .branch, .branch byIntent⟩, ⟨"x", .end, .end ⟨none⟩⟩, ⟨"y", .end, .end ⟨none⟩⟩]
  edges := [⟨"t", "i", none⟩, ⟨"i", "b", none⟩, ⟨"b", "x", some "billing"⟩,
    ⟨"b", "y", some "default"⟩]

/-- The services answer, the tool as it is told. -/
def billingTurn (attempt : Attempt String) : Turn Int String where
  userInput := "bill"
  stateReadable := true
  outcome _ :=
    { unprepared := none
      classified := .ok ⟨some "billing", 1, []⟩
      generated := .replied [] ""
      registration := .registered fun _ => attempt
      transferFailed := none
      elapsedMs := 1 }

def billingGraph : CompiledScenario (Graph Int String) :=
  match compileScenario langgraph.toStateGraph
      (serviceBundle plainBuiltins false) billingFields with
  | .ok compiled => compiled
  | .error _ => dryRunCompile _ billingFields

theorem billingGraph_compiled :
    compileScenario langgraph.toStateGraph (serviceBundle plainBuiltins false) billingFields =
      .ok billingGraph := rfl

theorem fallback_confined_billing :
    visited langgraph plainBuiltins billingGraph none (billingTurn (.returned "ok")) =
      ["t", "i", "b", "x"] ∧ Along (converse langgraph plainBuiltins billingGraph)
        (Confined langgraph plainBuiltins billingGraph) none
        [billingTurn (.returned "ok"), billingTurn (.returned "ok")] := by
  refine ⟨by decide +kernel, fallback_confined langgraph_lawful billingGraph_compiled ⟨?_, ?_⟩⟩
  · exact .inl fun _ missing => by cases missing
  · intro checkpoint taken
    refine ⟨.inl ?_, fun _ _ => trivial⟩
    intro σ stored _
    have clear : ((converse langgraph plainBuiltins billingGraph none
        (billingTurn (.returned "ok"))).map
        (·.map CallbotState.fallbackTriggered)) = some (some false) := by decide +kernel
    rw [taken, stored] at clear
    exact Option.some.inj (Option.some.inj clear)

/-- A tool that fails once sends every later turn to the default edge. -/
theorem fallback_leaks :
    visited langgraph plainBuiltins billingGraph none (billingTurn (.returned "ok")) =
      ["t", "i", "b", "x"] ∧ ∃ checkpoint, exec
      (converse langgraph plainBuiltins billingGraph) none [billingTurn .timedOut] =
        some checkpoint ∧
      visited langgraph plainBuiltins billingGraph checkpoint (billingTurn (.returned "ok")) =
        ["t", "i", "b", "y"] ∧
      ((runTurn langgraph plainBuiltins billingGraph checkpoint (billingTurn (.returned "ok"))).map
        fun streamed => streamed.updates.map fun entry => entry.2.fallbackTriggered) =
          some [none, none, none, none] ∧
      ¬Confined langgraph plainBuiltins billingGraph checkpoint (billingTurn (.returned "ok")) := by
  refine ⟨by decide +kernel, _, rfl, by decide +kernel, by decide +kernel, ?_⟩
  unfold Confined
  decide +kernel

end AgentOE.Agentic
