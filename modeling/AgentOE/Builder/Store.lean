import AgentOE.Builder.Graph
import AgentOE.Transition

/-! The store of the builder: its state, what the actions change in it, and the five
kinds of references to nodes that they have to keep. -/
namespace AgentOE.Builder
open Json Agentic Transition VersionStore

/-- What the store keeps of a scenario besides the graph. A loaded description may be
null, and a loaded version is whatever the number was. -/
structure BuilderMeta (F : Type) where
  scenarioId : String
  tenantId : String
  name : String
  description : Option (Option String)
  version : Value F
  entry : String
  fallbackNode : Option String
  published : Bool
  tags : List String

structure BuilderState (F : Type) where
  nodes : List (BuilderNode F)
  edges : List BuilderEdge
  meta_ : BuilderMeta F
  selectedId : Option String

/-- The library that draws the canvas. Node changes are removals. -/
structure ReactFlow (F E : Type) where
  applyNodeChanges : List String → List (BuilderNode F) → List (BuilderNode F)
  applyEdgeChanges : List E → List BuilderEdge → List BuilderEdge
  addEdge : BuilderEdge → List BuilderEdge → List BuilderEdge

/-- It touches only the list that it is given. -/
structure ReactFlow.Lawful (flow : ReactFlow F E) : Prop where
  removes : ∀ removed nodes, flow.applyNodeChanges removed nodes = nodes.filter (·.id ∉ removed)
  edges : ∀ changes edges, ∀ edge ∈ flow.applyEdgeChanges changes edges,
    ∃ old ∈ edges, edge.source = old.source ∧ edge.target = old.target
  added : ∀ edge edges, ∀ one ∈ flow.addEdge edge edges,
    one ∈ edges ∨ one.source = edge.source ∧ one.target = edge.target

inductive Action (F E : Type) where
  | onNodesChange (removed : List String)
  | onEdgesChange (changes : List E)
  | onConnect (source target : String) (now : Nat)
  | setSelectedId (id : Option String)
  | addNodeFromPalette (type : NodeType) (position : F × F)
  | updateSelectedNode (next : Value F)
  | setEntryToSelected
  | toggleFallbackToSelected

variable {F E : Type} (num : Numbers F)

def defaultMeta : BuilderMeta F where
  scenarioId := "new_scenario_v1"
  tenantId := "t_demo"
  name := "New scenario"
  description := none
  version := .int 1
  entry := ""
  fallbackNode := none
  published := false
  tags := []

def initialState : BuilderState F := ⟨[], [], defaultMeta, none⟩

def defaultNodeConfig : NodeType → Config F
  | .start => .start ⟨.inboundCall, some none⟩
  | .intent => .intent ⟨["billing", "default"], "groq-llama-3.3-70b", none, num.tenths 5⟩
  | .llm =>
    .llm ⟨"groq-llama-4-scout", "groq-llama-3.3-70b", "", none, num.tenths 7, 512, true, true⟩
  | .tool => .tool ⟨"", [], num.tenths 50, 1, .fallback⟩
  | .branch => .branch ⟨.intent, none⟩
  | .transfer => .transfer ⟨"default", "user_request", true⟩
  | .wait => .wait ⟨num.tenths 150, some "죄송합니다, 말씀 못 들었습니다. 다시 말씀해 주세요."⟩
  | .context => .context ⟨[], []⟩
  | .end => .end ⟨some none⟩

def nodeName (type : NodeType) (i : Nat) : String := type.name ++ "_" ++ i.repr

theorem nodeName_injective (type : NodeType) : Function.Injective (nodeName type) := by
  intro i j same
  have digits := congrArg String.toList (String.append_right_inj _ |>.mp same)
  rw [Nat.toList_repr, Nat.toList_repr] at digits
  have numbers := congrArg (Nat.ofDigitChars 10 · 0) digits
  simpa using numbers

/-- The `while` loop: the first number from `i` on whose name is free. -/
def freeNumber (existing : List String) (type : NodeType) (i : Nat) : Nat :=
  if nodeName type i ∈ existing then freeNumber existing type (i + 1) else i
termination_by existing.countP fun id => id ∉ (List.range i).map (nodeName type)
decreasing_by
  apply countP_lt_of_exists
  · intro id _ later
    simp only [List.range_succ, List.map_append, List.mem_append, not_or, decide_eq_true_eq] at later ⊢
    exact later.1
  · refine ⟨nodeName type i, ‹_›, ?_, ?_⟩
    · simp [List.range_succ]
    · simp [(nodeName_injective type).eq_iff]

theorem freeNumber_free (existing : List String) (type : NodeType) (i : Nat) :
    nodeName type (freeNumber existing type i) ∉ existing := by
  fun_induction freeNumber existing type i with
  | case1 i taken ih => exact ih
  | case2 i free => exact free

def uniqueNodeId (existing : List String) (type : NodeType) : String :=
  nodeName type (freeNumber existing type 1)

theorem uniqueNodeId_fresh (existing : List String) (type : NodeType) :
    uniqueNodeId existing type ∉ existing := freeNumber_free existing type 1

/-! Loading. -/

/-- JavaScript has doubles only. -/
def Numbers.received : Value F → Value F
  | .int value => num.write (num.ofInt value)
  | .float value => num.write value
  | value => value

/-- What `fetch` makes of a stored document. -/
def response (doc : Stored (Dict F)) : Dict F := replaceEntries num.received (document doc)

/-- An array that the types promise. -/
def itemsOf (key : String) (entries : Dict F) : List (Value F) :=
  match entries.lookup key with
  | some (.arr items) => items
  | _ => []

def loadScenario (s : Dict F) : BuilderState F :=
  let graph := toGraph num (itemsOf "nodes" s) (itemsOf "edges" s) fun _ => none
  { nodes := graph.nodes
    edges := graph.edges
    meta_ := {
      scenarioId := textOf "scenario_id" (.obj s)
      tenantId := textOf "tenant_id" (.obj s)
      name := textOf "name" (.obj s)
      description := (s.lookup "description").map text
      version := (s.lookup "version").getD .null
      entry := textOf "entry" (.obj s)
      fallbackNode := maybeText "fallback_node" (.obj s)
      published := (s.lookup "published").bind flag = some true
      tags := (itemsOf "tags" s).filterMap text }
    selectedId := none }

/-! The actions. -/

namespace BuilderState
variable (s : BuilderState F)

def ids : List String := s.nodes.map BuilderNode.id

/-- The selected node, unless its id is empty. -/
def selected : Option String := s.selectedId.filter (· ≠ "")

/-- A second start node is not added. -/
def addNodeFromPalette (type : NodeType) (position : F × F) : BuilderState F :=
  if type = .start ∧ ∃ node ∈ s.nodes, isStart node.dsl then s
  else
    let id := uniqueNodeId s.ids type
    let node := ⟨id, position, Node.raw num ⟨id, none, none, defaultNodeConfig num type⟩⟩
    { s with
      nodes := s.nodes ++ [node]
      meta_ := if type = .start then { s.meta_ with entry := id } else s.meta_ }

/-- A change of the id is passed on to all that refer to it. -/
def updateSelectedNode (next : Value F) : BuilderState F :=
  match s.selected with
  | none => s
  | some oldId =>
    let id := textOf "id" next
    let nodes := s.nodes.map fun node => if node.id = oldId then { node with id := id, dsl := next } else node
    if id ≠ oldId then
      let renamed := fun ref => if ref = oldId then id else ref
      { s with
        nodes := nodes
        edges := s.edges.map fun edge =>
          { edge with source := renamed edge.source, target := renamed edge.target }
        meta_ := { s.meta_ with
          entry := renamed s.meta_.entry
          fallbackNode := s.meta_.fallbackNode.map renamed }
        selectedId := some id }
    else { s with nodes := nodes }

def setEntryToSelected : BuilderState F :=
  match s.selected with
  | none => s
  | some id => { s with meta_ := { s.meta_ with entry := id } }

def toggleFallbackToSelected : BuilderState F :=
  match s.selected with
  | none => s
  | some id => { s with meta_ := { s.meta_ with
      fallbackNode := if s.meta_.fallbackNode = some id then none else some id } }

def step (flow : ReactFlow F E) : Action F E → BuilderState F
  | .onNodesChange removed => { s with nodes := flow.applyNodeChanges removed s.nodes }
  | .onEdgesChange changes => { s with edges := flow.applyEdgeChanges changes s.edges }
  | .onConnect source target now =>
    let id := "e_" ++ toString now ++ "_" ++ source ++ "_" ++ target
    { s with edges := flow.addEdge ⟨id, source, target, none, none, none⟩ s.edges }
  | .setSelectedId id => { s with selectedId := id }
  | .addNodeFromPalette type position => s.addNodeFromPalette num type position
  | .updateSelectedNode next => s.updateSelectedNode next
  | .setEntryToSelected => s.setEntryToSelected
  | .toggleFallbackToSelected => s.toggleFallbackToSelected

/-- Every reference is to a node. -/
structure Consistent : Prop where
  unique : s.ids.Nodup
  payloads : ∀ node ∈ s.nodes, textOf "id" node.dsl = node.id
  ends : ∀ edge ∈ s.edges, edge.source ∈ s.ids ∧ edge.target ∈ s.ids
  entry : s.meta_.entry ≠ "" → s.meta_.entry ∈ s.ids
  fallbackNode : ∀ id, s.meta_.fallbackNode = some id → id ∈ s.ids
  selectedId : ∀ id, s.selectedId = some id → id ∈ s.ids
  start : ∀ node ∈ s.nodes, ∀ other ∈ s.nodes, isStart node.dsl = true → isStart other.dsl = true →
    node.id = other.id

/-- Nothing but the node itself has its id. -/
def Unreferenced (id : String) : Prop :=
  (∀ edge ∈ s.edges, edge.source ≠ id ∧ edge.target ≠ id) ∧ s.meta_.entry ≠ id ∧
    s.meta_.fallbackNode ≠ some id ∧ s.selectedId ≠ some id

/-- The selected node takes an id that is its own or free, and becomes a start node
only where there is no other. -/
def Fits (next : Value F) : Prop := ∀ oldId, s.selected = some oldId →
  (textOf "id" next = oldId ∨ textOf "id" next ∉ s.ids) ∧
    (isStart next = true → ∀ node ∈ s.nodes, isStart node.dsl = true → node.id = oldId)

variable {s} {flow : ReactFlow F E}

theorem onNodesChange_consistent (lawful : flow.Lawful) (consistent : s.Consistent)
    (careful : ∀ node ∈ s.nodes, node.id ∈ removed → s.Unreferenced node.id) :
    (s.step num flow (.onNodesChange removed)).Consistent := by
  have kept : ∀ id ∈ s.ids, ¬s.Unreferenced id →
      id ∈ (s.step num flow (.onNodesChange removed)).ids := by
    intro id mem referenced
    obtain ⟨node, inside, rfl⟩ := List.mem_map.mp mem
    simp only [step, ids, lawful.removes]
    refine List.mem_map_of_mem (List.mem_filter.mpr ⟨inside, decide_eq_true fun gone => ?_⟩)
    exact referenced (careful node inside gone)
  have fewer : (s.step num flow (.onNodesChange removed)).nodes ⊆ s.nodes := by
    simp only [step, lawful.removes]
    exact List.filter_subset_self s.nodes
  constructor
  case unique =>
    simp only [step, ids, lawful.removes]
    exact consistent.unique.sublist (List.filter_sublist.map _)
  case payloads => exact fun node mem => consistent.payloads node (fewer mem)
  case ends =>
    intro edge mem
    obtain ⟨source, target⟩ := consistent.ends edge mem
    exact ⟨kept _ source fun free => (free.1 edge mem).1 rfl,
      kept _ target fun free => (free.1 edge mem).2 rfl⟩
  case entry => exact fun filled => kept _ (consistent.entry filled) fun free => free.2.1 rfl
  case fallbackNode => exact fun id set => kept id (consistent.fallbackNode id set) fun free => free.2.2.1 set
  case selectedId => exact fun id set => kept id (consistent.selectedId id set) fun free => free.2.2.2 set
  case start => exact fun node mem other inside =>
    consistent.start node (fewer mem) other (fewer inside)

theorem onEdgesChange_consistent (lawful : flow.Lawful) (consistent : s.Consistent) :
    (s.step num flow (.onEdgesChange changes)).Consistent := by
  refine { consistent with ends := fun edge mem => ?_ }
  obtain ⟨old, inside, source, target⟩ := lawful.edges changes s.edges edge mem
  rw [source, target]
  exact consistent.ends old inside

theorem onConnect_consistent (lawful : flow.Lawful) (consistent : s.Consistent)
    (existing : source ∈ s.ids ∧ target ∈ s.ids) :
    (s.step num flow (.onConnect source target now)).Consistent := by
  refine { consistent with ends := fun edge mem => ?_ }
  rcases lawful.added _ s.edges edge mem with old | ⟨left, right⟩
  · exact consistent.ends edge old
  · rw [left, right]
    exact existing

theorem addNodeFromPalette_consistent (consistent : s.Consistent) :
    (s.addNodeFromPalette num type position).Consistent := by
  unfold addNodeFromPalette
  split
  next => exact consistent
  next free =>
    have first : ∀ node ∈ s.nodes, isStart node.dsl = true → type ≠ .start :=
      fun node mem start new => free ⟨new, node, mem, start⟩
    have added : isStart (Node.raw num ⟨uniqueNodeId s.ids type, none, none,
        defaultNodeConfig num type⟩) = decide (type = .start) := by
      rw [isStart_raw]
      cases type <;> rfl
    constructor
    case unique =>
      simp only [ids, List.map_append, List.map_singleton]
      refine List.nodup_append.mpr ⟨consistent.unique, List.nodup_singleton _,
        fun id mem other new => ?_⟩
      rw [List.mem_singleton.mp new]
      exact fun same => uniqueNodeId_fresh s.ids type (same ▸ mem)
    case payloads =>
      refine List.forall_mem_append.mpr ⟨consistent.payloads, List.forall_mem_singleton.mpr ?_⟩
      exact textOf_id _
    case ends =>
      intro edge mem
      obtain ⟨source, target⟩ := consistent.ends edge mem
      simp only [ids, List.map_append]
      exact ⟨List.mem_append_left _ source, List.mem_append_left _ target⟩
    case entry =>
      simp only [ids, List.map_append]
      split
      next => exact fun _ => List.mem_append_right _ (List.mem_singleton.mpr rfl)
      next => exact fun filled => List.mem_append_left _ (consistent.entry filled)
    case fallbackNode =>
      intro id set
      simp only [ids, List.map_append]
      refine List.mem_append_left _ (consistent.fallbackNode id ?_)
      split at set <;> exact set
    case selectedId =>
      intro id set
      simp only [ids, List.map_append]
      exact List.mem_append_left _ (consistent.selectedId id set)
    case start =>
      intro node mem other inside left right
      rcases List.mem_append.mp mem with old | new <;>
        rcases List.mem_append.mp inside with older | newer
      · exact consistent.start node old other older left right
      · rw [List.mem_singleton.mp newer, added] at right
        exact absurd (of_decide_eq_true right) (first node old left)
      · rw [List.mem_singleton.mp new, added] at left
        exact absurd (of_decide_eq_true left) (first other older right)
      · rw [List.mem_singleton.mp new, List.mem_singleton.mp newer]

theorem selected_mem (consistent : s.Consistent) (selected : s.selected = some oldId) :
    oldId ∈ s.ids := consistent.selectedId oldId (Option.filter_eq_some_iff.mp selected).1

theorem updateSelectedNode_consistent (consistent : s.Consistent) (fits : s.Fits next) :
    (s.updateSelectedNode next).Consistent := by
  unfold updateSelectedNode
  cases selected : s.selected with
  | none => exact consistent
  | some oldId =>
    obtain ⟨free, alone⟩ := fits oldId selected
    have known := selected_mem consistent selected
    generalize identified : textOf "id" next = id at free
    let replaced := fun node : BuilderNode F =>
      if node.id = oldId then { node with id := id, dsl := next } else node
    let renamed := fun ref => if ref = oldId then id else ref
    have names : (s.nodes.map replaced).map BuilderNode.id = s.ids.map renamed := by
      rw [ids, List.map_map, List.map_map]
      refine List.map_congr_left fun node _ => ?_
      simp only [replaced, renamed, Function.comp_apply]
      split <;> rfl
    have unique : ((s.nodes.map replaced).map BuilderNode.id).Nodup := by
      rw [names]
      refine List.Nodup.map_on (fun left inside right among same => ?_) consistent.unique
      by_cases here : left = oldId <;> by_cases there : right = oldId <;>
        simp only [renamed, here, there, if_true, if_false] at same
      · exact here.trans there.symm
      · exact (free.elim (fun own => there (same.symm.trans own)) fun fresh =>
          fresh (same ▸ among)).elim
      · exact (free.elim (fun own => here (same.trans own)) fun fresh => fresh (same ▸ inside)).elim
      · exact same
    have payloads : ∀ node ∈ s.nodes.map replaced, textOf "id" node.dsl = node.id := by
      refine List.forall_mem_map.mpr fun node mem => ?_
      simp only [replaced]
      split
      · exact identified
      · exact consistent.payloads node mem
    have start : ∀ node ∈ s.nodes.map replaced, ∀ other ∈ s.nodes.map replaced,
        isStart node.dsl = true → isStart other.dsl = true → node.id = other.id := by
      refine List.forall_mem_map.mpr fun node mem => List.forall_mem_map.mpr fun other inside => ?_
      by_cases here : node.id = oldId <;> by_cases there : other.id = oldId <;>
        simp only [replaced, here, there, if_true, if_false]
      · exact fun _ _ => trivial
      · exact fun left right => absurd (alone left other inside right) there
      · exact fun left right => absurd (alone right node mem left) here
      · exact consistent.start node mem other inside
    have passed : ∀ ref ∈ s.ids, renamed ref ∈ (s.nodes.map replaced).map BuilderNode.id :=
      fun ref mem => names ▸ List.mem_map_of_mem mem
    dsimp only
    split
    next changed =>
      constructor
      case unique => exact unique
      case payloads => exact payloads
      case ends =>
        refine List.forall_mem_map.mpr fun edge mem => ?_
        obtain ⟨source, target⟩ := consistent.ends edge mem
        exact ⟨passed _ source, passed _ target⟩
      case entry =>
        intro filled
        by_cases empty : s.meta_.entry = ""
        · have other : "" ≠ oldId := fun same =>
            of_decide_eq_true (Option.filter_eq_some_iff.mp selected).2 same.symm
          simp [empty, other] at filled
        · exact passed _ (consistent.entry empty)
      case fallbackNode =>
        intro ref set
        obtain ⟨old, referenced, rfl⟩ := Option.map_eq_some_iff.mp set
        exact passed old (consistent.fallbackNode old referenced)
      case selectedId =>
        intro ref set
        have moved : renamed oldId = ref := (if_pos rfl).trans (Option.some.inj set)
        exact moved ▸ passed oldId known
      case start => exact start
    next same =>
      have kept : ∀ ref ∈ s.ids, ref ∈ (s.nodes.map replaced).map BuilderNode.id := by
        intro ref mem
        have still : renamed ref = ref := by
          simp only [renamed]
          split
          next here => exact (not_not.mp same).trans here.symm
          next => rfl
        exact still ▸ passed ref mem
      constructor
      case unique => exact unique
      case payloads => exact payloads
      case ends => exact fun edge mem => (consistent.ends edge mem).imp (kept _) (kept _)
      case entry => exact fun filled => kept _ (consistent.entry filled)
      case fallbackNode => exact fun ref set => kept ref (consistent.fallbackNode ref set)
      case selectedId => exact fun ref set => kept ref (consistent.selectedId ref set)
      case start => exact start

theorem setEntryToSelected_consistent (consistent : s.Consistent) :
    s.setEntryToSelected.Consistent := by
  unfold setEntryToSelected
  cases selected : s.selected with
  | none => exact consistent
  | some id =>
    have known := selected_mem consistent selected
    exact { consistent with entry := fun _ => known }

theorem toggleFallbackToSelected_consistent (consistent : s.Consistent) :
    s.toggleFallbackToSelected.Consistent := by
  unfold toggleFallbackToSelected
  cases selected : s.selected with
  | none => exact consistent
  | some id =>
    have known := selected_mem consistent selected
    refine { consistent with fallbackNode := fun other set => ?_ }
    dsimp only at set
    split at set
    · cases set
    · cases set
      exact known

/-- What the types and the canvas allow: connections and selections of nodes that are
there, and updates by nodes of the schema. -/
def Allowed (num : Numbers F) (s : BuilderState F) : Action F E → Prop
  | .onConnect source target _ => source ∈ s.ids ∧ target ∈ s.ids
  | .setSelectedId id => ∀ one, id = some one → one ∈ s.ids
  | .updateSelectedNode next => ∃ node, readNode num next = some node
  | _ => True

/-- Only what nothing refers to is removed, and updates fit. -/
def Careful (s : BuilderState F) : Action F E → Prop
  | .onNodesChange removed => ∀ node ∈ s.nodes, node.id ∈ removed → s.Unreferenced node.id
  | .updateSelectedNode next => s.Fits next
  | _ => True

theorem step_consistent (lawful : flow.Lawful) (consistent : s.Consistent) {action : Action F E}
    (allowed : Allowed num s action) (careful : s.Careful action) :
    (s.step num flow action).Consistent := by
  cases action with
  | onNodesChange removed => exact onNodesChange_consistent num lawful consistent careful
  | onEdgesChange changes => exact onEdgesChange_consistent num lawful consistent
  | onConnect source target now => exact onConnect_consistent num lawful consistent allowed
  | setSelectedId id => exact { consistent with selectedId := allowed }
  | addNodeFromPalette type position => exact addNodeFromPalette_consistent num consistent
  | updateSelectedNode next => exact updateSelectedNode_consistent consistent careful
  | setEntryToSelected => exact setEntryToSelected_consistent consistent
  | toggleFallbackToSelected => exact toggleFallbackToSelected_consistent consistent

theorem initialState_consistent : (initialState : BuilderState F).Consistent := by
  constructor <;> simp [initialState, defaultMeta, ids]

end BuilderState

/-! A loaded scenario. -/

section Load
variable {num} {py : Schema F} {x : ScenarioRecord F} {doc : Stored (Dict F)}

theorem response_lookup (key : String)
    (other : key ∉ ["updated_at", "created_at", "published", "version"]) :
    (response num doc).lookup key = (doc.content.lookup key).map (Value.replace num.received) := by
  simp only [List.mem_cons, List.not_mem_nil, or_false, not_or] at other
  simp [response, lookup_replaceEntries, document, lookup_dictSet, other]

theorem itemsOf_nodes (content : doc.content = x.dump) : itemsOf "nodes" (response num doc) =
    x.nodes.map fun node => (dumpNode node).replace num.received := by
  rw [itemsOf, response_lookup "nodes" (by decide), content]
  simp [ScenarioRecord.dump, List.lookup_cons, Value.replace_arr]

theorem itemsOf_edges (content : doc.content = x.dump) : itemsOf "edges" (response num doc) =
    x.edges.map fun edge => (dumpEdge edge).replace num.received := by
  rw [itemsOf, response_lookup "edges" (by decide), content]
  simp [ScenarioRecord.dump, List.lookup_cons, Value.replace_arr]

theorem textOf_received (node : NodeRecord F) :
    textOf "id" ((dumpNode node).replace num.received) = node.id := by
  simp [textOf, dumpNode, Value.replace_obj, lookup_replaceEntries, Value.replace, Numbers.received]

theorem isStart_received (node : NodeRecord F) :
    isStart ((dumpNode node).replace num.received) = decide (node.config.type = .start) := by
  have named : textOf "type" ((dumpNode node).replace num.received) = node.config.type.name := by
    simp [textOf, dumpNode, Value.replace_obj, lookup_replaceEntries, List.lookup_cons,
      Value.replace, Numbers.received]
  rw [isStart, named]
  cases node.config.type <;> rfl

theorem loadScenario_meta (content : doc.content = x.dump) :
    (loadScenario num (response num doc)).meta_ =
    ⟨x.scenarioId, x.tenantId, x.name, some x.description, num.write (num.ofInt doc.version),
      x.entry, x.fallbackNode, doc.published, x.tags⟩ := by
  have stored : ∀ key value, x.dump.lookup key = some value →
      key ∉ ["updated_at", "created_at", "published", "version"] →
      (response num doc).lookup key = some (value.replace num.received) := by
    intro key value found other
    rw [response_lookup key other, content, found, Option.map_some]
  have published : (response num doc).lookup "published" = some (.bool doc.published) := by
    simp [response, lookup_replaceEntries, document, lookup_dictSet, Value.replace,
      Numbers.received]
  have version : (response num doc).lookup "version" =
      some (num.write (num.ofInt doc.version)) := by
    simp [response, lookup_replaceEntries, document, lookup_dictSet, Value.replace,
      Numbers.received]
  have description : text ((nullable .str x.description : Value F).replace num.received) =
      x.description := by
    cases x.description <;> rfl
  have tags : itemsOf "tags" (response num doc) = x.tags.map .str := by
    rw [itemsOf, stored "tags" _ rfl (by decide), Value.replace_arr, List.map_map]
    rfl
  have texts : (x.tags.map .str).filterMap (text : Reader F String) = x.tags := by
    rw [List.filterMap_map]
    exact List.filterMap_some
  simp only [loadScenario, textOf, maybeText, tags, texts, published, version,
    stored "scenario_id" _ rfl (by decide), stored "tenant_id" _ rfl (by decide),
    stored "name" _ rfl (by decide), stored "description" _ rfl (by decide),
    stored "entry" _ rfl (by decide), stored "fallback_node" _ rfl (by decide), Option.map_some,
      description]
  cases x.fallbackNode <;> simp [nullable, Value.replace, Numbers.received, flag]

theorem loadScenario_consistent (valid : Valid py x) (content : doc.content = x.dump)
    (fallback : x.fallbackNode ≠ some "") : (loadScenario num (response num doc)).Consistent := by
  have checked := validateGraph_isOk_iff.mp valid.graph
  have names : x.fields.nodes.map Agentic.Node.id = x.nodes.map NodeRecord.id := by
    simp only [ScenarioRecord.fields, List.map_map]
    rfl
  have ids : (loadScenario num (response num doc)).ids = x.nodes.map NodeRecord.id := by
    simp only [BuilderState.ids, loadScenario, toGraph_ids, itemsOf_nodes content, List.map_map]
    exact List.map_congr_left fun node _ => textOf_received node
  have starts : ∀ node ∈ (loadScenario num (response num doc)).nodes, isStart node.dsl = true →
      node.id = x.entry := by
    intro node mem start
    obtain ⟨idx, bound, rfl⟩ := List.mem_mapIdx.mp mem
    have loaded := List.getElem_mem bound
    generalize (itemsOf "nodes" (response num doc))[idx] = raw at loaded start
    rw [itemsOf_nodes content] at loaded
    obtain ⟨record, inside, rfl⟩ := List.mem_map.mp loaded
    have type : record.config.type = .start := by simpa [toNode, isStart_received] using start
    have entry := checked.start_id (List.mem_map_of_mem inside) type
    exact (@textOf_received F num record).trans entry
  constructor
  case unique => exact ids ▸ names ▸ checked.unique
  case payloads =>
    intro node mem
    obtain ⟨idx, bound, rfl⟩ := List.mem_mapIdx.mp mem
    rfl
  case ends =>
    intro edge mem
    obtain ⟨idx, bound, rfl⟩ := List.mem_mapIdx.mp mem
    have loaded := List.getElem_mem bound
    generalize (itemsOf "edges" (response num doc))[idx] = raw at loaded
    rw [itemsOf_edges content] at loaded
    obtain ⟨record, inside, rfl⟩ := List.mem_map.mp loaded
    have ends := checked.ends _ (List.mem_map_of_mem inside)
    rw [names] at ends
    rw [ids]
    simpa [toEdge, textOf, dumpEdge, Value.replace_obj, lookup_replaceEntries, List.lookup_cons,
      Value.replace, Numbers.received] using ends
  case entry =>
    rw [loadScenario_meta content, ids, ← names]
    exact fun _ => checked.entry_mem
  case fallbackNode =>
    rw [loadScenario_meta content, ids, ← names]
    intro id set
    refine checked.fallback id (Option.filter_eq_some_iff.mpr ⟨set, decide_eq_true ?_⟩)
    rintro rfl
    exact fallback set
  case selectedId =>
    intro id set
    cases set
  case start =>
    exact fun node mem other inside left right =>
      (starts node mem left).trans (starts other inside right).symm

end Load

/-- The empty store, or a stored scenario of which the fallback node is not empty. -/
inductive Opened (num : Numbers F) (py : Schema F) : BuilderState F → Prop where
  | empty : Opened num py initialState
  | loaded {x : ScenarioRecord F} {doc : Stored (Dict F)} : Valid py x → doc.content = x.dump →
      x.fallbackNode ≠ some "" → Opened num py (loadScenario num (response num doc))

/-- In a run of careful actions every reference is to a node. -/
theorem references_kept {num : Numbers F} {py : Schema F} {flow : ReactFlow F E}
    (lawful : flow.Lawful)
    {start final : BuilderState F} (opened : Opened num py start) {actions : List (Action F E)}
    (along : Along (fun s action => some (s.step num flow action))
      (fun s action => BuilderState.Allowed num s action ∧ s.Careful action) start actions)
    (run : exec (fun s action => some (s.step num flow action)) start actions = some final) :
    final.Consistent := by
  refine exec_invariant (fun before permitted stepped => ?_) along run ?_
  · cases stepped
    exact BuilderState.step_consistent num lawful before permitted.1 permitted.2
  · cases opened with
    | empty => exact BuilderState.initialState_consistent
    | loaded valid content fallback => exact loadScenario_consistent valid content fallback

/-- Edge changes remove edges, and a second edge between two nodes is not added. -/
def listFlow : ReactFlow Int String where
  applyNodeChanges removed nodes := nodes.filter (·.id ∉ removed)
  applyEdgeChanges removed edges := edges.filter (·.id ∉ removed)
  addEdge edge edges :=
    if ∃ old ∈ edges, old.source = edge.source ∧ old.target = edge.target then edges
    else edges ++ [edge]

theorem listFlow_lawful : listFlow.Lawful where
  removes _ _ := rfl
  edges _ _ edge mem := ⟨edge, (List.mem_filter.mp mem).1, rfl, rfl⟩
  added edge edges one mem := by
    simp only [listFlow] at mem
    split at mem
    · exact .inl mem
    · rcases List.mem_append.mp mem with old | new
      · exact .inl old
      · rw [List.mem_singleton.mp new]
        exact .inr ⟨rfl, rfl⟩

/-- A start node and an end node are drawn and connected. -/
def drawing : List (Action Int String) :=
  [.addNodeFromPalette .start (0, 0), .addNodeFromPalette .end (0, 0),
    .onConnect "start_1" "end_1" 0, .setSelectedId (some "start_1")]

/-- Whatever comes after the drawing, if it is allowed then. -/
theorem drawing_along {P : BuilderState Int → Action Int String → Prop}
    {more : List (Action Int String)}
    (steps : ∀ s action, BuilderState.Allowed wholeNumbers s action → action ∈ drawing → P s action)
    (rest : ∀ s, exec (fun s action =>
      some (s.step wholeNumbers listFlow action)) initialState drawing =
      some s → Along (fun s action => some (s.step wholeNumbers listFlow action)) P s more) :
    Along (fun s action => some (s.step wholeNumbers listFlow action)) P initialState
    (drawing ++ more) := by
  refine ⟨steps _ _ trivial (by simp [drawing]), fun _ first => ?_⟩
  cases first
  refine ⟨steps _ _ trivial (by simp [drawing]), fun _ second => ?_⟩
  cases second
  refine ⟨steps _ _ ⟨by decide +kernel, by decide +kernel⟩ (by simp [drawing]), fun _ third => ?_⟩
  cases third
  refine ⟨steps _ _ ?_ (by simp [drawing]), fun _ fourth => rest _ fourth⟩
  rintro _ ⟨⟩
  decide +kernel

theorem drawing_consistent :
    ∃ final, exec (fun s action =>
      some (s.step wholeNumbers listFlow action)) initialState drawing =
      some final ∧ final.Consistent := by
  have opened : Opened wholeNumbers strictSchema initialState := .empty
  have along : Along (fun s action => some (s.step wholeNumbers listFlow action))
      (fun s action => BuilderState.Allowed wholeNumbers s action ∧ s.Careful action) initialState
      (drawing ++ []) := by
    refine drawing_along (fun s action allowed mem => ⟨allowed, ?_⟩) fun _ _ => trivial
    simp only [drawing, List.mem_cons, List.not_mem_nil, or_false] at mem
    rcases mem with rfl | rfl | rfl | rfl <;> trivial
  exact ⟨_, rfl, references_kept listFlow_lawful opened along rfl⟩

/-- The removed start node is still the entry and selected, and the edge still starts there. -/
theorem removal_inconsistent :
    Along (fun s action => some (s.step wholeNumbers listFlow action))
      (BuilderState.Allowed wholeNumbers)
        initialState (drawing ++ [.onNodesChange ["start_1"]]) ∧
      ∃ final, exec (fun s action => some (s.step wholeNumbers listFlow action)) initialState
          (drawing ++ [.onNodesChange ["start_1"]]) = some final ∧
        final.meta_.entry = "start_1" ∧ final.ids = ["end_1"] ∧ ¬final.Consistent := by
  refine ⟨drawing_along (fun _ _ allowed _ => allowed) fun _ _ => ⟨trivial, fun _ _ => trivial⟩, ?_⟩
  refine ⟨_, rfl, by decide +kernel, by decide +kernel, fun consistent => ?_⟩
  have there := consistent.entry (by decide +kernel)
  exact absurd there (by decide +kernel)

end AgentOE.Builder
