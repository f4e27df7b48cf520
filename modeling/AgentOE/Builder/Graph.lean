import AgentOE.Builder.Schema

/-! The graph of the editor: from a scenario to nodes and edges on the canvas, and
back through the schema. Payloads and scenarios are the objects they are at run time. -/
namespace AgentOE.Builder
open Json Agentic

structure BuilderNode (F : Type) where
  id : String
  position : F × F
  /-- `data.dsl`. -/
  dsl : Value F

/-- `data` holds the condition and the label of the scenario, `display` is what the
canvas shows. -/
structure BuilderEdge where
  id : String
  source : String
  target : String
  display : Option String
  when_ : Option String
  label : Option String
  deriving DecidableEq

structure BuilderGraph (F : Type) where
  nodes : List (BuilderNode F)
  edges : List BuilderEdge

variable {F : Type} (num : Numbers F)

/-- A property that the types promise to be a string. -/
def textOf (key : String) : Value F → String
  | .obj entries => match entries.lookup key with
    | some (.str value) => value
    | _ => ""
  | _ => ""

/-- `value[key] ?? undefined` of a string or null. -/
def maybeText (key : String) : Value F → Option String
  | .obj entries => match entries.lookup key with
    | some (.str value) => some value
    | _ => none
  | _ => none

def gridPosition (idx : Nat) : F × F :=
  (num.ofInt (120 + (idx % 4) * 240), num.ofInt (80 + (idx / 4) * 160))

def toNode (positions : String → Option (F × F)) (node : Value F) (idx : Nat) : BuilderNode F :=
  let id := textOf "id" node
  ⟨id, (positions id).getD (gridPosition num idx), node⟩

def toEdge (edge : Value F) (idx : Nat) : BuilderEdge :=
  let from_ := textOf "from" edge
  let to_ := textOf "to" edge
  let when_ := maybeText "when" edge
  { id := "e_" ++ toString idx ++ "_" ++ from_ ++ "_" ++ to_ ++ "_" ++ when_.getD "_"
    source := from_
    target := to_
    display := (maybeText "label" edge).or ((when_.filter (· ≠ "")).map ("when: " ++ ·))
    when_ := when_
    label := maybeText "label" edge }

def toGraph (nodes edges : List (Value F)) (positions : String → Option (F × F)) : BuilderGraph F :=
  ⟨nodes.mapIdx fun idx node => toNode num positions node idx,
    edges.mapIdx fun idx edge => toEdge edge idx⟩

def isStart (node : Value F) : Bool := textOf "type" node = "start"

def BuilderEdge.raw (edge : BuilderEdge) : Value F := .obj
  (("from", .str edge.source) :: ("to", .str edge.target) ::
    (field "when" (edge.when_.map .str) ++ field "label" (edge.label.map .str)))

/-- The id of the start node goes before the entry in `meta`. -/
def resolvedEntry (nodes : List (Value F)) (info : Dict F) : Value F :=
  match nodes.find? isStart with
  | some start => .str (textOf "id" start)
  | none => match info.lookup "entry" with
    | none | some .null => .str ""
    | some entry => entry

/-- `{ ...meta, entry, nodes, edges }`. -/
def draft (nodes edges : List (Value F)) (info : Dict F) : Dict F :=
  dictSet "edges" (.arr edges) (dictSet "nodes" (.arr nodes)
    (dictSet "entry" (resolvedEntry nodes info) info))

def fromGraph (graph : BuilderGraph F) (info : Dict F) : Option (Scenario F) :=
  let nodes := graph.nodes.map BuilderNode.dsl
  let edges := graph.edges.map BuilderEdge.raw
  parse num (draft nodes edges info)

/-! Both ways. -/

/-- An absent condition or label and a null one are the same. -/
def Edge.collapsed (edge : Edge) : Edge :=
  { edge with when_ := edge.when_.join.map some, label := edge.label.join.map some }

structure SameGraph (g h : BuilderGraph F) : Prop where
  ids : h.nodes.map BuilderNode.id = g.nodes.map BuilderNode.id
  payloads : h.nodes.map BuilderNode.dsl = g.nodes.map BuilderNode.dsl
  edges : h.edges.map (fun edge => (edge.source, edge.target, edge.when_, edge.label)) =
    g.edges.map fun edge => (edge.source, edge.target, edge.when_, edge.label)

section Lookup
variable {num}

theorem textOf_id (node : Node F) : textOf "id" (node.raw num) = node.id := by
  simp [textOf, Node.raw]

theorem isStart_raw (node : Node F) : isStart (node.raw num) =
    decide (node.config.type = .start) := by
  have named : textOf "type" (node.raw num) = node.config.type.name := by
    simp [textOf, Node.raw, List.lookup_cons, lookup_field_append]
  rw [isStart, named]
  cases node.config.type <;> rfl

theorem maybeText_when (edge : Edge) : maybeText "when" (edge.raw : Value F) = edge.when_.join := by
  rcases edge with ⟨from_, to_, _ | _ | _, label⟩ <;>
    simp [maybeText, Edge.raw, List.lookup_cons, lookup_field_append, lookup_field, nullish,
      nullable]

theorem maybeText_label (edge : Edge) : maybeText "label" (edge.raw : Value F) =
    edge.label.join := by
  rcases edge with ⟨from_, to_, when_, _ | _ | _⟩ <;>
    simp [maybeText, Edge.raw, List.lookup_cons, lookup_field_append, lookup_field, nullish,
      nullable]

theorem toEdge_raw (edge : Edge) (idx : Nat) :
    ((toEdge (edge.raw : Value F) idx).raw : Value F) = edge.collapsed.raw := by
  have source : textOf "from" (edge.raw : Value F) = edge.from_ := by
    simp [textOf, Edge.raw]
  have target : textOf "to" (edge.raw : Value F) = edge.to_ := by
    simp [textOf, Edge.raw, List.lookup_cons]
  simp only [toEdge, BuilderEdge.raw, source, target, maybeText_when, maybeText_label]
  rcases edge with ⟨from_, to_, _ | _ | _, _ | _ | _⟩ <;> rfl

theorem find_start (nodes : List (Node F)) : (nodes.map (Node.raw num)).find? isStart =
    (nodes.find? fun node => node.config.type = .start).map (Node.raw num) := by
  rw [List.find?_map]
  congr 2
  funext node
  exact isStart_raw node

/-- The start node, if there is one, is the entry. -/
def Scenario.EntersAtStart (s : Scenario F) : Prop :=
  ∀ start, s.nodes.find? (fun node => node.config.type = .start) = some start → s.entry = start.id

theorem resolvedEntry_meta {s : Scenario F} (enters : s.EntersAtStart) :
    resolvedEntry (s.nodes.map (Node.raw num)) (s.meta num) = .str s.entry := by
  have entry : (s.meta num).lookup "entry" = some (.str s.entry) := by
    simp [Scenario.meta, List.lookup_cons, lookup_field_append]
  rw [resolvedEntry, find_start]
  cases found : s.nodes.find? (fun node => node.config.type = .start) with
  | some start =>
    simp only [Option.map_some, textOf_id, enters start found]
  | none => simp only [Option.map_none, entry]

end Lookup

/-- The position in the list may be forgotten again. -/
theorem map_mapIdx_eq {f : Nat → α → β} {g : β → γ} {h : α → γ} (same : ∀ idx a, g (f idx a) = h a)
    (l : List α) : (l.mapIdx f).map g = l.map h := by
  apply List.ext_getElem?
  intro idx
  simp [List.getElem?_mapIdx, Function.comp_def, same]

section RoundTrip
variable {num} (positions : String → Option (F × F))

theorem toGraph_payloads (nodes edges : List (Value F)) :
    (toGraph num nodes edges positions).nodes.map BuilderNode.dsl = nodes :=
  (map_mapIdx_eq (f := fun idx node => toNode num positions node idx) (g := BuilderNode.dsl)
    (h := id) (fun _ _ => rfl) nodes).trans (List.map_id nodes)

theorem toGraph_ids (nodes edges : List (Value F)) :
    (toGraph num nodes edges positions).nodes.map BuilderNode.id = nodes.map (textOf "id") :=
  map_mapIdx_eq (f := fun idx node => toNode num positions node idx) (g := BuilderNode.id)
    (h := textOf "id") (fun _ _ => rfl) nodes

theorem textOf_ids (nodes : List (Node F)) :
    (nodes.map (Node.raw num)).map (textOf "id") = nodes.map Node.id := by
  rw [List.map_map]
  exact List.map_congr_left fun node _ => textOf_id node

theorem toGraph_edges (nodes : List (Value F)) (edges : List Edge) :
    (toGraph num nodes (edges.map Edge.raw) positions).edges.map BuilderEdge.raw =
      edges.map fun edge => (edge.collapsed.raw : Value F) := by
  refine (map_mapIdx_eq (f := fun idx edge => toEdge edge idx) (g := BuilderEdge.raw)
    (h := fun edge : Value F => ((toEdge edge 0).raw : Value F))
    (fun _ _ => by simp only [toEdge, BuilderEdge.raw]) _).trans ?_
  rw [List.map_map]
  exact List.map_congr_left fun edge _ => toEdge_raw edge 0

section Draft
variable (nodes edges : List (Value F)) (info : Dict F)

theorem draft_nodes : (draft nodes edges info).lookup "nodes" = some (.arr nodes) := by
  simp [draft, lookup_dictSet]

theorem draft_edges : (draft nodes edges info).lookup "edges" = some (.arr edges) := by
  simp [draft, lookup_dictSet]

theorem draft_entry : (draft nodes edges info).lookup "entry" =
    some (resolvedEntry nodes info) := by
  simp [draft, lookup_dictSet]

theorem draft_lookup (key : String) (other : key ∉ ["edges", "nodes", "entry"]) :
    (draft nodes edges info).lookup key = info.lookup key := by
  simp only [List.mem_cons, List.not_mem_nil, or_false, not_or] at other
  simp [draft, lookup_dictSet, other]

end Draft

/-- A draft in which only known keys occur. -/
theorem draft_known {nodes edges : List (Value F)} {info : Dict F}
    (known : ∀ one ∈ info, one.1 ∈ scenarioKeys) :
    ∀ one ∈ draft nodes edges info, one.1 ∈ scenarioKeys := by
  intro one mem
  have key := List.mem_map_of_mem (f := Prod.fst) mem
  rw [draft, mem_keys_dictSet, mem_keys_dictSet, mem_keys_dictSet] at key
  rcases key with same | same | same | inside
  · rw [same]; decide
  · rw [same]; decide
  · rw [same]; decide
  · obtain ⟨other, mem, same⟩ := List.mem_map.mp inside
    exact same ▸ known other mem

theorem meta_known (s : Scenario F) : ∀ one ∈ s.meta num, one.1 ∈ scenarioKeys := by
  have optional : ∀ (key : String) (value : Option (Value F)), key ∈ scenarioKeys →
      ∀ one ∈ field key value, one.1 ∈ scenarioKeys := by
    intro key value known one mem
    obtain ⟨raw, -, rfl⟩ := List.mem_map.mp mem
    exact known
  simp only [Scenario.meta, List.forall_mem_cons, List.forall_mem_append]
  exact ⟨by decide, by decide, by decide, by decide, optional _ _ (by decide), by decide,
    optional _ _ (by decide), by
      decide, by decide, optional _ _ (by decide), optional _ _ (by decide),
    by decide, fun _ none => absurd none List.not_mem_nil⟩

theorem fromGraph_toGraph {s : Scenario F} (sound : s.Sound num) (enters : s.EntersAtStart) :
    fromGraph num (toGraph num (s.nodes.map (Node.raw num)) (s.edges.map Edge.raw) positions)
      (s.meta num) = some { s with edges := s.edges.map Edge.collapsed } := by
  rw [fromGraph, toGraph_payloads, toGraph_edges]
  rw [parse_iff]
  refine ⟨draft_known (meta_known s), ?_⟩
  have keys := draft_lookup (s.nodes.map (Node.raw num))
    (s.edges.map fun edge => (edge.collapsed.raw : Value F)) (s.meta num)
  have entry : (draft (s.nodes.map (Node.raw num))
      (s.edges.map fun edge => (edge.collapsed.raw : Value F)) (s.meta num)).lookup "entry" =
      some (.str s.entry) := by
    rw [draft_entry, resolvedEntry_meta enters]
  have scenarioId : checked scenarioIdPattern text (.str s.scenarioId : Value F) =
      some s.scenarioId := checked_some rfl sound.scenarioId
  have tenantId : checked tenantIdLength text (.str s.tenantId : Value F) = some s.tenantId :=
    checked_some rfl sound.tenantId
  have version : checked (1 ≤ ·) num.readInt (.int s.version) = some s.version :=
    checked_some rfl (decide_eq_true sound.version)
  have name : checked nonempty text (.str s.name : Value F) = some s.name :=
    checked_some rfl sound.name
  have entered : checked nonempty text (.str s.entry : Value F) = some s.entry :=
    checked_some rfl sound.entry
  have nodes : list (readNode num) (.arr (s.nodes.map (Node.raw num))) = some s.nodes :=
    list_arr fun node mem => by
      have whole := sound.nodes node mem
      rw [readNode_raw_iff]
      exact ⟨whole.toFits, Node.cleaned_of_sound whole⟩
  have edges : list readEdge (.arr (s.edges.map fun edge => (edge.collapsed.raw : Value F))) =
      some (s.edges.map Edge.collapsed) := by
    have ends : ∀ edge ∈ s.edges.map Edge.collapsed, readEdge (edge.raw : Value F) = some edge := by
      intro edge mem
      obtain ⟨old, inside, rfl⟩ := List.mem_map.mp mem
      exact readEdge_raw_iff.mpr ⟨sound.edges old inside, rfl⟩
    have read := list_arr ends
    rwa [List.map_map] at read
  have limits := readLimits_raw sound.limits
  constructor
  · rw [required, keys "scenario_id" (by decide)]
    simp [Scenario.meta, scenarioId]
  · rw [required, keys "tenant_id" (by decide)]
    simp [Scenario.meta, List.lookup_cons, tenantId]
  · rw [defaulted, keys "version" (by decide)]
    simp [Scenario.meta, List.lookup_cons, version]
  · rw [required, keys "name" (by decide)]
    simp [Scenario.meta, List.lookup_cons, name]
  · rw [maybe, defaulted, keys "description" (by decide)]
    simp [Scenario.meta, List.lookup_cons, lookup_field_append]
  · rw [required, entry]
    simp [entered]
  · rw [maybe, defaulted, keys "fallback_node" (by decide)]
    simp [Scenario.meta, List.lookup_cons, lookup_field_append, maybe_nullish]
  · rw [required, draft_nodes]
    simp [nodes]
  · rw [required, draft_edges]
    simp [edges]
  · rw [defaulted, keys "limits" (by decide)]
    simp [Scenario.meta, List.lookup_cons, lookup_field_append, limits]
  · rw [defaulted, keys "tags" (by decide)]
    simp [Scenario.meta, List.lookup_cons, lookup_field_append, list_text]
  · rw [maybe, defaulted, keys "created_by" (by decide)]
    simp [Scenario.meta, List.lookup_cons, lookup_field_append, maybe_nullish]
  · rw [maybe, defaulted, keys "created_at" (by decide)]
    simp [Scenario.meta, List.lookup_cons, lookup_field_append, maybe_nullish]
  · rw [defaulted, keys "published" (by decide)]
    simp [Scenario.meta, List.lookup_cons, lookup_field_append]

/-- What a canvas edge is in the scenario. -/
def BuilderEdge.toEdge (edge : BuilderEdge) : Edge :=
  ⟨edge.source, edge.target, edge.when_.map some, edge.label.map some⟩

theorem raw_toEdge (edge : BuilderEdge) : (edge.toEdge.raw : Value F) = edge.raw := by
  rcases edge with ⟨id, source, target, display, _ | _, _ | _⟩ <;> rfl

theorem toGraph_edge_data (nodes : List (Value F)) (edges : List Edge) :
    (toGraph num nodes (edges.map Edge.raw) positions).edges.map
        (fun edge => (edge.source, edge.target, edge.when_, edge.label)) =
      edges.map fun edge => (edge.from_, edge.to_, edge.when_.join, edge.label.join) := by
  refine (map_mapIdx_eq (f := fun idx edge => toEdge edge idx)
    (g := fun edge : BuilderEdge => (edge.source, edge.target, edge.when_, edge.label))
    (h := fun edge : Value F => (textOf "from" edge, textOf "to" edge, maybeText "when" edge,
      maybeText "label" edge)) (fun _ _ => rfl) _).trans ?_
  rw [List.map_map]
  refine List.map_congr_left fun edge _ => ?_
  have source : textOf "from" (edge.raw : Value F) = edge.from_ := by
    simp [textOf, Edge.raw]
  have target : textOf "to" (edge.raw : Value F) = edge.to_ := by
    simp [textOf, Edge.raw, List.lookup_cons]
  simp only [Function.comp_apply, source, target, maybeText_when, maybeText_label]

/-- Only a node without that key keeps its object. -/
theorem cleaned_raw_iff {node : Node F} : node.cleaned.raw num = node.raw num ↔
    node.config.Clean := by
  constructor
  · intro same
    rcases node with ⟨id, label, description, config⟩
    cases config with
    | tool config =>
      have written : (fun arg : String × String => (arg.1, (.str arg.2 : Value F))).Injective := by
        intro arg other equal
        injection equal with key value
        injection value with value
        exact Prod.ext key value
      simp only [Node.cleaned, Config.cleaned, Node.raw, Config.raw, Value.obj.injEq,
        List.cons.injEq,
        List.append_cancel_left_eq, Prod.mk.injEq, true_and, and_true, Config.type] at same
      exact withoutProto_eq_self_iff.mp (written.list_map same)
    | context config =>
      simp only [Node.cleaned, Config.cleaned, Node.raw, Config.raw, Value.obj.injEq,
        List.cons.injEq,
        List.append_cancel_left_eq, Prod.mk.injEq, true_and, and_true, Config.type] at same
      exact withoutProto_eq_self_iff.mp same
    | start | intent | llm | branch | transfer | wait | «end» => trivial
  · intro clean
    rw [Node.cleaned, cleaned_of_clean clean]

/-- What the schema makes of the nodes of a graph. -/
theorem fromGraph_nodes {graph : BuilderGraph F} {dsls : List (Node F)} {info : Dict F}
    {s : Scenario F} (typed : graph.nodes.map BuilderNode.dsl = dsls.map (Node.raw num))
    (accepted : fromGraph num graph info = some s) : s.nodes = dsls.map Node.cleaned := by
  have reads := (parse_iff.mp accepted).2.nodes
  rw [required, draft_nodes, typed, Option.bind_some, list] at reads
  exact ((readAll_map_iff (f := Node.raw num) fun _ _ _ => readNode_raw_iff).mp reads).2.symm

theorem fromGraph_edges {graph : BuilderGraph F} {info : Dict F} {s : Scenario F}
    (accepted : fromGraph num graph info = some s) :
    s.edges = graph.edges.map BuilderEdge.toEdge := by
  have reads := (parse_iff.mp accepted).2.edges
  rw [required, draft_edges, Option.bind_some, list] at reads
  have written : graph.edges.map BuilderEdge.raw =
      (graph.edges.map BuilderEdge.toEdge).map (Edge.raw : Edge → Value F) := by
    rw [List.map_map]
    exact List.map_congr_left fun edge _ => (raw_toEdge edge).symm
  rw [written] at reads
  have parsed := (readAll_map_iff (f := Edge.raw) (g := id) fun _ _ _ => readEdge_raw_iff).mp reads
  exact parsed.2.symm.trans (List.map_id _)

theorem round_trip_iff (num : Numbers F) :
    (∀ document (s : Scenario F) positions, parse num document = some s → s.EntersAtStart →
      fromGraph num (toGraph num (s.nodes.map (Node.raw num)) (s.edges.map Edge.raw) positions)
        (s.meta num) = some { s with edges := s.edges.map Edge.collapsed }) ∧
    ∀ (graph : BuilderGraph F) (dsls : List (Node F)) info s positions,
      graph.nodes.map BuilderNode.dsl = dsls.map (Node.raw num) →
      fromGraph num graph info = some s →
      (SameGraph graph (toGraph num (s.nodes.map (Node.raw num)) (s.edges.map Edge.raw) positions) ↔
        graph.nodes.map BuilderNode.id = dsls.map Node.id ∧ ∀ dsl ∈ dsls, dsl.config.Clean) := by
  refine ⟨fun document s positions accepted enters =>
    fromGraph_toGraph positions (parse_sound accepted) enters, ?_⟩
  intro graph dsls info s positions typed accepted
  have nodes := fromGraph_nodes typed accepted
  have edges := fromGraph_edges accepted
  have ids : (toGraph num (s.nodes.map (Node.raw num)) (s.edges.map Edge.raw) positions).nodes.map
      BuilderNode.id = dsls.map Node.id := by
    rw [toGraph_ids, textOf_ids, nodes, List.map_map]
    rfl
  have payloads : (toGraph num (s.nodes.map (Node.raw num))
      (s.edges.map Edge.raw) positions).nodes.map
      BuilderNode.dsl = dsls.map fun dsl => dsl.cleaned.raw num := by
    rw [toGraph_payloads, nodes, List.map_map]
    rfl
  constructor
  · intro same
    refine ⟨same.ids.symm.trans ids, fun dsl mem => ?_⟩
    have kept := payloads.symm.trans (same.payloads.trans typed)
    exact cleaned_raw_iff.mp (List.map_inj_left.mp kept dsl mem)
  · rintro ⟨named, clean⟩
    refine ⟨ids.trans named.symm, ?_, ?_⟩
    · rw [payloads, typed]
      exact List.map_congr_left fun dsl mem => cleaned_raw_iff.mpr (clean dsl mem)
    · rw [toGraph_edge_data, edges, List.map_map]
      refine List.map_congr_left fun edge _ => ?_
      rcases edge with ⟨id, source, target, display, _ | _, _ | _⟩ <;> rfl

end RoundTrip

/-! A start node, a context node and an end node. -/

def markedNodes (key : String) : List (Node Int) :=
  [⟨"start_1", none, none, .start ⟨.inboundCall, none⟩⟩,
    ⟨"context_1", some "mark", none, .context ⟨[(key, .bool true)], []⟩⟩,
    ⟨"end_1", none, none, .end ⟨some none⟩⟩]

def marked (key : String) : Scenario Int where
  scenarioId := "sc_marked"
  tenantId := "t"
  version := 1
  name := "marked"
  description := none
  entry := "start_1"
  fallbackNode := some none
  nodes := (markedNodes key).map Node.cleaned
  edges := [⟨"start_1", "context_1", none, none⟩, ⟨"context_1", "end_1", some "done", none⟩]
  limits := defaultLimits wholeNumbers
  tags := []
  createdBy := none
  createdAt := none
  published := false

/-- Its canvas, where the first node has the given id. -/
def markedGraph (first key : String) : BuilderGraph Int where
  nodes := List.zipWith (fun id node => ⟨id, (0, 0), node.raw wholeNumbers⟩)
    [first, "context_1", "end_1"] (markedNodes key)
  edges := [⟨"a", "start_1", "context_1", none, none, none⟩,
    ⟨"b", "context_1", "end_1", some "when: done", some "done", none⟩]

theorem marked_round_trip :
    fromGraph wholeNumbers (toGraph wholeNumbers ((marked "seen").nodes.map (Node.raw wholeNumbers))
        ((marked "seen").edges.map Edge.raw) fun _ => none) ((marked "seen").meta wholeNumbers) =
      some { marked "seen" with edges := (marked "seen").edges.map Edge.collapsed } ∧
    SameGraph (markedGraph "start_1" "seen") (toGraph wholeNumbers
      ((marked "seen").nodes.map (Node.raw wholeNumbers)) ((marked "seen").edges.map Edge.raw)
      fun _ => none) := by
  constructor
  · refine (round_trip_iff wholeNumbers).1 ((marked "seen").raw wholeNumbers) (marked "seen") _
      (by rfl) ?_
    intro start found
    cases found
    rfl
  · refine ((round_trip_iff wholeNumbers).2 (markedGraph "start_1" "seen") (markedNodes "seen")
      ((marked "seen").meta wholeNumbers) (marked "seen") _ (by rfl) (by rfl)).mpr
        ⟨by decide +kernel, ?_⟩
    simp [markedNodes, Config.Clean]

/-- The id on the canvas is not kept, nor is a slot of the one key. -/
theorem marked_graph_changed :
    (fromGraph wholeNumbers (markedGraph "node_1" "seen") ((marked "seen").meta wholeNumbers) =
        some (marked "seen") ∧
      ¬SameGraph (markedGraph "node_1" "seen") (toGraph wholeNumbers
        ((marked "seen").nodes.map (Node.raw wholeNumbers)) ((marked "seen").edges.map Edge.raw)
        fun _ => none)) ∧
    fromGraph wholeNumbers (markedGraph "start_1" "__proto__") ((marked "seen").meta wholeNumbers) =
        some (marked "__proto__") ∧
      ¬SameGraph (markedGraph "start_1" "__proto__") (toGraph wholeNumbers
        ((marked "__proto__").nodes.map (Node.raw wholeNumbers))
        ((marked "__proto__").edges.map Edge.raw) fun _ => none) := by
  refine ⟨⟨by rfl, fun same => ?_⟩, by rfl, fun same => ?_⟩
  · exact absurd same.ids (by decide +kernel)
  · have kept := same.payloads
    simp [toGraph, toNode, marked, markedGraph, markedNodes, Node.cleaned, Config.cleaned,
      Node.raw, Config.raw, withoutProto] at kept

end AgentOE.Builder
