import Mathlib.Data.List.Nodup
import Mathlib.Logic.Function.Iterate
import Mathlib.Logic.Relation

/-! The scenario DSL and the graph check that every accepted scenario has
passed. Node configurations are carried along unread. -/
namespace AgentOE.Agentic

inductive NodeType where
  | start
  | intent
  | llm
  | tool
  | branch
  | transfer
  | wait
  | context
  | «end»
  deriving DecidableEq

structure Node (K : Type) where
  id : String
  type : NodeType
  config : K

structure Edge where
  from_ : String
  to_ : String
  when_ : Option String
  deriving DecidableEq

structure ScenarioFields (K : Type) where
  entry : String
  fallbackNode : Option String
  nodes : List (Node K)
  edges : List Edge

variable {K : Type}

/-- One edge in the reachability loop. -/
def visit (reachable : List String) (edge : Edge) : List String :=
  if edge.from_ ∈ reachable ∧ edge.to_ ∉ reachable then reachable ++ [edge.to_] else reachable

def visitAll (edges : List Edge) (reachable : List String) : List String :=
  edges.foldl visit reachable

theorem visit_subset (reachable : List String) (edge : Edge) :
    reachable ⊆ visit reachable edge := by
  unfold visit
  split
  · exact List.subset_append_left _ _
  · exact List.Subset.refl _

theorem visitAll_subset (edges : List Edge) (reachable : List String) :
    reachable ⊆ visitAll edges reachable := by
  induction edges generalizing reachable with
  | nil => exact List.Subset.refl _
  | cons edge edges ih => exact List.Subset.trans (visit_subset reachable edge) (ih _)

/-- A round that changes the set reaches the target of some edge. -/
theorem visitAll_new {edges : List Edge} {reachable : List String}
    (changed : visitAll edges reachable ≠ reachable) :
    ∃ edge ∈ edges, edge.to_ ∉ reachable ∧ edge.to_ ∈ visitAll edges reachable := by
  induction edges with
  | nil => contradiction
  | cons edge edges ih =>
    simp only [visitAll, List.foldl_cons] at changed ih ⊢
    by_cases added : edge.from_ ∈ reachable ∧ edge.to_ ∉ reachable
    · refine ⟨edge, List.mem_cons_self, added.2, visitAll_subset edges _ ?_⟩
      simp [visit, added]
    · have same : visit reachable edge = reachable := if_neg added
      rw [same] at changed ⊢
      obtain ⟨other, mem, fresh, reached⟩ := ih changed
      exact ⟨other, List.mem_cons_of_mem _ mem, fresh, reached⟩

/-- An edge whose source is reached has its target reached by the round. -/
theorem visitAll_target {edges : List Edge} {reachable : List String} (mem : edge ∈ edges)
    (left : edge.from_ ∈ reachable) : edge.to_ ∈ visitAll edges reachable := by
  induction edges generalizing reachable with
  | nil => cases mem
  | cons first edges ih =>
    rcases List.mem_cons.mp mem with rfl | mem
    · apply visitAll_subset edges
      unfold visit
      split
      · exact List.mem_append_right _ (List.mem_singleton.mpr rfl)
      · rename_i reached
        by_contra outside
        exact reached ⟨left, outside⟩
    · exact ih mem (visit_subset reachable first left)

theorem countP_lt_of_exists {α : Type} {p q : α → Bool} {l : List α}
    (weaker : ∀ a ∈ l, p a = true → q a = true)
    (strict : ∃ a ∈ l, p a = false ∧ q a = true) : l.countP p < l.countP q := by
  induction l with
  | nil =>
    obtain ⟨a, mem, -⟩ := strict
    cases mem
  | cons b l ih =>
    obtain ⟨first, weaker⟩ := List.forall_mem_cons.mp weaker
    have below : l.countP p ≤ l.countP q := List.countP_mono_left weaker
    obtain ⟨a, mem, out, inside⟩ := strict
    rcases List.mem_cons.mp mem with rfl | mem
    · rw [List.countP_cons_of_neg (by simp [out]), List.countP_cons_of_pos inside]
      omega
    · have tail := ih weaker ⟨a, mem, out, inside⟩
      by_cases head : p b = true
      · rw [List.countP_cons_of_pos head, List.countP_cons_of_pos (first head)]
        omega
      · rw [List.countP_cons_of_neg head, List.countP_cons]
        omega

/-- A round that changes anything leaves fewer edges with a target that is not reached. -/
theorem unreached_lt {edges : List Edge} {reachable : List String}
    (changed : visitAll edges reachable ≠ reachable) :
    edges.countP (fun edge => edge.to_ ∉ visitAll edges reachable) <
      edges.countP fun edge => edge.to_ ∉ reachable := by
  obtain ⟨edge, mem, fresh, reached⟩ := visitAll_new changed
  apply countP_lt_of_exists
  · intro other _ unreached
    simp only [decide_eq_true_eq] at unreached ⊢
    exact fun before => unreached (visitAll_subset edges reachable before)
  · exact ⟨edge, mem, by simpa using reached, by simpa using fresh⟩

/-- The `while changed` loop. -/
def reachableFrom (edges : List Edge) (reachable : List String) : List String :=
  let next := visitAll edges reachable
  if next = reachable then reachable else reachableFrom edges next
termination_by edges.countP fun edge => edge.to_ ∉ reachable
decreasing_by exact unreached_lt ‹_›

theorem reachableFrom_rounds (edges : List Edge) (reachable : List String) :
    ∃ rounds ≤ edges.countP fun edge => edge.to_ ∉ reachable,
      (visitAll edges)^[rounds] reachable = reachableFrom edges reachable ∧
      visitAll edges (reachableFrom edges reachable) = reachableFrom edges reachable := by
  fun_induction reachableFrom edges reachable with
  | case1 reachable next stable => exact ⟨0, Nat.zero_le _, rfl, stable⟩
  | case2 reachable next changed ih =>
    obtain ⟨rounds, few, ends, stable⟩ := ih
    exact ⟨rounds + 1, Nat.le_trans (Nat.succ_le_succ few) (unreached_lt changed), ends, stable⟩

/-- The loop ends with a set that no edge leaves. -/
theorem reachableFrom_closed (edges : List Edge) (reachable : List String) :
    ∀ edge ∈ edges, edge.from_ ∈ reachableFrom edges reachable →
      edge.to_ ∈ reachableFrom edges reachable := by
  induction reachable using reachableFrom.induct edges with
  | case1 reachable next stable =>
    intro edge mem
    rw [reachableFrom, if_pos stable]
    intro left
    have target : edge.to_ ∈ next := visitAll_target mem left
    rwa [stable] at target
  | case2 reachable next changed ih =>
    rw [reachableFrom, if_neg changed]
    exact ih

/-- Some edge leads from the one to the other. -/
def Leads (edges : List Edge) (source target : String) : Prop :=
  ∃ edge ∈ edges, edge.from_ = source ∧ edge.to_ = target

theorem visitAll_forall {edges : List Edge} {reachable : List String} {good : String → Prop}
    (closed : ∀ source target, Leads edges source target → good source → good target)
    (start : ∀ id ∈ reachable, good id) : ∀ id ∈ visitAll edges reachable, good id := by
  have rounds : ∀ passed ⊆ edges, ∀ before : List String, (∀ id ∈ before, good id) →
      ∀ id ∈ visitAll passed before, good id := by
    intro passed inside
    induction passed with
    | nil => exact fun before known => known
    | cons edge passed ih =>
      intro before known
      obtain ⟨here, rest⟩ := List.cons_subset.mp inside
      refine ih rest (visit before edge) ?_
      unfold visit
      split
      next added =>
        intro id mem
        rcases List.mem_append.mp mem with old | new
        · exact known id old
        · rw [List.mem_singleton.mp new]
          exact closed edge.from_ edge.to_ ⟨edge, here, rfl, rfl⟩ (known edge.from_ added.1)
      next => exact known
  exact rounds edges (List.Subset.refl edges) reachable start

theorem reachableFrom_forall {edges : List Edge} {good : String → Prop}
    (closed : ∀ source target, Leads edges source target → good source → good target)
    (reachable : List String) :
    (∀ id ∈ reachable, good id) → ∀ id ∈ reachableFrom edges reachable, good id := by
  induction reachable using reachableFrom.induct edges with
  | case1 reachable next stable =>
    rw [reachableFrom, if_pos stable]
    exact id
  | case2 reachable next changed ih =>
    rw [reachableFrom, if_neg changed]
    exact fun start => ih (visitAll_forall closed start)

theorem subset_reachableFrom (edges : List Edge) (reachable : List String) :
    reachable ⊆ reachableFrom edges reachable := by
  fun_induction reachableFrom edges reachable with
  | case1 => exact List.Subset.refl _
  | case2 before next _ => exact List.Subset.trans (visitAll_subset edges before) ‹_›

/-- The loop finds the nodes to which a path leads. -/
theorem mem_reachableFrom_iff {edges : List Edge} {entry id : String} :
    id ∈ reachableFrom edges [entry] ↔ Relation.ReflTransGen (Leads edges) entry id := by
  constructor
  · refine reachableFrom_forall (fun source target lead path => path.tail lead) [entry] ?_ id
    intro start mem
    rw [List.mem_singleton.mp mem]
  · intro path
    induction path with
    | refl => exact subset_reachableFrom edges [entry] (List.mem_singleton.mpr rfl)
    | tail _ lead reached =>
      obtain ⟨edge, mem, rfl, rfl⟩ := lead
      exact reachableFrom_closed edges [entry] edge mem reached

/-- `repr` of a list of node ids. -/
def reprIds (ids : List String) : String :=
  "[" ++ ", ".intercalate (ids.map fun id => "'" ++ id ++ "'") ++ "]"

/-- A fallback node that is set and not empty. -/
def ScenarioFields.fallback (s : ScenarioFields K) : Option String :=
  s.fallbackNode.filter (· ≠ "")

def ScenarioFields.unreachable (s : ScenarioFields K) : List String :=
  ((s.nodes.map Node.id).filter fun id =>
    id ∉ reachableFrom s.edges [s.entry] ∧ s.fallback ≠ some id)

def validateEdges (ids : List String) : List Edge → Except String Unit
  | [] => .ok ()
  | edge :: edges =>
    if edge.from_ ∉ ids then .error ("edge from '" ++ edge.from_ ++ "' not in nodes")
    else if edge.to_ ∉ ids then .error ("edge to '" ++ edge.to_ ++ "' not in nodes")
    else validateEdges ids edges

def validateGraph (s : ScenarioFields K) : Except String Unit :=
  let ids := s.nodes.map Node.id
  if ¬ids.Nodup then .error "Scenario has duplicate node ids"
  else match s.nodes.filter (·.type = .start) with
    | [] => .error "Scenario must have exactly one 'start' node"
    | first :: second :: others =>
      .error ("Scenario must have exactly one 'start' node, got " ++
        toString (others.length + 2) ++ ": " ++
        reprIds ((first :: second :: others).map Node.id))
    | [start] =>
      if s.entry ≠ start.id then
        .error ("entry must point to the 'start' node ('" ++ start.id ++ "'), got '" ++
          s.entry ++ "'")
      else if s.entry ∉ ids then .error ("entry node '" ++ s.entry ++ "' not in nodes")
      else match s.fallback.filter (· ∉ ids) with
        | some fallback => .error ("fallback_node '" ++ fallback ++ "' not in nodes")
        | none => match validateEdges ids s.edges with
          | .error message => .error message
          | .ok () =>
            if s.unreachable ≠ [] then
              .error ("Unreachable nodes: " ++
                reprIds (s.unreachable.mergeSort fun a b => decide (a ≤ b)))
            else .ok ()

/-- What the check asks for. -/
structure ScenarioFields.Checked (s : ScenarioFields K) : Prop where
  unique : (s.nodes.map Node.id).Nodup
  start : ∃ start, s.nodes.filter (·.type = .start) = [start] ∧ s.entry = start.id
  fallback : ∀ fallback, s.fallback = some fallback → fallback ∈ s.nodes.map Node.id
  ends : ∀ edge ∈ s.edges, edge.from_ ∈ s.nodes.map Node.id ∧ edge.to_ ∈ s.nodes.map Node.id
  reached : ∀ id ∈ s.nodes.map Node.id, s.fallback ≠ some id →
    Relation.ReflTransGen (Leads s.edges) s.entry id

theorem ScenarioFields.Checked.exists_start {s : ScenarioFields K} (checked : s.Checked) :
    ∃ start ∈ s.nodes, start.type = .start ∧ s.entry = start.id := by
  obtain ⟨start, only, entry⟩ := checked.start
  have among : start ∈ s.nodes.filter (·.type = .start) := by simp [only]
  obtain ⟨mem, type⟩ := List.mem_filter.mp among
  exact ⟨start, mem, of_decide_eq_true type, entry⟩

theorem ScenarioFields.Checked.entry_mem {s : ScenarioFields K} (checked : s.Checked) :
    s.entry ∈ s.nodes.map Node.id := by
  obtain ⟨start, mem, -, entry⟩ := checked.exists_start
  exact entry ▸ List.mem_map_of_mem mem

/-- A start node is the entry. -/
theorem ScenarioFields.Checked.start_id {s : ScenarioFields K} (checked : s.Checked) {node : Node K}
    (mem : node ∈ s.nodes) (type : node.type = .start) : node.id = s.entry := by
  obtain ⟨start, only, entry⟩ := checked.start
  have among : node ∈ s.nodes.filter (·.type = .start) :=
    List.mem_filter.mpr ⟨mem, decide_eq_true type⟩
  rw [only] at among
  rw [entry, List.mem_singleton.mp among]

theorem validateEdges_ok_iff {ids : List String} {edges : List Edge} :
    validateEdges ids edges = .ok () ↔ ∀ edge ∈ edges, edge.from_ ∈ ids ∧ edge.to_ ∈ ids := by
  induction edges with
  | nil => simp [validateEdges]
  | cons edge edges ih =>
    rw [validateEdges, List.forall_mem_cons]
    split
    next outside => simp [outside]
    next source =>
      split
      next outside => simp [outside]
      next target => simp [ih, not_not.mp source, not_not.mp target]

theorem unreachable_eq_nil_iff {s : ScenarioFields K} : s.unreachable = [] ↔
    ∀ id ∈ s.nodes.map Node.id, s.fallback ≠ some id →
      Relation.ReflTransGen (Leads s.edges) s.entry id := by
  rw [ScenarioFields.unreachable, List.filter_eq_nil_iff]
  refine forall₂_congr fun id _ => ?_
  rw [decide_eq_true_eq, mem_reachableFrom_iff, not_and', not_not]

theorem validateGraph_ok_iff {s : ScenarioFields K} : validateGraph s = .ok () ↔ s.Checked := by
  constructor
  · intro accepted
    simp only [validateGraph] at accepted
    split at accepted
    · cases accepted
    next unique =>
      split at accepted
      · cases accepted
      · cases accepted
      next start only =>
        split at accepted
        · cases accepted
        next entry =>
          split at accepted
          · cases accepted
          · split at accepted
            · cases accepted
            next fallback =>
              split at accepted
              · cases accepted
              next ends =>
                split at accepted
                · cases accepted
                next reached =>
                  refine ⟨not_not.mp unique, ⟨start, only, not_not.mp entry⟩, ?_,
                    validateEdges_ok_iff.mp ends, unreachable_eq_nil_iff.mp (not_not.mp reached)⟩
                  intro id set
                  rw [set] at fallback
                  simpa using fallback
  · intro checked
    obtain ⟨start, only, entry⟩ := checked.start
    have inside := checked.entry_mem
    have fallback : s.fallback.filter (· ∉ s.nodes.map Node.id) = none := by
      rw [Option.filter_eq_none_iff]
      intro id set
      simpa using checked.fallback id set
    simp only [validateGraph, checked.unique, only, entry, fallback,
      validateEdges_ok_iff.mpr checked.ends, unreachable_eq_nil_iff.mpr checked.reached]
    simp [← entry, inside]

theorem validateGraph_isOk_iff {s : ScenarioFields K} :
    (validateGraph s).isOk = true ↔ s.Checked := by
  rw [← validateGraph_ok_iff]
  cases validateGraph s with
  | ok => exact iff_of_true rfl rfl
  | error message => exact iff_of_false Bool.false_ne_true (by simp)

/-- The check decides well-formedness, and its loop ends after at most one round an edge. -/
theorem validateGraph_decides (nodes : List (Node K)) (edges : List Edge) (entry : String)
    (fallbackNode : Option String) :
    (∃ rounds ≤ edges.length, (visitAll edges)^[rounds] [entry] = reachableFrom edges [entry] ∧
      visitAll edges (reachableFrom edges [entry]) = reachableFrom edges [entry]) ∧
    (validateGraph ⟨entry, fallbackNode, nodes, edges⟩ = .ok () ↔
      (nodes.map Node.id).Nodup ∧
      (∃ start ∈ nodes, start.type = .start ∧ entry = start.id ∧
        (nodes.filter (·.type = .start)).length = 1) ∧
      (∀ fallback, fallbackNode = some fallback → fallback ≠ "" → fallback ∈ nodes.map Node.id) ∧
      (∀ edge ∈ edges, edge.from_ ∈ nodes.map Node.id ∧ edge.to_ ∈ nodes.map Node.id) ∧
      ∀ node ∈ nodes, (fallbackNode = some node.id → node.id = "") →
        Relation.ReflTransGen (fun source target => ∃ edge ∈ edges, edge.from_ = source ∧
          edge.to_ = target)
          entry node.id) := by
  refine ⟨?_, ?_⟩
  · obtain ⟨rounds, few, ends⟩ := reachableFrom_rounds edges [entry]
    exact ⟨rounds, Nat.le_trans few List.countP_le_length, ends⟩
  · rw [validateGraph_ok_iff]
    constructor
    · intro checked
      obtain ⟨start, mem, type, same⟩ := checked.exists_start
      obtain ⟨_, only, _⟩ := checked.start
      refine ⟨checked.unique, ⟨start, mem, type, same, congrArg List.length only⟩, ?_,
        checked.ends, ?_⟩
      · intro fallback set nonempty
        exact checked.fallback fallback (Option.filter_eq_some_iff.mpr
          ⟨set, by simpa using nonempty⟩)
      · intro node mem other
        refine checked.reached node.id (List.mem_map_of_mem mem) fun set => ?_
        obtain ⟨same, nonempty⟩ := Option.filter_eq_some_iff.mp set
        exact absurd (other same) (by simpa using nonempty)
    · rintro ⟨unique, ⟨start, mem, type, same, one⟩, fallback, ends, reached⟩
      refine ⟨unique, ⟨start, ?_, same⟩, ?_, ends, ?_⟩
      · obtain ⟨only, found⟩ := List.length_eq_one_iff.mp one
        have among : start ∈ nodes.filter (·.type = .start) :=
          List.mem_filter.mpr ⟨mem, decide_eq_true type⟩
        rw [found] at among
        exact found.trans (congrArg (fun n => [n]) (List.mem_singleton.mp among).symm)
      · intro id set
        obtain ⟨given, nonempty⟩ := Option.filter_eq_some_iff.mp set
        exact fallback id given (by simpa using nonempty)
      · intro id mem other
        obtain ⟨node, among, rfl⟩ := List.mem_map.mp mem
        refine reached node among fun given => ?_
        by_contra nonempty
        exact other (Option.filter_eq_some_iff.mpr ⟨given, by simpa using nonempty⟩)

/-- `^[a-zA-Z0-9_-]+$`, at most 64 characters. -/
def nodeIdPattern (id : String) : Bool :=
  1 ≤ id.length && id.length ≤ 64 &&
    id.toList.all fun c => c.isAlphanum || c = '_' || c = '-'

/-- A scenario that the model accepts. -/
structure Scenario (K : Type) extends ScenarioFields K where
  nodeIds : ∀ node ∈ nodes, nodeIdPattern node.id = true
  edgeEnds : ∀ edge ∈ edges, edge.from_ ≠ "" ∧ edge.to_ ≠ ""
  graph : validateGraph toScenarioFields = .ok ()

end AgentOE.Agentic
