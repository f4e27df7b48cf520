import AgentOE.Agentic.Nodes
import AgentOE.Text

/-! Routing out of a branch node. The dispatcher and the mapping that the compiler
registers for it are built from the same edges, each in its own way. -/
namespace AgentOE.Agentic

variable {F V K : Type}

def isDefault (edge : Edge) : Bool := edge.when_ = none || edge.when_ = some "default"

/-- `value` is the text of the value, the string of Python's `None` where there is none. -/
def match_ (py : Builtins F V) (mode : BranchMode) (value when_ : String) : Bool :=
  match mode with
  | .intent | .slot => value = when_
  | .expr =>
    if "contains:".toList.isPrefixOf when_.toList then
      Text.contains (py.lower (String.ofList (when_.toList.drop "contains:".length))).toList
        (py.lower value).toList
    else if "regex:".toList.isPrefixOf when_.toList then
      (py.search (String.ofList (when_.toList.drop "regex:".length)) value).getD false
    else value = when_

/-- The loop of `make_branch_dispatcher`: the default target and the cases. -/
def collectCases (outgoing : List Edge) : Option String × List (String × String) :=
  outgoing.foldl (fun (found : Option String × List (String × String)) edge =>
    match edge.when_ with
    | none => (some edge.to_, found.2)
    | some when_ =>
      if when_ = "default" then (some edge.to_, found.2)
      else (found.1, found.2 ++ [(when_, edge.to_)])) (none, [])

def branchValue (py : Builtins F V) (config : BranchNodeConfig) (σ : CallbotState F V) : String :=
  match config.mode with
  | .intent => (σ.intent.map IntentResult.intent).getD "None"
  | .slot => (((config.slotKey.filter (· ≠ "")).bind fun key => σ.slots.lookup key).map py.str).getD
      "None"
  | .expr => σ.userInput

def makeBranchDispatcher (py : Builtins F V) (config : BranchNodeConfig) (outgoing : List Edge)
    (σ : CallbotState F V) : String :=
  let (defaultTarget, cases) := collectCases outgoing
  let default := defaultTarget.filter (· ≠ "")
  match (if σ.fallbackTriggered then default else none) with
  | some target => target
  | none =>
    let value := branchValue py config σ
    match cases.find? fun entry => match_ py config.mode value entry.1 with
    | some entry => entry.2
    | none => default.getD "__end__"

/-! What the edges ask for. -/

/-- The default edge; the last one where there are several. -/
def defaultEdge (outgoing : List Edge) : Option Edge := (outgoing.filter isDefault).getLast?

/-- The first edge, in their order, whose condition holds of the state. -/
def firstMatch (py : Builtins F V) (config : BranchNodeConfig) (σ : CallbotState F V)
    (outgoing : List Edge) : Option Edge :=
  outgoing.find? fun edge =>
    !isDefault edge && edge.when_.any (match_ py config.mode (branchValue py config σ))

/-- The key of an edge in the compiler's mapping. -/
def branchKey (edge : Edge) : String := (edge.when_.filter (· ≠ "")).getD "default"

/-- A conversation that has fallen back leaves by the default edge; any other by
the first match, then the default edge, then the end. -/
structure Routed (py : Builtins F V) (config : BranchNodeConfig) (s : ScenarioFields K)
    (id : String) (σ : CallbotState F V) (target : String) : Prop where
  forced : σ.fallbackTriggered = true → ∀ edge, defaultEdge (s.outgoing id) = some edge →
    target = edge.to_
  matched : (σ.fallbackTriggered = true → defaultEdge (s.outgoing id) = none) →
    ∀ edge, firstMatch py config σ (s.outgoing id) = some edge → target = edge.to_
  unmatched : firstMatch py config σ (s.outgoing id) = none →
    ∀ edge, defaultEdge (s.outgoing id) = some edge → target = edge.to_
  ended : firstMatch py config σ (s.outgoing id) = none → defaultEdge (s.outgoing id) = none →
    s.fallback = none → target = "__end__"
  closed : ((s.outgoing id).map branchKey).Nodup →
    target ∈ (identityMapping (branchMapping s (s.outgoing id))).map Prod.fst

theorem collectCases_append (outgoing : List Edge) (edge : Edge) :
    collectCases (outgoing ++ [edge]) =
      if isDefault edge then (some edge.to_, (collectCases outgoing).2)
      else ((collectCases outgoing).1,
        (collectCases outgoing).2 ++ [(edge.when_.getD "", edge.to_)]) := by
  obtain ⟨from_, to_, when_⟩ := edge
  simp only [collectCases, List.foldl_append, List.foldl_cons, List.foldl_nil, isDefault]
  cases when_ with
  | none => simp
  | some when_ => by_cases named : when_ = "default" <;> simp [named]

theorem collectCases_default (outgoing : List Edge) :
    (collectCases outgoing).1 = (defaultEdge outgoing).map Edge.to_ := by
  induction outgoing using List.reverseRecOn with
  | nil => rfl
  | append_singleton outgoing edge ih =>
    rw [collectCases_append, defaultEdge, List.filter_append]
    by_cases default : isDefault edge = true
    · simp [default]
    · simpa [default, defaultEdge] using ih

theorem collectCases_cases (outgoing : List Edge) :
    (collectCases outgoing).2 = (outgoing.filter fun edge => !isDefault edge).map fun edge =>
      (edge.when_.getD "", edge.to_) := by
  induction outgoing using List.reverseRecOn with
  | nil => rfl
  | append_singleton outgoing edge ih =>
    rw [collectCases_append, List.filter_append, List.map_append, ← ih]
    by_cases default : isDefault edge = true <;> simp [default]

/-- The cases are searched as the edges are. -/
theorem find_cases (py : Builtins F V) (config : BranchNodeConfig) (σ : CallbotState F V)
    (outgoing : List Edge) :
    ((collectCases outgoing).2.find? fun entry =>
        match_ py config.mode (branchValue py config σ) entry.1) =
      (firstMatch py config σ outgoing).map fun edge => (edge.when_.getD "", edge.to_) := by
  rw [collectCases_cases, List.find?_map, List.find?_filter, firstMatch]
  congr 2
  funext edge
  obtain ⟨from_, to_, when_⟩ := edge
  cases when_ with
  | none => simp [isDefault]
  | some when_ => simp

theorem defaultEdge_mem {outgoing : List Edge} (default : defaultEdge outgoing = some edge) :
    edge ∈ outgoing :=
  List.mem_of_mem_filter (List.mem_of_getLast? default)

/-- The dispatcher in terms of the edges, whose targets are not empty. -/
theorem makeBranchDispatcher_eq (py : Builtins F V) (config : BranchNodeConfig)
    (σ : CallbotState F V) {outgoing : List Edge} (ends : ∀ edge ∈ outgoing, edge.to_ ≠ "") :
    makeBranchDispatcher py config outgoing σ =
      (((if σ.fallbackTriggered then defaultEdge outgoing else none).or
        ((firstMatch py config σ outgoing).or (defaultEdge outgoing))).map Edge.to_).getD
          "__end__" := by
  have truthy : ((defaultEdge outgoing).map Edge.to_).filter (· ≠ "") =
      (defaultEdge outgoing).map Edge.to_ := by
    cases default : defaultEdge outgoing with
    | none => rfl
    | some edge => simp [ends edge (defaultEdge_mem default)]
  simp only [makeBranchDispatcher, collectCases_default, truthy, find_cases]
  cases σ.fallbackTriggered <;> cases defaultEdge outgoing <;>
    cases firstMatch py config σ outgoing <;> rfl

theorem dictSet_fresh {entries : List (String × β)} (fresh : key ∉ entries.map Prod.fst) :
    dictSet key value entries = entries ++ [(key, value)] := by
  induction entries with
  | nil => rfl
  | cons entry entries ih =>
    obtain ⟨other, rest⟩ := not_or.mp (List.mem_cons.not.mp fresh)
    rw [dictSet, if_neg (Ne.symm other), ih rest, List.cons_append]

theorem mem_keys_dictSet {entries : List (String × β)} :
    name ∈ (dictSet key value entries).map Prod.fst ↔ name = key ∨ name ∈ entries.map Prod.fst := by
  induction entries with
  | nil => simp [dictSet]
  | cons entry entries ih =>
    rw [dictSet]
    split
    · rename_i same
      simp [same]
    · simp only [List.map_cons, List.mem_cons, ih]
      exact or_left_comm

/-- Distinct keys keep every target. -/
theorem foldl_dictSet_distinct {outgoing : List Edge} (distinct : (outgoing.map branchKey).Nodup) :
    outgoing.foldl (fun mapping edge => dictSet (branchKey edge) edge.to_ mapping) [] =
      outgoing.map fun edge => (branchKey edge, edge.to_) := by
  induction outgoing using List.reverseRecOn with
  | nil => rfl
  | append_singleton outgoing edge ih =>
    rw [List.map_append, List.map_singleton, List.nodup_append] at distinct
    obtain ⟨before, -, apart⟩ := distinct
    have fresh : branchKey edge ∉ (outgoing.map fun edge => (branchKey edge, edge.to_)).map
        Prod.fst := by
      rw [List.map_map]
      exact fun mem => apart _ mem _ (List.mem_singleton.mpr rfl) rfl
    rw [List.foldl_append, List.foldl_cons, List.foldl_nil, ih before, dictSet_fresh fresh,
      List.map_append, List.map_singleton]

theorem mem_branchMapping {s : ScenarioFields K} {outgoing : List Edge}
    (distinct : (outgoing.map branchKey).Nodup) (mem : edge ∈ outgoing) :
    edge.to_ ∈ (branchMapping s outgoing).map Prod.snd := by
  have inside : edge.to_ ∈ (outgoing.map fun edge => (branchKey edge, edge.to_)).map Prod.snd := by
    rw [List.map_map]
    exact List.mem_map_of_mem mem
  rw [← foldl_dictSet_distinct distinct] at inside
  simp only [branchMapping]
  split
  · exact inside
  · cases s.fallback with
    | none => exact inside
    | some fallback =>
      rw [Option.elim_some, List.map_append]
      exact List.mem_append_left _ inside

theorem mem_identityMapping {mapping : List (String × String)} :
    name ∈ (identityMapping mapping).map Prod.fst ↔
      name = "__end__" ∨ name ∈ mapping.map Prod.snd := by
  rw [identityMapping, mem_keys_dictSet]
  apply or_congr_right
  induction mapping using List.reverseRecOn with
  | nil => simp
  | append_singleton mapping entry ih =>
    rw [List.foldl_append, List.foldl_cons, List.foldl_nil, mem_keys_dictSet, ih, List.map_append,
      List.map_singleton, List.mem_append, List.mem_singleton, or_comm]

theorem firstMatch_mem {py : Builtins F V} {σ : CallbotState F V} {outgoing : List Edge}
    (matched : firstMatch py config σ outgoing = some edge) : edge ∈ outgoing :=
  List.mem_of_find?_eq_some matched

/-- The dispatcher returns the target of one of the edges, or the end. -/
theorem makeBranchDispatcher_target (py : Builtins F V) (config : BranchNodeConfig)
    (σ : CallbotState F V) {outgoing : List Edge} (ends : ∀ edge ∈ outgoing, edge.to_ ≠ "") :
    makeBranchDispatcher py config outgoing σ = "__end__" ∨
      ∃ edge ∈ outgoing, makeBranchDispatcher py config outgoing σ = edge.to_ := by
  rw [makeBranchDispatcher_eq py config σ ends]
  cases chosen : (if σ.fallbackTriggered then defaultEdge outgoing else none).or
      ((firstMatch py config σ outgoing).or (defaultEdge outgoing)) with
  | none => exact .inl rfl
  | some edge =>
    refine .inr ⟨edge, ?_, rfl⟩
    rcases Option.or_eq_some_iff.mp chosen with forced | ⟨-, free⟩
    · split at forced
      · exact defaultEdge_mem forced
      · cases forced
    · rcases Option.or_eq_some_iff.mp free with matched | ⟨-, default⟩
      · exact firstMatch_mem matched
      · exact defaultEdge_mem default

theorem outgoing_ends (s : Scenario K) (id : String) :
    ∀ edge ∈ s.outgoing id, edge.to_ ≠ "" := fun edge mem =>
  (s.edgeEnds edge (List.mem_of_mem_filter mem)).2

/-- Routing out of every branch node of an accepted scenario, in every state. -/
theorem branch_routed (py : Builtins F V) (config : BranchNodeConfig) (s : Scenario K) (id : String)
    (σ : CallbotState F V) :
    Routed py config s.toScenarioFields id σ
      (makeBranchDispatcher py config (s.outgoing id) σ) := by
  have chosen := makeBranchDispatcher_eq py config σ (outgoing_ends s id)
  constructor
  · intro fallen edge default
    simp [chosen, fallen, default]
  · intro free edge matched
    cases fallen : σ.fallbackTriggered with
    | false => simp [chosen, fallen, matched]
    | true => simp [chosen, free fallen, matched]
  · intro unmatched edge default
    cases fallen : σ.fallbackTriggered <;> simp [chosen, fallen, unmatched, default]
  · intro unmatched none _
    simp [chosen, unmatched, none]
  · intro distinct
    rw [mem_identityMapping]
    rcases makeBranchDispatcher_target py config σ (outgoing_ends s id)
      with ended | ⟨edge, mem, same⟩
    · exact .inl ended
    · exact .inr (same ▸ mem_branchMapping distinct mem)

/-- Enough of the interpreter for texts without placeholders and literal patterns. -/
def plainBuiltins : Builtins Int String where
  str := id
  lower := String.toLower
  search pattern text := some (Text.contains pattern.toList text.toList)
  format template _ _ _ := some template
  lt a b := a < b
  zero := 0

def byIntent : BranchNodeConfig := ⟨.intent, none⟩

/-- A start, a branch with one case and a default, and an end for each. -/
def billingScenario : Scenario (NodeConfig Int String) where
  entry := "s"
  fallbackNode := none
  nodes := [⟨"s", .start, .start ⟨.inboundCall, none⟩⟩, ⟨"b", .branch, .branch byIntent⟩,
    ⟨"x", .end, .end ⟨none⟩⟩, ⟨"y", .end, .end ⟨none⟩⟩]
  edges := [⟨"s", "b", none⟩, ⟨"b", "x", some "billing"⟩, ⟨"b", "y", some "default"⟩]
  nodeIds := by decide +kernel
  edgeEnds := by decide
  graph := by decide +kernel

/-- After a fallback the edge that matches is not taken. -/
theorem branch_forced_past_match :
    ∃ (s : Scenario (NodeConfig Int String)) (config : BranchNodeConfig)
      (σ : CallbotState Int String) (edge : Edge),
      ⟨"b", .branch, .branch config⟩ ∈ s.nodes ∧
      firstMatch plainBuiltins config σ (s.outgoing "b") = some edge ∧
      makeBranchDispatcher plainBuiltins config (s.outgoing "b") σ ≠ edge.to_ := by
  let σ : CallbotState Int String :=
    { emptyState 0 with intent := some ⟨"billing", 1, []⟩, fallbackTriggered := true }
  refine ⟨billingScenario, byIntent, σ, ⟨"b", "x", some "billing"⟩, ?_, ?_, ?_⟩
  · simp [billingScenario]
  · decide +kernel
  · decide +kernel

end AgentOE.Agentic
