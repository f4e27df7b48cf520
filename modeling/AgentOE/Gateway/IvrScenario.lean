import Mathlib.Data.List.Induction
import AgentOE.Collection
import AgentOE.Gateway.IvrMachine

/-! The machine on a scenario of its own, whose graph is closed: where it can be after any
events, and what becomes of a digit there. -/
namespace AgentOE.Gateway.IvrScenario
open Collection (mem_of_lookup)
open IvrChannel (IvrEvent)
open IvrMachine (IvrNode Scenario Callback executeAction handleDtmf handleEvent minimalScenario)

/-- The state of a machine that has handled the events. -/
def stateAfter (scenario : Scenario) (events : List IvrEvent) : String :=
  events.foldl (fun state event => (handleEvent scenario state event).1) scenario.initialState

/-- A key of the scenario's nodes. -/
def Known (scenario : Scenario) (state : String) : Prop :=
  ∃ node, scenario.nodes.lookup state = some node

structure Closed (scenario : Scenario) : Prop where
  initial : Known scenario scenario.initialState
  targets : ∀ state node, scenario.nodes.lookup state = some node →
    ∀ digit next, node.onDtmf.lookup digit = some next → Known scenario next

/-! What a digit does. -/

/-- The state changes along the graph, with the action of the new node. -/
def Moves (scenario : Scenario) (state digit : String) : Prop :=
  ∃ node next newNode, scenario.nodes.lookup state = some node ∧
    node.onDtmf.lookup digit = some next ∧
    scenario.nodes.lookup next = some newNode ∧
      handleDtmf scenario state digit = (next, executeAction newNode)

/-- The node of an AI chat has no use for the digit. -/
def Forwards (scenario : Scenario) (state digit : String) : Prop :=
  ∃ node, scenario.nodes.lookup state = some node ∧ node.onDtmf.lookup digit = none ∧
    node.action = "START_AI" ∧ handleDtmf scenario state digit = (state, [.forwardDtmf digit])

def Ignores (scenario : Scenario) (state digit : String) : Prop :=
  ∃ node, scenario.nodes.lookup state = some node ∧ node.onDtmf.lookup digit = none ∧
    node.action ≠ "START_AI" ∧ handleDtmf scenario state digit = (state, [])

/-- Exactly one of the three. -/
def Handled (scenario : Scenario) (state digit : String) : Prop :=
  Moves scenario state digit ∧ ¬Forwards scenario state digit ∧ ¬Ignores scenario state digit ∨
  ¬Moves scenario state digit ∧ Forwards scenario state digit ∧ ¬Ignores scenario state digit ∨
  ¬Moves scenario state digit ∧ ¬Forwards scenario state digit ∧ Ignores scenario state digit

/-- At every moment the state is a node, and every digit is handled. -/
def Kept (scenario : Scenario) (events : List IvrEvent) : Prop :=
  (∀ before, before <+: events → Known scenario (stateAfter scenario before)) ∧
  ∀ before digit, before ++ [.dtmf digit] <+: events →
    Handled scenario (stateAfter scenario before) digit

section Steps
variable {scenario : Scenario} {state digit : String} {events : List IvrEvent} {event : IvrEvent}

/-- A digit is handled wherever the state is a node, for the targets are nodes. -/
theorem handled_of_known (closed : Closed scenario) (known : Known scenario state) :
    Handled scenario state digit := by
  obtain ⟨node, found⟩ := known
  cases edge : node.onDtmf.lookup digit with
  | some next =>
    obtain ⟨newNode, target⟩ := closed.targets state node found digit next edge
    refine .inl ⟨⟨node, next, newNode, found, edge, target,
      by simp [handleDtmf, found, edge, target]⟩, ?_, ?_⟩
    all_goals
      rintro ⟨other, same, none, -⟩
      cases found.symm.trans same
      cases edge.symm.trans none
  | none =>
    have stays : ¬Moves scenario state digit := by
      rintro ⟨other, next, -, same, some, -⟩
      cases found.symm.trans same
      cases edge.symm.trans some
    by_cases ai : node.action = "START_AI"
    · refine .inr (.inl ⟨stays, ⟨node, found, edge, ai, by simp [handleDtmf, found, edge, ai]⟩, ?_⟩)
      rintro ⟨other, same, -, notAi, -⟩
      cases found.symm.trans same
      exact notAi ai
    · refine .inr (.inr ⟨stays, ?_, ⟨node, found, edge, ai, by simp [handleDtmf, found, edge, ai]⟩⟩)
      rintro ⟨other, same, -, isAi, -⟩
      cases found.symm.trans same
      exact ai isAi

/-- A hangup is the one event that names a state of its own. -/
theorem handleEvent_known (closed : Closed scenario)
    (idle : event = .hangup → Known scenario "IDLE") (known : Known scenario state) :
    Known scenario (handleEvent scenario state event).1 := by
  cases event with
  | activateMenu => exact closed.initial
  | hangup => exact idle rfl
  | dtmf digit =>
    obtain ⟨node, found⟩ := id known
    cases edge : node.onDtmf.lookup digit with
    | none => simpa [handleEvent, handleDtmf, found, edge] using known
    | some next =>
      have target := closed.targets state node found digit next edge
      simpa [handleEvent, handleDtmf, found, edge] using target

theorem stateAfter_append : stateAfter scenario (events ++ [event]) =
    (handleEvent scenario (stateAfter scenario events) event).1 := by
  rw [stateAfter, List.foldl_append]
  rfl

theorem stateAfter_known (closed : Closed scenario)
    (idle : .hangup ∈ events → Known scenario "IDLE") :
    Known scenario (stateAfter scenario events) := by
  induction events using List.reverseRecOn with
  | nil => exact closed.initial
  | append_singleton events event ih =>
    rw [stateAfter_append]
    refine handleEvent_known closed (fun hangup => idle (by simp [hangup])) (ih fun mem => idle ?_)
    exact List.mem_append_left _ mem

theorem kept_of_idle (closed : Closed scenario) (idle : .hangup ∈ events → Known scenario "IDLE") :
    Kept scenario events := by
  have known : ∀ before, before <+: events → Known scenario (stateAfter scenario before) :=
    fun before start => stateAfter_known closed fun mem => idle (start.subset mem)
  refine ⟨known, fun before digit start => handled_of_known closed (known before ?_)⟩
  exact (List.prefix_append _ _).trans start

/-- The scenario of every park has the state of a hangup. -/
theorem minimalScenario_kept : Kept minimalScenario events := by
  have idle : Known minimalScenario "IDLE" := ⟨⟨[], ""⟩, rfl⟩
  refine kept_of_idle ⟨idle, fun state node found digit next edge => ?_⟩ fun _ => idle
  simp only [minimalScenario, List.lookup_cons, List.lookup_nil] at found
  split at found <;> cases found
  cases edge

end Steps

/-- A scenario whose graph is closed is never left exactly where no hangup comes or it has the
state that a hangup names. -/
theorem kept_iff {scenario : Scenario} (closed : Closed scenario) (events : List IvrEvent) :
    Kept scenario events ↔ (.hangup ∈ events → Known scenario "IDLE") := by
  constructor
  · rintro ⟨always, -⟩ hangup
    obtain ⟨before, after, rfl⟩ := List.append_of_mem hangup
    have there := always (before ++ [.hangup]) ⟨after, by simp⟩
    rwa [stateAfter_append] at there
  · exact kept_of_idle closed

/-- A menu that leads to an AI chat. -/
def menu : Scenario :=
  ⟨"MENU", [("MENU", ⟨[("1", "AI_CHAT")], "REPEAT_MENU"⟩),
    ("AI_CHAT", ⟨[("*", "MENU")], "START_AI"⟩)]⟩

theorem menu_closed : Closed menu := by
  refine ⟨⟨_, rfl⟩, fun state node found digit next edge => ?_⟩
  have every : ∀ entry ∈ menu.nodes, ∀ target ∈ entry.2.onDtmf,
      (menu.nodes.lookup target.2).isSome = true := by decide
  exact Option.isSome_iff_exists.mp (every _ (mem_of_lookup found) _ (mem_of_lookup edge))

theorem menu_call_kept : Kept menu [.activateMenu, .dtmf "9", .dtmf "1", .dtmf "5", .dtmf "*"] :=
  (kept_iff menu_closed _).mpr fun hangup => absurd hangup (by decide)

/-- After a hangup the menu's own digit is dropped. -/
theorem hangup_leaves_menu : Closed menu ∧
    ¬Known menu (stateAfter menu [.activateMenu, .hangup]) ∧
    ¬Handled menu (stateAfter menu [.activateMenu, .hangup]) "1" := by
  have gone : menu.nodes.lookup (stateAfter menu [.activateMenu, .hangup]) = none := by
    decide +kernel
  refine ⟨menu_closed, ?_, ?_⟩
  · rintro ⟨node, found⟩
    cases gone.symm.trans found
  · rintro (⟨⟨node, -, -, found, -⟩, -⟩ | ⟨-, ⟨node, found, -⟩, -⟩ | ⟨-, -, ⟨node, found, -⟩⟩)
    all_goals cases gone.symm.trans found

end AgentOE.Gateway.IvrScenario
