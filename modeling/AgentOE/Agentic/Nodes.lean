import AgentOE.Agentic.NodeConfig
import AgentOE.Agentic.ScenarioCompiler

/-! The conversation state and what each node function returns: a partial update
or an exception. The replies of the services are given to the node, so the
requests that it builds for them are left out. -/
namespace AgentOE.Agentic

inductive Role where
  | user
  | assistant
  | system
  | tool
  deriving DecidableEq

structure Message where
  role : Role
  content : String
  nodeId : String
  deriving DecidableEq

structure IntentResult (F V : Type) where
  intent : String
  confidence : F
  slots : List (String × V)
  deriving DecidableEq

inductive ToolCall (F : Type) where
  | ok (tool : String) (args : List (String × String)) (result : String) (latencyMs : F)
  | error (tool reason : String)
  deriving DecidableEq

structure ErrorEntry where
  node : String
  tool : Option String := none
  reason : String
  deriving DecidableEq

structure CallbotState (F V : Type) where
  messages : List Message
  userInput : String
  assistantOutput : String
  intent : Option (IntentResult F V)
  slots : List (String × V)
  nextNode : Option String
  shouldTransfer : Bool
  shouldEnd : Bool
  fallbackTriggered : Bool
  toolCalls : List (ToolCall F)
  errors : List ErrorEntry
  turnLatencyMs : F
  deriving DecidableEq

/-- The keys that a node returns; an absent key is `none`, or the empty list
where the reducer appends. -/
structure Update (F V : Type) where
  messages : List Message := []
  userInput : Option String := none
  assistantOutput : Option String := none
  intent : Option (Option (IntentResult F V)) := none
  slots : Option (List (String × V)) := none
  nextNode : Option (Option String) := none
  shouldTransfer : Option Bool := none
  shouldEnd : Option Bool := none
  fallbackTriggered : Option Bool := none
  toolCalls : List (ToolCall F) := []
  errors : List ErrorEntry := []
  turnLatencyMs : Option F := none
  deriving DecidableEq

/-- What the node functions take from the interpreter. `search` and `format` may
raise; `lt` compares floats. -/
structure Builtins (F V : Type) where
  str : V → String
  lower : String → String
  search : String → String → Option Bool
  format : String → String → String → List (String × V) → Option String
  lt : F → F → Bool
  zero : F

/-- The JSON reply of the classifier, its defaults filled in. A label that is no
string is `none`. -/
structure Classification (F V : Type) where
  intent : Option String
  confidence : F
  slots : List (String × V)
  deriving DecidableEq

inductive Chunk where
  | filler (text : String)
  | final (text : String)
  | delta (text : String)
  deriving DecidableEq

/-- The service can be streamed or asked for the whole text. -/
inductive Generation where
  | replied (chunks : List Chunk) (fullText : String)
  | circuitOpen
  | quotaExceeded (graceful : Bool) (scope : String)
  | failed (reason : String)
  deriving DecidableEq

inductive Attempt (V : Type) where
  | returned (result : V)
  | timedOut
  | raised (reason : String)
  deriving DecidableEq

inductive Registration (V : Type) where
  | registered (attempt : Nat → Attempt V)
  | missing
  | raised (reason : String)

/-- What the services do while one node runs. `unprepared` is an exception before
the node's own `try`. -/
structure Outcome (F V : Type) where
  unprepared : Option String
  classified : Except String (Classification F V)
  generated : Generation
  registration : Registration V
  transferFailed : Option String
  elapsedMs : F

abbrev NodeFn (F V : Type) := CallbotState F V → Outcome F V → Except String (Update F V)

variable {F V : Type}

/-- The reducers: three fields append, the others are replaced. -/
def CallbotState.merge (σ : CallbotState F V) (update : Update F V) : CallbotState F V where
  messages := σ.messages ++ update.messages
  userInput := update.userInput.getD σ.userInput
  assistantOutput := update.assistantOutput.getD σ.assistantOutput
  intent := update.intent.getD σ.intent
  slots := update.slots.getD σ.slots
  nextNode := update.nextNode.getD σ.nextNode
  shouldTransfer := update.shouldTransfer.getD σ.shouldTransfer
  shouldEnd := update.shouldEnd.getD σ.shouldEnd
  fallbackTriggered := update.fallbackTriggered.getD σ.fallbackTriggered
  toolCalls := σ.toolCalls ++ update.toolCalls
  errors := σ.errors ++ update.errors
  turnLatencyMs := update.turnLatencyMs.getD σ.turnLatencyMs

def emptyState (zero : F) : CallbotState F V where
  messages := []
  userInput := ""
  assistantOutput := ""
  intent := none
  slots := []
  nextNode := none
  shouldTransfer := false
  shouldEnd := false
  fallbackTriggered := false
  toolCalls := []
  errors := []
  turnLatencyMs := zero

/-- `str(exc)[:200]`. -/
def clip (reason : String) : String := String.ofList (reason.toList.take 200)

def dictUpdate (slots others : List (String × V)) : List (String × V) :=
  others.foldl (fun slots entry => dictSet entry.1 entry.2 slots) slots

def politeWait : String := "죄송합니다. 시스템이 잠시 바빠서요. 다시 말씀해 주시겠어요?"
def quotaWait : String := "죄송합니다. 오늘 처리량이 많아 잠시 후 다시 시도해 주세요."
def transferFailure : String := "죄송합니다. 잠시 후 다시 시도해 주세요."
def goodbye : String := "상담원에게 연결해 드리겠습니다. 잠시만 기다려 주세요."

def intentFailure (py : Builtins F V) (reason : String) : Update F V where
  intent := some (some ⟨"unknown", py.zero, []⟩)
  errors := [⟨"intent", none, reason⟩]
  fallbackTriggered := some true

/-- The label and confidence that are kept of a reply. -/
def classify (py : Builtins F V) (config : IntentNodeConfig F) (reply : Classification F V) :
    IntentResult F V :=
  let named := reply.intent.filter (· ∈ config.labels)
  let confidence := if named.isSome then reply.confidence else py.zero
  let intent := if py.lt confidence config.threshold then "unknown" else named.getD "unknown"
  ⟨intent, confidence, reply.slots⟩

def makeIntentNode (py : Builtins F V) (config : IntentNodeConfig F) : NodeFn F V :=
  fun σ outcome =>
    if σ.userInput = "" then .ok (intentFailure py "empty user_input")
    else match outcome.unprepared with
      | some reason => .error reason
      | none => match outcome.classified with
        | .error reason => .ok (intentFailure py (clip reason))
        | .ok reply => .ok
          { intent := some (some (classify py config reply))
            slots := some (dictUpdate σ.slots reply.slots) }

/-- The text that a stream leaves; the final chunk replaces what came before. -/
def streamedText (chunks : List Chunk) : String :=
  chunks.foldl (fun text chunk => match chunk with
    | .filler _ => text
    | .final final => final
    | .delta delta => text ++ delta) ""

def llmFailure (text nodeId reason : String) : Update F V where
  assistantOutput := some text
  messages := [⟨.assistant, text, nodeId⟩]
  fallbackTriggered := some true
  errors := [⟨"llm", none, reason⟩]

def llmReply (text : String) (elapsedMs : F) : Update F V where
  assistantOutput := some text
  messages := [⟨.assistant, text, "llm"⟩]
  turnLatencyMs := some elapsedMs

def makeLlmNode (streamSink : Bool) (config : LlmNodeConfig F) : NodeFn F V := fun _ outcome =>
  match outcome.unprepared with
  | some reason => .error reason
  | none => match outcome.generated with
    | .replied chunks fullText =>
      let text := if config.streaming && streamSink then streamedText chunks else fullText
      .ok (llmReply text outcome.elapsedMs)
    | .circuitOpen => .ok (llmFailure politeWait "llm-cb-open" "CircuitBreakerOpen")
    | .quotaExceeded true scope =>
      .ok (llmFailure quotaWait "llm-quota" ("QuotaExceeded:" ++ scope))
    | .quotaExceeded false scope => .error ("QuotaExceeded:" ++ scope)
    | .failed reason => .ok (llmFailure politeWait "llm-error" (clip reason))

/-- `_bind_args`: a template that does not format is passed as it is. -/
def bindArgs (py : Builtins F V) (σ : CallbotState F V) (template : List (String × String)) :
    List (String × String) :=
  let intent := (σ.intent.map IntentResult.intent).getD ""
  template.map fun entry =>
    (entry.1, (py.format entry.2 σ.userInput intent σ.slots).getD entry.2)

def truncate (py : Builtins F V) (result : V) : String :=
  let text := py.str result
  if text.length ≤ 500 then text else String.ofList (text.toList.take 500) ++ "…"

/-- The retry loop, with the reason of the last failure. -/
def tryTool (toolName : String) : List (Attempt V) → Except String V
  | [] => .error "unreachable"
  | .returned result :: _ => .ok result
  | [.timedOut] => .error ("Tool '" ++ toolName ++ "' timed out")
  | [.raised reason] => .error (clip reason)
  | _ :: attempts => tryTool toolName attempts

def handleError (config : ToolNodeConfig F) (reason : String) : Except String (Update F V) :=
  let failed : Update F V :=
    { errors := [⟨"tool", some config.toolName, reason⟩]
      toolCalls := [.error config.toolName reason] }
  match config.onError with
  | .raise => .error ("Tool failure (raise policy): " ++ reason)
  | .continue => .ok failed
  | .fallback => .ok { failed with fallbackTriggered := some true }

def makeToolNode (py : Builtins F V) (config : ToolNodeConfig F) : NodeFn F V := fun σ outcome =>
  match outcome.registration with
  | .raised reason => .error reason
  | .missing => handleError config ("Tool '" ++ config.toolName ++ "' not registered")
  | .registered attempt =>
    match tryTool config.toolName ((List.range (config.retry + 1).toNat).map attempt) with
    | .error reason => handleError config reason
    | .ok result => .ok
      { slots := some (dictSet "tool_result" result σ.slots)
        toolCalls := [.ok config.toolName (bindArgs py σ config.argsTemplate)
          (truncate py result) outcome.elapsedMs] }

/-- Branching is left to the dispatcher. -/
def makeBranchNode : NodeFn F V := fun _ _ => .ok {}

/-- Only the summary is built outside the `try`. -/
def makeTransferNode (config : TransferNodeConfig) : NodeFn F V := fun _ outcome =>
  match outcome.unprepared.filter (fun _ => config.includeSummary) with
  | some reason => .error reason
  | none => match outcome.transferFailed with
    | some reason => .ok
      { assistantOutput := some transferFailure
        messages := [⟨.assistant, transferFailure, "transfer-failed"⟩]
        shouldEnd := some true
        errors := [⟨"transfer", none, clip reason⟩] }
    | none => .ok
      { assistantOutput := some goodbye
        messages := [⟨.assistant, goodbye, "transfer"⟩]
        shouldTransfer := some true
        shouldEnd := some true }

def makeWaitNode : NodeFn F V := fun _ _ => .ok { nextNode := some none }

def makeContextNode (config : ContextUpdateNodeConfig V) : NodeFn F V := fun σ _ => .ok
  { slots := some (config.clearSlots.foldl (fun slots key => slots.filter (·.1 ≠ key))
      (dictUpdate σ.slots config.setSlots)) }

def makeEndNode (config : EndNodeConfig) : NodeFn F V := fun _ _ =>
  match config.closingMessage.filter (· ≠ "") with
  | some message => .ok
    { shouldEnd := some true
      assistantOutput := some message
      messages := [⟨.assistant, message, "end"⟩] }
  | none => .ok { shouldEnd := some true }

end AgentOE.Agentic
