import AgentOE.Agentic.ScenarioDsl

/-! The configurations of the nine kinds of node. Floats and the values of slots
are arbitrary types. -/
namespace AgentOE.Agentic

inductive BranchMode where
  | expr
  | intent
  | slot
  deriving DecidableEq

inductive OnError where
  | fallback
  | raise
  | «continue»
  deriving DecidableEq

inductive TriggerType where
  | inboundCall
  | outboundCall
  | scheduled
  deriving DecidableEq

structure StartNodeConfig where
  triggerType : TriggerType
  greetingMessage : Option String
  deriving DecidableEq

structure IntentNodeConfig (F : Type) where
  labels : List String
  model : String
  promptTemplate : Option String
  threshold : F
  deriving DecidableEq

structure LlmNodeConfig (F : Type) where
  model : String
  fallbackModel : String
  systemPrompt : String
  promptTemplate : Option String
  temperature : F
  maxTokens : Int
  streaming : Bool
  enableFiller : Bool
  deriving DecidableEq

structure ToolNodeConfig (F : Type) where
  toolName : String
  argsTemplate : List (String × String)
  timeoutS : F
  retry : Int
  onError : OnError
  deriving DecidableEq

structure BranchNodeConfig where
  mode : BranchMode
  slotKey : Option String
  deriving DecidableEq

structure TransferNodeConfig where
  queue : String
  reason : String
  includeSummary : Bool
  deriving DecidableEq

structure WaitNodeConfig (F : Type) where
  timeoutS : F
  promptOnTimeout : Option String
  deriving DecidableEq

structure ContextUpdateNodeConfig (V : Type) where
  setSlots : List (String × V)
  clearSlots : List String
  deriving DecidableEq

structure EndNodeConfig where
  closingMessage : Option String
  deriving DecidableEq

inductive NodeConfig (F V : Type) where
  | start (config : StartNodeConfig)
  | intent (config : IntentNodeConfig F)
  | llm (config : LlmNodeConfig F)
  | tool (config : ToolNodeConfig F)
  | branch (config : BranchNodeConfig)
  | transfer (config : TransferNodeConfig)
  | wait (config : WaitNodeConfig F)
  | context (config : ContextUpdateNodeConfig V)
  | «end» (config : EndNodeConfig)
  deriving DecidableEq

/-- The literal in the node's `type` field. -/
def NodeConfig.type {F V : Type} : NodeConfig F V → NodeType
  | .start _ => .start
  | .intent _ => .intent
  | .llm _ => .llm
  | .tool _ => .tool
  | .branch _ => .branch
  | .transfer _ => .transfer
  | .wait _ => .wait
  | .context _ => .context
  | .end _ => .end

end AgentOE.Agentic
