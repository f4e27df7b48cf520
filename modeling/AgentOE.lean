import AgentOE.Transition
import AgentOE.Collection
import AgentOE.Text
import AgentOE.Base64
import AgentOE.Coroutine
import AgentOE.Lru
import AgentOE.Json
import AgentOE.Ownership
import AgentOE.Session.Fsm
import AgentOE.Session.Store
import AgentOE.Session.Restore
import AgentOE.Session.Isolation
import AgentOE.Session.Lease
import AgentOE.Session.Interleaving
import AgentOE.Session.Cache
import AgentOE.Session.TurnNumbers
import AgentOE.Session.Reconnect
import AgentOE.Session.Handlers
import AgentOE.Call.Effects
import AgentOE.Call.Pipeline
import AgentOE.Call.Transfer
import AgentOE.Call.Orchestrator
import AgentOE.Call.Turns
import AgentOE.Call.Methods
import AgentOE.Call.Escalation
import AgentOE.Call.Lifecycle
import AgentOE.Call.Closed
import AgentOE.Call.Frame
import AgentOE.Call.Responses
import AgentOE.Call.Stream
import AgentOE.Call.Utterances
import AgentOE.Domain.CircuitBreaker
import AgentOE.Domain.KillSwitch
import AgentOE.Domain.PortalSession
import AgentOE.Domain.PortalAuth
import AgentOE.Esl.Event
import AgentOE.Esl.Stream
import AgentOE.Esl.Framing
import AgentOE.Esl.Client
import AgentOE.Esl.EventLoop
import AgentOE.Esl.Commands
import AgentOE.Esl.Control
import AgentOE.Esl.Cluster
import AgentOE.Agentic.ScenarioDsl
import AgentOE.Agentic.ScenarioCompiler
import AgentOE.Agentic.ScenarioRepository
import AgentOE.Agentic.NodeConfig
import AgentOE.Agentic.Nodes
import AgentOE.Agentic.Branch
import AgentOE.Agentic.Conversation
import AgentOE.Agentic.VersionStore
import AgentOE.Agentic.GraphCache
import AgentOE.Agentic.ScenarioDocument
import AgentOE.Idempotency.Record
import AgentOE.Idempotency.Middleware
import AgentOE.Idempotency.AtMostOnce
import AgentOE.Idempotency.Replay
import AgentOE.Bridge.Vad
import AgentOE.Bridge.Buffers
import AgentOE.Builder.Schema
import AgentOE.Builder.Graph
import AgentOE.Builder.Backend
import AgentOE.Builder.Store
import AgentOE.Builder.Reopen
import AgentOE.Domain.Recovery
import AgentOE.Domain.SessionLimit
import AgentOE.Domain.Connectors
import AgentOE.Domain.PortalAccount
import AgentOE.Domain.PortalEnrolment
import AgentOE.Census
import AgentOE.Pairing
import AgentOE.Gateway.MemoryStore
import AgentOE.Gateway.RedisStore
import AgentOE.Gateway.IvrChannel
import AgentOE.Gateway.IvrMachine
import AgentOE.Gateway.Bridging
import AgentOE.Session.TurnPages
import AgentOE.Call.Restored
import AgentOE.Domain.MfaSecret
import AgentOE.Domain.Admission
import AgentOE.Domain.AmPoller
import AgentOE.Gateway.Reconcile
import AgentOE.Bridge.WsServer
import AgentOE.Delivery
import AgentOE.Generator
import AgentOE.Domain.TenantKeys
import AgentOE.Bridge.Playback
import AgentOE.Esl.Acceptance
import AgentOE.Call.TransferProtocol
import AgentOE.Call.Conservation
import AgentOE.Session.EventLog
import AgentOE.Session.WsSender
import AgentOE.Agentic.LlmStream
import AgentOE.Agentic.LlmReply
import AgentOE.Agentic.CompiledCache
import AgentOE.Core.LogContext
import AgentOE.Core.RateLimit
import AgentOE.Core.Quota
import AgentOE.Core.Jwks
import AgentOE.Regex
import AgentOE.Core.PiiMask
import AgentOE.Domain.SseBroadcaster
import AgentOE.SliceBuffer
import AgentOE.Ai.UtteranceCapture
import AgentOE.Idempotency.Transparency
import AgentOE.JsonText
import AgentOE.JsonRoundTrip
import AgentOE.JsonLimits
import AgentOE.Idempotency.Codec
import AgentOE.Base64Url
import AgentOE.Gateway.Jwt
import AgentOE.Gateway.IvrScenario
import AgentOE.Gateway.Cleaner
import AgentOE.Bridge.VadWindows
import AgentOE.Ai.Resample
import AgentOE.Domain.KmsPayload
import AgentOE.Esl.Rendering
import AgentOE.Idempotency.Keys
import AgentOE.Builder.NodeIds
import AgentOE.EventStream
import AgentOE.Domain.SseStream
import AgentOE.Portal.SseClient
import AgentOE.Domain.SseGuard
import AgentOE.Domain.MfaMigration
import AgentOE.Domain.PortalConfig
import AgentOE.GoJson
import AgentOE.Gateway.CdrWebhook
import AgentOE.Portal.AuthProvider
