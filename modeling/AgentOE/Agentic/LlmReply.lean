import AgentOE.Agentic.LlmStream
import Mathlib.Data.List.Induction

/-! The consumers of `LLMService.stream`: `LLMService.complete` and the node, which is the node
function of the graph for which the service has answered. -/
namespace AgentOE.Agentic.LlmStream
open Coroutine Generator

structure Collected where
  fullText : List String := []
  fillerTriggered : Bool := false

/-- The final chunk replaces what came before. -/
def collect (collected : Collected) (chunk : LlmChunk) : Collected :=
  if chunk.isFiller then { collected with fillerTriggered := true }
  else if chunk.isFinal then { collected with fullText := [chunk.text] }
  else { collected with fullText := collected.fullText ++ [chunk.text] }

def complete (settings : Settings) (vendor : Vendor) (request : Request) :
    Except Exc LlmResult := do
  let collected ← consume (fun collected chunk => pure (collect collected chunk)) {}
    (stream settings vendor request false [])
  pure
    { fullText := String.join collected.fullText
      model := settings.llmModel
      fillerTriggered := collected.fillerTriggered }

structure SinkMessage where
  sessionId : String
  type : String
  text : String
  deriving DecidableEq

abbrev StreamSink := SinkMessage → Except Exc Unit

def push (sink : StreamSink) (sessionId : String) (collected : Collected) (chunk : LlmChunk) :
    Except Exc Collected :=
  if chunk.isFiller then do
    sink ⟨sessionId, "filler", chunk.text⟩
    pure { collected with fillerTriggered := true }
  else if chunk.isFinal then pure { collected with fullText := [chunk.text] }
  else do
    sink ⟨sessionId, "delta", chunk.text⟩
    pure { collected with fullText := collected.fullText ++ [chunk.text] }

variable {F V : Type}

def renderPrompt (py : Builtins F V) (template : Option String) (σ : CallbotState F V) : String :=
  match template.filter (· ≠ "") with
  | none => σ.userInput
  | some template =>
    (py.format template σ.userInput ((σ.intent.map IntentResult.intent).getD "") σ.slots).getD
      σ.userInput

def historyOf (messages : List Message) : List (Role × String) :=
  messages.filterMap fun message =>
    if message.role ∈ [Role.user, .assistant] ∧ message.content ≠ "" then
      some (message.role, message.content)
    else none

/-- The part of the state that names the call. -/
structure SessionMeta where
  sessionId : String
  tenantId : String

def nodeRequest (py : Builtins F V) (config : LlmNodeConfig F) (session : SessionMeta)
    (σ : CallbotState F V) : Request where
  userText := renderPrompt py config.promptTemplate σ
  history := historyOf σ.messages
  systemPrompt := some config.systemPrompt
  tenantId := if session.tenantId = "" then none else some session.tenantId

def replyText (streaming : Bool) (sink : Option StreamSink) (settings : Settings) (vendor : Vendor)
    (request : Request) (sessionId : String) : Except Exc String :=
  match streaming, sink with
  | true, some sink => do
    let collected ← consume (push sink sessionId) {} (stream settings vendor request false [])
    pure (String.join collected.fullText)
  | _, _ => do
    let result ← complete settings vendor request
    pure result.fullText

/-- `llm_node`, with the sink of its factory. -/
def llmNode (py : Builtins F V) (config : LlmNodeConfig F) (settings : Settings) (vendor : Vendor)
    (sink : Option StreamSink) (session : SessionMeta) (elapsedMs : F) (σ : CallbotState F V) :
    Except Exc (Update F V) :=
  match replyText config.streaming sink settings vendor
      (nodeRequest py config session σ) session.sessionId with
  | .ok text => .ok (llmReply text elapsedMs)
  | .error (.circuitOpen _) => .ok (llmFailure politeWait "llm-cb-open" "CircuitBreakerOpen")
  | .error (.quotaExceeded true scope) =>
    .ok (llmFailure quotaWait "llm-quota" ("QuotaExceeded:" ++ scope))
  | .error (.quotaExceeded false scope) => .error (.quotaExceeded false scope)
  | .error (.failed reason) => .ok (llmFailure politeWait "llm-error" (clip reason))
  | .error .cancelled => .error .cancelled

/-! Consumers that go on to the end. -/

theorem push_accepts {sink : StreamSink} (accepts : ∀ message, sink message = .ok ())
    (sessionId : String) :
    push sink sessionId = fun collected chunk => pure (collect collected chunk) := by
  funext collected chunk
  unfold push collect
  split
  · rw [accepts]
    rfl
  split
  · rfl
  · rw [accepts]
    rfl

/-- With a sink that takes every message, the node finds the same text in both modes. -/
theorem replyText_eq (streaming : Bool) {sink : Option StreamSink}
    (accepts : ∀ taker ∈ sink, ∀ message, taker message = .ok ()) (settings : Settings)
    (vendor : Vendor) (request : Request) (sessionId : String) :
    replyText streaming sink settings vendor request sessionId =
      (complete settings vendor request).map LlmResult.fullText := by
  have streamed (taker : StreamSink) (takes : ∀ message, taker message = .ok ()) :
      replyText true (some taker) settings vendor request sessionId =
        (complete settings vendor request).map LlmResult.fullText := by
    simp only [replyText, complete, push_accepts takes, consume_pure]
    cases (stream settings vendor request false []).1 with
    | ok _ => rfl
    | error exc => rfl
  have whole : (complete settings vendor request >>= fun result => pure result.fullText) =
      (complete settings vendor request).map LlmResult.fullText := by
    cases complete settings vendor request with
    | ok result => rfl
    | error exc => rfl
  cases streaming with
  | false => exact whole
  | true =>
    cases sink with
    | none => exact whole
    | some taker => exact streamed taker (accepts taker rfl)

theorem collect_final (chunks : List LlmChunk) (text : String) (collected : Collected) :
    ((chunks ++ [final text]).foldl collect collected).fullText = [text] := by
  rw [List.foldl_append]
  rfl

theorem complete_served {vendor : Vendor}
    (returned : (stream settings vendor request false []).1 = .ok ())
    (yielded : yields (stream settings vendor request false []).2 = before ++ [final text]) :
    ∃ result, complete settings vendor request = .ok result ∧ result.fullText = text := by
  refine ⟨_, by rw [complete, consume_pure, returned]; rfl, ?_⟩
  simp only [yielded, collect_final]
  simp [String.join]

theorem yielded_fillers (stream : VendorStream) (reading : Reading) :
    ∀ chunk ∈ fillers stream reading, chunk.isFinal = false ∧ chunk.isFiller = true := by
  unfold fillers
  split
  · simp
  split
  · simp
  · simp

/-- What is not filler before the last chunk is the vendor's text. -/
theorem yielded_text (stream : VendorStream) : ∃ before,
    stream.yielded = before ++ [final (String.join (deltas stream.chunks))] ∧
    (∀ chunk ∈ before, chunk.isFinal = false) ∧
    (before.filter fun chunk => !chunk.isFiller).map LlmChunk.text = deltas stream.chunks := by
  have announced : ∀ chunk ∈ (if stream.chunks = [] then [] else fillers stream {}),
      chunk.isFinal = false ∧ chunk.isFiller = true := by
    split
    · simp
    · exact yielded_fillers stream {}
  refine ⟨_, rfl, ?_, ?_⟩
  · intro chunk mem
    rcases List.mem_append.mp mem with filler | told
    · exact (announced chunk filler).1
    · obtain ⟨text, -, rfl⟩ := List.mem_map.mp told
      rfl
  · have none : (if stream.chunks = [] then [] else fillers stream {}).filter
        (fun chunk => !chunk.isFiller) = [] := by
      rw [List.filter_eq_nil_iff]
      intro chunk mem
      simp [(announced chunk mem).2]
    have all : ((deltas stream.chunks).map delta).filter (fun chunk => !chunk.isFiller) =
        (deltas stream.chunks).map delta := by
      rw [List.filter_eq_self]
      intro chunk mem
      obtain ⟨text, -, rfl⟩ := List.mem_map.mp mem
      rfl
    rw [List.filter_append, none, all, List.nil_append, List.map_map]
    exact List.map_id _

/-- The next turn's history has the reply, and nothing else is new. -/
theorem historyOf_reply (σ : CallbotState F V) (text : String) (elapsedMs : F) :
    historyOf (σ.merge (llmReply text elapsedMs)).messages =
      historyOf σ.messages ++ if text = "" then [] else [(.assistant, text)] := by
  have reply : (σ.merge (llmReply text elapsedMs)).messages = σ.messages ++
    [⟨.assistant, text, "llm"⟩] := rfl
  rw [reply, historyOf, List.filterMap_append]
  by_cases silent : text = ""
  · simp [historyOf, silent]
  · simp [historyOf, silent]

/-! The node function of the graph, for which the service has already answered. -/

def LlmChunk.kind (chunk : LlmChunk) : Chunk :=
  if chunk.isFiller then .filler chunk.text
  else if chunk.isFinal then .final chunk.text
  else .delta chunk.text

/-- What the service does for a request. A cancellation ends the task of the node. -/
def generation (settings : Settings) (vendor : Vendor) (request : Request) : Option Generation :=
  match complete settings vendor request with
  | .ok result =>
    some (.replied ((yields (stream settings vendor request false []).2).map LlmChunk.kind)
      result.fullText)
  | .error (.circuitOpen _) => some .circuitOpen
  | .error (.quotaExceeded graceful scope) => some (.quotaExceeded graceful scope)
  | .error (.failed reason) => some (.failed reason)
  | .error .cancelled => none

/-- The failure that a node passes on. -/
def Exc.passed : Exc → String
  | .quotaExceeded _ scope => "QuotaExceeded:" ++ scope
  | _ => ""

/-- The node function folds over the chunks as the node does. -/
theorem streamedText_collect (chunks : List LlmChunk) :
    streamedText (chunks.map LlmChunk.kind) = String.join (chunks.foldl collect {}).fullText := by
  induction chunks using List.reverseRecOn with
  | nil => rfl
  | append_singleton chunks chunk ih =>
    rw [List.map_append, List.foldl_append]
    unfold streamedText at ih ⊢
    rw [List.foldl_append, ih]
    simp only [List.map_cons, List.map_nil, List.foldl_cons, List.foldl_nil, LlmChunk.kind, collect]
    cases chunk.isFiller with
    | true => rfl
    | false =>
      cases chunk.isFinal with
      | true => simp [String.join]
      | false => simp

/-- The node does what its node function in the graph does with the answer of the service. -/
theorem llmNode_eq_makeLlmNode (py : Builtins F V) (config : LlmNodeConfig F) (settings : Settings)
    (vendor : Vendor)
    {sink : Option StreamSink} (accepts : ∀ taker ∈ sink, ∀ message, taker message = .ok ())
    (session : SessionMeta)
    (σ : CallbotState F V) (outcome : Outcome F V) (prepared : outcome.unprepared = none)
    (generated : generation settings vendor (nodeRequest py config session σ) =
      some outcome.generated) : makeLlmNode sink.isSome config σ outcome =
      (llmNode py config settings vendor sink session outcome.elapsedMs σ).mapError Exc.passed := by
  rw [makeLlmNode, prepared, llmNode, replyText_eq config.streaming accepts]
  unfold generation at generated
  cases completed : complete settings vendor (nodeRequest py config session σ) with
  | ok result =>
    rw [completed] at generated
    have text : streamedText
        ((yields (stream settings vendor (nodeRequest py config session σ) false []).2).map
        LlmChunk.kind) = result.fullText := by
      rw [streamedText_collect]
      rw [complete, consume_pure] at completed
      cases ended : (stream settings vendor (nodeRequest py config session σ) false []).1 with
      | error exc =>
        rw [ended] at completed
        cases completed
      | ok _ =>
        rw [ended] at completed
        cases completed
        rfl
    rw [← Option.some.inj generated]
    simp only [text, ite_self]
    rfl
  | error exc =>
    rw [completed] at generated
    cases exc with
    | circuitOpen serviceName =>
      rw [← Option.some.inj generated]
      rfl
    | quotaExceeded graceful scope =>
      rw [← Option.some.inj generated]
      cases graceful with
      | true => rfl
      | false => rfl
    | failed reason =>
      rw [← Option.some.inj generated]
      rfl
    | cancelled => cases generated

/-- `stream` and `complete` agree on the text of a request that this stream of the vendor serves. -/
structure Agrees (settings : Settings) (vendor : Vendor) (request : Request) (feed : VendorStream)
    (text : String) : Prop where
  said : text = String.join (deltas feed.chunks)
  /-- One final chunk, the last one, repeats what was not filler. -/
  last : ∃ before, yields (stream settings vendor request false []).2 = before ++ [final text] ∧
    (∀ chunk ∈ before, chunk.isFinal = false) ∧
    text = String.join ((before.filter fun chunk => !chunk.isFiller).map LlmChunk.text)
  returned : (stream settings vendor request false []).1 = .ok ()
  billed : committed (stream settings vendor request false []).2 = request.tenant.toList
  completed : ∃ result, complete settings vendor request = .ok result ∧ result.fullText = text

theorem served_agrees (settings : Settings) {vendor : Vendor} {request : Request}
    {feed : VendorStream} (serving : feed ∈ vendor.serving request) (whole : feed.Whole) :
    Agrees settings vendor request feed (String.join (deltas feed.chunks)) := by
  obtain ⟨acts, result, streams⟩ := stream_streams settings vendor request
  have ran : stream settings vendor request false [] = (result, acts) := streams.emits []
  obtain ⟨returned, yielded, exhausted⟩ := streams.serves feed serving whole
  obtain ⟨before, split, others, text⟩ := yielded_text feed
  have last : yields (stream settings vendor request false []).2 =
      before ++ [final (String.join (deltas feed.chunks))] := by
    rw [ran, yielded, split]
  have finished : (stream settings vendor request false []).1 = .ok () := by rw [ran, returned]
  refine ⟨rfl, ⟨before, last, others, by rw [text]⟩, finished, ?_, complete_served finished last⟩
  have once := streams.billed.pulled ((yields acts).length + 1)
  rw [pulled_all (Nat.lt_succ_self _), if_pos exhausted] at once
  rw [ran, once]

/-- For every vendor and quota: wherever the consumer stops, usage was committed once for the
tenant if the vendor's stream was read to its end, and not at all if not; the node replies
the same in both modes; and a request that is served has one text, which the stream, `complete`,
the node and the history agree on. -/
theorem streaming_agrees (settings : Settings) (vendor : Vendor) (request : Request) :
    (∀ asked, committed (pulled asked (stream settings vendor request false []).2) =
      if .did .exhausted ∈ pulled asked (stream settings vendor request false []).2
      then request.tenant.toList else []) ∧
    (∀ {F V : Type} (py : Builtins F V) (config : LlmNodeConfig F) (session : SessionMeta)
      (elapsedMs : F)
      (σ : CallbotState F V) (sink : StreamSink), (∀ message, sink message = .ok ()) →
      llmNode py { config with streaming := true } settings vendor (some sink) session elapsedMs σ =
        llmNode py { config with streaming := false } settings vendor none session elapsedMs σ) ∧
    ∀ feed ∈ vendor.serving request, feed.Whole → ∃ text, Agrees settings vendor request feed text ∧
      ∀ {F V : Type} (py : Builtins F V) (config : LlmNodeConfig F) (session : SessionMeta)
        (elapsedMs : F)
        (σ : CallbotState F V) (sink : Option StreamSink),
        nodeRequest py config session σ = request →
        (∀ taker ∈ sink, ∀ message, taker message = .ok ()) →
        ∃ update, llmNode py config settings vendor sink session elapsedMs σ = .ok update ∧
          update.assistantOutput = some text ∧
          historyOf (σ.merge update).messages =
            historyOf σ.messages ++ if text = "" then [] else [(.assistant, text)] := by
  refine ⟨fun asked => ?_, ?_, ?_⟩
  · obtain ⟨acts, result, streams⟩ := stream_streams settings vendor request
    rw [streams.emits []]
    exact streams.billed.pulled asked
  · intro F V py config session elapsedMs σ sink accepts
    have taken : ∀ taker ∈ some sink, ∀ message, taker message = .ok () := by
      rintro _ ⟨rfl⟩
      exact accepts
    have quiet : ∀ taker ∈ (none : Option StreamSink), ∀ message, taker message = .ok () := by simp
    rw [llmNode, llmNode, replyText_eq true taken, replyText_eq false quiet]
    rfl
  · intro feed serving whole
    have agrees := served_agrees settings serving whole
    refine ⟨_, agrees, ?_⟩
    intro F V py config session elapsedMs σ sink named accepts
    obtain ⟨result, completed, same⟩ := agrees.completed
    have replied : llmNode py config settings vendor sink session elapsedMs σ =
        .ok (llmReply (String.join (deltas feed.chunks)) elapsedMs) := by
      rw [llmNode, replyText_eq config.streaming accepts, named, completed, ← same]
      rfl
    exact ⟨_, replied, rfl, historyOf_reply σ _ elapsedMs⟩

/-- The primary model cannot be reached, and the fallback is slow. -/
def slowReply : VendorStream where
  elapsedMs := 700
  phrase := ⟨0, by decide⟩
  chunks := [⟨none, [some "안녕"]⟩, ⟨none, [none]⟩, ⟨some (some 12), [some "하세요"]⟩]
  ending := .ok ()

def unreachable : Vendor := ⟨.ok (), .error (.failed "connection refused"), .ok slowReply⟩

def silentBuiltins : Builtins Nat String where
  str := id
  lower := id
  search := fun _ _ => none
  format := fun _ _ _ _ => none
  lt := fun a b => a < b
  zero := 0

def chat : LlmNodeConfig Nat := ⟨"primary", "secondary", "", none, 0, 512, true, true⟩

def turn : CallbotState Nat String := { emptyState 0 with userInput := "여보세요" }

def models : Settings := ⟨"primary", "secondary"⟩

def greeting : Request := nodeRequest silentBuiltins chat ⟨"s1", "acme"⟩ turn

theorem slowReply_agrees : ∃ text, text = "안녕하세요" ∧
    Agrees models unreachable greeting slowReply text ∧
    committed (pulled 4 (stream models unreachable greeting false []).2) = ["acme"] ∧
    committed (pulled 3 (stream models unreachable greeting false []).2) = [] ∧
    ∃ update, llmNode silentBuiltins chat models unreachable (some fun _ => .ok ())
      ⟨"s1", "acme"⟩ 9 turn = .ok update ∧
      update.assistantOutput = some text ∧ historyOf (turn.merge update).messages =
        [(.assistant, text)] := by
  obtain ⟨billed, -, serves⟩ := streaming_agrees models unreachable greeting
  have whole : slowReply.Whole := ⟨by decide, rfl⟩
  obtain ⟨text, agrees, nodes⟩ := serves slowReply rfl whole
  have accepts : ∀ taker ∈ (some fun _ => .ok () : Option StreamSink), ∀ message,
      taker message = .ok () := by
    rintro _ ⟨rfl⟩ _
    rfl
  obtain ⟨update, replied, output, history⟩ :=
    nodes silentBuiltins chat ⟨"s1", "acme"⟩ 9 turn (some fun _ => .ok ()) rfl accepts
  have said : text = "안녕하세요" := agrees.said
  refine ⟨text, said, agrees, (billed 4).trans (by decide +kernel),
    (billed 3).trans (by decide +kernel), update,
    replied, output, history.trans ?_⟩
  rw [said]
  rfl

/-- The primary model's stream is opened, and breaks before its first chunk. -/
def severed : Vendor :=
  ⟨.ok (), .ok { slowReply with chunks := [], ending := .error (.failed "connection closed") },
    .ok slowReply⟩

/-- The chunks are received outside the guard: the fallback is not tried, and there is no final
chunk. -/
theorem severed_unanswered : slowReply.Whole ∧ severed.fallback = .ok slowReply ∧
    stream models severed greeting false [] = (.error (.failed "connection closed"), []) ∧
    complete models severed greeting = .error (.failed "connection closed") := by
  exact ⟨⟨by decide, rfl⟩, rfl, rfl, rfl⟩

end AgentOE.Agentic.LlmStream
