import AgentOE.Agentic.Nodes
import AgentOE.Generator
import Mathlib.Algebra.Ring.Nat
import Mathlib.Data.Rat.Defs

/-! `LLMService.stream`: what it yields of the vendor's streams, and what it bills. What the vendor
and the quota do is given; a timeout of the vendor is one of its failures. -/
namespace AgentOE.Agentic.LlmStream
open Coroutine Generator

def fillerThresholdMs : Nat := 500

def fillerPhrases : List String := ["잠시만요,", "확인해 드리겠습니다,", "네, 알겠습니다,"]

/-- In cents for 1000 tokens. -/
def defaultPriceCentsPer1k : List (String × Rat) :=
  [("llama-3.3-70b-versatile", 6 / 100), ("llama-4-scout-17b-16e-instruct", 3 / 100)]

def estimateCostCents (model : String) (totalTokens : Int) : Rat :=
  totalTokens / 1000 * (defaultPriceCentsPer1k.lookup model).getD (5 / 100)

/-- `cancelled` is no `Exception`. -/
inductive Exc where
  | circuitOpen (serviceName : String)
  | quotaExceeded (graceful : Bool) (scope : String)
  | failed (reason : String)
  | cancelled
  deriving DecidableEq

def Exc.isException : Exc → Bool
  | .cancelled => false
  | _ => true

structure LlmChunk where
  text : String
  isFinal : Bool
  isFiller : Bool := false
  deriving DecidableEq

structure LlmResult where
  fullText : String
  model : String
  tokensUsed : Nat := 0
  fillerTriggered : Bool := false
  deriving DecidableEq

/-- `received` and `exhausted` are what the vendor's stream answers when it is asked for the
next chunk. -/
inductive Effect where
  | received
  | exhausted
  | commitUsage (tenantId : String) (tokens : Int) (costCents : Rat)
  | recordLlmUsage (tenantId model : String) (tokens : Int) (costCents : Rat)
  deriving DecidableEq

abbrev Streaming := Gen LlmChunk Effect Exc

/-- A chunk of the vendor: `usage.total_tokens` and the `delta.content` of each choice. -/
structure VendorChunk where
  usage : Option (Option Int)
  choices : List (Option String)

/-- A stream of the vendor: the time until its first chunk, the phrase that `random.choice`
would take then, its chunks, and how it ends. -/
structure VendorStream where
  elapsedMs : Nat
  phrase : Fin fillerPhrases.length
  chunks : List VendorChunk
  ending : Except Exc Unit

/-- `primary` and `fallback` are how the block that is guarded by the circuit breaker ends. -/
structure Vendor where
  quota : Except Exc Unit
  primary : Except Exc VendorStream
  fallback : Except Exc VendorStream

structure Settings where
  llmModel : String
  llmFallbackModel : String

structure Request where
  userText : String
  history : List (Role × String)
  systemPrompt : Option String
  tenantId : Option String

/-- The tenant of a request that has one. -/
def Request.tenant (request : Request) : Option String := request.tenantId.filter (· ≠ "")

def buildMessages (request : Request) : List (Role × String) :=
  let system := (request.systemPrompt.filter (· ≠ "")).map (Role.system, ·)
  system.toList ++ request.history.drop (request.history.length - 10) ++ [(.user, request.userText)]

/-- The variables of the loop over the vendor's chunks. -/
structure Reading where
  firstChunkSent : Bool := false
  fillerTriggered : Bool := false
  fullText : List String := []
  tokensUsed : Int := 0

/-- Once, before the first chunk: the filler of a slow vendor. -/
def announce (stream : VendorStream) (reading : Reading) : Streaming Reading :=
  if reading.firstChunkSent then pure reading
  else if fillerThresholdMs < stream.elapsedMs ∧ !reading.fillerTriggered then do
    give ⟨fillerPhrases.get stream.phrase, false, true⟩
    pure { reading with fillerTriggered := true, firstChunkSent := true }
  else pure { reading with firstChunkSent := true }

def readUsage (reading : Reading) (chunk : VendorChunk) : Reading :=
  match chunk.usage with
  | some totalTokens => { reading with tokensUsed := totalTokens.getD 0 }
  | none => reading

def readDelta (reading : Reading) (chunk : VendorChunk) : Streaming Reading :=
  match chunk.choices with
  | [] => raise (.failed "list index out of range")
  | content :: _ =>
    let delta := content.getD ""
    if delta = "" then pure reading
    else do
      give ⟨delta, false, false⟩
      pure { reading with fullText := reading.fullText ++ [delta] }

def readChunk (stream : VendorStream) (reading : Reading) (chunk : VendorChunk) :
    Streaming Reading := do
  act .received
  let reading ← announce stream reading
  readDelta (readUsage reading chunk) chunk

def readStream (stream : VendorStream) (reading : Reading) : List VendorChunk → Streaming Reading
  | [] => do
    match stream.ending with
    | .ok () => do
      act .exhausted
      pure reading
    | .error exc => raise exc
  | chunk :: chunks => do
    let reading ← readChunk stream reading chunk
    readStream stream reading chunks

/-- A token is taken for two and a half characters where the vendor does not tell. -/
def tokensOf (request : Request) (reading : Reading) : Int :=
  if reading.tokensUsed ≤ 0 then
    let promptChars := ((buildMessages request).map fun message => message.2.length).sum
    max 1 ((promptChars + (String.join reading.fullText).length) * 2 / 5 : Nat)
  else reading.tokensUsed

/-- The pipeline that adds to the counters is run once. An error of Redis is swallowed. -/
def commitUsage (tenantId : String) (tokens : Int) (costCents : Rat) : Streaming Unit :=
  if tokens ≤ 0 ∧ costCents ≤ 0 then pure () else act (.commitUsage tenantId tokens costCents)

def recordLlmUsage (tenantId model : String) (tokens : Int) (costCents : Rat) : Streaming Unit :=
  if tokens ≤ 0 ∧ costCents ≤ 0 then pure ()
  else act (.recordLlmUsage tenantId model tokens costCents)

/-- The usage of a finished stream, where there is a tenant. -/
def settle (tenant : Option String) (model : String) (tokens : Int) : Streaming Unit :=
  match tenant with
  | some tenantId => do
    commitUsage tenantId tokens (estimateCostCents model tokens)
    recordLlmUsage tenantId model tokens (estimateCostCents model tokens)
  | none => pure ()

def finish (request : Request) (model : String) (reading : Reading) : Streaming Unit := do
  settle request.tenant model (tokensOf request reading)
  give ⟨String.join reading.fullText, true, false⟩

def enforceQuota (vendor : Vendor) (request : Request) (useFallback : Bool) : Streaming Unit :=
  if request.tenant.isSome ∧ !useFallback then await vendor.quota else pure ()

/-- The stream that was opened, or the recursive call where the primary model failed. -/
def answer (request : Request) (model : String) (useFallback : Bool) (again : Streaming Unit) :
    Except Exc VendorStream → Streaming Unit
  | .error (.circuitOpen serviceName) => raise (.circuitOpen serviceName)
  | .error exc => if exc.isException ∧ !useFallback then again else raise exc
  | .ok stream => do
    let reading ← readStream stream {} stream.chunks
    finish request model reading

/-- `stream`, with the generator of its recursive call. -/
def streamWith (settings : Settings) (vendor : Vendor) (request : Request) (useFallback : Bool)
    (again : Streaming Unit) : Streaming Unit := do
  let model := if useFallback then settings.llmFallbackModel else settings.llmModel
  enforceQuota vendor request useFallback
  answer request model useFallback again (if useFallback then vendor.fallback else vendor.primary)

def stream (settings : Settings) (vendor : Vendor) (request : Request) (useFallback : Bool) :
    Streaming Unit :=
  streamWith settings vendor request useFallback (streamWith settings vendor request true (pure ()))

/-! What the generator yields and has billed. -/

def VendorChunk.content (chunk : VendorChunk) : String := (chunk.choices.head?.getD none).getD ""

def deltas (chunks : List VendorChunk) : List String :=
  (chunks.map VendorChunk.content).filter (· ≠ "")

def delta (text : String) : LlmChunk := ⟨text, false, false⟩

/-- What is yielded before the first chunk, when the loop has these variables. -/
def fillers (stream : VendorStream) (reading : Reading) : List LlmChunk :=
  if reading.firstChunkSent then []
  else if fillerThresholdMs < stream.elapsedMs ∧ !reading.fillerTriggered then
    [⟨fillerPhrases.get stream.phrase, false, true⟩]
  else []

/-- Nothing but reading has been done. -/
def Unbilled (acts : List (Act LlmChunk Effect)) : Prop :=
  ∀ effect ∈ effects acts, effect = .received

theorem Unbilled.append (left : Unbilled xs) (right : Unbilled ys) : Unbilled (xs ++ ys) := by
  intro effect mem
  rw [effects_append] at mem
  exact (List.mem_append.mp mem).elim (left effect) (right effect)

theorem announce_emits (stream : VendorStream) (reading : Reading) : ∃ acts next,
    Emits (announce stream reading) acts (.ok next) ∧ effects acts = [] ∧
      yields acts = fillers stream reading ∧
      next.firstChunkSent = true ∧ next.fullText = reading.fullText := by
  unfold announce fillers
  split
  case isTrue sent => exact ⟨[], reading, emits_pure _, rfl, rfl, sent, rfl⟩
  case isFalse =>
  split
  case isTrue => exact ⟨_, _, (emits_give _).bind (emits_pure _), rfl, rfl, rfl, rfl⟩
  case isFalse => exact ⟨[], _, emits_pure _, rfl, rfl, rfl, rfl⟩

theorem readDelta_emits (reading : Reading) (chunk : VendorChunk) : ∃ acts result,
    Emits (readDelta reading chunk) acts result ∧ effects acts = [] ∧
      (chunk.choices ≠ [] → ∃ next, result = .ok next ∧
        next.firstChunkSent = reading.firstChunkSent ∧
        yields acts = (deltas [chunk]).map delta ∧
          next.fullText = reading.fullText ++ deltas [chunk]) := by
  obtain ⟨usage, choices⟩ := chunk
  cases choices with
  | nil => exact ⟨[], _, emits_raise _, rfl, fun some => absurd rfl some⟩
  | cons content others =>
    by_cases silent : content.getD "" = ""
    · have nothing : deltas [⟨usage, content :: others⟩] = [] := by
        simp [deltas, VendorChunk.content, silent]
      refine ⟨[], .ok reading, ?_, rfl, fun _ => ⟨reading, rfl, rfl, ?_, ?_⟩⟩
      · simpa only [readDelta, silent, if_true] using emits_pure reading
      · rw [nothing]
        rfl
      · rw [nothing, List.append_nil]
    · have one : deltas [⟨usage, content :: others⟩] = [content.getD ""] := by
        simp [deltas, VendorChunk.content, silent]
      let next : Reading := { reading with fullText := reading.fullText ++ [content.getD ""] }
      have emits : Emits (readDelta reading ⟨usage, content :: others⟩) [.yielded
          (delta (content.getD ""))]
          (.ok next) := by
        simp only [readDelta, if_neg silent]
        exact (emits_give _).bind (emits_pure next)
      refine ⟨_, _, emits, rfl, fun _ => ⟨next, rfl, rfl, ?_, ?_⟩⟩
      · rw [one]
        rfl
      · rw [one]

/-- How a chunk is read. -/
structure ReadsChunk (stream : VendorStream) (reading : Reading) (chunk : VendorChunk)
    (acts : List (Act LlmChunk Effect)) (result : Except Exc Reading) : Prop where
  emits : Emits (readChunk stream reading chunk) acts result
  unbilled : Unbilled acts
  served : chunk.choices ≠ [] → ∃ next, result = .ok next ∧ next.firstChunkSent = true ∧
    yields acts = fillers stream reading ++ (deltas [chunk]).map delta ∧
    next.fullText = reading.fullText ++ deltas [chunk]

theorem readChunk_emits (stream : VendorStream) (reading : Reading) (chunk : VendorChunk) :
    ∃ acts result, ReadsChunk stream reading chunk acts result := by
  obtain ⟨first, begun, announces, quiet, filler, sent, kept⟩ := announce_emits stream reading
  obtain ⟨second, result, reads, silent, served⟩ := readDelta_emits (readUsage begun chunk) chunk
  have text : (readUsage begun chunk).fullText = reading.fullText := by
    rw [← kept]
    unfold readUsage
    split
    · rfl
    · rfl
  have flag : (readUsage begun chunk).firstChunkSent = true := by
    rw [← sent]
    unfold readUsage
    split
    · rfl
    · rfl
  refine ⟨[.did .received] ++ (first ++ second), result,
    (emits_act _).bind (announces.bind reads), ?_, ?_⟩
  · simp [Unbilled, quiet, silent]
  · intro choices
    obtain ⟨next, ended, same, yielded, grown⟩ := served choices
    refine ⟨next, ended, same.trans flag, ?_, ?_⟩
    · simp [filler, yielded]
    · rw [grown, text]

/-- How the rest of the vendor's stream is read. -/
structure Reads (stream : VendorStream) (reading : Reading) (chunks : List VendorChunk)
    (acts : List (Act LlmChunk Effect)) (result : Except Exc Reading) : Prop where
  emits : Emits (readStream stream reading chunks) acts result
  bills : match result with
    | .ok _ => ∃ front, acts = front ++ [.did .exhausted] ∧ Unbilled front
    | .error _ => Unbilled acts
  served : (∀ chunk ∈ chunks, chunk.choices ≠ []) → stream.ending = .ok () →
    ∃ next, result = .ok next ∧
    yields acts = (if chunks = [] then [] else fillers stream reading) ++
      (deltas chunks).map delta ∧ next.fullText = reading.fullText ++ deltas chunks

theorem deltas_cons (chunk : VendorChunk) (chunks : List VendorChunk) :
    deltas (chunk :: chunks) = deltas [chunk] ++ deltas chunks := by
  simp only [deltas, ← List.filter_append, ← List.map_append, List.singleton_append]

theorem fillers_sent (stream : VendorStream) {reading : Reading}
    (sent : reading.firstChunkSent = true) :
    fillers stream reading = [] := if_pos sent

theorem readStream_emits (stream : VendorStream) (reading : Reading) (chunks : List VendorChunk) :
    ∃ acts result, Reads stream reading chunks acts result := by
  induction chunks generalizing reading with
  | nil =>
    cases ending : stream.ending with
    | ok _ =>
      have emits : Emits (readStream stream reading []) [.did .exhausted] (.ok reading) := by
        simp only [readStream, ending]
        exact (emits_act _).bind (emits_pure reading)
      refine ⟨_, _, emits, ⟨[], rfl, by simp [Unbilled]⟩, fun _ _ => ⟨reading, rfl, rfl, ?_⟩⟩
      exact (List.append_nil _).symm
    | error exc =>
      have emits : Emits (readStream stream reading []) [] (.error exc) := by
        simp only [readStream, ending]
        exact emits_raise exc
      refine ⟨_, _, emits, by simp [Unbilled], fun _ ended => ?_⟩
      rw [ending] at ended
      cases ended
  | cons chunk chunks ih =>
    obtain ⟨first, begun, one⟩ := readChunk_emits stream reading chunk
    cases begun with
    | error exc =>
      refine ⟨first, .error exc, one.emits.bind_error, one.unbilled, fun choices _ => ?_⟩
      obtain ⟨next, ended, -⟩ := one.served (choices chunk List.mem_cons_self)
      cases ended
    | ok between =>
      obtain ⟨second, result, rest⟩ := ih between
      refine ⟨first ++ second, result, one.emits.bind rest.emits, ?_, ?_⟩
      · have bills := rest.bills
        cases result with
        | ok last =>
          obtain ⟨front, rfl, unbilled⟩ := bills
          exact ⟨first ++ front, (List.append_assoc _ _ _).symm, one.unbilled.append unbilled⟩
        | error exc => exact one.unbilled.append bills
      · intro choices ended
        obtain ⟨here, later⟩ := List.forall_mem_cons.mp choices
        obtain ⟨next, same, sent, yielded, grown⟩ := one.served here
        cases same
        obtain ⟨last, finished, others, whole⟩ := rest.served later ended
        refine ⟨last, finished, ?_, ?_⟩
        · rw [yields_append, yielded, others, fillers_sent stream sent, ite_self, List.nil_append,
            if_neg (List.cons_ne_nil _ _), deltas_cons chunk chunks, List.map_append,
              List.append_assoc]
        · rw [whole, grown, deltas_cons chunk chunks, List.append_assoc]

theorem tokensOf_pos (request : Request) (reading : Reading) : 0 < tokensOf request reading := by
  unfold tokensOf
  split
  case isTrue =>
    dsimp only
    exact Int.lt_of_lt_of_le Int.zero_lt_one (Int.le_max_left _ _)
  case isFalse told => exact Int.not_le.mp told

/-- What a finished stream does for its tenant. -/
def bill (tenant : Option String) (model : String) (tokens : Int) : List (Act LlmChunk Effect) :=
  match tenant with
  | some tenantId =>
    [.did (.commitUsage tenantId tokens (estimateCostCents model tokens)),
      .did (.recordLlmUsage tenantId model tokens (estimateCostCents model tokens))]
  | none => []

theorem yields_bill (tenant : Option String) (model : String) (tokens : Int) :
    yields (bill tenant model tokens) = [] := by
  cases tenant with
  | none => rfl
  | some tenantId => rfl

def final (text : String) : LlmChunk := ⟨text, true, false⟩

theorem settle_emits (tenant : Option String) (model : String) (spent : 0 < tokens) :
    Emits (settle tenant model tokens) (bill tenant model tokens) (.ok ()) := by
  have spent : ¬tokens ≤ 0 := Int.not_le.mpr spent
  unfold settle bill
  cases tenant with
  | none => exact emits_pure ()
  | some tenantId =>
    simp only [commitUsage, recordLlmUsage, spent, false_and, if_false]
    exact Emits.bind (emits_act _) (emits_act _)

theorem finish_emits (request : Request) (model : String) (reading : Reading) :
    Emits (finish request model reading)
      (bill request.tenant model (tokensOf request reading) ++
        [.yielded (final (String.join reading.fullText))])
      (.ok ()) :=
  (settle_emits request.tenant model (tokensOf_pos request reading)).bind (emits_give _)

/-- What may be done for a tenant: nothing, or the bill at once after the end of the vendor's
stream. -/
inductive Billed (tenant : Option String) : List (Act LlmChunk Effect) → Prop where
  | unfinished : Unbilled acts → Billed tenant acts
  | finished : Unbilled front →
      Billed tenant (front ++ ([.did .exhausted] ++ bill tenant model tokens) ++ [.yielded last])

theorem Billed.failed (tenant : Option String) : Billed tenant [] :=
  .unfinished (by simp [Unbilled])

/-- Every chunk has a choice, and the vendor does not break off. -/
structure VendorStream.Whole (stream : VendorStream) : Prop where
  choices : ∀ chunk ∈ stream.chunks, chunk.choices ≠ []
  ended : stream.ending = .ok ()

/-- What is yielded of a stream that is whole. -/
def VendorStream.yielded (stream : VendorStream) : List LlmChunk :=
  (if stream.chunks = [] then [] else fillers stream {}) ++ (deltas stream.chunks).map delta ++
    [final (String.join (deltas stream.chunks))]

/-- What a generator of chunks does: it is billed as it should be, and if a whole stream is served,
it is what is yielded. -/
structure Streams (tenant : Option String) (served : Option VendorStream) (x : Streaming Unit)
    (acts : List (Act LlmChunk Effect)) (result : Except Exc Unit) : Prop where
  emits : Emits x acts result
  billed : Billed tenant acts
  serves : ∀ stream ∈ served, stream.Whole →
    result = .ok () ∧ yields acts = stream.yielded ∧ .did .exhausted ∈ acts

theorem streams_raise (tenant : Option String) (exc : Exc) :
    Streams tenant none (raise exc) [] (.error exc) :=
  ⟨emits_raise exc, .failed tenant, by simp⟩

theorem opened_streams (request : Request) (model : String) (stream : VendorStream) : ∃ acts result,
    Streams request.tenant (some stream)
      (readStream stream {} stream.chunks >>= finish request model) acts result := by
  obtain ⟨acts, result, reads⟩ := readStream_emits stream {} stream.chunks
  have bills := reads.bills
  cases result with
  | error exc =>
    refine ⟨acts, .error exc, reads.emits.bind_error, .unfinished bills, ?_⟩
    rintro _ ⟨rfl⟩ whole
    obtain ⟨next, same, -⟩ := reads.served whole.choices whole.ended
    cases same
  | ok reading =>
    obtain ⟨front, rfl, unbilled⟩ := bills
    refine ⟨_, _, reads.emits.bind (finish_emits request model reading), ?_, ?_⟩
    · rw [← List.append_assoc, List.append_assoc front]
      exact .finished unbilled
    rintro _ ⟨rfl⟩ whole
    obtain ⟨next, same, yielded, text⟩ := reads.served whole.choices whole.ended
    cases same
    have silent := yields_bill request.tenant model (tokensOf request reading)
    have text : reading.fullText = deltas stream.chunks := text
    rw [yields_append, yielded, yields_append, silent, text]
    exact ⟨rfl, rfl, by simp⟩

/-- The stream that answers when the primary model's was opened so, and the recursive call
serves `others`. -/
def served (useFallback : Bool) (others : Option VendorStream) :
    Except Exc VendorStream → Option VendorStream
  | .ok stream => some stream
  | .error (.circuitOpen _) => none
  | .error exc => if exc.isException ∧ !useFallback then others else none

theorem answer_streams (request : Request) (model : String) (useFallback : Bool)
    (next : ∃ acts result, Streams request.tenant others again acts result)
    (opened : Except Exc VendorStream) :
    ∃ acts result, Streams request.tenant (served useFallback others opened)
      (answer request model useFallback again opened) acts result := by
  have failed (exc : Exc) : ∃ acts result,
      Streams request.tenant (if exc.isException ∧ !useFallback then others else none)
        (if exc.isException ∧ !useFallback then again else raise exc) acts result := by
    split
    · exact next
    · exact ⟨_, _, streams_raise request.tenant exc⟩
  cases opened with
  | ok stream => exact opened_streams request model stream
  | error exc =>
    cases exc with
    | circuitOpen serviceName => exact ⟨_, _, streams_raise request.tenant _⟩
    | quotaExceeded graceful scope => exact failed (.quotaExceeded graceful scope)
    | failed reason => exact failed (.failed reason)
    | cancelled => exact failed .cancelled

/-- The stream that answers a request, if one does. -/
def Vendor.serving (vendor : Vendor) (request : Request) : Option VendorStream :=
  match request.tenant, vendor.quota with
  | some _, .error _ => none
  | _, _ => served false (served true none vendor.fallback) vendor.primary

theorem fallback_streams (settings : Settings) (vendor : Vendor) (request : Request) :
    ∃ acts result, Streams request.tenant (served true none vendor.fallback)
      (streamWith settings vendor request true (pure ())) acts result := by
  have nothing : ∃ acts result, Streams request.tenant none (pure ()) acts result :=
    ⟨[], .ok (), emits_pure (), .failed _, by simp⟩
  obtain ⟨acts, result, streams⟩ :=
    answer_streams request settings.llmFallbackModel true nothing vendor.fallback
  have unchecked : Emits (enforceQuota vendor request true) [] (.ok ()) := by
    simpa [enforceQuota] using emits_pure ()
  exact ⟨acts, result, unchecked.bind streams.emits, streams.billed, streams.serves⟩

theorem stream_streams (settings : Settings) (vendor : Vendor) (request : Request) : ∃ acts result,
    Streams request.tenant (vendor.serving request)
      (stream settings vendor request false) acts result := by
  obtain ⟨acts, result, streams⟩ := answer_streams request settings.llmModel false
    (fallback_streams settings vendor request) vendor.primary
  have passed (admits : Emits (enforceQuota vendor request false) [] (.ok ())) :
      Emits (stream settings vendor request false) acts result := admits.bind streams.emits
  cases tenant : request.tenant with
  | none =>
    have serving : vendor.serving request = served false
        (served true none vendor.fallback) vendor.primary := by
      simp [Vendor.serving, tenant]
    have admits : Emits (enforceQuota vendor request false) [] (.ok ()) := by
      simpa [enforceQuota, tenant] using emits_pure ()
    rw [serving, ← tenant]
    exact ⟨acts, result, passed admits, streams.billed, streams.serves⟩
  | some tenantId =>
    have checks : enforceQuota vendor request false = await vendor.quota := by
      simp [enforceQuota, tenant]
    cases quota : vendor.quota with
    | ok _ =>
      have serving : vendor.serving request =
          served false (served true none vendor.fallback) vendor.primary := by
        simp [Vendor.serving, tenant, quota]
      have admits : Emits (enforceQuota vendor request false) [] (.ok ()) := by
        rw [checks, quota]
        exact emits_await _
      rw [serving, ← tenant]
      exact ⟨acts, result, passed admits, streams.billed, streams.serves⟩
    | error exc =>
      have serving : vendor.serving request = none := by simp [Vendor.serving, tenant, quota]
      have refused : Emits (enforceQuota vendor request false) [] (.error exc) := by
        rw [checks, quota]
        exact emits_await _
      rw [serving]
      exact ⟨[], .error exc, refused.bind_error, .failed _, by simp⟩

/-! Consumers that stop. -/

/-- The tenants for which usage was committed. -/
def committed (acts : List (Act LlmChunk Effect)) : List String :=
  (effects acts).filterMap fun
    | .commitUsage tenantId _ _ => some tenantId
    | _ => none

theorem committed_append (xs ys : List (Act LlmChunk Effect)) :
    committed (xs ++ ys) = committed xs ++ committed ys := by
  rw [committed, effects_append, List.filterMap_append]
  rfl

theorem Unbilled.committed (unbilled : Unbilled acts) : committed acts = [] := by
  refine List.filterMap_eq_nil_iff.mpr fun effect mem => ?_
  rw [unbilled effect mem]

theorem Unbilled.unexhausted (unbilled : Unbilled acts) : .did .exhausted ∉ acts := by
  intro mem
  have known := unbilled .exhausted (List.mem_filterMap.mpr ⟨_, mem, rfl⟩)
  cases known

theorem committed_bill (tenant : Option String) (model : String) (tokens : Int) :
    committed (bill tenant model tokens) = tenant.toList := by
  cases tenant with
  | none => rfl
  | some tenantId => rfl

/-- Wherever the consumer stops: the usage was committed just if the vendor's stream ended. -/
theorem Billed.pulled (billed : Billed tenant acts) (n : Nat) :
    committed (pulled n acts) = if .did .exhausted ∈ pulled n acts then tenant.toList else [] := by
  have early {acts : List (Act LlmChunk Effect)} (unbilled : Unbilled acts) :
      committed (Generator.pulled n acts) =
        if .did .exhausted ∈ Generator.pulled n acts then tenant.toList else [] := by
    have so_far : Unbilled (Generator.pulled n acts) := by
      intro effect mem
      obtain ⟨done, earlier, known⟩ := List.mem_filterMap.mp mem
      exact unbilled effect (List.mem_filterMap.mpr
        ⟨done, pulled_subset n acts done earlier, known⟩)
    rw [so_far.committed, if_neg so_far.unexhausted]
  cases billed with
  | unfinished unbilled => exact early unbilled
  | @finished front model tokens last unbilled =>
    rw [List.append_assoc, pulled_append]
    split
    case isTrue => exact early unbilled
    case isFalse past =>
      have asked : 0 < n - (yields front).length := Nat.sub_pos_of_lt (Nat.not_le.mp past)
      have quiet : yields ([.did .exhausted] ++ bill tenant model tokens) = [] := by
        rw [yields_append, yields_bill]
        rfl
      have rest : committed (Generator.pulled (n - (yields front).length) [.yielded last]) =
          [] := by
        obtain ⟨m, more⟩ := Nat.exists_eq_add_one.mpr asked
        rw [more, Generator.pulled, pulled_nil]
        rfl
      rw [pulled_quiet quiet asked, if_pos (by simp), committed_append, committed_append,
        committed_append, unbilled.committed, committed_bill, rest, List.append_nil]
      rfl

end AgentOE.Agentic.LlmStream
