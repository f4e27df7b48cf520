import AgentOE.Call.Closed
import AgentOE.Call.Responses

/-! A whole gRPC stream with the responses it queues, and what the digits of a
caller do to it. -/
namespace AgentOE.Call
open Session Coroutine Transition

/-- `turns` lists the audio of every call of `_run_pipeline`. -/
structure Stream where
  world : World
  lastSpeaking : Bool
  running : Bool
  responses : List AiResponse
  turns : List (List UInt8)

/-- A chunk with the outcomes of up to two calls. -/
abbrev Read := Chunk × Outcomes × Outcomes

/-- `await emit(await orchestrator.handle_…(…))`. An exception ends the reader. -/
def Stream.call (s : Stream) (input : Input) (outcomes : Outcomes) : Stream :=
  let turns := s.turns ++ if runs s.world input then [handed s.world input] else []
  match handle outcomes input s.world with
  | (.ok events, τ) =>
    { s with world := τ, responses := s.responses ++ outboundToResponses events, turns := turns }
  | (.error exc, τ) =>
    { s with
      world := τ, running := false, turns := turns
      responses := s.responses ++ [.spoken ("[ERROR] internal: " ++ exc.message), endOfTurn] }

/-- Barge-in: the bridge drops what it still has to play. -/
def clearBuffer : AiResponse := ⟨.ttsAudio, "", [], true⟩

def Stream.bargeIn (s : Stream) (chunk : Chunk) : Stream :=
  if chunk.isSpeaking && !s.lastSpeaking then { s with responses := s.responses ++ [clearBuffer] }
  else s

/-- The calls for the audio of a chunk. -/
def Stream.listen (s : Stream) (read : Read) : Stream :=
  if !read.1.isSpeaking && s.lastSpeaking then
    let stopped := s.call (control "stop_listening") read.2.1
    if stopped.running then stopped.call (control "start_listening") read.2.2 else stopped
  else if read.1.audioData ≠ [] then s.call (.audio read.1.audioData) read.2.1
  else s

def Stream.read (s : Stream) (read : Read) : Stream :=
  if !s.running then s
  else if read.1.dtmfDigit ≠ "" then s.call (control "dtmf") read.2.1
  else { (s.bargeIn read.1).listen read with lastSpeaking := read.1.isSpeaking }

def Stream.open (o : Orchestrator) (outcomes : Outcomes) : Stream :=
  Stream.call ⟨.new o, false, true, [], []⟩ (control "start_listening") outcomes

/-- `end_session` in the `finally` of the stream. Its events are dropped. -/
def Stream.close (s : Stream) (outcomes : Outcomes) : World :=
  (endSession outcomes (if s.running then "client_hangup" else "server_error") s.world).2

/-- How the session of the first chunk is opened. -/
inductive Opening where
  | leaseConflict
  | sessionEnded
  | raised (exc : Exc)
  | opened (o : Orchestrator) (outcomes : Outcomes)

structure Streamed where
  responses : List AiResponse
  orchestrator : Option Orchestrator

/-- `StreamSession`. Without a chunk there is no session. -/
def streamSession (opening : Opening) (closing : Outcomes) : List Read → Streamed
  | [] => ⟨[], none⟩
  | reads => match opening with
    | .leaseConflict =>
      ⟨[.spoken "[ERROR] session already in progress (lease lock)", endOfTurn], none⟩
    | .sessionEnded => ⟨[.spoken "[ERROR] session ended", endOfTurn], none⟩
    | .raised exc => ⟨[.spoken ("[ERROR] internal: " ++ exc.message), endOfTurn], none⟩
    | .opened o outcomes =>
      let s := reads.foldl Stream.read (.open o outcomes)
      ⟨s.responses, some (s.close closing).orchestrator⟩

/-- The client sees the same, and the orchestrator ends with the same machine,
history and buffer. -/
structure Streamed.Same (a b : Streamed) : Prop where
  responses : a.responses = b.responses
  fsm : a.orchestrator.map (·.fsm) = b.orchestrator.map (·.fsm)
  history : a.orchestrator.map (·.history) = b.orchestrator.map (·.history)
  audioBuffer : a.orchestrator.map (·.audioBuffer) = b.orchestrator.map (·.audioBuffer)

def streamStep (s : Stream) (read : Read) : Option Stream := some (s.read read)

/-- The reader, if it still runs, gets no digit. -/
def NoDigit (s : Stream) (read : Read) : Prop := s.running = true → read.1.dtmfDigit = ""

def withoutDigit (read : Read) : Bool := read.1.dtmfDigit = ""

/-! Two streams that differ in the clock of the last activity, and in what they
have answered. -/

def World.at (σ : World) (now : Nat) : World := σ.within { σ.frame with lastActivity := now }

structure Alike (s t : Stream) : Prop where
  world : ∃ now, t.world = s.world.at now
  lastSpeaking : t.lastSpeaking = s.lastSpeaking
  running : t.running = s.running

/-- Both streams answer the same from here on. -/
def AnswerAlike (s t s' t' : Stream) : Prop :=
  ∃ added, s'.responses = s.responses ++ added ∧ t'.responses = t.responses ++ added

theorem AnswerAlike.refl (s t : Stream) : AnswerAlike s t s t := ⟨[], by simp, by simp⟩

theorem AnswerAlike.trans (first : AnswerAlike s t s' t') (second : AnswerAlike s' t' s'' t'') :
    AnswerAlike s t s'' t'' := by
  obtain ⟨added, left, right⟩ := first
  obtain ⟨more, left', right'⟩ := second
  exact ⟨added ++ more,
    by rw [left', left, List.append_assoc], by rw [right', right, List.append_assoc]⟩

theorem alike_at_self (s : Stream) : Alike s s :=
  ⟨⟨s.world.orchestrator.lastActivity, rfl⟩, rfl, rfl⟩

/-- A call starts by setting the clock. -/
theorem Alike.call (alike : Alike s t) (outcomes : Outcomes) (input : Input)
    (stays : ∀ reason, input ≠ .endSession reason) :
    Alike (s.call input outcomes) (t.call input outcomes) ∧
      AnswerAlike s t (s.call input outcomes) (t.call input outcomes) := by
  obtain ⟨now, world⟩ := alike.world
  have same : handle outcomes input t.world = handle outcomes input s.world := by
    rw [world]
    exact handle_clock outcomes input stays s.world now
  simp only [Stream.call, same]
  split
  · exact ⟨⟨⟨_, rfl⟩, alike.lastSpeaking, alike.running⟩, _, rfl, rfl⟩
  · exact ⟨⟨⟨_, rfl⟩, alike.lastSpeaking, rfl⟩, _, rfl, rfl⟩

theorem Alike.bargeIn (alike : Alike s t) (chunk : Chunk) :
    Alike (s.bargeIn chunk) (t.bargeIn chunk) ∧
      AnswerAlike s t (s.bargeIn chunk) (t.bargeIn chunk) := by
  simp only [Stream.bargeIn, alike.lastSpeaking]
  split
  · exact ⟨⟨alike.world, rfl, alike.running⟩, _, rfl, rfl⟩
  · exact ⟨alike, .refl s t⟩

theorem Alike.listen (alike : Alike s t) (read : Read) :
    Alike (s.listen read) (t.listen read) ∧ AnswerAlike s t (s.listen read) (t.listen read) := by
  simp only [Stream.listen, alike.lastSpeaking]
  split
  · obtain ⟨stopped, answers⟩ := alike.call read.2.1 (control "stop_listening") nofun
    simp only [stopped.running]
    split
    · obtain ⟨started, more⟩ := stopped.call read.2.2 (control "start_listening") nofun
      exact ⟨started, answers.trans more⟩
    · exact ⟨stopped, answers⟩
  split
  · exact alike.call read.2.1 (.audio read.1.audioData) nofun
  · exact ⟨alike, .refl s t⟩

/-- Audio is read alike by both. -/
theorem Alike.read {read : Read} (alike : Alike s t) (spoken : read.1.dtmfDigit = "") :
    Alike (s.read read) (t.read read) ∧ AnswerAlike s t (s.read read) (t.read read) := by
  have spoken : ¬read.1.dtmfDigit ≠ "" := not_not_intro spoken
  simp only [Stream.read, alike.running, spoken, if_false]
  split
  · exact ⟨alike, .refl s t⟩
  obtain ⟨barged, first⟩ := alike.bargeIn read.1
  obtain ⟨listened, rest⟩ := barged.listen read
  refine ⟨⟨listened.world, rfl, listened.running⟩, ?_⟩
  exact first.trans rest

/-- A digit is answered with an error and an end of turn, and leaves the rest alone. -/
theorem read_digit {s : Stream} {read : Read} (digit : read.1.dtmfDigit ≠ "")
    (running : s.running = true) (alike : Alike s t) :
    Alike (s.read read) t ∧ (s.read read).responses = s.responses ++
      [.spoken "[ERROR] Unknown action: dtmf", endOfTurn] := by
  have pressed : s.read read = s.call (control "dtmf") read.2.1 := by
    simp [Stream.read, running, digit]
  obtain ⟨now, world⟩ := alike.world
  rw [pressed]
  simp only [Stream.call, handle_dtmf]
  exact ⟨⟨⟨now, world⟩, alike.lastSpeaking, alike.running⟩, rfl⟩

theorem read_stopped {s : Stream} {read : Read} (stopped : s.running = false) :
    s.read read = s := by
  simp [Stream.read, stopped]

theorem read_all_stopped {s : Stream} (stopped : s.running = false) (reads : List Read) :
    reads.foldl Stream.read s = s := by
  induction reads with
  | nil => rfl
  | cons read reads ih => rw [List.foldl_cons, read_stopped stopped, ih]

/-- The two runs, with and without the digits. They give the same answers only if no
digit was read. -/
theorem reads_alike (alike : Alike s t) (reads : List Read) :
    Alike (reads.foldl Stream.read s) ((reads.filter withoutDigit).foldl Stream.read t) ∧
    ∃ left right, (reads.foldl Stream.read s).responses = s.responses ++ left ∧
      ((reads.filter withoutDigit).foldl Stream.read t).responses = t.responses ++ right ∧
      right.length ≤ left.length ∧
      (left.length = right.length → left = right ∧ Along streamStep NoDigit s reads) ∧
      (Along streamStep NoDigit s reads → left = right) := by
  induction reads generalizing s t with
  | nil => exact ⟨alike, [], [], by simp, by simp, by simp, fun _ => ⟨rfl, trivial⟩, fun _ => rfl⟩
  | cons read reads ih =>
    by_cases digit : read.1.dtmfDigit = ""
    · obtain ⟨next, added, first, first'⟩ := alike.read digit
      obtain ⟨final, left, right, rest, rest', shorter, exact_, equal⟩ := ih next
      have keeps : withoutDigit read = true := by simp [withoutDigit, digit]
      rw [List.filter_cons_of_pos keeps, List.foldl_cons, List.foldl_cons]
      refine ⟨final, added ++ left, added ++ right, ?_, ?_, ?_, fun same => ?_, fun along => ?_⟩
      · rw [rest, first, List.append_assoc]
      · rw [rest', first', List.append_assoc]
      · simpa using shorter
      · obtain ⟨same, along⟩ := exact_ (by simpa using same)
        refine ⟨by rw [same], fun _ => digit, fun u stepped => ?_⟩
        cases Option.some.inj stepped
        exact along
      · rw [equal (along.2 _ rfl)]
    · have drops : ¬withoutDigit read = true := by simp [withoutDigit, digit]
      rw [List.filter_cons_of_neg drops, List.foldl_cons]
      cases running : s.running with
      | false =>
        rw [read_stopped running]
        obtain ⟨final, left, right, rest, rest', shorter, exact_, equal⟩ := ih alike
        refine ⟨final, left, right, rest, rest', shorter, fun same => ?_, fun along => ?_⟩
        · obtain ⟨same, along⟩ := exact_ same
          refine ⟨same, fun runs => ?_, fun u stepped => ?_⟩
          · simp [running] at runs
          · cases Option.some.inj stepped
            rwa [read_stopped running]
        · have next := along.2 _ rfl
          rw [read_stopped running] at next
          exact equal next
      | true =>
        obtain ⟨next, pressed⟩ := read_digit digit running alike
        obtain ⟨final, left, right, rest, rest', shorter, -, -⟩ := ih next
        refine ⟨final, [.spoken "[ERROR] Unknown action: dtmf", endOfTurn] ++ left, right, ?_,
          rest', ?_, fun same => ?_, fun along => ?_⟩
        · rw [rest, pressed, List.append_assoc]
        · simp only [List.length_append, List.length_cons, List.length_nil]
          omega
        · simp only [List.length_append, List.length_cons, List.length_nil] at same
          omega
        · exact absurd (along.1 running) digit

theorem Alike.close (alike : Alike s t) (closing : Outcomes) :
    (t.close closing).orchestrator.fsm = (s.close closing).orchestrator.fsm ∧
      (t.close closing).orchestrator.history = (s.close closing).orchestrator.history ∧
      (t.close closing).orchestrator.audioBuffer = (s.close closing).orchestrator.audioBuffer := by
  obtain ⟨now, world⟩ := alike.world
  have framed := framed_endSession closing (if s.running then "client_hangup" else "server_error")
  have buffer : (s.close closing).orchestrator.audioBuffer = s.world.orchestrator.audioBuffer :=
    congrArg Frame.audioBuffer (framed.frame s.world)
  have moved : t.close closing =
      (s.close closing).within { s.world.frame with lastActivity := now } := by
    rw [Stream.close, alike.running, world, World.at, framed.within]
    rfl
  rw [moved]
  exact ⟨rfl, rfl, buffer.symm⟩

/-- Digits disturb nothing of the orchestrator, but each one that is read is answered
in the caller's turn. -/
theorem dtmf_undisturbed_iff (opening : Opening) (closing : Outcomes) (first : Read)
    (rest : List Read) : Streamed.Same (streamSession opening closing (first :: rest))
        (streamSession opening closing (first :: rest.filter withoutDigit)) ↔
      ∀ o outcomes, opening = .opened o outcomes →
        Along streamStep NoDigit ((Stream.open o outcomes).read first) rest := by
  cases opening with
  | leaseConflict => exact iff_of_true ⟨rfl, rfl, rfl, rfl⟩ fun _ _ same => Opening.noConfusion same
  | sessionEnded => exact iff_of_true ⟨rfl, rfl, rfl, rfl⟩ fun _ _ same => Opening.noConfusion same
  | raised exc => exact iff_of_true ⟨rfl, rfl, rfl, rfl⟩ fun _ _ same => Opening.noConfusion same
  | opened o outcomes =>
    obtain ⟨alike, left, right, answers, answers', -, only, equal⟩ :=
      reads_alike (alike_at_self ((Stream.open o outcomes).read first)) rest
    obtain ⟨fsm, history, buffer⟩ := alike.close closing
    simp only [streamSession, List.foldl_cons]
    constructor
    · rintro ⟨responses, -, -, -⟩ o' outcomes' same
      cases same
      simp only [answers, answers', List.append_cancel_left_eq] at responses
      exact (only (congrArg List.length responses)).2
    · intro along
      refine ⟨?_, by simp [fsm], by simp [history], by simp [buffer]⟩
      simp only [answers, answers', equal (along o outcomes rfl)]

def pressed : Read := (⟨"1", false, []⟩, calm, calm)

/-- A single digit after the first chunk is answered. -/
theorem dtmf_disturbs : ¬∀ (opening : Opening) (closing : Outcomes) (first : Read)
    (rest : List Read), Streamed.Same (streamSession opening closing (first :: rest))
      (streamSession opening closing (first :: rest.filter withoutDigit)) := by
  intro undisturbed
  have same := (undisturbed (.opened (.new "call-1" "t_acme" "c1" (.new .idle) [] .g1 0) calm) calm
    (⟨"", false, []⟩, calm, calm) [pressed]).responses
  revert same
  decide +kernel

end AgentOE.Call
