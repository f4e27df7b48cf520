import AgentOE.Call.Stream

/-! How a stream cuts its audio into turns: at the end of an utterance, and whenever
a quarter of a second has been collected. -/
namespace AgentOE.Call
open Session Coroutine Transition

/-- The audio of the chunks before each falling edge, and of those after the last.
A falling edge's own audio is not looked at. -/
def pieces (lastSpeaking : Bool) : List Chunk → List (List (List UInt8)) × List (List UInt8)
  | [] => ([], [])
  | chunk :: chunks =>
    let (closed, tail) := pieces chunk.isSpeaking chunks
    if !chunk.isSpeaking && lastSpeaking then ([] :: closed, tail)
    else match closed with
      | [] => ([], chunk.audioData :: tail)
      | piece :: others => ((chunk.audioData :: piece) :: others, tail)

/-- Audio is collected until it is enough, and then handed over. The rest is left. -/
def batch (buffer : List UInt8) : List (List UInt8) → List (List UInt8) × List UInt8
  | [] => ([], buffer)
  | data :: rest =>
    if minAudioBytes ≤ (buffer ++ data).length then
      let (full, left) := batch [] rest
      ((buffer ++ data) :: full, left)
    else batch (buffer ++ data) rest

def leftover (left : List UInt8) : List (List UInt8) := if left = [] then [] else [left]

/-- At a falling edge the rest is handed over too. -/
def batchAll (buffer : List UInt8) (piece : List (List UInt8)) : List (List UInt8) :=
  let (full, left) := batch buffer piece
  full ++ leftover left

def turnsOf (chunks : List Chunk) : List (List UInt8) :=
  let (closed, tail) := pieces false chunks
  closed.flatMap (batchAll []) ++ (batch [] tail).1

/-- The chunks that the reader gets to see. -/
def consumed : Stream → List Read → List Chunk
  | _, [] => []
  | s, read :: reads => if s.running then read.1 :: consumed (s.read read) reads else []

/-- The same for a reader that has some audio already. -/
def turnsFrom (buffer : List UInt8) (lastSpeaking : Bool) (chunks : List Chunk) :
    List (List UInt8) :=
  match pieces lastSpeaking chunks with
  | ([], tail) => (batch buffer tail).1
  | (piece :: others, tail) =>
    batchAll buffer piece ++ others.flatMap (batchAll []) ++ (batch [] tail).1

theorem turnsFrom_empty (chunks : List Chunk) : turnsFrom [] false chunks = turnsOf chunks := by
  unfold turnsFrom turnsOf
  split <;> rename_i split <;> simp [split]

theorem turnsFrom_nil (buffer : List UInt8) (lastSpeaking : Bool) :
    turnsFrom buffer lastSpeaking [] = [] := rfl

theorem batchAll_full (full : minAudioBytes ≤ (buffer ++ data).length) (rest : List (List UInt8)) :
    batchAll buffer (data :: rest) = (buffer ++ data) :: batchAll [] rest := by
  simp only [batchAll, batch, if_pos full, List.cons_append]

theorem batchAll_short (short : ¬minAudioBytes ≤ (buffer ++ data).length)
    (rest : List (List UInt8)) :
    batchAll buffer (data :: rest) = batchAll (buffer ++ data) rest := by
  simp only [batchAll, batch, if_neg short]

theorem turnsFrom_edge (edge : (!chunk.isSpeaking && lastSpeaking) = true) (buffer : List UInt8)
    (chunks : List Chunk) : turnsFrom buffer lastSpeaking (chunk :: chunks) =
      leftover buffer ++ turnsFrom [] chunk.isSpeaking chunks := by
  rcases split : pieces chunk.isSpeaking chunks with ⟨closed, tail⟩
  cases closed with
  | nil => simp [turnsFrom, pieces, split, edge, batchAll, batch]
  | cons piece others => simp [turnsFrom, pieces, split, edge, batchAll, batch]

theorem turnsFrom_full (level : (!chunk.isSpeaking && lastSpeaking) = false) (chunks : List Chunk)
    (full : minAudioBytes ≤ (buffer ++ chunk.audioData).length) :
    turnsFrom buffer lastSpeaking (chunk :: chunks) =
      (buffer ++ chunk.audioData) :: turnsFrom [] chunk.isSpeaking chunks := by
  rcases split : pieces chunk.isSpeaking chunks with ⟨closed, tail⟩
  cases closed with
  | nil =>
    simp only [turnsFrom, pieces, split, level, Bool.false_eq_true, if_false, batch, if_pos full]
  | cons piece others =>
    simp only [turnsFrom, pieces, split, level, Bool.false_eq_true, if_false, batchAll_full full,
      List.cons_append]

theorem turnsFrom_short (level : (!chunk.isSpeaking && lastSpeaking) = false) (chunks : List Chunk)
    (short : ¬minAudioBytes ≤ (buffer ++ chunk.audioData).length) :
    turnsFrom buffer lastSpeaking (chunk :: chunks) =
      turnsFrom (buffer ++ chunk.audioData) chunk.isSpeaking chunks := by
  rcases split : pieces chunk.isSpeaking chunks with ⟨closed, tail⟩
  cases closed with
  | nil =>
    simp only [turnsFrom, pieces, split, level, Bool.false_eq_true, if_false, batch, if_neg short]
  | cons piece others =>
    simp only [turnsFrom, pieces, split, level, Bool.false_eq_true, if_false, batchAll_short short]

/-! The reader. -/

/-- The reader listens, with this audio collected. -/
structure Collects (s : Stream) (buffer : List UInt8) : Prop where
  listening : s.world.orchestrator.listening = true
  audioBuffer : s.world.orchestrator.audioBuffer = buffer
  short : buffer.length < minAudioBytes

theorem Collects.empty {s : Stream} (frame : s.world.frame = ⟨[], true, now, emitted⟩) :
    Collects s [] := ⟨congrArg Frame.listening frame, congrArg Frame.audioBuffer frame, by decide⟩

/-- A call that runs a turn leaves nothing collected. -/
theorem call_runs {s : Stream} (running : runs s.world input = true) (outcomes : Outcomes) :
    (s.call input outcomes).turns = s.turns ++ [handed s.world input] ∧
    (s.call input outcomes).world.frame = ⟨[], hears input, outcomes.now, s.world.emitted⟩ ∧
    (s.call input outcomes).lastSpeaking = s.lastSpeaking := by
  have kept := (framed_runPipeline outcomes (handed s.world input)).frame
    (s.world.within ⟨[], hears input, outcomes.now, s.world.emitted⟩)
  rw [frame_within, ← handle_runs outcomes running] at kept
  simp only [Stream.call, running, if_true]
  split
  all_goals
    rename_i ended
    rw [ended] at kept
    exact ⟨rfl, kept, rfl⟩

/-- A call that returns without a turn. -/
theorem call_quiet {s : Stream} {outcomes : Outcomes} (quiet : runs s.world input = false)
    (returned : handle outcomes input s.world = (.ok events, τ)) :
    (s.call input outcomes).turns = s.turns ∧ (s.call input outcomes).world = τ ∧
    (s.call input outcomes).running = s.running := by
  simp only [Stream.call, returned, quiet]
  simp

/-- Collecting one more chunk outside of a falling edge. -/
theorem listen_audio {s : Stream} {read : Read} (collects : Collects s buffer)
    (level : (!read.1.isSpeaking && s.lastSpeaking) = false) :
    if minAudioBytes ≤ (buffer ++ read.1.audioData).length then
      (s.listen read).turns = s.turns ++ [buffer ++ read.1.audioData] ∧
        ((s.listen read).running = true → Collects (s.listen read) [])
    else (s.listen read).turns = s.turns ∧ (s.listen read).running = s.running ∧
      Collects (s.listen read) (buffer ++ read.1.audioData) := by
  have same := collects.audioBuffer
  by_cases silent : read.1.audioData = []
  · have kept : s.listen read = s := by simp [Stream.listen, level, silent]
    have short : ¬minAudioBytes ≤ (buffer ++ read.1.audioData).length := by
      simpa [silent] using collects.short
    rw [if_neg short, kept, silent, List.append_nil]
    exact ⟨rfl, rfl, collects⟩
  have fed : s.listen read = s.call (.audio read.1.audioData) read.2.1 := by
    simp [Stream.listen, level, silent]
  rw [fed]
  split
  case isTrue full =>
    have running : runs s.world (.audio read.1.audioData) = true := by
      simpa [runs, collects.listening, same] using full
    obtain ⟨turns, frame, -⟩ := call_runs running read.2.1
    rw [handed, same] at turns
    exact ⟨turns, fun _ => .empty frame⟩
  case isFalse short =>
    have quiet : runs s.world (.audio read.1.audioData) = false := by
      simpa [runs, collects.listening, same] using short
    have below : (s.world.orchestrator.audioBuffer ++ read.1.audioData).length < minAudioBytes := by
      rw [same]
      omega
    obtain ⟨turns, world, stays⟩ :=
      call_quiet quiet (handle_audio_waits read.2.1 collects.listening below)
    refine ⟨turns, stays, ?_, ?_, by omega⟩
    · rw [world]; rfl
    · rw [world, ← same]; rfl

/-- A falling edge runs a turn on what is left, and listening starts anew. -/
theorem listen_edge {s : Stream} {read : Read} (collects : Collects s buffer)
    (edge : (!read.1.isSpeaking && s.lastSpeaking) = true) :
    (s.listen read).turns = s.turns ++ leftover buffer ∧
      ((s.listen read).running = true → Collects (s.listen read) []) := by
  have same := collects.audioBuffer
  have stopped : (s.call (control "stop_listening") read.2.1).turns = s.turns ++
      leftover buffer := by
    by_cases empty : buffer = []
    · have quiet : runs s.world (control "stop_listening") = false := by
        simp [runs, control, same, empty]
      rw [(call_quiet quiet (handle_stop_empty read.2.1 (same.trans empty))).1, leftover,
        if_pos empty, List.append_nil]
    · have running : runs s.world (control "stop_listening") = true := by
        simp [runs, control, Control.isAction, same, empty]
      obtain ⟨turns, -, -⟩ := call_runs running read.2.1
      rw [turns, leftover, if_neg empty, ← same]
      rfl
  simp only [Stream.listen, edge, if_true]
  generalize s.call (control "stop_listening") read.2.1 = t at stopped ⊢
  split
  · obtain ⟨events, τ, started, frame⟩ := handle_start read.2.2 t.world
    have quiet : runs t.world (control "start_listening") = false := by
      simp [runs, control, Control.isAction]
    obtain ⟨turns, world, -⟩ := call_quiet quiet started
    rw [turns, stopped]
    refine ⟨rfl, fun _ => Collects.empty (world.symm ▸ frame)⟩
  · rename_i halted
    exact ⟨stopped, fun running => absurd running halted⟩

/-- What reading one chunk adds is what the specification takes off first. -/
theorem read_turns {s : Stream} {read : Read} (collects : Collects s buffer)
    (live : s.running = true) (spoken : read.1.dtmfDigit = "") :
    ∃ buffer', (∀ chunks, (s.read read).turns ++ turnsFrom buffer' read.1.isSpeaking chunks =
        s.turns ++ turnsFrom buffer s.lastSpeaking (read.1 :: chunks)) ∧
      ((s.read read).running = true → Collects (s.read read) buffer') ∧
      (s.read read).lastSpeaking = read.1.isSpeaking := by
  have shape : s.read read =
      { (s.bargeIn read.1).listen read with lastSpeaking := read.1.isSpeaking } := by
    simp [Stream.read, live, spoken]
  have barged : Collects (s.bargeIn read.1) buffer ∧ (s.bargeIn read.1).turns = s.turns ∧
      (s.bargeIn read.1).lastSpeaking = s.lastSpeaking := by
    unfold Stream.bargeIn
    split
    · exact ⟨⟨collects.listening, collects.audioBuffer, collects.short⟩, rfl, rfl⟩
    · exact ⟨collects, rfl, rfl⟩
  obtain ⟨still, same, last⟩ := barged
  rw [shape]
  cases edge : !read.1.isSpeaking && s.lastSpeaking with
  | true =>
    obtain ⟨turns, next⟩ := listen_edge still (last.symm ▸ edge)
    refine ⟨[], fun chunks => ?_, fun live => ?_, rfl⟩
    · rw [turnsFrom_edge edge, turns, same, List.append_assoc]
    · obtain ⟨listening, empty, short⟩ := next live
      exact ⟨listening, empty, short⟩
  | false =>
    have collected := listen_audio still (last.symm ▸ edge)
    split at collected
    case isTrue full =>
      obtain ⟨turns, next⟩ := collected
      refine ⟨[], fun chunks => ?_, fun live => ?_, rfl⟩
      · rw [turnsFrom_full edge chunks full, turns, same, List.append_assoc]
        rfl
      · obtain ⟨listening, empty, short⟩ := next live
        exact ⟨listening, empty, short⟩
    case isFalse short =>
      obtain ⟨turns, -, listening, grown, bound⟩ := collected
      refine ⟨buffer ++ read.1.audioData, fun chunks => ?_, fun _ => ⟨listening, grown, bound⟩, rfl⟩
      rw [turnsFrom_short edge chunks short, turns, same]

theorem stream_turns {s : Stream} (reads : List Read)
    (collects : s.running = true → Collects s buffer)
    (spoken : ∀ read ∈ reads, read.1.dtmfDigit = "") :
    (reads.foldl Stream.read s).turns =
      s.turns ++ turnsFrom buffer s.lastSpeaking (consumed s reads) := by
  induction reads generalizing s buffer with
  | nil => simp [consumed, turnsFrom_nil]
  | cons read reads ih =>
    obtain ⟨first, rest⟩ := List.forall_mem_cons.mp spoken
    cases live : s.running with
    | false =>
      rw [read_all_stopped live]
      simp [consumed, live, turnsFrom_nil]
    | true =>
      obtain ⟨buffer', turns, next, last⟩ := read_turns (collects live) live first
      rw [List.foldl_cons, ih next rest, last, consumed, if_pos live, turns]

theorem open_collects (o : Orchestrator) (outcomes : Outcomes) :
    Collects (Stream.open o outcomes) [] ∧ (Stream.open o outcomes).turns = [] ∧
      (Stream.open o outcomes).lastSpeaking = false := by
  obtain ⟨events, τ, started, frame⟩ := handle_start outcomes (.new o)
  have quiet : runs (.new o) (control "start_listening") = false := by
    simp [runs, control, Control.isAction]
  have opened : Stream.open o outcomes = ⟨τ, false, true, outboundToResponses events, []⟩ := by
    simp [Stream.open, Stream.call, started, quiet]
  rw [opened]
  exact ⟨.empty frame, rfl, rfl⟩

/-- Audio that stays below the limit is collected whole. -/
theorem batch_short {buffer : List UInt8} {piece : List (List UInt8)}
    (short : (buffer ++ piece.flatten).length < minAudioBytes) :
    batch buffer piece = ([], buffer ++ piece.flatten) := by
  induction piece generalizing buffer with
  | nil => simp [batch]
  | cons data rest ih =>
    rw [List.flatten_cons, ← List.append_assoc] at short ⊢
    have below : ¬minAudioBytes ≤ (buffer ++ data).length := by
      rw [List.length_append] at short
      omega
    rw [batch, if_neg below, ih short]

/-- A turn for every piece that has audio, if no piece reaches the limit. -/
theorem turnsOf_short {chunks : List Chunk}
    (closed : ∀ piece ∈ (pieces false chunks).1, piece.flatten.length < minAudioBytes)
    (tail : (pieces false chunks).2.flatten.length < minAudioBytes) :
    turnsOf chunks = (pieces false chunks).1.flatMap fun piece => leftover piece.flatten := by
  have last : batch [] (pieces false chunks).2 = ([], (pieces false chunks).2.flatten) := by
    simpa using @batch_short [] _ tail
  have each : (pieces false chunks).1.flatMap (batchAll []) =
      (pieces false chunks).1.flatMap fun piece => leftover piece.flatten := by
    refine List.flatMap_congr fun piece mem => ?_
    rw [batchAll, @batch_short [] piece (closed piece mem)]
    rfl
  simp only [turnsOf, last, List.append_nil, each]

/-- Every turn of a stream, in order: the audio of each piece between two falling
edges, cut whenever it reaches the limit, with what is left at the edge. A piece that
stays below the limit is one turn. -/
theorem stream_turns_cut (o : Orchestrator) (outcomes : Outcomes) (reads : List Read)
    (spoken : ∀ read ∈ reads, read.1.dtmfDigit = "") :
    (reads.foldl Stream.read (.open o outcomes)).turns =
        turnsOf (consumed (.open o outcomes) reads) ∧
    ∀ chunks, (∀ piece ∈ (pieces false chunks).1, piece.flatten.length < minAudioBytes) →
      (pieces false chunks).2.flatten.length < minAudioBytes →
      turnsOf chunks = (pieces false chunks).1.flatMap fun piece => leftover piece.flatten := by
  obtain ⟨collects, none, silent⟩ := open_collects o outcomes
  constructor
  · rw [stream_turns reads (fun _ => collects) spoken, none, silent, turnsFrom_empty,
      List.nil_append]
  · intro chunks closed tail
    exact turnsOf_short closed tail

def greeted : Orchestrator := .new "call-1" "t_acme" "c1" (.new .idle) [] .g1 0

/-- A short utterance is one turn. -/
def shortUtterance : List Read :=
  [(⟨"", true, [1, 2]⟩, calm, calm), (⟨"", true, [3, 4]⟩, calm, calm),
    (⟨"", false, []⟩, calm, calm)]

theorem short_utterance_turn :
    (shortUtterance.foldl Stream.read (.open greeted calm)).turns = [[1, 2, 3, 4]] ∧
      turnsOf (consumed (.open greeted calm) shortUtterance) = [[1, 2, 3, 4]] := by
  have cut := (stream_turns_cut greeted calm shortUtterance (by decide)).1
  have turns : turnsOf (consumed (.open greeted calm) shortUtterance) = [[1, 2, 3, 4]] := by
    decide +kernel
  exact ⟨cut.trans turns, turns⟩

/-- The audio of each maximal run of speech that is followed by silence. -/
def utterancesOf (speech : Option (List UInt8)) : List Chunk → List (List UInt8)
  | [] => []
  | chunk :: chunks =>
    if chunk.isSpeaking then utterancesOf (some (speech.getD [] ++ chunk.audioData)) chunks
    else speech.toList ++ utterancesOf none chunks

/-- An utterance of half a second is two turns, and silence of a quarter is one. -/
def halfSecond : List Read :=
  [(⟨"", true, List.replicate 4000 1⟩, calm, calm), (⟨"", true, List.replicate 4000 2⟩, calm, calm),
    (⟨"", false, []⟩, calm, calm)]

def quietQuarter : List Read := [(⟨"", false, List.replicate 4000 0⟩, calm, calm)]

theorem utterances_not_turns :
    ¬(∀ (o : Orchestrator) (outcomes : Outcomes) (reads : List Read),
      (∀ read ∈ reads, read.1.dtmfDigit = "") →
      (reads.foldl Stream.read (.open o outcomes)).turns =
        utterancesOf none (consumed (.open o outcomes) reads)) ∧
    (halfSecond.foldl Stream.read (.open greeted calm)).turns =
      [List.replicate 4000 1, List.replicate 4000 2] ∧
    (quietQuarter.foldl Stream.read (.open greeted calm)).turns = [List.replicate 4000 0] := by
  have long : (halfSecond.foldl Stream.read (.open greeted calm)).turns =
      [List.replicate 4000 1, List.replicate 4000 2] := by decide +kernel
  have quiet : (quietQuarter.foldl Stream.read (.open greeted calm)).turns =
      [List.replicate 4000 0] := by
    decide +kernel
  refine ⟨fun once => ?_, long, quiet⟩
  have same := once greeted calm quietQuarter (by decide)
  rw [quiet] at same
  revert same
  decide +kernel

end AgentOE.Call
