import Mathlib.Data.List.Basic
import Mathlib.Logic.Function.Basic
import AgentOE.SliceBuffer
import AgentOE.Transition

/-! The audio that `StreamSession` of vbgw-ai hands to `processAIResponse`: the receive loop
goes on with its buffer while the goroutines copy what they were given. -/
namespace AgentOE.UtteranceCapture
open Transition SliceBuffer

abbrev Bytes := List UInt8

/-- The fields of `AudioChunk` that the loop uses for the capture. -/
structure Chunk where
  isSpeaking : Bool
  audioData : Bytes
  deriving DecidableEq

/-- `binary.Write` of an unsigned number of so many bytes. -/
def littleEndian : Nat → Nat → Bytes
  | 0, _ => []
  | width + 1, n => UInt8.ofNat (n % 256) :: littleEndian width (n / 256)

def ascii (s : String) : Bytes := s.toList.map fun c => UInt8.ofNat c.toNat

/-- The header in front of `size` bytes of audio. The sizes are of 32 bits. -/
def wavHeader (size : Nat) : Bytes :=
  ascii "RIFF" ++ littleEndian 4 (36 + size) ++ ascii "WAVE" ++
  ascii "fmt " ++ littleEndian 4 16 ++ littleEndian 2 1 ++ littleEndian 2 1 ++
  littleEndian 4 16000 ++ littleEndian 4 (16000 * 2) ++ littleEndian 2 2 ++ littleEndian 2 16 ++
  ascii "data" ++ littleEndian 4 size

example : (wavHeader 4).take 8 = [82, 73, 70, 70, 40, 0, 0, 0] := by decide

def addWAVHeader (pcmData : Bytes) : Bytes := wavHeader pcmData.length ++ pcmData

/-- A goroutine that runs `processAIResponse`. `copied` is what `AddWAVHeader` has read so
far: the bytes are copied in any order. `transcribed` is what was passed to `Transcribe`. -/
structure Goroutine where
  pcmData : Option Slice
  copied : Nat → Option UInt8 := fun _ => none
  transcribed : Option Bytes := none

structure State where
  heap : Heap UInt8 := []
  audioBuffer : Option Slice := none
  lastSpeaking : Bool := false
  goroutines : List Goroutine := []

namespace State
variable (growth : Growth) (s : State)

def write (audio : Bytes) : State :=
  let (heap, audioBuffer) := SliceBuffer.write growth audio s.heap s.audioBuffer
  { s with heap := heap, audioBuffer := audioBuffer }

/-- The falling edge. The slice still shares the array of the buffer. -/
def capture : State :=
  { s with
    audioBuffer := reset s.audioBuffer
    goroutines := s.goroutines ++ [{ pcmData := s.audioBuffer }] }

/-- One pass of the loop. -/
def receive (chunk : Chunk) : State :=
  let s := if chunk.isSpeaking then s.write growth chunk.audioData else s
  let s := if s.lastSpeaking && !chunk.isSpeaking then s.capture else s
  { s with lastSpeaking := chunk.isSpeaking }

end State

/-- Copies one byte of the slice. -/
def Goroutine.copy (heap : Heap UInt8) (g : Goroutine) (k : Nat) : Option Goroutine :=
  match (heap.contents g.pcmData)[k]?, g.copied k with
  | some byte, none => some { g with copied := Function.update g.copied k (some byte) }
  | _, _ => none

/-- The copy is complete. -/
def Goroutine.pcm (g : Goroutine) : Option Bytes := (List.range (length g.pcmData)).mapM g.copied

def Goroutine.transcribe (g : Goroutine) : Option Goroutine :=
  if g.transcribed = none then
    g.pcm.map fun pcm => { g with transcribed := some (addWAVHeader pcm) }
  else none

inductive Label where
  | receive (chunk : Chunk)
  /-- Goroutine `n` copies its byte `k`. -/
  | copy (n k : Nat)
  | transcribe (n : Nat)
  deriving DecidableEq

def State.update (s : State) (n : Nat) (next : Goroutine → Option Goroutine) : Option State := do
  let g ← s.goroutines[n]?
  let g ← next g
  pure { s with goroutines := s.goroutines.set n g }

def step (growth : Growth) (s : State) : Label → Option State
  | .receive chunk => some (s.receive growth chunk)
  | .copy n k => s.update n fun g => g.copy s.heap k
  | .transcribe n => s.update n Goroutine.transcribe

/-- The chunks that were received. -/
def chunks (ls : List Label) : List Chunk := ls.filterMap fun
  | .receive chunk => some chunk
  | _ => none

/-- What was said up to some chunk: the utterances that have ended, and the audio of the
speaking chunks since the last one ended. -/
structure Speech where
  utterances : List Bytes := []
  current : Bytes := []
  speaking : Bool := false

def Speech.hear (speech : Speech) (chunk : Chunk) : Speech :=
  if chunk.isSpeaking then
    { speech with current := speech.current ++ chunk.audioData, speaking := true }
  else if speech.speaking then { utterances := speech.utterances ++ [speech.current] }
  else { speech with speaking := false }

def Speech.of (chunks : List Chunk) : Speech := chunks.foldl Speech.hear {}

/-- Each goroutine has passed on nothing but its utterance. -/
def State.Faithful (s : State) (utterances : List Bytes) : Prop :=
  s.goroutines.length = utterances.length ∧
    ∀ (n : Nat) (g : Goroutine) wav, s.goroutines[n]? = some g → g.transcribed = some wav →
      ∃ utterance, utterances[n]? = some utterance ∧ wav = addWAVHeader utterance

/-- No byte that a goroutine has still to copy is changed. -/
def Spares (growth : Growth) (s : State) : Label → Prop
  | .receive chunk => chunk.isSpeaking = true → ∀ g ∈ s.goroutines, ∀ k, g.copied k = none →
      ((s.write growth chunk.audioData).heap.contents g.pcmData)[k]? =
        (s.heap.contents g.pcmData)[k]?
  | _ => True

variable {growth : Growth} {s t u : State} {l : Label} {ls : List Label} {g next : Goroutine}
    {n k : Nat}
variable {chunk : Chunk} {speech : Speech} {heap : Heap UInt8} {utterance : Bytes}

/-- The goroutine will pass on the utterance, if the bytes it has still to copy are left. -/
structure Holds (heap : Heap UInt8) (g : Goroutine) (utterance : Bytes) : Prop where
  valid : heap.Valid g.pcmData
  length : length g.pcmData = utterance.length
  pending : ∀ k, g.copied k = none → (heap.contents g.pcmData)[k]? = utterance[k]?
  copied : ∀ k byte, g.copied k = some byte → utterance[k]? = some byte
  passed : ∀ wav, g.transcribed = some wav → wav = addWAVHeader utterance
  complete : g.transcribed ≠ none → ∀ k < utterance.length, g.copied k ≠ none

theorem mapM_eq_some {α β : Type} {f : α → Option β} {as : List α} {bs : List β} :
    as.mapM f = some bs ↔ as.map f = bs.map some := by
  induction as generalizing bs with
  | nil => cases bs <;> simp
  | cons a as ih =>
    cases bs with
    | nil => simp [List.mapM_cons, Option.bind_eq_some_iff]
    | cons b bs => simp [List.mapM_cons, Option.bind_eq_some_iff, ih]

theorem pcm_eq_some {pcm : Bytes} : g.pcm = some pcm ↔
    pcm.length = length g.pcmData ∧ ∀ k < pcm.length, g.copied k = pcm[k]? := by
  rw [Goroutine.pcm, mapM_eq_some]
  constructor
  · intro same
    have lengths : pcm.length = length g.pcmData := by simpa using (congrArg List.length same).symm
    refine ⟨lengths, fun k below => ?_⟩
    have here := congrArg (·[k]?) same
    simpa [below, lengths ▸ below] using here
  · rintro ⟨lengths, same⟩
    apply List.ext_getElem?
    intro k
    by_cases below : k < pcm.length
    · simp [lengths ▸ below, same k below, below]
    · simp [below, lengths ▸ below]

theorem Holds.copy (holds : Holds heap g utterance) (copied : g.copy heap k = some next) :
    Holds heap next utterance := by
  unfold Goroutine.copy at copied
  split at copied
  · rename_i byte here absent
    cases copied
    have value : utterance[k]? = some byte := (holds.pending k absent).symm.trans here
    refine ⟨holds.valid, holds.length, fun j none => ?_, fun j b has => ?_, holds.passed,
      fun passed j below => ?_⟩
    · by_cases same : j = k
      · simp [same] at none
      · exact holds.pending j (by simpa [same] using none)
    · by_cases same : j = k
      · subst same
        cases (Function.update_self ..).symm.trans has
        exact value
      · exact holds.copied j b (by simpa [same] using has)
    · by_cases same : j = k
      · simp [same]
      · simpa [same] using holds.complete passed j below
  · cases copied

theorem Holds.transcribe (holds : Holds heap g utterance) (passed : g.transcribe = some next) :
    Holds heap next utterance := by
  obtain ⟨-, pass⟩ := Option.ite_none_right_eq_some.mp passed
  obtain ⟨pcm, complete, rfl⟩ := Option.map_eq_some_iff.mp pass
  refine ⟨holds.valid, holds.length, holds.pending, holds.copied, fun wav same => ?_, fun _ => ?_⟩
  · cases same
    obtain ⟨lengths, same⟩ := pcm_eq_some.mp complete
    have whole : pcm = utterance := by
      apply List.ext_getElem (lengths.trans holds.length)
      intro k below inside
      have here := holds.copied k pcm[k] ((same k below).trans (List.getElem?_eq_getElem below))
      rw [List.getElem?_eq_getElem inside] at here
      exact (Option.some.inj here).symm
    rw [whole]
  · obtain ⟨lengths, same⟩ := pcm_eq_some.mp complete
    intro k below absent
    have inside : k < pcm.length := by
      rw [lengths, holds.length]
      exact below
    rw [same k inside, List.getElem?_eq_getElem inside] at absent
    cases absent

/-- What the state says of the chunks that were received. -/
structure Captured (s : State) (speech : Speech) : Prop where
  valid : s.heap.Valid s.audioBuffer
  current : s.heap.contents s.audioBuffer = speech.current
  speaking : s.lastSpeaking = speech.speaking
  count : s.goroutines.length = speech.utterances.length
  goroutines : ∀ (n : Nat) (g : Goroutine) utterance, s.goroutines[n]? = some g →
    speech.utterances[n]? = some utterance → Holds s.heap g utterance

/-- The utterance that a goroutine was started for. -/
theorem Captured.exists_utterance (captured : Captured s speech) {g : Goroutine}
    (has : s.goroutines[n]? = some g) :
    ∃ said, speech.utterances[n]? = some said ∧ Holds s.heap g said := by
  obtain ⟨below, -⟩ := List.getElem?_eq_some_iff.mp has
  rw [captured.count] at below
  have said := List.getElem?_eq_getElem below
  exact ⟨_, said, captured.goroutines n g _ has said⟩

theorem Captured.faithful (captured : Captured s speech) : s.Faithful speech.utterances := by
  refine ⟨captured.count, fun n g wav has passed => ?_⟩
  obtain ⟨utterance, said, holds⟩ := captured.exists_utterance has
  exact ⟨utterance, said, holds.passed wav passed⟩

theorem update_eq_some {advance : Goroutine → Option Goroutine} : s.update n advance = some t ↔
    ∃ g next, s.goroutines[n]? = some g ∧ advance g = some next ∧
      t = { s with goroutines := s.goroutines.set n next } := by
  constructor
  · intro updated
    obtain ⟨g, has, updated⟩ := Option.bind_eq_some_iff.mp updated
    obtain ⟨next, advanced, now⟩ := Option.bind_eq_some_iff.mp updated
    exact ⟨g, next, has, advanced, (Option.some.inj now).symm⟩
  · rintro ⟨g, next, has, advanced, rfl⟩
    simp [State.update, has, advanced]

theorem Captured.update {advance : Goroutine → Option Goroutine} (captured : Captured s speech)
    (keeps : ∀ g next utterance, Holds s.heap g utterance → advance g = some next →
      Holds s.heap next utterance)
    (updated : s.update n advance = some t) : Captured t speech := by
  obtain ⟨g, next, has, advanced, rfl⟩ := update_eq_some.mp updated
  refine ⟨captured.valid, captured.current, captured.speaking, ?_,
    fun m g' utterance has' said => ?_⟩
  · simpa using captured.count
  · by_cases here : n = m
    · subst here
      obtain ⟨below, -⟩ := List.getElem?_eq_some_iff.mp has
      have same : next = g' := by simpa [below] using has'
      exact same ▸ keeps g next utterance (captured.goroutines n g utterance has said) advanced
    · exact captured.goroutines m g' utterance (by simpa [here] using has') said

theorem Captured.write (captured : Captured s speech) {audio : Bytes}
    (spared : ∀ g ∈ s.goroutines, ∀ k, g.copied k = none →
      ((s.write growth audio).heap.contents g.pcmData)[k]? = (s.heap.contents g.pcmData)[k]?) :
    Captured (s.write growth audio) { speech with current := speech.current ++ audio } := by
  have valid := valid_write growth captured.valid audio
  refine ⟨valid, ?_, captured.speaking, captured.count, fun n g utterance has said => ?_⟩
  · exact (contents_write growth captured.valid audio).trans (by rw [captured.current])
  · have holds := captured.goroutines n g utterance has said
    have mem := List.mem_of_getElem? has
    refine ⟨valid_write_other growth captured.valid holds.valid audio, holds.length,
      fun k absent => ?_, holds.copied, holds.passed, holds.complete⟩
    exact (spared g mem k absent).trans (holds.pending k absent)

theorem Captured.capture (captured : Captured s speech) : Captured s.capture
    { speech with utterances := speech.utterances ++ [speech.current], current := [] } := by
  refine ⟨valid_reset captured.valid, contents_reset s.heap s.audioBuffer,
    captured.speaking, ?_, ?_⟩
  · simpa [State.capture] using captured.count
  · intro n g utterance has said
    by_cases old : n < s.goroutines.length
    · have had : s.goroutines[n]? = some g := by
        simpa [State.capture, List.getElem?_append_left old] using has
      exact captured.goroutines n g utterance had
        (by simpa [List.getElem?_append_left (captured.count ▸ old)] using said)
    · have last : n = s.goroutines.length := by
        obtain ⟨below, -⟩ := List.getElem?_eq_some_iff.mp has
        simp only [State.capture, List.length_append, List.length_singleton] at below
        omega
      subst last
      have new : { pcmData := s.audioBuffer } = g := by simpa [State.capture] using has
      have current : speech.current = utterance := by simpa [captured.count] using said
      subst new current
      refine ⟨captured.valid, ?_, fun k _ => congrArg (·[k]?) captured.current, nofun, nofun,
        fun passed => absurd rfl passed⟩
      exact (contents_length captured.valid).symm.trans (by rw [captured.current])

theorem Captured.receive (captured : Captured s speech)
    (spared : Spares growth s (.receive chunk)) :
    Captured (s.receive growth chunk) (speech.hear chunk) := by
  cases speaks : chunk.isSpeaking with
  | true =>
    have written := captured.write (spared speaks)
    have now : s.receive growth chunk =
        { s.write growth chunk.audioData with lastSpeaking := true } := by
      simp [State.receive, speaks]
    rw [now, Speech.hear, if_pos speaks]
    exact ⟨written.valid, written.current, rfl, written.count, written.goroutines⟩
  | false =>
    cases was : s.lastSpeaking with
    | true =>
      have ended := captured.capture
      have now : s.receive growth chunk = { s.capture with lastSpeaking := false } := by
        simp [State.receive, speaks, was]
      rw [now, Speech.hear, if_neg (by simp [speaks]), if_pos (captured.speaking ▸ was)]
      exact ⟨ended.valid, ended.current, rfl, ended.count, ended.goroutines⟩
    | false =>
      have now : s.receive growth chunk = { s with lastSpeaking := false } := by
        simp [State.receive, speaks, was]
      rw [now, Speech.hear, if_neg (by simp [speaks]), if_neg (by simp [← captured.speaking, was])]
      exact ⟨captured.valid, captured.current, rfl, captured.count, captured.goroutines⟩

theorem chunks_append (ls ms : List Label) : chunks (ls ++ ms) = chunks ls ++ chunks ms :=
  List.filterMap_append

theorem step_captured {past : List Label} (captured : Captured s (Speech.of (chunks past)))
    (spared : Spares growth s l) (stepped : step growth s l = some t) :
    Captured t (Speech.of (chunks (past ++ [l]))) := by
  rw [chunks_append]
  cases l with
  | receive chunk =>
    cases Option.some.inj stepped
    have heard : Speech.of (chunks past ++ [chunk]) = (Speech.of (chunks past)).hear chunk := by
      simp [Speech.of]
    exact heard ▸ captured.receive spared
  | copy n k =>
    have same : chunks past ++ chunks [.copy n k] = chunks past := List.append_nil _
    rw [same]
    exact captured.update (fun g next utterance holds copied => holds.copy copied) stepped
  | transcribe n =>
    have same : chunks past ++ chunks [.transcribe n] = chunks past := List.append_nil _
    rw [same]
    exact captured.update (fun g next utterance holds passed => holds.transcribe passed) stepped

theorem captured_initial : Captured {} {} :=
  ⟨valid_none, rfl, rfl, rfl, fun n g utterance has => by cases has⟩

theorem exec_captured (run : exec (step growth) {} ls = some s)
    (spared : Along (step growth) (Spares growth) {} ls) :
    Captured s (Speech.of (chunks ls)) :=
  exec_history_along (fun past s => Captured s
    (Speech.of (chunks past))) step_captured spared run captured_initial

/-- The goroutines have not been scheduled. -/
def State.Idle (s : State) : Prop := ∀ g ∈ s.goroutines, g = { pcmData := g.pcmData }

/-- The state had no goroutine been scheduled. -/
def State.idle (s : State) : State :=
  { s with goroutines := s.goroutines.map fun g => { pcmData := g.pcmData } }

theorem idle_receive (growth : Growth) (s : State) (chunk : Chunk) :
    (s.receive growth chunk).idle = s.idle.receive growth chunk := by
  cases speaks : chunk.isSpeaking <;> cases was : s.lastSpeaking <;>
    simp [State.receive, State.idle, State.write, State.capture, speaks, was]

theorem idle_update {advance : Goroutine → Option Goroutine}
    (keeps : ∀ g next, advance g = some next → next.pcmData = g.pcmData)
    (updated : s.update n advance = some t) :
    t.idle = s.idle := by
  obtain ⟨g, next, has, advanced, rfl⟩ := update_eq_some.mp updated
  obtain ⟨below, here⟩ := List.getElem?_eq_some_iff.mp has
  have same : (s.goroutines.set n next).map (fun g : Goroutine =>
    ({ pcmData := g.pcmData } : Goroutine)) =
      s.goroutines.map fun g => { pcmData := g.pcmData } := by
    apply List.ext_getElem?
    intro m
    by_cases this : n = m
    · subst this
      simp [below, here, keeps g next advanced]
    · simp [this]
  simp only [State.idle, same]

theorem copy_pcmData (copied : g.copy heap k = some next) : next.pcmData = g.pcmData := by
  unfold Goroutine.copy at copied
  split at copied
  · cases copied
    rfl
  · cases copied

theorem transcribe_pcmData (passed : g.transcribe = some next) : next.pcmData = g.pcmData := by
  obtain ⟨-, pass⟩ := Option.ite_none_right_eq_some.mp passed
  obtain ⟨pcm, -, rfl⟩ := Option.map_eq_some_iff.mp pass
  rfl

/-- The worst interleaving copies nothing while chunks are received. -/
theorem along_of_idle
    (idle : Along (step growth) (Spares growth) s.idle ((chunks ls).map .receive)) :
    Along (step growth) (Spares growth) s ls := by
  induction ls generalizing s with
  | nil => trivial
  | cons l ls ih =>
    cases l with
    | receive chunk =>
      obtain ⟨spared, rest⟩ := idle
      refine ⟨fun speaks g mem k _ => ?_, fun t stepped => ih ?_⟩
      · exact spared speaks { pcmData := g.pcmData } (List.mem_map_of_mem mem) k rfl
      · cases Option.some.inj stepped
        exact rest _ (congrArg some (idle_receive growth s chunk).symm)
    | copy n k =>
      refine ⟨trivial, fun t stepped => ih ?_⟩
      rw [idle_update (fun g next => copy_pcmData) stepped]
      exact idle
    | transcribe n =>
      refine ⟨trivial, fun t stepped => ih ?_⟩
      rw [idle_update (fun g next => transcribe_pcmData) stepped]
      exact idle

theorem getElem?_mono {α : Type} {xs ys : List α} {x : α} (isPrefix : xs <+: ys)
    (has : xs[n]? = some x) : ys[n]? = some x := by
  obtain ⟨rest, rfl⟩ := isPrefix
  obtain ⟨below, -⟩ := List.getElem?_eq_some_iff.mp has
  rwa [List.getElem?_append_left below]

theorem prefix_receive (growth : Growth) (s : State) (chunk : Chunk) :
    s.goroutines <+: (s.receive growth chunk).goroutines := by
  cases speaks : chunk.isSpeaking <;> cases was : s.lastSpeaking <;>
    simp [State.receive, State.write, State.capture, speaks, was]

theorem prefix_hear (speech : Speech) (chunk : Chunk) :
    speech.utterances <+: (speech.hear chunk).utterances := by
  cases speaks : chunk.isSpeaking <;> cases was : speech.speaking <;>
    simp [Speech.hear, speaks, was]

theorem prefix_hears (speech : Speech) (chunks : List Chunk) :
    speech.utterances <+: (chunks.foldl Speech.hear speech).utterances := by
  induction chunks generalizing speech with
  | nil => exact List.prefix_refl _
  | cons chunk chunks ih => exact (prefix_hear speech chunk).trans (ih _)

theorem step_idle (idle : s.Idle) : (s.receive growth chunk).Idle := by
  cases speaks : chunk.isSpeaking <;> cases was : s.lastSpeaking <;>
    simpa [State.Idle, State.receive, State.write, State.capture, speaks, was, or_imp, forall_and]
      using idle

theorem exec_receives (growth : Growth) (s : State) (cs : List Chunk) :
    ∃ t, exec (step growth) s (cs.map .receive) = some t ∧ s.goroutines <+: t.goroutines ∧
      (s.Idle → t.Idle) := by
  induction cs generalizing s with
  | nil => exact ⟨s, rfl, List.prefix_refl _, id⟩
  | cons chunk cs ih =>
    obtain ⟨t, run, kept, idle⟩ := ih (s.receive growth chunk)
    exact ⟨t, exec_cons.mpr ⟨_, rfl, run⟩, (prefix_receive growth s chunk).trans kept,
      fun start => idle (step_idle start)⟩

theorem chunks_receives (cs : List Chunk) : chunks (cs.map .receive) = cs := by
  induction cs with
  | nil => rfl
  | cons chunk cs ih => exact congrArg (chunk :: ·) ih

/-- The goroutine when it has copied the first `m` bytes. -/
def Goroutine.after (g : Goroutine) (bytes : Bytes) (m : Nat) : Goroutine :=
  { g with copied := fun k => if k < m then bytes[k]? else none }

theorem copy_after {bytes : Bytes} {m : Nat} (contents : heap.contents g.pcmData = bytes)
    (below : m < bytes.length) : (g.after bytes m).copy heap m = some (g.after bytes (m + 1)) := by
  have byte : (heap.contents (g.after bytes m).pcmData)[m]? = some bytes[m] :=
    (congrArg (·[m]?) contents).trans (List.getElem?_eq_getElem below)
  have absent : (g.after bytes m).copied m = none := if_neg (Nat.lt_irrefl m)
  have grown : Function.update (g.after bytes m).copied m (some bytes[m]) =
      (g.after bytes (m + 1)).copied := by
    funext k
    rcases Nat.lt_trichotomy k m with less | rfl | more
    · rw [Function.update_of_ne (Nat.ne_of_lt less)]
      exact (if_pos less).trans (if_pos (Nat.lt_succ_of_lt less)).symm
    · rw [Function.update_self]
      exact ((if_pos (Nat.lt_succ_self k)).trans (List.getElem?_eq_getElem below)).symm
    · rw [Function.update_of_ne (Nat.ne_of_gt more)]
      exact (if_neg (Nat.not_lt_of_gt more)).trans (if_neg (Nat.not_lt_of_le more)).symm
  rw [Goroutine.copy, byte, absent]
  exact congrArg (fun copied => some { g with copied := copied }) grown

theorem after_zero (idle : g = { pcmData := g.pcmData }) (bytes : Bytes) : g.after bytes 0 = g := by
  rw [idle]
  simp [Goroutine.after]

theorem transcribe_after {bytes : Bytes} (length : SliceBuffer.length g.pcmData = bytes.length)
    (waiting : g.transcribed = none) : (g.after bytes bytes.length).transcribe =
      some { g.after bytes bytes.length with transcribed := some (addWAVHeader bytes) } := by
  have complete : (g.after bytes bytes.length).pcm = some bytes :=
    pcm_eq_some.mpr ⟨length.symm, fun k inside => if_pos inside⟩
  have waiting : (g.after bytes bytes.length).transcribed = none := waiting
  rw [Goroutine.transcribe, if_pos waiting, complete]
  rfl

/-- A goroutine that has copied nothing copies its bytes as they are now. -/
theorem exec_copies (growth : Growth) {bytes : Bytes}
    (has : s.goroutines[n]? = some (g.after bytes 0)) (contents : s.heap.contents g.pcmData = bytes)
    {m : Nat} (below : m ≤ bytes.length) :
    ∃ t, exec (step growth) s ((List.range m).map (.copy n)) = some t ∧ t.heap = s.heap ∧
      t.goroutines[n]? = some (g.after bytes m) := by
  induction m with
  | zero => exact ⟨s, rfl, rfl, has⟩
  | succ m ih =>
    obtain ⟨t, run, heap, now⟩ := ih (by omega)
    have copied : step growth t (.copy n m) =
        some { t with goroutines := t.goroutines.set n (g.after bytes (m + 1)) } :=
      update_eq_some.mpr ⟨_, _, now, copy_after (heap ▸ contents) below, rfl⟩
    obtain ⟨inside, -⟩ := List.getElem?_eq_some_iff.mp now
    refine ⟨{ t with goroutines := t.goroutines.set n (g.after bytes (m + 1)) }, ?_, heap,
      List.getElem?_set_self inside⟩
    rw [List.range_succ, List.map_append]
    exact exec_append.mpr ⟨t, run, exec_cons.mpr ⟨_, copied, rfl⟩⟩

theorem exec_transcribes (growth : Growth) {bytes : Bytes}
    (has : s.goroutines[n]? = some (g.after bytes 0)) (valid : s.heap.Valid g.pcmData)
    (contents : s.heap.contents g.pcmData = bytes) (waiting : g.transcribed = none) :
    ∃ later t next, exec (step growth) s later = some t ∧ chunks later = [] ∧
      t.goroutines[n]? = some next ∧ next.transcribed = some (addWAVHeader bytes) := by
  obtain ⟨t, run, -, now⟩ := exec_copies growth has contents (Nat.le_refl _)
  have length : length g.pcmData = bytes.length := contents ▸ (contents_length valid).symm
  let done := { g.after bytes bytes.length with transcribed := some (addWAVHeader bytes) }
  have passed : step growth t (.transcribe n) =
      some { t with goroutines := t.goroutines.set n done } :=
    update_eq_some.mpr ⟨_, _, now, transcribe_after length waiting, rfl⟩
  obtain ⟨inside, -⟩ := List.getElem?_eq_some_iff.mp now
  refine ⟨(List.range bytes.length).map (.copy n) ++ [.transcribe n],
    { t with goroutines := t.goroutines.set n done }, done, ?_, by
      simp [chunks], List.getElem?_set_self inside, rfl⟩
  exact exec_append.mpr ⟨t, run, exec_cons.mpr ⟨_, passed, rfl⟩⟩

theorem addWAVHeader_inj {p q : Bytes} (lengths : p.length = q.length)
    (same : addWAVHeader p = addWAVHeader q) :
    p = q := by
  rw [addWAVHeader, addWAVHeader, lengths] at same
  exact List.append_cancel_left same

/-- A Write that changes a byte which is not copied is heard by `Transcribe`. -/
theorem exists_altered (captured : Captured s speech) (idle : s.Idle)
    (overwrites : ¬Spares growth s (.receive chunk)) :
    ∃ (later : List Label) (t : State) (n : Nat) (g : Goroutine) (wav utterance : Bytes),
      exec (step growth) (s.receive growth chunk) later = some t ∧ chunks later = [] ∧
      t.goroutines[n]? = some g ∧ g.transcribed = some wav ∧
        speech.utterances[n]? = some utterance ∧
      wav ≠ addWAVHeader utterance := by
  simp only [Spares, not_forall] at overwrites
  obtain ⟨speaks, g, mem, k, -, changed⟩ := overwrites
  obtain ⟨n, has⟩ := List.getElem?_of_mem mem
  obtain ⟨utterance, said, holds⟩ := captured.exists_utterance has
  have now : s.receive growth chunk =
      { s.write growth chunk.audioData with lastSpeaking := true } := by
    simp [State.receive, speaks]
  have valid : (s.receive growth chunk).heap.Valid g.pcmData := by
    rw [now]
    exact valid_write_other growth captured.valid holds.valid chunk.audioData
  let bytes := (s.receive growth chunk).heap.contents g.pcmData
  have still : (s.receive growth chunk).goroutines[n]? = some (g.after bytes 0) := by
    rw [now, after_zero (idle g mem)]
    exact has
  obtain ⟨later, t, next, run, none, has', passed⟩ :=
    exec_transcribes growth still valid rfl (congrArg (·.transcribed) (idle g mem))
  refine ⟨later, t, n, next, _, _, run, none, has', passed, said, fun same => changed ?_⟩
  have unchanged := addWAVHeader_inj ((contents_length valid).trans holds.length) same
  have pending := holds.pending k (congrFun (congrArg (·.copied) (idle g mem)) k)
  rw [pending, ← unchanged, now]

/-- In every run in which no Write changes a byte that a goroutine has still to copy, each
goroutine passes its own utterance to `Transcribe`. For all interleavings of a sequence
of chunks this is so just when the sequence alone, with no goroutine scheduled, is such a run. -/
theorem utterance_capture (growth : Growth) :
    (∀ ls s, exec (step growth) {} ls = some s → Along (step growth) (Spares growth) {} ls →
      s.Faithful (Speech.of (chunks ls)).utterances) ∧
    ∀ cs, (∀ ls s, exec (step growth) {} ls = some s → chunks ls = cs →
      s.Faithful (Speech.of cs).utterances) ↔
      Along (step growth) (Spares growth) {} (cs.map .receive) := by
  refine ⟨fun ls s run spared => (exec_captured run spared).faithful,
    fun cs => ⟨fun faithful => ?_, ?_⟩⟩
  · by_contra broken
    obtain ⟨past, l, rest, s, split, run, spared, overwrites⟩ := exists_of_not_along broken
    obtain ⟨before, others, rfl, rfl, second⟩ := List.map_eq_append_iff.mp split
    obtain ⟨chunk, after, rfl, rfl, rfl⟩ := List.map_eq_cons_iff.mp second
    have idle : s.Idle := by
      obtain ⟨t, run', -, idle⟩ := exec_receives growth {} before
      cases Option.some.inj (run.symm.trans run')
      exact idle (by simp [State.Idle])
    obtain ⟨later, t, n, g, wav, utterance, altered, none, has, passed, said, differs⟩ :=
      exists_altered (exec_captured run spared) idle overwrites
    -- The rest of the chunks can still be received, and takes nothing back.
    obtain ⟨u, rest, kept, -⟩ := exec_receives growth t after
    have whole : exec (step growth) {}
        (before.map .receive ++ .receive chunk :: (later ++ after.map .receive)) = some u :=
      exec_append.mpr ⟨s, run, exec_cons.mpr ⟨_, rfl, exec_append.mpr ⟨t, altered, rest⟩⟩⟩
    have received : chunks (before.map .receive ++
        .receive chunk :: (later ++ after.map .receive)) =
        before ++ chunk :: after := by
      rw [chunks_append, chunks_receives, ← List.singleton_append, chunks_append, chunks_append,
        none, chunks_receives]
      rfl
    obtain ⟨other, said', same⟩ :=
      (faithful _ u whole received).2 n g wav (getElem?_mono kept has) passed
    rw [chunks_receives] at said
    have longer : (Speech.of before).utterances <+:
        (Speech.of (before ++ chunk :: after)).utterances := by
      rw [Speech.of, Speech.of, List.foldl_append]
      exact prefix_hears _ _
    cases Option.some.inj (said'.symm.trans (getElem?_mono longer said))
    exact differs same
  · rintro idle ls s run rfl
    exact (exec_captured run (along_of_idle idle)).faithful

/-- An allocator that allocates what is asked for. -/
def exactGrowth : Growth := ⟨id, Nat.le_refl⟩

/-- The next utterance begins before the goroutine of the first has copied its two bytes. -/
theorem next_utterance_overwrites : ∃ s, exec (step exactGrowth) {}
    [.receive ⟨true, [1, 2]⟩, .receive ⟨false, []⟩, .receive ⟨true, [3, 4]⟩, .copy 0 0, .copy 0 1,
      .transcribe 0] =
      some s ∧ (s.goroutines[0]?.bind (·.transcribed)) = some (addWAVHeader [3, 4]) ∧
    (Speech.of [⟨true, [1, 2]⟩, ⟨false, []⟩, ⟨true, [3, 4]⟩]).utterances = [[1, 2]] ∧
      ¬s.Faithful [[1, 2]] := by
  refine ⟨_, rfl, rfl, rfl, fun faithful => ?_⟩
  obtain ⟨utterance, said, same⟩ := faithful.2 0 _ (addWAVHeader [3, 4]) rfl rfl
  cases said
  revert same
  decide

end AgentOE.UtteranceCapture
