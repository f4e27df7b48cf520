import Mathlib.Data.Fintype.Basic
import AgentOE.Ownership
import AgentOE.Transition

/-! The audio path of the bridge: `rxLoop`, `vadGrpcLoop` and `streamSendLoop` of any
number of sessions over one pool of buffers. A label is one step of one goroutine,
so a list of labels is an interleaving. -/
namespace AgentOE.Bridge
open Transition Ownership

abbrev Bytes := List UInt8

/-- The first `len` bytes of the array `buffer`. -/
structure Slice where
  buffer : Nat
  len : Nat
deriving DecidableEq

/-- A slice in a channel. `frame` is history: the message that was copied into it. -/
structure Slot where
  slice : Slice
  frame : Bytes

inductive Rx
  | idle
  | holding (buf : Slice)
  | filled (buf : Slice) (n : Nat) (frame : Bytes)
  | closed

/-- `vadGrpcLoop` after it received a frame. -/
inductive Vad
  | idle
  | processed (pcm : Slot)
  | queued (pcm : Slot)
  | refused (pcm : Slot)
  | stopped (frame : Bytes)

/-- `arrived` says which messages found room in `pcmCh`, `taken` which ones were
received while the AI was paused, `seen` what `Process` was given. -/
structure Session where
  rx : Rx := .idle
  pcmCh : List Slot := []
  vad : Vad := .idle
  arrived : List (Bytes × Bool) := []
  taken : List (Bytes × Bool) := []
  seen : List Bytes := []

/-- `sendMsg`. A digit has no audio. -/
structure Message (ι : Type) where
  session : ι
  audioData : Option Slot
  dtmfDigit : String

structure Chunk (ι : Type) where
  session : ι
  audioData : Option Bytes
  dtmfDigit : String

/-- `inHand` is the message that `streamSendLoop` received and has not sent. -/
structure Stream (ι : Type) where
  sendCh : List (Message ι) := []
  inHand : Option (Message ι) := none
  sent : List (Chunk ι) := []

structure State (ι κ : Type) where
  heap : Nat → Bytes
  next : Nat
  pool : List Slice
  session : ι → Session
  stream : κ → Stream ι

variable {ι κ : Type}

def start : State ι κ := ⟨fun _ => [], 0, [], fun _ => {}, fun _ => {}⟩

def pcmChCap : Nat := 1000

def sendChCap : Nat := 200

/-- The size that `New` allocates. -/
def bufferSize : Nat := 2048

inductive Label (ι κ : Type)
  /-- A pooled slice, or a fresh one. -/
  | get (i : ι) (pooled : Option Nat)
  | readError (i : ι)
  | readMessage (i : ι) (data : Bytes)
  | enqueue (i : ι)
  | receive (i : ι) (aiPaused : Bool)
  | send (i : ι)
  /-- The context of the stream is done. -/
  | sendError (i : ι)
  | put (i : ι)
  | sendDtmf (i : ι) (digit : String)
  | pick (k : κ)
  | transmit (k : κ)

def State.load (s : State ι κ) (slice : Slice) : Bytes := (s.heap slice.buffer).take slice.len

def State.free (s : State ι κ) (slice : Slice) : State ι κ := { s with pool := s.pool ++ [slice] }

variable [DecidableEq ι] [DecidableEq κ]

def State.store (s : State ι κ) (buffer : Nat) (bytes : Bytes) : State ι κ :=
  { s with heap := Function.update s.heap buffer bytes }

def State.moveTo (s : State ι κ) (i : ι) (x : Session) : State ι κ :=
  { s with session := Function.update s.session i x }

def State.feed (s : State ι κ) (k : κ) (x : Stream ι) : State ι κ :=
  { s with stream := Function.update s.stream k x }

def State.queue (s : State ι κ) (k : κ) (msg : Message ι) : Option (State ι κ) :=
  if (s.stream k).sendCh.length < sendChCap then
    some (s.feed k { s.stream k with sendCh := (s.stream k).sendCh ++ [msg] })
  else none

/-- Two sessions of one call may share a stream. -/
def step (streamOf : ι → κ) (s : State ι κ) : Label ι κ → Option (State ι κ)
  | .get i pooled =>
    let x := s.session i
    match x.rx, pooled with
    | .idle, none =>
      some (({ s with next := s.next + 1 }.store s.next (List.replicate bufferSize 0)).moveTo i
        { x with rx := .holding ⟨s.next, bufferSize⟩ })
    | .idle, some n => s.pool[n]?.map fun buf =>
      { s with pool := s.pool.eraseIdx n }.moveTo i { x with rx := .holding buf }
    | _, _ => none
  | .readError i =>
    let x := s.session i
    match x.rx with
    | .holding buf => some ((s.free buf).moveTo i { x with rx := .closed })
    | _ => none
  | .readMessage i data =>
    let x := s.session i
    match x.rx with
    | .holding buf =>
      let n := min buf.len data.length
      some ((s.store buf.buffer (data.take n ++ (s.heap buf.buffer).drop n)).moveTo i
        { x with rx := .filled buf n data })
    | _ => none
  | .enqueue i =>
    let x := s.session i
    match x.rx with
    | .filled buf n frame =>
      if x.pcmCh.length < pcmChCap then
        some (s.moveTo i { x with
          rx := .idle
          pcmCh := x.pcmCh ++ [⟨⟨buf.buffer, n⟩, frame⟩]
          arrived := x.arrived ++ [(frame, true)] })
      else
        some ((s.free buf).moveTo i { x with
          rx := .idle
          arrived := x.arrived ++ [(frame, false)] })
    | _ => none
  | .receive i aiPaused =>
    let x := s.session i
    match x.vad, x.pcmCh with
    | .idle, pcm :: rest =>
      -- A paused frame is skipped, and its buffer is not put back.
      if aiPaused then
        some (s.moveTo i { x with pcmCh := rest, taken := x.taken ++ [(pcm.frame, true)] })
      else
        some (s.moveTo i { x with
          pcmCh := rest
          vad := .processed pcm
          taken := x.taken ++ [(pcm.frame, false)]
          seen := x.seen ++ [s.load pcm.slice] })
    | _, _ => none
  | .send i =>
    let x := s.session i
    match x.vad with
    | .processed pcm =>
      (s.queue (streamOf i) ⟨i, some pcm, ""⟩).map fun t => t.moveTo i { x with vad := .queued pcm }
    | _ => none
  | .sendError i =>
    let x := s.session i
    match x.vad with
    | .processed pcm => some (s.moveTo i { x with vad := .refused pcm })
    | _ => none
  | .put i =>
    let x := s.session i
    match x.vad with
    | .queued pcm => some ((s.free pcm.slice).moveTo i { x with vad := .idle })
    | .refused pcm => some ((s.free pcm.slice).moveTo i { x with vad := .stopped pcm.frame })
    | _ => none
  | .sendDtmf i digit => s.queue (streamOf i) ⟨i, none, digit⟩
  | .pick k =>
    let x := s.stream k
    match x.inHand, x.sendCh with
    | none, msg :: rest => some (s.feed k { x with sendCh := rest, inHand := some msg })
    | _, _ => none
  | .transmit k =>
    let x := s.stream k
    match x.inHand with
    | some msg =>
      let chunk := ⟨msg.session, msg.audioData.map fun pcm => s.load pcm.slice, msg.dtmfDigit⟩
      some (s.feed k { x with inHand := none, sent := x.sent ++ [chunk] })
    | none => none

/-! What is to arrive where. -/

def Stream.waiting (x : Stream ι) : List (Message ι) := x.inHand.toList ++ x.sendCh

def Stream.sentBy (i : ι) (x : Stream ι) : List Bytes :=
  x.sent.filterMap fun chunk => if chunk.session = i then chunk.audioData else none

def Stream.waitingBy (i : ι) (x : Stream ι) : List Bytes :=
  x.waiting.filterMap fun msg => if msg.session = i then msg.audioData.map Slot.frame else none

/-- The messages that `pcmCh` had room for. -/
def Session.accepted (x : Session) : List Bytes := (x.arrived.filter fun one => one.2).map Prod.fst

/-- Those that were received while the AI was not paused. -/
def Session.kept (x : Session) : List Bytes := (x.taken.filter fun one => !one.2).map Prod.fst

/-- A frame that was processed and is not in the channel of the stream, or never
will be. -/
def Vad.pending : Vad → List Bytes
  | .processed pcm | .refused pcm => [pcm.frame]
  | .stopped frame => [frame]
  | .idle | .queued _ => []

/-- Every kept frame is processed and sent as it arrived, in order, on the stream of
its session. -/
structure Intact (streamOf : ι → κ) (s : State ι κ) (i : ι) : Prop where
  order : (s.session i).accepted =
    (s.session i).taken.map Prod.fst ++ (s.session i).pcmCh.map Slot.frame
  seen : (s.session i).seen = (s.session i).kept
  sent : (s.stream (streamOf i)).sentBy i ++
    ((s.stream (streamOf i)).waitingBy i ++ (s.session i).vad.pending) = (s.session i).kept
  own : ∀ k, k ≠ streamOf i → (s.stream k).sentBy i = []

/-- The message fits in the slice, and no queued message still needs the array. -/
def CopyClear (s : State ι κ) (data : Bytes) : Rx → Prop
  | .holding buf => data.length ≤ buf.len ∧
    ∀ k, ∀ msg ∈ (s.stream k).waiting, ∀ pcm ∈ msg.audioData, pcm.slice.buffer ≠ buf.buffer
  | _ => True

instance [Fintype κ] (s : State ι κ) (data : Bytes) : (rx : Rx) → Decidable (CopyClear s data rx)
  | .holding _ => inferInstanceAs (Decidable (_ ∧ _))
  | .idle | .filled _ _ _ | .closed => inferInstanceAs (Decidable True)

def Clear (s : State ι κ) : Label ι κ → Prop
  | .readMessage i data => CopyClear s data (s.session i).rx
  | _ => True

instance [Fintype κ] (s : State ι κ) : (l : Label ι κ) → Decidable (Clear s l)
  | .readMessage i data => inferInstanceAs (Decidable (CopyClear s data (s.session i).rx))
  | .get _ _ | .readError _ | .enqueue _ | .receive _ _ | .send _ | .sendError _ | .put _
  | .sendDtmf _ _ | .pick _ | .transmit _ => inferInstanceAs (Decidable True)

/-- The sizes that the allocation is made for. -/
def Label.Fits : Label ι κ → Prop
  | .readMessage _ data => data.length ≤ bufferSize
  | _ => True

instance : (l : Label ι κ) → Decidable l.Fits
  | .readMessage _ _ => inferInstanceAs (Decidable (_ ≤ _))
  | .get _ _ | .readError _ | .enqueue _ | .receive _ _ | .send _ | .sendError _ | .put _
  | .sendDtmf _ _ | .pick _ | .transmit _ => inferInstanceAs (Decidable True)

/-! Who owns which array. -/

def Rx.buffers : Rx → List Nat
  | .holding buf | .filled buf _ _ => [buf.buffer]
  | .idle | .closed => []

def Vad.buffers : Vad → List Nat
  | .processed pcm | .queued pcm | .refused pcm => [pcm.slice.buffer]
  | .idle | .stopped _ => []

def Session.held (x : Session) : List Nat :=
  x.rx.buffers ++ (x.pcmCh.map (·.slice.buffer) ++ x.vad.buffers)

def State.poolBuffers (s : State ι κ) : List Nat := s.pool.map Slice.buffer

structure Owned (s : State ι κ) : Prop where
  exclusive : Exclusive s.poolBuffers fun i => (s.session i).held
  below : ∀ i, ∀ b ∈ s.poolBuffers ++ (s.session i).held, b < s.next

section Owned
variable {s t : State ι κ} {i : ι} {x : Session}

omit [DecidableEq κ] in
/-- A step of one session, with the arrays it allocates. -/
theorem Owned.move (owned : Owned s) {fresh : List Nat} (distinct : fresh.Nodup)
    (allocated : ∀ b ∈ fresh, s.next ≤ b ∧ b < t.next) (later : s.next ≤ t.next)
    (session : t.session = Function.update s.session i x)
    (moves : (t.poolBuffers ++ x.held).Subperm (fresh ++ (s.poolBuffers ++ (s.session i).held))) :
    Owned t := by
  have unknown : ∀ b ∈ fresh, b ∉ s.poolBuffers ∧ ∀ j, b ∉ (s.session j).held := by
    intro b new
    have beyond := (allocated b new).1
    constructor
    · intro idle
      have := owned.below i b (List.mem_append_left _ idle)
      omega
    · intro j taken
      have := owned.below j b (List.mem_append_right _ taken)
      omega
  have known : ∀ b ∈ t.poolBuffers ++ x.held, b < t.next := by
    intro b mem
    rcases List.mem_append.1 (moves.subset mem) with new | old
    · exact (allocated b new).2
    · exact Nat.lt_of_lt_of_le (owned.below i b old) later
  have holders : (fun j => (t.session j).held) =
      Function.update (fun j => (s.session j).held) i x.held := by
    rw [session]
    exact Function.comp_update Session.held s.session i x
  constructor
  · rw [holders]
    exact owned.exclusive.move distinct unknown moves
  · intro j b mem
    rw [session] at mem
    by_cases same : j = i
    · subst same
      rw [Function.update_self] at mem
      exact known b mem
    · rw [Function.update_of_ne same] at mem
      rcases List.mem_append.1 mem with idle | taken
      · exact known b (List.mem_append_left _ idle)
      · exact Nat.lt_of_lt_of_le (owned.below j b (List.mem_append_right _ taken)) later

omit [DecidableEq κ] in
/-- A step of one session that allocates nothing. -/
theorem Owned.shift (owned : Owned s) (session : t.session = Function.update s.session i x)
    (next : t.next = s.next)
    (moves : (t.poolBuffers ++ x.held).Subperm (s.poolBuffers ++ (s.session i).held)) : Owned t :=
  owned.move List.nodup_nil (fun _ new => absurd new List.not_mem_nil) (Nat.le_of_eq next.symm)
    session moves

end Owned

/-! What the arrays hold. -/

/-- The slices that are still to be read. -/
def Rx.slots : Rx → List Slot
  | .filled buf n frame => [⟨⟨buf.buffer, n⟩, frame⟩]
  | .idle | .holding _ | .closed => []

def Vad.slots : Vad → List Slot
  | .processed pcm => [pcm]
  | .idle | .queued _ | .refused _ | .stopped _ => []

def Session.slots (x : Session) : List Slot := x.rx.slots ++ (x.pcmCh ++ x.vad.slots)

structure Session.Sound (load : Slice → Bytes) (x : Session) : Prop where
  loaded : ∀ slot ∈ x.slots, load slot.slice = slot.frame
  order : x.accepted = x.taken.map Prod.fst ++ x.pcmCh.map Slot.frame
  seen : x.seen = x.kept

structure Stream.Sound (streamOf : ι → κ) (load : Slice → Bytes) (next : Nat) (k : κ)
    (x : Stream ι) : Prop where
  below : ∀ msg ∈ x.waiting, ∀ pcm ∈ msg.audioData, pcm.slice.buffer < next
  loaded : ∀ msg ∈ x.waiting, ∀ pcm ∈ msg.audioData, load pcm.slice = pcm.frame
  waiting : ∀ msg ∈ x.waiting, streamOf msg.session = k
  sent : ∀ chunk ∈ x.sent, streamOf chunk.session = k

/-- What a session has sent and is about to send. -/
def Accounted (i : ι) (x : Session) (y : Stream ι) : Prop :=
  y.sentBy i ++ (y.waitingBy i ++ x.vad.pending) = x.kept

structure Inv (streamOf : ι → κ) (s : State ι κ) : Prop where
  owned : Owned s
  sessions : ∀ i, (s.session i).Sound s.load
  streams : ∀ k, (s.stream k).Sound streamOf s.load s.next k
  accounted : ∀ i, Accounted i (s.session i) (s.stream (streamOf i))

theorem slots_held {x : Session} {slot : Slot} (mem : slot ∈ x.slots) :
    slot.slice.buffer ∈ x.held := by
  obtain ⟨rx, pcmCh, vad, _, _, _⟩ := x
  rcases List.mem_append.1 mem with reading | rest
  · cases rx with
    | filled buf n frame =>
      obtain rfl := List.mem_singleton.1 reading
      exact List.mem_append_left _ (List.mem_singleton_self _)
    | idle | holding _ | closed => exact absurd reading List.not_mem_nil
  refine List.mem_append_right _ ?_
  rcases List.mem_append.1 rest with queued | processing
  · exact List.mem_append_left _ (List.mem_map_of_mem queued)
  · cases vad with
    | processed pcm =>
      obtain rfl := List.mem_singleton.1 processing
      exact List.mem_append_right _ (List.mem_singleton_self _)
    | idle | queued _ | refused _ | stopped _ => exact absurd processing List.not_mem_nil

section Sound
variable {load : Slice → Bytes} {x : Session}

theorem Session.Sound.with_rx (sound : x.Sound load) (rx : Rx)
    (loaded : ∀ slot ∈ rx.slots, load slot.slice = slot.frame) :
    Sound load { x with rx := rx } := by
  refine ⟨fun slot mem => ?_, sound.order, sound.seen⟩
  rcases List.mem_append.1 mem with reading | rest
  · exact loaded slot reading
  · exact sound.loaded slot (List.mem_append_right _ rest)

theorem Session.Sound.with_vad (sound : x.Sound load) (vad : Vad) (done : vad.slots = []) :
    Sound load { x with vad := vad } := by
  refine ⟨fun slot mem => ?_, sound.order, sound.seen⟩
  rw [slots, done, List.append_nil] at mem
  rcases List.mem_append.1 mem with reading | queued
  · exact sound.loaded slot (List.mem_append_left _ reading)
  · exact sound.loaded slot (List.mem_append_right _ (List.mem_append_left _ queued))

end Sound

section Inv
variable {streamOf : ι → κ} {s : State ι κ}

omit [DecidableEq κ] in
/-- A session moves on, and the arrays keep their contents. -/
theorem Inv.move (inv : Inv streamOf s) (i : ι) (pool : List Slice) (fresh : List Nat)
    (added : List Bytes) {x : Session} {next : Nat} (distinct : fresh.Nodup)
    (allocated : ∀ b ∈ fresh, s.next ≤ b ∧ b < next) (later : s.next ≤ next)
    (moves : (pool.map Slice.buffer ++ x.held).Subperm
      (fresh ++ (s.poolBuffers ++ (s.session i).held)))
    (sound : x.Sound s.load) (kept : x.kept = (s.session i).kept ++ added)
    (pending : x.vad.pending = (s.session i).vad.pending ++ added) :
    Inv streamOf ({ s with pool := pool, next := next }.moveTo i x) := by
  constructor
  · let t : State ι κ := { s with pool := pool, next := next }.moveTo i x
    have session : t.session = Function.update s.session i x := rfl
    exact inv.owned.move (t := t) distinct allocated later session moves
  · intro j
    change (Function.update s.session i x j).Sound s.load
    by_cases same : j = i
    · subst same
      rwa [Function.update_self]
    · rw [Function.update_of_ne same]
      exact inv.sessions j
  · intro k
    have old := inv.streams k
    exact ⟨fun msg mem pcm audio => Nat.lt_of_lt_of_le (old.below msg mem pcm audio) later,
      old.loaded, old.waiting, old.sent⟩
  · intro j
    change Accounted j (Function.update s.session i x j) (s.stream (streamOf j))
    by_cases same : j = i
    · subst same
      have old := inv.accounted j
      unfold Accounted at old
      rw [Function.update_self, Accounted, kept, pending, ← old]
      simp only [List.append_assoc]
    · rw [Function.update_of_ne same]
      exact inv.accounted j

omit [DecidableEq ι] [DecidableEq κ] in
theorem load_store (b : Nat) (bytes : Bytes) {slice : Slice} (other : slice.buffer ≠ b) :
    (s.store b bytes).load slice = s.load slice := by
  simp only [State.load, State.store, Function.update_of_ne other]

omit [DecidableEq κ] in
/-- An array is overwritten that nobody is going to read. -/
theorem Inv.store (inv : Inv streamOf s) {b : Nat} (bytes : Bytes)
    (unread : ∀ i, ∀ slot ∈ (s.session i).slots, slot.slice.buffer ≠ b)
    (unqueued : ∀ k, ∀ msg ∈ (s.stream k).waiting, ∀ pcm ∈ msg.audioData, pcm.slice.buffer ≠ b) :
    Inv streamOf (s.store b bytes) := by
  refine ⟨⟨inv.owned.exclusive, inv.owned.below⟩, fun i => ?_, fun k => ?_, inv.accounted⟩
  · have old := inv.sessions i
    refine ⟨fun slot mem => ?_, old.order, old.seen⟩
    rw [load_store b bytes (unread i slot mem)]
    exact old.loaded slot mem
  · have old := inv.streams k
    refine ⟨old.below, fun msg mem pcm audio => ?_, old.waiting, old.sent⟩
    rw [load_store b bytes (unqueued k msg mem pcm audio)]
    exact old.loaded msg mem pcm audio

/-- A stream moves on. -/
theorem Inv.feed (inv : Inv streamOf s) {k : κ} {y : Stream ι}
    (sound : y.Sound streamOf s.load s.next k)
    (same : ∀ i, streamOf i = k → y.sentBy i ++ y.waitingBy i =
      (s.stream k).sentBy i ++ (s.stream k).waitingBy i) : Inv streamOf (s.feed k y) := by
  refine ⟨⟨inv.owned.exclusive, inv.owned.below⟩, inv.sessions, fun j => ?_, fun i => ?_⟩
  · change (Function.update s.stream k y j).Sound streamOf s.load s.next j
    by_cases own : j = k
    · subst own
      rwa [Function.update_self]
    · rw [Function.update_of_ne own]
      exact inv.streams j
  · change Accounted i (s.session i) (Function.update s.stream k y (streamOf i))
    have old := inv.accounted i
    by_cases own : streamOf i = k
    · subst own
      rw [Function.update_self, Accounted, ← List.append_assoc, same i rfl, List.append_assoc]
      exact old
    · rw [Function.update_of_ne own]
      exact old

omit [DecidableEq κ] in
/-- A session moves on without a new array, and without receiving a frame. -/
theorem Inv.shift (inv : Inv streamOf s) (i : ι) (pool : List Slice) {x : Session}
    (moves : (pool.map Slice.buffer ++ x.held).Subperm (s.poolBuffers ++ (s.session i).held))
    (sound : x.Sound s.load) (kept : x.kept = (s.session i).kept)
    (pending : x.vad.pending = (s.session i).vad.pending) :
    Inv streamOf ({ s with pool := pool }.moveTo i x) :=
  inv.move i pool [] [] List.nodup_nil (fun _ new => absurd new List.not_mem_nil) (Nat.le_refl _)
    moves sound (by rw [kept, List.append_nil]) (by rw [pending, List.append_nil])

variable {t : State ι κ} {i : ι}

theorem get_inv {pooled : Option Nat} (inv : Inv streamOf s)
    (taken : step streamOf s (.get i pooled) = some t) : Inv streamOf t := by
  simp only [step] at taken
  split at taken
  next idle =>
    obtain rfl := Option.some.inj taken
    have unread : ∀ j, ∀ slot ∈ (s.session j).slots, slot.slice.buffer ≠ s.next := by
      intro j slot mem
      have known := inv.owned.below j _ (List.mem_append_right _ (slots_held mem))
      omega
    have unqueued : ∀ k, ∀ msg ∈ (s.stream k).waiting, ∀ pcm ∈ msg.audioData,
        pcm.slice.buffer ≠ s.next := by
      intro k msg mem pcm audio
      have known := (inv.streams k).below msg mem pcm audio
      omega
    have stored := inv.store (List.replicate bufferSize 0) unread unqueued
    refine stored.move i s.pool [s.next] []
      (List.nodup_singleton _) (fun b new => ?_) (Nat.le_succ _) ?_ ?_
      (List.append_nil _).symm (List.append_nil _).symm
    · obtain rfl := List.mem_singleton.1 new
      exact ⟨Nat.le_refl _, Nat.lt_succ_self _⟩
    · change (s.poolBuffers ++
        Session.held { s.session i with rx := .holding ⟨s.next, bufferSize⟩ }).Subperm
        ([s.next] ++ (s.poolBuffers ++ (s.session i).held))
      simp only [Session.held, idle, Rx.buffers, List.nil_append]
      exact List.perm_middle.subperm
    · exact (stored.sessions i).with_rx _ (fun _ none => absurd none List.not_mem_nil)
  next n idle =>
    obtain ⟨buf, found, rfl⟩ := Option.map_eq_some_iff.1 taken
    refine inv.shift i (s.pool.eraseIdx n) ?_
      ((inv.sessions i).with_rx _ (fun _ none => absurd none List.not_mem_nil)) rfl rfl
    obtain ⟨bound, rfl⟩ := List.getElem?_eq_some_iff.1 found
    have split := (List.getElem_cons_eraseIdx_perm bound).map Slice.buffer
    simp only [Session.held, idle, Rx.buffers, List.nil_append]
    exact (List.perm_middle.trans (split.append_right _)).subperm
  next => cases taken

theorem readError_inv (inv : Inv streamOf s) (taken : step streamOf s (.readError i) = some t) :
    Inv streamOf t := by
  simp only [step] at taken
  split at taken
  next buf holding =>
    obtain rfl := Option.some.inj taken
    refine inv.shift i (s.pool ++ [buf]) ?_
      ((inv.sessions i).with_rx _ (fun _ none => absurd none List.not_mem_nil)) rfl rfl
    simp only [Session.held, holding, Rx.buffers, List.nil_append, List.map_append,
      List.append_assoc]
    exact List.Subperm.refl _
  next => cases taken

omit [DecidableEq κ] in
/-- The array that a session writes is read nowhere else. -/
theorem holding_unread (inv : Inv streamOf s) {buf : Slice}
    (holding : (s.session i).rx = .holding buf) (j : ι) {slot : Slot}
    (mem : slot ∈ (s.session j).slots) : slot.slice.buffer ≠ buf.buffer := by
  intro same
  have own : buf.buffer ∈ (s.session i).held := by
    rw [Session.held, holding]
    exact List.mem_append_left _ (List.mem_singleton_self _)
  have theirs := slots_held mem
  rw [same] at theirs
  by_cases other : j = i
  · subst other
    have once := (inv.owned.exclusive.nodup j).of_append_right
    rw [Session.held, holding] at once
    rw [Session.slots, holding] at mem
    have again : buf.buffer ∈ (s.session j).pcmCh.map (·.slice.buffer) ++
        (s.session j).vad.buffers := by
      have rest := slots_held (x := { s.session j with rx := .idle }) mem
      rwa [same] at rest
    exact (List.nodup_cons.1 once).1 again
  · exact inv.owned.exclusive.disjoint j i other theirs own

theorem readMessage_inv {data : Bytes} (inv : Inv streamOf s)
    (clear : Clear s (.readMessage i data))
    (taken : step streamOf s (.readMessage i data) = some t) : Inv streamOf t := by
  simp only [step] at taken
  split at taken
  next buf holding =>
    obtain rfl := Option.some.inj taken
    simp only [Clear, CopyClear, holding] at clear
    have fits : min buf.len data.length = data.length := Nat.min_eq_right clear.1
    rw [fits, List.take_length]
    have stored := inv.store (data ++ (s.heap buf.buffer).drop data.length)
      (fun j _ mem => holding_unread inv holding j mem) clear.2
    refine stored.shift i s.pool ?_
      ((stored.sessions i).with_rx _ (fun slot written => ?_)) rfl rfl
    · change (s.poolBuffers ++
        Session.held { s.session i with rx := .filled buf data.length data }).Subperm
        (s.poolBuffers ++ (s.session i).held)
      simp only [Session.held, holding, Rx.buffers]
      exact List.Subperm.refl _
    · obtain rfl := List.mem_singleton.1 written
      simp only [State.load, State.store, Function.update_self, List.take_left]
  next => cases taken

theorem enqueue_inv (inv : Inv streamOf s) (taken : step streamOf s (.enqueue i) = some t) :
    Inv streamOf t := by
  have old := inv.sessions i
  simp only [step] at taken
  split at taken
  next buf n frame filled =>
    split at taken
    · obtain rfl := Option.some.inj taken
      refine inv.shift i s.pool ?_ ⟨fun slot mem => ?_, ?_, old.seen⟩ rfl rfl
      · simp only [Session.held, filled, Rx.buffers, List.nil_append, List.map_append,
          List.append_assoc]
        exact (List.perm_middle.append_left _).subperm
      · refine old.loaded slot ?_
        simp only [Session.slots, filled, Rx.slots, List.nil_append, List.mem_append] at mem ⊢
        tauto
      · have order := old.order
        simp only [Session.accepted] at order
        simp [Session.accepted, order]
    · obtain rfl := Option.some.inj taken
      refine inv.shift i (s.pool ++ [buf]) ?_ ⟨fun slot mem => ?_, ?_, old.seen⟩ rfl rfl
      · simp only [Session.held, filled, Rx.buffers, List.nil_append, List.map_append,
          List.append_assoc]
        exact List.Subperm.refl _
      · exact old.loaded slot (List.mem_append_right _ mem)
      · have order := old.order
        simp only [Session.accepted] at order
        simp [Session.accepted, order]
  next => cases taken

theorem receive_inv {aiPaused : Bool} (inv : Inv streamOf s)
    (taken : step streamOf s (.receive i aiPaused) = some t) : Inv streamOf t := by
  have old := inv.sessions i
  simp only [step] at taken
  split at taken
  next pcm rest idle queued =>
    have order := old.order
    rw [queued] at order
    have fresh : s.load pcm.slice = pcm.frame := by
      refine old.loaded pcm (List.mem_append_right _ (List.mem_append_left _ ?_))
      rw [queued]
      exact List.mem_cons_self
    split at taken
    · obtain rfl := Option.some.inj taken
      refine inv.shift i s.pool ?_ ⟨fun slot mem => ?_, ?_, ?_⟩ ?_ rfl
      · simp only [Session.held, queued, idle]
        refine List.Sublist.subperm ?_
        exact ((List.sublist_cons_self _ _).append_right _).append_left _ |>.append_left _
      · refine old.loaded slot ?_
        simp only [Session.slots, queued, List.mem_append, List.mem_cons] at mem ⊢
        tauto
      · change (s.session i).accepted = _
        simp [order]
      · change (s.session i).seen = _
        simp [old.seen, Session.kept]
      · simp [Session.kept]
    · obtain rfl := Option.some.inj taken
      refine inv.move i s.pool [] [pcm.frame] List.nodup_nil
        (fun _ new => absurd new List.not_mem_nil) (Nat.le_refl _) ?_
          ⟨fun slot mem => ?_, ?_, ?_⟩ ?_ ?_
      · simp only [Session.held, queued, idle, Vad.buffers, List.nil_append, List.append_nil]
        refine ((List.Perm.append_left _ ?_).append_left _).subperm
        exact List.perm_append_comm
      · refine old.loaded slot ?_
        simp only [Session.slots, queued, idle, Vad.slots, List.mem_append, List.mem_cons] at mem ⊢
        tauto
      · change (s.session i).accepted = _
        simp [order]
      · simp [old.seen, Session.kept, fresh]
      · simp [Session.kept]
      · simp [idle, Vad.pending]
  next => cases taken

theorem sendError_inv (inv : Inv streamOf s) (taken : step streamOf s (.sendError i) = some t) :
    Inv streamOf t := by
  simp only [step] at taken
  split at taken
  next pcm processed =>
    obtain rfl := Option.some.inj taken
    refine inv.shift i s.pool ?_ ((inv.sessions i).with_vad _ rfl) rfl ?_
    · simp only [Session.held, processed, Vad.buffers]
      exact List.Subperm.refl _
    · rw [processed]
      rfl
  next => cases taken

/-- The array goes back to the pool, though its slice may be short and queued. -/
theorem put_inv (inv : Inv streamOf s) (taken : step streamOf s (.put i) = some t) :
    Inv streamOf t := by
  have returned : ∀ (slice : Slice) (reading queued : List Nat),
      ((s.pool ++ [slice]).map Slice.buffer ++ (reading ++ (queued ++ []))).Subperm
        (s.poolBuffers ++ (reading ++ (queued ++ [slice.buffer]))) := by
    intro slice reading queued
    simp only [List.map_append, List.map_cons, List.map_nil, List.append_nil, List.append_assoc]
    refine (List.Perm.append_left _ ?_).subperm
    rw [← List.append_assoc reading]
    exact List.perm_append_comm
  simp only [step] at taken
  split at taken
  next pcm queued =>
    obtain rfl := Option.some.inj taken
    refine inv.shift i (s.pool ++ [pcm.slice]) ?_ ((inv.sessions i).with_vad _ rfl) rfl ?_
    · simp only [Session.held, queued, Vad.buffers]
      exact returned pcm.slice _ _
    · rw [queued]
      rfl
  next pcm refused =>
    obtain rfl := Option.some.inj taken
    refine inv.shift i (s.pool ++ [pcm.slice]) ?_ ((inv.sessions i).with_vad _ rfl) rfl ?_
    · simp only [Session.held, refused, Vad.buffers]
      exact returned pcm.slice _ _
    · rw [refused]
      rfl
  next => cases taken

/-! The stream. -/

omit [DecidableEq ι] [DecidableEq κ] in
theorem Stream.Sound.queue {load : Slice → Bytes} {next : Nat} {k : κ} {y : Stream ι}
    (sound : y.Sound streamOf load next k) (msg : Message ι) (routed : streamOf msg.session = k)
    (audio : ∀ pcm ∈ msg.audioData, pcm.slice.buffer < next ∧ load pcm.slice = pcm.frame) :
    Stream.Sound streamOf load next k { y with sendCh := y.sendCh ++ [msg] } := by
  have more : ∀ {P : Message ι → Prop}, (∀ m ∈ y.waiting, P m) → P msg →
      ∀ m ∈ Stream.waiting { y with sendCh := y.sendCh ++ [msg] }, P m := by
    intro P before new m mem
    rw [Stream.waiting, ← List.append_assoc] at mem
    rcases List.mem_append.1 mem with old | last
    · exact before m old
    · obtain rfl := List.mem_singleton.1 last
      exact new
  exact ⟨more sound.below fun pcm mem => (audio pcm mem).1,
    more sound.loaded fun pcm mem => (audio pcm mem).2, more sound.waiting routed, sound.sent⟩

omit [DecidableEq κ] in
theorem waitingBy_queue (j : ι) (y : Stream ι) (msg : Message ι) :
    Stream.waitingBy j { y with sendCh := y.sendCh ++ [msg] } = y.waitingBy j ++
      (if msg.session = j then msg.audioData.map Slot.frame else none).toList := by
  rw [Stream.waitingBy, Stream.waiting, ← List.append_assoc, List.filterMap_append]
  congr 1

omit [DecidableEq ι] in
theorem queue_spec {k : κ} {msg : Message ι} (taken : s.queue k msg = some t) :
    t = s.feed k { s.stream k with sendCh := (s.stream k).sendCh ++ [msg] } := by
  rw [State.queue] at taken
  split at taken
  · exact (Option.some.inj taken).symm
  · cases taken

theorem sendDtmf_inv {digit : String} (inv : Inv streamOf s)
    (taken : step streamOf s (.sendDtmf i digit) = some t) : Inv streamOf t := by
  obtain rfl := queue_spec taken
  refine inv.feed ((inv.streams _).queue _ rfl fun pcm none => nomatch none) fun j _ => ?_
  rw [waitingBy_queue]
  simp [Stream.sentBy]

theorem send_inv (inv : Inv streamOf s) (taken : step streamOf s (.send i) = some t) :
    Inv streamOf t := by
  have old := inv.sessions i
  simp only [step] at taken
  split at taken
  next pcm processed =>
    obtain ⟨u, queued, rfl⟩ := Option.map_eq_some_iff.1 taken
    obtain rfl := queue_spec queued
    have slot : pcm ∈ (s.session i).slots := by
      refine List.mem_append_right _ (List.mem_append_right _ ?_)
      rw [processed]
      exact List.mem_singleton_self _
    have below := inv.owned.below i _ (List.mem_append_right _ (slots_held slot))
    have sound := (inv.streams (streamOf i)).queue ⟨i, some pcm, ""⟩ rfl (by
      rintro _ ⟨⟩
      exact ⟨below, old.loaded pcm slot⟩)
    refine ⟨?_, fun j => ?_, fun k => ?_, fun j => ?_⟩
    · refine inv.owned.shift (i := i) (x := { s.session i with vad := .queued pcm }) rfl rfl ?_
      simp only [Session.held, processed, Vad.buffers]
      exact List.Subperm.refl _
    · change (Function.update s.session i _ j).Sound s.load
      by_cases same : j = i
      · subst same
        rw [Function.update_self]
        exact old.with_vad _ rfl
      · rw [Function.update_of_ne same]
        exact inv.sessions j
    · change (Function.update s.stream (streamOf i) _ k).Sound streamOf s.load s.next k
      by_cases same : k = streamOf i
      · subst same
        rwa [Function.update_self]
      · rw [Function.update_of_ne same]
        exact inv.streams k
    · change Accounted j (Function.update s.session i _ j)
        (Function.update s.stream (streamOf i) _ (streamOf j))
      have account := inv.accounted j
      unfold Accounted at account ⊢
      by_cases same : j = i
      · subst same
        rw [processed] at account
        rw [Function.update_self, Function.update_self, waitingBy_queue, if_pos rfl]
        simp only [Vad.pending, List.append_nil]
        exact account
      · rw [Function.update_of_ne same]
        by_cases shared : streamOf j = streamOf i
        · rw [shared, Function.update_self, waitingBy_queue, if_neg (Ne.symm same), ← shared]
          rw [Option.toList_none, List.append_nil]
          exact account
        · rw [Function.update_of_ne shared]
          exact account
  next => cases taken

theorem pick_inv {k : κ} (inv : Inv streamOf s) (taken : step streamOf s (.pick k) = some t) :
    Inv streamOf t := by
  have old := inv.streams k
  simp only [step] at taken
  split at taken
  next msg rest free waiting =>
    obtain rfl := Option.some.inj taken
    have same : (s.stream k).waiting = msg :: rest := by
      rw [Stream.waiting, free, waiting]
      rfl
    obtain ⟨below, loaded, routed, sent⟩ := old
    rw [same] at below loaded routed
    refine inv.feed ⟨below, loaded, routed, sent⟩ fun j _ => ?_
    rw [Stream.waitingBy, Stream.waitingBy, same]
    rfl
  next => cases taken

theorem transmit_inv {k : κ} (inv : Inv streamOf s)
    (taken : step streamOf s (.transmit k) = some t) :
    Inv streamOf t := by
  have old := inv.streams k
  simp only [step] at taken
  split at taken
  next msg ready =>
    obtain rfl := Option.some.inj taken
    have same : (s.stream k).waiting = msg :: (s.stream k).sendCh := by
      rw [Stream.waiting, ready]
      rfl
    obtain ⟨below, loaded, routed, sent⟩ := old
    rw [same, List.forall_mem_cons] at below loaded routed
    refine inv.feed ⟨below.2, loaded.2, routed.2, ?_⟩ fun j _ => ?_
    · intro chunk mem
      rcases List.mem_append.1 mem with before | last
      · exact sent chunk before
      · obtain rfl := List.mem_singleton.1 last
        exact routed.1
    · have read : msg.audioData.map (fun pcm => s.load pcm.slice) =
          msg.audioData.map Slot.frame := by
        cases audio : msg.audioData with
        | none => rfl
        | some pcm => exact congrArg some (loaded.1 pcm audio)
      rw [Stream.waitingBy, Stream.waitingBy, same, Stream.sentBy, List.filterMap_append, read,
        List.append_assoc, List.filterMap_cons]
      by_cases own : msg.session = j
      · simp only [List.filterMap_cons, if_pos own, List.filterMap_nil]
        cases msg.audioData.map Slot.frame <;> rfl
      · simp only [List.filterMap_cons, if_neg own, List.filterMap_nil]
        rfl
  next => cases taken

theorem step_inv {l : Label ι κ} (inv : Inv streamOf s) (clear : Clear s l)
    (taken : step streamOf s l = some t) : Inv streamOf t := by
  cases l with
  | get i pooled => exact get_inv inv taken
  | readError i => exact readError_inv inv taken
  | readMessage i data => exact readMessage_inv inv clear taken
  | enqueue i => exact enqueue_inv inv taken
  | receive i aiPaused => exact receive_inv inv taken
  | send i => exact send_inv inv taken
  | sendError i => exact sendError_inv inv taken
  | put i => exact put_inv inv taken
  | sendDtmf i digit => exact sendDtmf_inv inv taken
  | pick k => exact pick_inv inv taken
  | transmit k => exact transmit_inv inv taken

omit [DecidableEq κ] in
theorem start_inv : Inv streamOf (start : State ι κ) := by
  have none : ∀ {α : Type} {P : α → Prop}, ∀ one ∈ ([] : List α), P one :=
    fun _ mem => absurd mem List.not_mem_nil
  refine ⟨⟨⟨fun _ => List.nodup_nil, fun _ _ _ _ mem => absurd mem List.not_mem_nil⟩,
    fun _ => none⟩, fun _ => ⟨none, rfl, rfl⟩, fun _ => ⟨none, none, none, none⟩, fun _ => rfl⟩

omit [DecidableEq κ] in
theorem Inv.intact (inv : Inv streamOf s) (i : ι) : Intact streamOf s i := by
  refine ⟨(inv.sessions i).order, (inv.sessions i).seen, inv.accounted i, fun k other => ?_⟩
  refine List.filterMap_eq_nil_iff.2 fun chunk mem => if_neg fun own => other ?_
  rw [← own]
  exact ((inv.streams k).sent chunk mem).symm

end Inv

/-- In every interleaving in which no message is copied into a slice that is too short
or into an array that a queued message still refers to, the frames of every session
stay as they arrived. -/
theorem frames_intact (streamOf : ι → κ) {labels : List (Label ι κ)} {s : State ι κ}
    (run : exec (step streamOf) start labels = some s)
    (clear : Along (step streamOf) Clear start labels) (i : ι) : Intact streamOf s i :=
  (exec_invariant step_inv clear run start_inv).intact i

/-- A frame on its way from the websocket to `sendCh`, its array put back. -/
def forward (i : Fin 2) (pooled : Option Nat) (data : Bytes) : List (Label (Fin 2) (Fin 2)) :=
  [.get i pooled, .readMessage i data, .enqueue i, .receive i false, .send i, .put i]

def deliver (k : Fin 2) : List (Label (Fin 2) (Fin 2)) := [.pick k, .transmit k]

theorem equal_frames_intact :
    ∃ s, exec (step id) start
        (forward 0 none [1, 2] ++ deliver 0 ++ forward 1 (some 0) [3, 4] ++ deliver 1) = some s ∧
      Along (step id) Clear (start : State (Fin 2) (Fin 2))
        (forward 0 none [1, 2] ++ deliver 0 ++ forward 1 (some 0) [3, 4] ++ deliver 1) ∧
      (s.session 1).kept = [[3, 4]] ∧ Intact id s 1 := by
  have kept : (exec (step id) (start : State (Fin 2) (Fin 2))
      (forward 0 none [1, 2] ++ deliver 0 ++ forward 1 (some 0) [3, 4] ++ deliver 1)).map
      (fun s => (s.session 1).kept) = some [[3, 4]] := by decide +kernel
  obtain ⟨s, run, same⟩ := Option.map_eq_some_iff.1 kept
  have clear : Along (step id) Clear (start : State (Fin 2) (Fin 2))
      (forward 0 none [1, 2] ++ deliver 0 ++ forward 1 (some 0) [3, 4] ++ deliver 1) := by
        decide +kernel
  exact ⟨s, run, clear, same, frames_intact id run clear 1⟩

/-- A long frame after a short one is cut to its length. A slice that is put back
while its message is queued carries the next frame, of another call. -/
theorem frames_corrupted :
    (∃ labels, (∀ l ∈ labels, l.Fits) ∧ ∃ s, exec (step id) (start : State (Fin 2) (Fin 2)) labels =
      some s ∧ (s.session 0).kept = [[1, 2], [5, 6, 7, 8]] ∧ (s.session 0).seen = [[1, 2], [5, 6]] ∧
      ¬Intact id s 0) ∧
    ∃ labels, (∀ l ∈ labels, l.Fits) ∧ ∃ s, exec (step id) (start : State (Fin 2) (Fin 2)) labels =
      some s ∧
      (s.session 0).kept = [[1, 2]] ∧ (s.stream 0).sentBy 0 = [[3, 4]] ∧ ¬Intact id s 0 := by
  constructor
  · refine ⟨forward 0 none [1, 2] ++ deliver 0 ++ forward 0 (some 0) [5, 6, 7, 8],
      by decide +kernel, ?_⟩
    have logs : (exec (step id) (start : State (Fin 2) (Fin 2))
        (forward 0 none [1, 2] ++ deliver 0 ++ forward 0 (some 0) [5, 6, 7, 8])).map
        (fun s => ((s.session 0).kept, (s.session 0).seen)) =
        some ([[1, 2], [5, 6, 7, 8]], [[1, 2], [5, 6]]) := by decide +kernel
    obtain ⟨s, run, same⟩ := Option.map_eq_some_iff.1 logs
    obtain ⟨kept, seen⟩ := Prod.mk.injEq _ _ _ _ |>.mp same
    refine ⟨s, run, kept, seen, fun intact => ?_⟩
    have equal := intact.seen
    rw [kept, seen] at equal
    exact absurd equal (by decide)
  · refine ⟨forward 0 none [1, 2] ++ forward 1 (some 0) [3, 4] ++ deliver 0, by decide +kernel, ?_⟩
    have logs : (exec (step id) (start : State (Fin 2) (Fin 2))
        (forward 0 none [1, 2] ++ forward 1 (some 0) [3, 4] ++ deliver 0)).map
        (fun s => ((s.session 0).kept, (s.stream 0).sentBy 0)) =
        some ([[1, 2]], [[3, 4]]) := by decide +kernel
    obtain ⟨s, run, same⟩ := Option.map_eq_some_iff.1 logs
    obtain ⟨kept, sent⟩ := Prod.mk.injEq _ _ _ _ |>.mp same
    refine ⟨s, run, kept, sent, fun intact => ?_⟩
    have equal := intact.sent
    rw [kept, id, sent] at equal
    exact absurd (List.cons.inj equal).1 (by decide)

end AgentOE.Bridge
