import AgentOE.Delivery
import AgentOE.Transition

/-! `BoundedWSSender`: a queue between the calls of `enqueue` and the loop that sends. A label
is a call or what the loop does between two awaits, so a list of labels is an interleaving. -/
namespace AgentOE.Session.WsSender
open Transition Delivery

/-- `sendText` says whether the WebSocket has a `send_text`. -/
structure Config where
  maxQueueSize : Nat := 64
  sendText : Bool := true

def audioEventNames : List String := ["tts_ready"]

/-- `number` is history: which call of `enqueue` brought the event. -/
structure QueuedEvent where
  number : Nat
  name : String
  payload : String
  deriving DecidableEq

def QueuedEvent.isAudio (event : QueuedEvent) : Bool := event.name ∈ audioEventNames

/-- The kinds of `record_ws_drop`. -/
inductive Drop where
  | audio
  | full
  | event
  deriving DecidableEq

/-- What is told to the metrics of the tenant. -/
inductive Metric where
  | depth (size : Nat)
  | drop (kind : Drop)
  deriving DecidableEq

/-- Where `_drain_loop` is. At `ready` it is about to look at the queue. -/
inductive Task where
  | absent
  | created
  | ready
  | waiting
  | sending
  | finished
  deriving DecidableEq

/-- `wakeup` says whether the future is done. -/
structure Sender where
  queue : List QueuedEvent := []
  closed : Bool := false
  wakeup : Option Bool := none
  task : Task := .absent
  metrics : List Metric := []
  deriving DecidableEq

namespace Sender

def notify (s : Sender) : Sender := { s with wakeup := s.wakeup.map fun _ => true }

def record (s : Sender) (metric : Metric) : Sender := { s with metrics := s.metrics ++ [metric] }

/-- The end of every accepted `enqueue`. -/
def push (s : Sender) (event : QueuedEvent) : Sender :=
  let s := { s with queue := s.queue ++ [event] }.notify
  s.record (.depth s.queue.length)

def enqueue (cfg : Config) (s : Sender) (event : QueuedEvent) : Bool × Sender :=
  if s.closed then (false, s)
  else if s.queue.length < cfg.maxQueueSize then (true, s.push event)
  else if event.isAudio then
    match s.queue.find? QueuedEvent.isAudio with
    | some _ =>
      (true,
        ({ s with queue := s.queue.eraseP QueuedEvent.isAudio }.record (.drop .audio)).push event)
    | none => (false, s.record (.drop .full))
  else (false, s.record (.drop .event))

end Sender

/-- `enqueues`, `accepted`, `victims` and `sent` are history. An event is in `sent` from the
call of `send_text` on. -/
structure State where
  sender : Sender := {}
  enqueues : Nat := 0
  accepted : List QueuedEvent := []
  victims : List QueuedEvent := []
  sent : List QueuedEvent := []
  deriving DecidableEq

def State.queue (s : State) : List QueuedEvent := s.sender.queue

/-- The queued event that has to make room. -/
def State.displaced (cfg : Config) (s : State) : Option QueuedEvent :=
  if s.queue.length < cfg.maxQueueSize then none else s.queue.find? QueuedEvent.isAudio

def State.enqueue (cfg : Config) (s : State) (event : QueuedEvent) : State :=
  match s.sender.enqueue cfg event with
  | (true, sender) =>
    { s with
      sender := sender
      enqueues := s.enqueues + 1
      accepted := s.accepted ++ [event]
      victims := s.victims ++ (s.displaced cfg).toList }
  | (false, sender) => { s with sender := sender, enqueues := s.enqueues + 1 }

inductive Label where
  | start
  /-- The task of the loop runs for the first time. -/
  | begin
  | enqueue (name payload : String)
  | iterate
  | wake
  | timeout
  | sendOk
  | sendError
  /-- `close`, up to its first await. -/
  | close
  /-- The wait of `close` for the task ends with the task cancelled. -/
  | cancel
  /-- The end of `close`. -/
  | closed
  deriving DecidableEq

def State.iterate (s : State) : State :=
  match s.sender.queue with
  | [] =>
    if s.sender.closed then { s with sender := { s.sender with task := .finished } }
    else { s with sender := { s.sender with wakeup := some false, task := .waiting } }
  | event :: rest =>
    { s with
      sender := { s.sender with queue := rest, task := .sending }.record (.depth rest.length)
      sent := s.sent ++ [event] }

def step (cfg : Config) (s : State) : Label → Option State
  | .start =>
    if s.sender.task = .absent then some { s with sender := { s.sender with task := .created } }
    else some s
  | .begin =>
    if s.sender.task = .created then
      some { s with sender := { s.sender with task := if cfg.sendText then .ready else .finished } }
    else none
  | .enqueue name payload => some (s.enqueue cfg ⟨s.enqueues, name, payload⟩)
  | .iterate => if s.sender.task = .ready then some s.iterate else none
  | .wake =>
    if s.sender.task = .waiting ∧ s.sender.wakeup = some true then
      some { s with sender := { s.sender with wakeup := none, task := .ready } }
    else none
  | .timeout =>
    if s.sender.task = .waiting then
      some { s with sender := { s.sender with wakeup := none, task := .ready } }
    else none
  | .sendOk =>
    if s.sender.task = .sending then some { s with sender := { s.sender with task := .ready } }
    else none
  | .sendError =>
    if s.sender.task = .sending then
      some { s with sender := { s.sender with task := .finished, closed := true } }
    else none
  | .close => some { s with sender := { s.sender with closed := true }.notify }
  | .cancel =>
    if s.sender.closed ∧ s.sender.task ≠ .absent then
      some { s with sender := { s.sender with task := .finished, wakeup := none } }
    else none
  | .closed =>
    if s.sender.closed then some { s with sender := s.sender.record (.depth 0) } else none

/-- What a step does to the events. -/
inductive Moves (cfg : Config) (s : State) (l : Label) (t : State) : Prop where
  | stay (queue : t.queue = s.queue) (sent : t.sent = s.sent) (accepted : t.accepted = s.accepted)
      (victims : t.victims = s.victims) (enqueues : s.enqueues ≤ t.enqueues)
  | send (event : QueuedEvent) (queue : s.queue = event :: t.queue)
      (sent : t.sent = s.sent ++ [event]) (accepted : t.accepted = s.accepted)
      (victims : t.victims = s.victims) (enqueues : t.enqueues = s.enqueues)
  | accept (event : QueuedEvent) (room : s.queue.length < cfg.maxQueueSize)
      (queue : t.queue = s.queue ++ [event]) (sent : t.sent = s.sent)
      (accepted : t.accepted = s.accepted ++ [event]) (victims : t.victims = s.victims)
      (number : event.number = s.enqueues) (enqueues : t.enqueues = s.enqueues + 1)
  | displace (front back : List QueuedEvent) (victim event : QueuedEvent)
      (called : l = .enqueue event.name event.payload) (audio : event.isAudio)
      (full : cfg.maxQueueSize ≤ s.queue.length)
      (oldest : s.queue.find? QueuedEvent.isAudio = some victim)
      (before : s.queue = front ++ victim :: back) (queue : t.queue = front ++ back ++ [event])
      (sent : t.sent = s.sent) (accepted : t.accepted = s.accepted ++ [event])
      (victims : t.victims = s.victims ++ [victim]) (number : event.number = s.enqueues)
      (enqueues : t.enqueues = s.enqueues + 1)

theorem find_splits {queue : List QueuedEvent}
    (found : queue.find? QueuedEvent.isAudio = some victim) :
    ∃ front back, queue = front ++ victim :: back ∧
      queue.eraseP QueuedEvent.isAudio = front ++ back := by
  obtain ⟨audio, front, back, rfl, earlier⟩ := List.find?_eq_some_iff_append.mp found
  have apart : ∀ event ∈ front, ¬event.isAudio = true := by simpa using earlier
  exact ⟨front, back, rfl, by rw [List.eraseP_append_right _ apart, List.eraseP_cons_of_pos audio]⟩

theorem enqueue_refused {s : State} (refused : s.sender.enqueue cfg event = (false, sender)) :
    s.enqueue cfg event = { s with sender := sender, enqueues := s.enqueues + 1 } := by
  rw [State.enqueue, refused]

theorem enqueue_accepted {s : State} (accepted : s.sender.enqueue cfg event = (true, sender)) :
    s.enqueue cfg event = { s with
      sender := sender
      enqueues := s.enqueues + 1
      accepted := s.accepted ++ [event]
      victims := s.victims ++ (s.displaced cfg).toList } := by
  rw [State.enqueue, accepted]

theorem enqueue_moves (cfg : Config) (s : State) (event : QueuedEvent)
    (number : event.number = s.enqueues) :
    Moves cfg s (.enqueue event.name event.payload) (s.enqueue cfg event) := by
  by_cases closed : s.sender.closed = true
  · rw [enqueue_refused (if_pos closed)]
    exact .stay rfl rfl rfl rfl (Nat.le_succ _)
  by_cases room : s.sender.queue.length < cfg.maxQueueSize
  · have pushed : s.sender.enqueue cfg event = (true, s.sender.push event) := by
      simp [Sender.enqueue, closed, room]
    have nobody : s.displaced cfg = none := if_pos room
    rw [enqueue_accepted pushed, nobody]
    exact .accept event room rfl rfl rfl (by simp) number rfl
  by_cases audio : event.isAudio = true
  · cases found : s.sender.queue.find? QueuedEvent.isAudio with
    | none =>
      have refused : s.sender.enqueue cfg event = (false, s.sender.record (.drop .full)) := by
        simp [Sender.enqueue, closed, room, audio, found]
      rw [enqueue_refused refused]
      exact .stay rfl rfl rfl rfl (Nat.le_succ _)
    | some victim =>
      obtain ⟨front, back, split, erased⟩ := find_splits found
      have replaced : s.sender.enqueue cfg event =
          (true, ({ s.sender with queue := front ++ back }.record (.drop .audio)).push event) := by
        simp [Sender.enqueue, closed, room, audio, found, erased]
      have somebody : s.displaced cfg = some victim := (if_neg room).trans found
      rw [enqueue_accepted replaced, somebody]
      exact .displace front back victim event rfl audio
        (Nat.le_of_not_lt room) found split rfl rfl rfl rfl
        number rfl
  · have refused : s.sender.enqueue cfg event = (false, s.sender.record (.drop .event)) := by
      simp [Sender.enqueue, closed, room, audio]
    rw [enqueue_refused refused]
    exact .stay rfl rfl rfl rfl (Nat.le_succ _)

theorem iterate_moves (cfg : Config) (s : State) : Moves cfg s .iterate s.iterate := by
  unfold State.iterate
  split
  case h_1 empty =>
    split
    · exact .stay rfl rfl rfl rfl (Nat.le_refl _)
    · exact .stay rfl rfl rfl rfl (Nat.le_refl _)
  case h_2 event rest queued => exact .send event queued rfl rfl rfl rfl

theorem step_moves (stepped : step cfg s l = some t) : Moves cfg s l t := by
  cases l with
  | enqueue name payload =>
    cases stepped
    exact enqueue_moves cfg s ⟨s.enqueues, name, payload⟩ rfl
  | iterate =>
    obtain ⟨-, taken⟩ := Option.ite_none_right_eq_some.mp stepped
    cases taken
    exact iterate_moves cfg s
  | start =>
    simp only [step] at stepped
    split at stepped
    all_goals
      cases stepped
      exact .stay rfl rfl rfl rfl (Nat.le_refl _)
  | close =>
    cases stepped
    exact .stay rfl rfl rfl rfl (Nat.le_refl _)
  | begin | wake | timeout | sendOk | sendError | cancel | closed =>
    obtain ⟨-, taken⟩ := Option.ite_none_right_eq_some.mp stepped
    cases taken
    exact .stay rfl rfl rfl rfl (Nat.le_refl _)

/-- `l` is an `enqueue` of new audio at a full queue in which `victim` is the oldest audio. -/
structure Displaces (cfg : Config) (s : State) (l : Label) (victim : QueuedEvent) : Prop where
  arrives : ∃ event : QueuedEvent, l = .enqueue event.name event.payload ∧ event.isAudio ∧
    event.number = s.enqueues ∧ victim.number < event.number
  full : s.queue.length = cfg.maxQueueSize
  oldest : s.queue.find? QueuedEvent.isAudio = some victim

variable {event victim : QueuedEvent}

/-- Every event that was accepted is sent, queued or a victim. -/
structure Kept (cfg : Config) (s : State) : Prop where
  bounded : s.queue.length ≤ cfg.maxQueueSize
  balanced : Balanced s.accepted (s.sent ++ s.queue) s.victims
  older : ∀ event ∈ s.accepted, event.number < s.enqueues
  distinct : (s.accepted.map QueuedEvent.number).Nodup
  audio : ∀ victim ∈ s.victims, victim.isAudio

theorem Kept.mem_accepted (kept : Kept cfg s) (mem : event ∈ s.queue) : event ∈ s.accepted :=
  kept.balanced.order.subset (List.mem_append_right _ mem)

theorem Kept.displaces (kept : Kept cfg s) (called : l = .enqueue event.name event.payload)
    (audio : event.isAudio) (full : cfg.maxQueueSize ≤ s.queue.length)
    (oldest : s.queue.find? QueuedEvent.isAudio = some victim)
    (number : event.number = s.enqueues) : Displaces cfg s l victim := by
  refine ⟨⟨event, called, audio, number, ?_⟩, Nat.le_antisymm kept.bounded full, oldest⟩
  rw [number]
  exact kept.older victim (kept.mem_accepted (List.mem_of_find?_eq_some oldest))

theorem Kept.initial (cfg : Config) : Kept cfg {} :=
  ⟨Nat.zero_le _, .nil, by simp, List.nodup_nil, by simp⟩

/-- The numbers go up, so an event that is accepted is new. -/
theorem Kept.fresh (kept : Kept cfg s) (number : event.number = s.enqueues) :
    (∀ e ∈ s.accepted ++ [event], e.number < s.enqueues + 1) ∧
    ((s.accepted ++ [event]).map QueuedEvent.number).Nodup := by
  constructor
  · intro e mem
    rcases List.mem_append.mp mem with earlier | last
    · exact Nat.lt_succ_of_lt (kept.older e earlier)
    · rw [List.mem_singleton.mp last, number]
      exact Nat.lt_succ_self _
  · rw [List.map_append, List.nodup_append]
    refine ⟨kept.distinct, List.nodup_singleton _, fun old earlier new last same => ?_⟩
    obtain ⟨e, mem, rfl⟩ := List.mem_map.mp earlier
    have equal : e.number = s.enqueues := by
      rw [same, List.mem_singleton.mp last, number]
    exact Nat.ne_of_lt (kept.older e mem) equal

/-- A step at which nothing new is accepted. -/
theorem Kept.unchanged (kept : Kept cfg s) (accepted : t.accepted = s.accepted)
    (victims : t.victims = s.victims) (enqueues : s.enqueues ≤ t.enqueues)
    (bounded : t.queue.length ≤ cfg.maxQueueSize)
    (balanced : Balanced s.accepted (t.sent ++ t.queue) s.victims) : Kept cfg t where
  bounded := bounded
  balanced := by rwa [accepted, victims]
  older := by
    rw [accepted]
    exact fun event mem => Nat.lt_of_lt_of_le (kept.older event mem) enqueues
  distinct := by
    rw [accepted]
    exact kept.distinct
  audio := by
    rw [victims]
    exact kept.audio

/-- A step that accepts an event. -/
theorem Kept.extended (kept : Kept cfg s) (number : event.number = s.enqueues)
    (accepted : t.accepted = s.accepted ++ [event]) (enqueues : t.enqueues = s.enqueues + 1)
    (bounded : t.queue.length ≤ cfg.maxQueueSize)
    (balanced : Balanced (s.accepted ++ [event]) (t.sent ++ t.queue) t.victims)
    (audio : ∀ victim ∈ t.victims, victim.isAudio) : Kept cfg t := by
  obtain ⟨older, distinct⟩ := kept.fresh number
  refine ⟨bounded, ?_, ?_, ?_, audio⟩
  · rwa [accepted]
  · rwa [accepted, enqueues]
  · rwa [accepted]

theorem Kept.step (kept : Kept cfg s) (stepped : step cfg s l = some t) : Kept cfg t := by
  cases step_moves stepped with
  | stay queue sent accepted victims enqueues =>
    refine kept.unchanged accepted victims enqueues ?_ ?_
    · rw [queue]
      exact kept.bounded
    · rw [sent, queue]
      exact kept.balanced
  | send event queue sent accepted victims enqueues =>
    refine kept.unchanged accepted victims (Nat.le_of_eq enqueues.symm) ?_ ?_
    · have before := kept.bounded
      rw [queue, List.length_cons] at before
      exact Nat.le_of_succ_le before
    · have before := kept.balanced
      rw [queue] at before
      rw [sent]
      simpa using before
  | accept event room queue sent accepted victims number enqueues =>
    refine kept.extended number accepted enqueues ?_ ?_ ?_
    · rw [queue, List.length_append]
      exact room
    · rw [sent, queue, victims, ← List.append_assoc]
      exact kept.balanced.give event
    · rw [victims]
      exact kept.audio
  | displace front back victim event called audio full oldest before queue sent accepted victims
      number enqueues =>
    refine kept.extended number accepted enqueues ?_ ?_ ?_
    · have bounded := kept.bounded
      rw [before] at bounded
      rw [queue]
      simp only [List.length_append, List.length_cons, List.length_nil] at bounded ⊢
      omega
    · have balanced := kept.balanced
      rw [before, ← List.append_assoc] at balanced
      have given := balanced.lose.give event
      rw [sent, queue, victims]
      simpa only [List.append_assoc] using given
    · rw [victims]
      intro e mem
      rcases List.mem_append.mp mem with earlier | last
      · exact kept.audio e earlier
      · rw [List.mem_singleton.mp last]
        exact List.find?_some oldest

/-- The step rule of the victims. -/
theorem victims_step (kept : Kept cfg s) (stepped : step cfg s l = some t)
    (lost : victim ∈ t.victims) : victim ∈ s.victims ∨ Displaces cfg s l victim := by
  cases step_moves stepped with
  | stay queue sent accepted victims enqueues => exact .inl (victims ▸ lost)
  | send event queue sent accepted victims enqueues => exact .inl (victims ▸ lost)
  | accept event room queue sent accepted victims number enqueues => exact .inl (victims ▸ lost)
  | displace front back oldestOne event called audio full oldest before queue sent accepted victims
      number enqueues =>
    rw [victims] at lost
    rcases List.mem_append.mp lost with earlier | last
    · exact .inl earlier
    · rw [List.mem_singleton.mp last]
      exact .inr (kept.displaces called audio full oldest number)

/-- In every state of every run: the queue is bounded; what was sent, followed by the queue, is
what was accepted without the victims, in order; a victim was the oldest queued audio when newer
audio came to a full queue; and what is not audio is never lost. -/
theorem backpressure (cfg : Config) (run : exec (step cfg) {} ls = some s) :
    s.queue.length ≤ cfg.maxQueueSize ∧
    (s.sent ++ s.queue).Sublist s.accepted ∧
    s.accepted.filter (· ∉ s.victims) = s.sent ++ s.queue ∧
    (∀ victim ∈ s.victims, ∃ past l rest u, ls = past ++ l :: rest ∧
      exec (step cfg) {} past = some u ∧
      Displaces cfg u l victim) ∧
    ∀ event ∈ s.accepted, event.isAudio = false → event ∈ s.sent ++ s.queue := by
  have kept : Kept cfg s :=
    exec_preserves (Kept cfg) (fun _ _ _ before stepped => before.step stepped) run (.initial cfg)
  have victims : ∀ victim ∈ s.victims, ∃ past l rest u, ls = past ++ l :: rest ∧
      exec (step cfg) {} past = some u ∧ Displaces cfg u l victim := by
    refine (exec_history (fun past s => (exec (step cfg) {} past = some s ∧ Kept cfg s) ∧
      ∀ victim ∈ s.victims, ∃ before l rest u, past = before ++ l :: rest ∧
        exec (step cfg) {} before = some u ∧ Displaces cfg u l victim) ?_ run
          ⟨⟨rfl, .initial cfg⟩, by simp⟩).2
    rintro past s l t ⟨⟨walked, before⟩, earlier⟩ stepped
    refine ⟨⟨exec_append.mpr ⟨s, walked, exec_cons.mpr ⟨t, stepped, rfl⟩⟩, before.step stepped⟩, ?_⟩
    intro victim lost
    rcases victims_step before stepped lost with old | now
    · obtain ⟨start, l', rest, u, rfl, ran, displaces⟩ := earlier victim old
      exact ⟨start, l', rest ++ [l], u, by simp, ran, displaces⟩
    · exact ⟨past, l, [], s, rfl, walked, now⟩
  refine ⟨kept.bounded, kept.balanced.order, kept.balanced.filter_eq kept.distinct.of_map,
    victims, ?_⟩
  intro event accepted other
  refine kept.balanced.mem_of_not_lost accepted fun lost => ?_
  rw [kept.audio event lost] at other
  cases other

/-- Audio that comes while the loop is sending and the queue is full again. -/
def busy : List Label :=
  [.start, .begin, .enqueue "state_change" "listening", .iterate, .enqueue "tts_ready" "old",
    .enqueue "state_change" "speaking", .enqueue "tts_ready" "new", .sendOk, .iterate]

theorem busy_backpressure : ∃ s, exec (step ⟨2, true⟩) {} busy = some s ∧
    s.sent.map QueuedEvent.payload = ["listening", "speaking"] ∧
      s.queue.map QueuedEvent.payload = ["new"] ∧
    s.accepted.filter (· ∉ s.victims) = s.sent ++ s.queue ∧
    ∀ victim ∈ s.victims, ∃ past l rest u, busy = past ++ l :: rest ∧
      exec (step ⟨2, true⟩) {} past = some u ∧
      Displaces ⟨2, true⟩ u l victim := by
  obtain ⟨s, run, sent, queue⟩ : ∃ s, exec (step ⟨2, true⟩) {} busy = some s ∧
      s.sent.map QueuedEvent.payload = ["listening", "speaking"] ∧
      s.queue.map QueuedEvent.payload = ["new"] := ⟨_, rfl, by decide, by decide⟩
  obtain ⟨-, -, kept, victims, -⟩ := backpressure ⟨2, true⟩ run
  exact ⟨s, run, sent, queue, kept, victims⟩

end AgentOE.Session.WsSender
