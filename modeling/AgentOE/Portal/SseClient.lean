import Mathlib.Algebra.Order.Field.Rat
import Mathlib.Tactic.Linarith
import AgentOE.Domain.SseStream

/-! `SseClient` of `sse.ts`: one event source at a time, and timers that connect again after an
error. A label is one task of the browser, so a list of labels is an interleaving of the calls
of the client, the events of its sources and its timers. -/
namespace AgentOE.SseClient
open Transition EventStream

def minDelayMs : Nat := 1000

def maxDelayMs : Nat := 30000

/-- `random` is what `Math.random` returns. -/
def withJitter (ms : Nat) (random : ℚ) : ℚ :=
  let jitter := ms * (1 / 5) * (random * 2 - 1)
  min maxDelayMs (max minDelayMs (ms + jitter))

def upperHex (n : Nat) : Char :=
  if n < 10 then Char.ofNat ('0'.toNat + n) else Char.ofNat ('A'.toNat + (n - 10))

/-- What `encodeURIComponent` leaves as it is. -/
def unreserved (c : Char) : Bool := c.isAlphanum || c ∈ "-_.!~*'()".toList

def encodeURIComponent (text : Text) : Text :=
  text.flatMap fun c =>
    if unreserved c then [c]
    else (String.utf8EncodeChar c).flatMap fun b =>
      ['%', upperHex (b.toNat / 16), upperHex (b.toNat % 16)]

/-- `closed` says that `readyState` is `CLOSED`. -/
structure Source where
  url : Text
  closed : Bool := false

/-- A call of `emit`. -/
structure Emission where
  event : Text
  data : Text
  eventType : Text
  deriving DecidableEq

/-- `emit` with its defaults. -/
def plain (event : Text) : Emission := ⟨event, [], event⟩

/-- Sources and timers are numbered as they are made. The last four fields are the browser's,
and what the listeners are called with. -/
structure Client where
  url : Text
  es : Option Nat := none
  lastEventId : Text := []
  delay : Nat := minDelayMs
  reconnectTimer : Option Nat := none
  closed : Bool := false
  sources : List Source := []
  timers : List (Nat × ℚ) := []
  timersSet : Nat := 0
  emitted : List Emission := []

def messageName : Text := "message".toList

/-- The events for which `connect` adds a listener. -/
def namedEvents : List Text :=
  ["heartbeat", "audit", "session", "alert", "metric"].map String.toList

namespace Client
variable (c : Client)

def emit (e : Emission) : Client := { c with emitted := c.emitted ++ [e] }

def teardown : Client :=
  match c.es with
  | some i =>
    { c with es := none, sources := c.sources.modify i fun source => { source with closed := true } }
  | none => c

def sourceUrl : Text :=
  if c.lastEventId = [] then c.url
  else
    let separator := if '?' ∈ c.url then "&".toList else "?".toList
    c.url ++ separator ++ "lastEventId=".toList ++ encodeURIComponent c.lastEventId

def connect : Client :=
  if c.closed then c
  else
    let c := c.teardown
    { c with es := some c.sources.length, sources := c.sources ++ [{ url := c.sourceUrl }] }

def onopen : Client := { c with delay := minDelayMs }.emit (plain "open".toList)

/-- `onmessage`, or the listener of a named event. An event that has neither is dropped. -/
def hear (ev : Event) : Client :=
  let noted := if ev.lastEventId = [] then c else { c with lastEventId := ev.lastEventId }
  if ev.type = messageName then noted.emit ⟨messageName, ev.data, messageName⟩
  else if ev.type ∈ namedEvents then
    (noted.emit ⟨ev.type, ev.data, ev.type⟩).emit ⟨messageName, ev.data, ev.type⟩
  else c

def scheduleReconnect (random : ℚ) : Client :=
  { c with
    delay := min maxDelayMs (c.delay * 2)
    reconnectTimer := some c.timersSet
    timers := c.timers ++ [(c.timersSet, withJitter c.delay random)]
    timersSet := c.timersSet + 1 }

def onerror (random : ℚ) : Client :=
  let c := c.teardown
  if c.closed then c else (c.emit (plain "error".toList)).scheduleReconnect random

def clearTimeout (timer : Nat) : Client := { c with timers := c.timers.filter (·.1 ≠ timer) }

/-- The callback of `_scheduleReconnect`, which asks for `closed` as `connect` does. -/
def fire (timer : Nat) : Client := (c.clearTimeout timer).connect

def close : Client :=
  let c := { c with closed := true }
  let c := match c.reconnectTimer with
    | some timer => { c.clearTimeout timer with reconnectTimer := none }
    | none => c
  c.teardown.emit (plain "close".toList)

def reopen : Client := { c with closed := false, lastEventId := [], delay := minDelayMs }.connect

def Live (i : Nat) : Prop := ∃ source, c.sources[i]? = some source ∧ source.closed = false

instance (i : Nat) : Decidable (c.Live i) :=
  match found : c.sources[i]? with
  | some source => decidable_of_iff (source.closed = false) (by simp [Live, found])
  | none => .isFalse (by simp [Live, found])

end Client

inductive Label where
  | connect
  | close
  | reopen
  /-- A source calls its `onopen`. -/
  | opened (i : Nat)
  /-- A source is told of an event. One that is named `open` or `error` calls the handlers of
  these. -/
  | event (i : Nat) (ev : Event)
  | failed (i : Nat) (random : ℚ)
  /-- The time of a timer is over. -/
  | fire (timer : Nat)
  deriving DecidableEq

/-- A source that is closed calls nothing. -/
def step (c : Client) : Label → Option Client
  | .connect => some c.connect
  | .close => some c.close
  | .reopen => some c.reopen
  | .opened i => if c.Live i then some c.onopen else none
  | .event i ev =>
    if c.Live i ∧ ev.type ≠ "open".toList ∧ ev.type ≠ "error".toList then some (c.hear ev) else none
  | .failed i random => if c.Live i ∧ 0 ≤ random ∧ random < 1 then some (c.onerror random) else none
  | .fire timer => if timer ∈ c.timers.map (·.1) then some (c.fire timer) else none

/-- How often a source has failed since one was opened. -/
def countFailure (n : Nat) : Label → Nat
  | .opened _ | .reopen => 0
  | .failed .. => n + 1
  | .connect | .close | .event .. | .fire _ => n

def failures (past : List Label) : Nat := past.foldl countFailure 0

/-- The delay after so many failures. -/
def backoff (n : Nat) : Nat := min maxDelayMs (minDelayMs * 2 ^ n)

variable {c d : Client} {l : Label} {past ls ms : List Label} {i j k n : Nat} {w random : ℚ}

theorem backoff_succ (n : Nat) : min maxDelayMs (backoff n * 2) = backoff (n + 1) := by
  simp only [backoff, pow_succ, ← Nat.mul_assoc]
  omega

theorem minDelayMs_le_backoff (n : Nat) : minDelayMs ≤ backoff n := by
  have grows : 1 ≤ 2 ^ n := Nat.one_le_two_pow
  simp only [backoff, minDelayMs, maxDelayMs]
  omega

theorem backoff_le_maxDelayMs (n : Nat) : backoff n ≤ maxDelayMs := Nat.min_le_left _ _

theorem withJitter_bounds (ms : Nat) (random : ℚ) :
    minDelayMs ≤ withJitter ms random ∧ withJitter ms random ≤ maxDelayMs := by
  refine ⟨le_min ?_ (le_max_left _ _), min_le_left _ _⟩
  norm_num [minDelayMs, maxDelayMs]

/-- The wait is off the delay by a fifth at most. -/
theorem withJitter_near (low : minDelayMs ≤ n) (high : n ≤ maxDelayMs) (positive : 0 ≤ random)
    (below : random < 1) :
    (n : ℚ) * (4 / 5) ≤ withJitter n random ∧ withJitter n random ≤ n * (6 / 5) := by
  have low' : (minDelayMs : ℚ) ≤ n := by exact_mod_cast low
  have high' : (n : ℚ) ≤ maxDelayMs := by exact_mod_cast high
  have least : (0 : ℚ) ≤ n := by positivity
  have jitter : -(n * (1 / 5)) ≤ (n : ℚ) * (1 / 5) * (random * 2 - 1) ∧
      (n : ℚ) * (1 / 5) * (random * 2 - 1) ≤ n * (1 / 5) := by
    constructor <;> nlinarith
  unfold withJitter
  constructor
  · refine le_min (by linarith) (le_max_of_le_right (by linarith [jitter.1]))
  · refine (min_le_right _ _).trans (max_le (by linarith) (by linarith [jitter.2]))

theorem failures_append : failures (past ++ [l]) = countFailure (failures past) l := by
  simp only [failures, List.foldl_append, List.foldl_cons, List.foldl_nil]

/-! ### Any run -/

/-- The source that is live is the client's. -/
def Tracked (c : Client) : Prop := ∀ i, c.Live i ↔ c.es = some i

structure Sound (c : Client) : Prop where
  live : Tracked c
  closed : c.closed = true → c.es = none
  waits : ∀ k w, (k, w) ∈ c.timers → minDelayMs ≤ w ∧ w ≤ maxDelayMs

/-- Without a source. -/
structure Idle (c : Client) : Prop where
  live : ∀ i, ¬c.Live i
  es : c.es = none

theorem Idle.sound (idle : Idle c)
    (waits : ∀ k w, (k, w) ∈ c.timers → minDelayMs ≤ w ∧ w ≤ maxDelayMs) : Sound c :=
  ⟨fun i => iff_of_false (idle.live i) (by simp [idle.es]), fun _ => idle.es, waits⟩

/-- `_teardown` changes the source only. -/
theorem teardown_eq (c : Client) : c.teardown =
    { c with es := c.teardown.es, sources := c.teardown.sources } := by
  unfold Client.teardown
  cases c.es <;> rfl

theorem Tracked.teardown (tracked : Tracked c) : Idle c.teardown := by
  cases current : c.es with
  | none =>
    have same : c.teardown = c := by simp only [Client.teardown, current]
    rw [same]
    exact ⟨fun i live => by simp [(tracked i).mp live] at current, current⟩
  | some j =>
    have torn : c.teardown =
        { c with es := none, sources := c.sources.modify j fun source => { source with closed := true } } := by
      simp only [Client.teardown, current]
    rw [torn]
    refine ⟨fun i live => ?_, rfl⟩
    obtain ⟨source, found, opened⟩ := live
    rw [List.getElem?_modify] at found
    obtain ⟨before, had, rfl⟩ := Option.map_eq_some_iff.mp found
    by_cases here : j = i
    · simp [here] at opened
    · have still : c.Live i := ⟨before, had, by simpa [here] using opened⟩
      rw [tracked, current] at still
      exact here (Option.some.inj still)

theorem Sound.connect (sound : Sound c) : Sound c.connect := by
  by_cases closed : c.closed = true
  · simpa only [Client.connect, closed, if_true] using sound
  · have idle := sound.live.teardown
    have same := teardown_eq c
    simp only [Client.connect, closed, Bool.false_eq_true, if_false]
    refine ⟨fun i => ?_, fun shut => ?_, ?_⟩
    · simp only [Client.Live, Option.some.injEq]
      constructor
      · rintro ⟨source, found, opened⟩
        rcases Nat.lt_trichotomy i c.teardown.sources.length with older | here | beyond
        · rw [List.getElem?_append_left older] at found
          exact absurd ⟨source, found, opened⟩ (idle.live i)
        · exact here.symm
        · rw [List.getElem?_eq_none (by simpa using beyond)] at found
          cases found
      · rintro rfl
        exact ⟨_, List.getElem?_concat_length, rfl⟩
    · rw [same] at shut
      exact absurd shut closed
    · rw [same]
      exact sound.waits

theorem Sound.not_closed (sound : Sound c) (live : c.Live i) : c.closed = false := by
  by_contra closed
  have none := sound.closed (by simpa using closed)
  rw [sound.live, none] at live
  cases live

theorem Sound.clearTimeout (sound : Sound c) (timer : Nat) : Sound (c.clearTimeout timer) :=
  ⟨sound.live, sound.closed, fun k w mem => sound.waits k w (List.mem_of_mem_filter mem)⟩

theorem Sound.hear (sound : Sound c) (ev : Event) : Sound (c.hear ev) := by
  unfold Client.hear
  split_ifs <;> exact ⟨sound.live, sound.closed, sound.waits⟩

theorem Sound.onerror (sound : Sound c) (random : ℚ) : Sound (c.onerror random) := by
  have idle := sound.live.teardown
  have timers : c.teardown.timers = c.timers := by rw [teardown_eq]
  simp only [Client.onerror]
  split_ifs
  · exact idle.sound (timers ▸ sound.waits)
  · refine Idle.sound ⟨idle.live, idle.es⟩ fun k w mem => ?_
    rcases List.mem_append.mp mem with older | new
    · exact sound.waits k w (timers ▸ older)
    · obtain ⟨-, rfl⟩ := Prod.mk.inj (List.mem_singleton.mp new)
      exact withJitter_bounds _ _

/-- What `close` leaves before `_teardown`. -/
def Client.shut (c : Client) : Client :=
  match c.reconnectTimer with
  | some timer =>
    { ({ c with closed := true } : Client).clearTimeout timer with reconnectTimer := none }
  | none => { c with closed := true }

theorem close_eq (c : Client) : c.close = c.shut.teardown.emit (plain "close".toList) := by
  unfold Client.close Client.shut
  cases c.reconnectTimer <;> rfl

theorem shut_eq (c : Client) :
    c.shut = { c with closed := true, reconnectTimer := none, timers := c.shut.timers } := by
  obtain ⟨_, _, _, _, timer, _, _, _, _, _⟩ := c
  cases timer <;> rfl

theorem shut_timers (c : Client) : c.shut.timers.Sublist c.timers := by
  unfold Client.shut
  cases c.reconnectTimer with
  | none => exact List.Sublist.refl _
  | some timer => exact List.filter_sublist

theorem Sound.close (sound : Sound c) : Sound c.close := by
  have tracked : Tracked c.shut := by
    rw [shut_eq]
    exact sound.live
  have idle := tracked.teardown
  rw [close_eq]
  refine Idle.sound ⟨idle.live, idle.es⟩ fun k w mem => sound.waits k w ?_
  have kept : c.shut.teardown.timers = c.shut.timers := by rw [teardown_eq]
  exact (shut_timers c).subset (kept ▸ mem)

theorem step_sound (sound : Sound c) (stepped : step c l = some d) : Sound d := by
  cases l with
  | connect => exact Option.some.inj stepped ▸ sound.connect
  | close => exact Option.some.inj stepped ▸ sound.close
  | reopen =>
    have fresh : Sound { c with closed := false, lastEventId := [], delay := minDelayMs } :=
      ⟨sound.live, by simp, sound.waits⟩
    exact Option.some.inj stepped ▸ fresh.connect
  | opened i =>
    obtain ⟨-, now⟩ := Option.ite_none_right_eq_some.mp stepped
    exact Option.some.inj now ▸ ⟨sound.live, sound.closed, sound.waits⟩
  | event i ev =>
    obtain ⟨-, now⟩ := Option.ite_none_right_eq_some.mp stepped
    exact Option.some.inj now ▸ sound.hear ev
  | failed i random =>
    obtain ⟨-, now⟩ := Option.ite_none_right_eq_some.mp stepped
    exact Option.some.inj now ▸ sound.onerror random
  | fire timer =>
    obtain ⟨-, now⟩ := Option.ite_none_right_eq_some.mp stepped
    exact Option.some.inj now ▸ (sound.clearTimeout timer).connect

theorem initial_sound (url : Text) : Sound { url := url } := by
  refine ⟨fun i => iff_of_false ?_ (by simp), fun _ => rfl, fun k w mem => by cases mem⟩
  rintro ⟨source, found, -⟩
  cases found

theorem connect_delay (c : Client) : c.connect.delay = c.delay := by
  unfold Client.connect
  split_ifs
  · rfl
  · rw [teardown_eq]

theorem step_delay (sound : Sound c) (before : c.delay = backoff (failures past))
    (stepped : step c l = some d) : d.delay = backoff (failures (past ++ [l])) := by
  rw [failures_append]
  cases l with
  | connect => rw [← Option.some.inj stepped, connect_delay, before, countFailure]
  | close =>
    rw [← Option.some.inj stepped, close_eq, countFailure, ← before, Client.emit, teardown_eq,
      shut_eq]
  | reopen =>
    rw [← Option.some.inj stepped, Client.reopen, connect_delay]
    rfl
  | opened i =>
    obtain ⟨-, now⟩ := Option.ite_none_right_eq_some.mp stepped
    rw [← Option.some.inj now]
    rfl
  | event i ev =>
    obtain ⟨-, now⟩ := Option.ite_none_right_eq_some.mp stepped
    rw [← Option.some.inj now, countFailure, ← before]
    unfold Client.hear
    split_ifs <;> rfl
  | failed i random =>
    obtain ⟨⟨live, -⟩, now⟩ := Option.ite_none_right_eq_some.mp stepped
    have going : c.teardown.closed = false := by rw [teardown_eq, ← sound.not_closed live]
    have same : c.teardown.delay = c.delay := by rw [teardown_eq]
    rw [← Option.some.inj now, countFailure, ← backoff_succ, ← before, ← same]
    simp [Client.onerror, going, Client.scheduleReconnect, Client.emit]
  | fire timer =>
    obtain ⟨-, now⟩ := Option.ite_none_right_eq_some.mp stepped
    rw [← Option.some.inj now, Client.fire, connect_delay, countFailure, ← before]
    rfl

/-- However the calls, the events and the timers come: no two sources are live, a closed client
has none, and the delays double from one failure to the next within their bounds. -/
theorem run_safe (url : Text) (run : exec step { url := url } ls = some c) :
    (∀ i j, c.Live i → c.Live j → i = j) ∧ (c.closed = true → ∀ i, ¬c.Live i) ∧
      c.delay = backoff (failures ls) ∧ ∀ k w, (k, w) ∈ c.timers →
          minDelayMs ≤ w ∧ w ≤ maxDelayMs := by
  have invariant : Sound c ∧ c.delay = backoff (failures ls) :=
    exec_history (fun past c => Sound c ∧ c.delay = backoff (failures past))
      (fun _ _ _ _ before stepped => ⟨step_sound before.1 stepped,
        step_delay before.1 before.2 stepped⟩) run
      ⟨initial_sound url, rfl⟩
  obtain ⟨sound, delay⟩ := invariant
  refine ⟨fun i j live live' => ?_, fun closed i live => ?_, delay, sound.waits⟩
  · rw [sound.live] at live live'
    exact Option.some.inj (live.symm.trans live')
  · simp [sound.not_closed live] at closed

def alertsUrl : Text := "/api/v1/stream/alerts".toList

def alertsClient : Client := { url := alertsUrl }

/-- `connect` is called again while a timer is set, which then takes the place of its source. -/
def retryRun : List Label := [.connect, .failed 0 0, .connect, .opened 1, .fire 0]

def retried : Client := (exec step alertsClient retryRun).getD alertsClient

theorem retried_safe : (∀ i j, retried.Live i → retried.Live j → i = j) ∧
    (retried.closed = true → ∀ i, ¬retried.Live i) ∧ retried.delay = backoff (failures retryRun) ∧
      ∀ k w, (k, w) ∈ retried.timers → minDelayMs ≤ w ∧ w ≤ maxDelayMs :=
  run_safe alertsUrl (show exec step alertsClient retryRun = some retried from rfl)

/-! ### A client that is closed -/

theorem closed_step (sound : Sound c) (closed : c.closed = true) (other : l ≠ .reopen)
    (stepped : step c l = some d) : d.closed = true ∧ d.sources = c.sources ∧
      d.emitted = c.emitted ++ if l = .close then [plain "close".toList] else [] := by
  have dead : ∀ {i}, ¬c.Live i := fun live => by simp [sound.not_closed live] at closed
  have still : c.connect = c := by simp only [Client.connect, closed, if_true]
  cases l with
  | connect => simp [← Option.some.inj stepped, still, closed]
  | close =>
    have none : c.shut.es = none := by
      rw [shut_eq]
      exact sound.closed closed
    have torn : c.shut.teardown = c.shut := by simp only [Client.teardown, none]
    rw [← Option.some.inj stepped, close_eq, torn, shut_eq]
    exact ⟨rfl, rfl, rfl⟩
  | reopen => exact absurd rfl other
  | opened i => exact absurd (Option.ite_none_right_eq_some.mp stepped).1 dead
  | event i ev => exact absurd (Option.ite_none_right_eq_some.mp stepped).1.1 dead
  | failed i random => exact absurd (Option.ite_none_right_eq_some.mp stepped).1.1 dead
  | fire timer =>
    obtain ⟨-, now⟩ := Option.ite_none_right_eq_some.mp stepped
    have ended : (c.clearTimeout timer).closed = true := closed
    have idle : (c.clearTimeout timer).connect = c.clearTimeout timer := by
      simp only [Client.connect, ended, if_true]
    rw [← Option.some.inj now, Client.fire, idle]
    exact ⟨closed, rfl, by simp [Client.clearTimeout]⟩

/-- A closed client opens no source and tells its listeners of nothing but further calls of
`close`, whichever timers are left, until it is opened again. -/
theorem closed_inert (url : Text) (run : exec step { url := url } ls = some c)
    (closed : c.closed = true) (later : exec step c ms = some d) (others : Label.reopen ∉ ms) :
    d.closed = true ∧ d.sources = c.sources ∧
      d.emitted = c.emitted ++ List.replicate (ms.count .close) (plain "close".toList) := by
  have sound : Sound c :=
    exec_preserves Sound (fun _ _ _ before stepped => step_sound before stepped) run
    (initial_sound url)
  clear run
  induction ms generalizing c with
  | nil =>
    cases Option.some.inj later
    simpa using closed
  | cons l ms ih =>
    obtain ⟨e, first, rest⟩ := exec_cons.mp later
    obtain ⟨other, others⟩ := List.ne_and_not_mem_of_not_mem_cons others
    obtain ⟨shut, sources, emitted⟩ := closed_step sound closed other.symm first
    obtain ⟨closedNow, sourcesNow, emittedNow⟩ := ih shut rest others (step_sound sound first)
    refine ⟨closedNow, sourcesNow.trans sources, ?_⟩
    rw [emittedNow, emitted, List.append_assoc]
    by_cases isClose : l = .close
    · subst isClose
      simp [List.replicate_succ]
    · simp [isClose]

/-- A timer is left over, as `close` clears the later of two. -/
def closeRun : List Label := [.connect, .failed 0 0, .connect, .failed 1 0, .close]

def shutClient : Client := (exec step alertsClient closeRun).getD alertsClient

def leftoverRun : List Label := [.fire 0, .connect, .close]

def leftoverClient : Client := (exec step shutClient leftoverRun).getD shutClient

theorem leftover_inert : leftoverClient.closed = true ∧
    leftoverClient.sources = shutClient.sources ∧
    leftoverClient.emitted = shutClient.emitted ++
      List.replicate (leftoverRun.count .close) (plain "close".toList) :=
  closed_inert alertsUrl (show exec step alertsClient closeRun = some shutClient from rfl) rfl rfl
    (by decide)

/-! ### A channel of the portal -/

/-- The provider connects a client when it makes it, and then calls `close` only. -/
def Provided : Label → Prop
  | .connect | .reopen => False
  | .close | .opened _ | .event .. | .failed .. | .fire _ => True

instance : (l : Label) → Decidable (Provided l)
  | .connect | .reopen => .isFalse id
  | .close | .opened _ | .event .. | .failed .. | .fire _ => .isTrue trivial

/-- One timer is set, and its time is near the delay of the last failure. -/
def Waiting (past : List Label) (c : Client) : Prop :=
  ∃ k w n, c.timers = [(k, w)] ∧ c.reconnectTimer = some k ∧ failures past = n + 1 ∧
    (backoff n : ℚ) * (4 / 5) ≤ w ∧ w ≤ backoff n * (6 / 5)

/-- The client of an open channel has a source or waits for its next one. -/
structure Trying (past : List Label) (c : Client) : Prop where
  sound : Sound c
  delay : c.delay = backoff (failures past)
  called : c.closed = true ↔ .close ∈ past
  ended : c.closed = true → c.timers = []
  going : c.closed = false → c.timers = [] ∧ (∃ i, c.Live i) ∨ c.es = none ∧ Waiting past c

theorem Trying.idle (trying : Trying past c) (timer : k ∈ c.timers.map (·.1)) :
    c.closed = false ∧ c.timers.map (·.1) = [k] := by
  by_cases closed : c.closed = true
  · simp [trying.ended closed] at timer
  · have going : c.closed = false := by simpa using closed
    rcases trying.going going with ⟨none, -⟩ | ⟨-, k', w, n, one, -⟩
    · simp [none] at timer
    · simp only [one, List.map_cons, List.map_nil, List.mem_singleton] at timer ⊢
      exact ⟨going, by rw [timer]⟩

theorem Trying.live_going (trying : Trying past c) (live : c.Live i) :
    c.closed = false ∧ c.timers = [] := by
  have going := trying.sound.not_closed live
  rcases trying.going going with ⟨none, -⟩ | ⟨idle, -⟩
  · exact ⟨going, none⟩
  · rw [trying.sound.live, idle] at live
    cases live

theorem step_trying (before : Trying past c) (provided : Provided l) (stepped : step c l = some d) :
    Trying (past ++ [l]) d := by
  have sound := step_sound before.sound stepped
  have delay := step_delay before.sound before.delay stepped
  cases l with
  | connect => exact provided.elim
  | reopen => exact provided.elim
  | close =>
    have now : d = c.shut.teardown.emit (plain "close".toList) := by
      rw [← close_eq, ← Option.some.inj stepped]
    have closed : d.closed = true := by rw [now, Client.emit, teardown_eq, shut_eq]
    have timers : d.timers = c.shut.timers := by rw [now, Client.emit, teardown_eq]
    refine ⟨sound, delay, iff_of_true closed (by simp), fun _ => ?_,
      fun going => by simp [closed] at going⟩
    rw [timers]
    by_cases was : c.closed = true
    · exact List.sublist_nil.mp (before.ended was ▸ shut_timers c)
    · rcases before.going (by simpa using was) with ⟨none, -⟩ | ⟨-, k, w, n, one, pending, -⟩
      · exact List.sublist_nil.mp (none ▸ shut_timers c)
      · simp [Client.shut, pending, Client.clearTimeout, one]
  | opened i =>
    obtain ⟨live, now⟩ := Option.ite_none_right_eq_some.mp stepped
    obtain ⟨going, none⟩ := before.live_going live
    cases Option.some.inj now
    refine ⟨sound, delay,
      by simpa [Client.onopen, Client.emit] using before.called, before.ended, ?_⟩
    exact fun _ => .inl ⟨none, i, live⟩
  | event i ev =>
    obtain ⟨⟨live, -⟩, now⟩ := Option.ite_none_right_eq_some.mp stepped
    obtain ⟨going, none⟩ := before.live_going live
    have same : d.closed = c.closed ∧ d.timers = c.timers ∧ d.sources = c.sources := by
      rw [← Option.some.inj now]
      unfold Client.hear
      split_ifs <;> exact ⟨rfl, rfl, rfl⟩
    refine ⟨sound, delay, ?_, fun closed => ?_, fun _ => .inl ⟨same.2.1.trans none, i, ?_⟩⟩
    · rw [same.1, before.called]
      simp
    · rw [same.1, going] at closed
      cases closed
    · simpa only [Client.Live, same.2.2] using live
  | failed i random =>
    obtain ⟨⟨live, positive, below⟩, now⟩ := Option.ite_none_right_eq_some.mp stepped
    obtain ⟨going, none⟩ := before.live_going live
    have torn : c.teardown.closed = false ∧ c.teardown.timers = [] ∧
        c.teardown.delay = c.delay := by
      rw [teardown_eq]
      exact ⟨going, none, rfl⟩
    have set : d = (c.teardown.emit (plain "error".toList)).scheduleReconnect random := by
      rw [← Option.some.inj now]
      simp [Client.onerror, torn.1]
    have open_ : d.closed = false := by rw [set]; exact torn.1
    refine ⟨sound, delay, ?_, fun closed => by simp [open_] at closed, fun _ => .inr ⟨?_, ?_⟩⟩
    · rw [open_, ← going, before.called]
      simp
    · rw [set]
      exact before.sound.live.teardown.es
    · refine ⟨c.teardown.timersSet, withJitter c.delay random, failures past, ?_, ?_,
        failures_append, ?_⟩
      · rw [set]
        simp [Client.scheduleReconnect, Client.emit, torn.2.1, torn.2.2]
      · rw [set]
        rfl
      · rw [before.delay]
        exact withJitter_near (minDelayMs_le_backoff _) (backoff_le_maxDelayMs _) positive below
  | fire timer =>
    obtain ⟨pending, now⟩ := Option.ite_none_right_eq_some.mp stepped
    obtain ⟨going, only⟩ := before.idle pending
    have none : c.timers.filter (·.1 ≠ timer) = [] := by
      refine List.filter_eq_nil_iff.mpr fun entry mem => ?_
      have named : entry.1 ∈ c.timers.map (·.1) := List.mem_map_of_mem mem
      rw [only] at named
      simpa using named
    have going' : (c.clearTimeout timer).closed = false := going
    let torn := (c.clearTimeout timer).teardown
    have made : d =
        { torn with es := some torn.sources.length, sources := torn.sources ++ [{ url := torn.sourceUrl }] } := by
      rw [← Option.some.inj now, Client.fire, Client.connect]
      simp [going', torn]
    have same : torn.closed = false ∧ torn.timers = [] := by
      simp only [torn]
      rw [teardown_eq]
      exact ⟨going, none⟩
    have open_ : d.closed = false := by rw [made]; exact same.1
    refine ⟨sound, delay, ?_,
      fun closed => by simp [open_] at closed, fun _ => .inl ⟨?_, torn.sources.length, ?_⟩⟩
    · rw [open_, ← going, before.called]
      simp
    · rw [made]
      exact same.2
    · rw [sound.live, made]

/-- An open channel is never given up: at every moment until `close` it has one live source, or
one timer that is set for its next one, near the delay of the last failure; after it neither. -/
theorem channel_kept (url : Text) (run : exec step ({ url := url } : Client).connect ls = some c)
    (provided : ∀ l ∈ ls, Provided l) :
    (c.closed = true ↔ .close ∈ ls) ∧ (c.closed = true → c.timers = [] ∧ ∀ i, ¬c.Live i) ∧
      (c.closed = false → c.timers = [] ∧ (∃ i, c.Live i) ∨ (∀ i, ¬c.Live i) ∧ Waiting ls c) := by
  have initial : Trying [] ({ url := url } : Client).connect := by
    have sound := (initial_sound url).connect
    have live : ({ url := url } : Client).connect.Live 0 := (sound.live 0).mpr rfl
    refine ⟨sound, rfl,
      by simp [Client.connect, Client.teardown], fun _ => rfl, fun _ => .inl ⟨rfl, 0, live⟩⟩
  have along : Along step (fun _ l => Provided l) ({ url := url } : Client).connect ls :=
    along_of_forall (fun l mem _ => provided l mem) _
  have trying : Trying ls c :=
    exec_history_along Trying (fun before allowed stepped =>
      step_trying before allowed stepped) along run initial
  have dead : c.es = none → ∀ i, ¬c.Live i := by
    intro idle i live
    rw [trying.sound.live, idle] at live
    cases live
  refine ⟨trying.called, fun closed => ⟨trying.ended closed, dead (trying.sound.closed closed)⟩,
    fun going => ?_⟩
  exact (trying.going going).imp_right fun waiting => ⟨dead waiting.1, waiting.2⟩

def channelRun : List Label := [.failed 0 0, .fire 0, .failed 1 0]

def waitingClient : Client := (exec step alertsClient.connect channelRun).getD alertsClient

theorem waiting_kept : (waitingClient.closed = true ↔ .close ∈ channelRun) ∧
    (waitingClient.closed = true → waitingClient.timers = [] ∧ ∀ i, ¬waitingClient.Live i) ∧
      (waitingClient.closed = false → waitingClient.timers = [] ∧ (∃ i, waitingClient.Live i) ∨
        (∀ i, ¬waitingClient.Live i) ∧ Waiting channelRun waitingClient) :=
  channel_kept alertsUrl (show exec step alertsClient.connect channelRun =
    some waitingClient from rfl) (by decide)

/-! ### What the portal hears -/

/-- What the listener of the provider is called with. -/
def Client.messages (c : Client) : List Emission := c.emitted.filter (·.event = messageName)

def heartbeatOf : Label → Option Event
  | .event _ ev => if ev.type = SseStream.heartbeatName then some ev else none
  | .connect | .close | .reopen | .opened _ | .failed .. | .fire _ => none

theorem connect_emitted (c : Client) : c.connect.emitted = c.emitted := by
  unfold Client.connect
  split_ifs
  · rfl
  · rw [teardown_eq]

theorem messages_emit {e : Emission} (other : e.event ≠ messageName)
    (same : d.emitted = c.emitted ++ [e]) :
    d.messages = c.messages := by
  simp [Client.messages, same, other]

/-- Of the names of the routes only the heartbeat has a listener. -/
theorem unheard : ∀ name ∈ SseStream.routeNames, name ≠ messageName ∧ name ∉ namedEvents ∧
    name ≠ SseStream.heartbeatName := by decide

theorem step_messages (routed : ∀ i ev, l = .event i ev →
    ev.type ∈ SseStream.heartbeatName :: SseStream.routeNames)
    (stepped : step c l = some d) : d.messages = c.messages ++
      (heartbeatOf l).toList.map fun ev => ⟨messageName, ev.data, SseStream.heartbeatName⟩ := by
  cases l with
  | connect => simp [← Option.some.inj stepped, Client.messages, connect_emitted, heartbeatOf]
  | close =>
    have same : c.close.emitted = c.emitted ++ [plain "close".toList] := by
      rw [close_eq, Client.emit, teardown_eq, shut_eq]
    rw [← Option.some.inj stepped, messages_emit (by decide) same]
    exact (List.append_nil _).symm
  | reopen =>
    simp [← Option.some.inj stepped, Client.messages, Client.reopen, connect_emitted, heartbeatOf]
  | opened i =>
    obtain ⟨-, now⟩ := Option.ite_none_right_eq_some.mp stepped
    rw [← Option.some.inj now, messages_emit (d := c.onopen) (e := plain "open".toList)
      (by decide) rfl]
    exact (List.append_nil _).symm
  | event i ev =>
    obtain ⟨-, now⟩ := Option.ite_none_right_eq_some.mp stepped
    rw [← Option.some.inj now]
    rcases List.mem_cons.mp (routed i ev rfl) with beat | route
    · have named : ev.type ≠ messageName ∧ ev.type ∈ namedEvents := by rw [beat]; decide
      have other : SseStream.heartbeatName ≠ messageName := by decide
      simp only [Client.hear, named.1, named.2, if_true, if_false]
      split_ifs <;> simp [Client.messages, Client.emit, heartbeatOf, beat, other]
    · obtain ⟨notMessage, notNamed, notBeat⟩ := unheard _ route
      simp [Client.hear, notMessage, notNamed, heartbeatOf, notBeat]
  | failed i random =>
    obtain ⟨-, now⟩ := Option.ite_none_right_eq_some.mp stepped
    have torn : c.teardown.emitted = c.emitted := by rw [teardown_eq]
    have same : d.messages = c.messages := by
      rw [← Option.some.inj now]
      simp only [Client.onerror]
      split_ifs
      · simp [Client.messages, torn]
      · exact messages_emit (e := plain "error".toList) (by decide) (by rw [← torn]; rfl)
    rw [same]
    exact (List.append_nil _).symm
  | fire timer =>
    obtain ⟨-, now⟩ := Option.ite_none_right_eq_some.mp stepped
    simp [← Option.some.inj now, Client.fire, Client.messages, connect_emitted, heartbeatOf,
      Client.clearTimeout]

/-- The routes name their events as no listener of the client is named. Whatever they send, the
portal is told of the heartbeats, and of no payload. -/
theorem portal_hears_heartbeats (url : Text) (run : exec step { url := url } ls = some c)
    (routed : ∀ i ev, .event i ev ∈ ls → SseStream.Routed ev) :
    c.messages = (ls.filterMap heartbeatOf).map fun ev =>
        ⟨messageName, ev.data, SseStream.heartbeatName⟩ := by
  let known (l : Label) : Prop :=
    ∀ i ev, l = .event i ev → ev.type ∈ SseStream.heartbeatName :: SseStream.routeNames
  have along : Along step (fun _ l => known l) { url := url } ls := by
    refine along_of_forall (fun l mem _ i ev same => ?_) _
    subst same
    exact (routed i ev mem).type
  refine exec_history_along (fun past c => c.messages = (past.filterMap heartbeatOf).map _)
    (fun {past _ l _} before allowed stepped => ?_) along run rfl
  rw [step_messages allowed stepped, before, List.filterMap_append, List.map_append]
  cases found : heartbeatOf l <;> simp [found]

def alertEvent : Event := ⟨"alert.event".toList, "one".toList, "1".toList⟩

def heardRun : List Label := [.connect, .opened 0, .event 0 alertEvent]

def heardClient : Client := (exec step alertsClient heardRun).getD alertsClient

theorem alert_unheard : heardClient.messages =
    (heardRun.filterMap heartbeatOf).map fun ev =>
      ⟨messageName, ev.data, SseStream.heartbeatName⟩ := by
  have told : SseStream.Routed alertEvent := by
    have named : SseStream.Name "alert.event".toList := ⟨by decide, by decide⟩
    have oneLine : SseStream.OneLine [(some "one", SseStream.noon)] := by
      unfold SseStream.OneLine
      decide
    refine .channel "alert.event".toList (by decide) [(some "one", SseStream.noon)] oneLine ?_
    rw [SseStream.received_events named oneLine]
    decide
  refine portal_hears_heartbeats alertsUrl (show exec step alertsClient heardRun =
    some heardClient from rfl) ?_
  intro i ev mem
  have same : ev = alertEvent := by
    simp only [heardRun, List.mem_cons, reduceCtorEq, Label.event.injEq, List.not_mem_nil, or_false,
      false_or] at mem
    exact mem.2
  exact same ▸ told

end AgentOE.SseClient
