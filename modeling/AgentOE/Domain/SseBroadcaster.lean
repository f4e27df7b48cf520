import Mathlib.Data.List.ReduceOption
import AgentOE.Transition

/-! `SseBroadcaster`: one bounded queue for each subscription, filled by `_fan_out` and read
by `queue_iter`, and `stop`, which puts the sentinel behind what is queued. A label is what is
done between two awaits, so a list of labels is an interleaving. -/
namespace AgentOE.SseBroadcaster
open Transition

/-- `_QUEUE_MAXSIZE`. -/
def queueMaxsize : Nat := 200

/-- What is put into a queue or yielded. In a queue `none` is the sentinel, and where it
is yielded it is a heartbeat. -/
abbrev Item := Option String

/-- `none` for `QueueFull`. -/
def putNowait (item : Item) (items : List Item) : Option (List Item) :=
  if items.length < queueMaxsize then some (items ++ [item]) else none

/-- Both callers go on after `QueueFull`. -/
def offer (item : Item) (items : List Item) : List Item := (putNowait item items).getD items

/-- Where an iterator of `queue_iter` is. It is `closed` when its reader stops asking. -/
inductive Status where
  | reading
  | finished
  | closed
  deriving DecidableEq

/-- `yielded` is history. -/
structure QueueIter where
  queue : Nat
  status : Status := .reading
  yielded : List Item := []
  deriving DecidableEq

/-- Queues and iterators are numbered. A pair of `subscribers` is a queue in the set of its
channel. `readers` is history: the queues that an iterator was opened on. -/
structure State where
  subscribers : List (String × Nat) := []
  created : List Nat := []
  queue : Nat → List Item := fun _ => []
  iterator : Nat → Option QueueIter := fun _ => none
  readers : List Nat := []
  stopEvent : Bool := false

namespace State
variable (s : State)

def Subscribed (q : Nat) : Prop := q ∈ s.subscribers.map (·.2)

instance (q : Nat) : Decidable (s.Subscribed q) := inferInstanceAs (Decidable (q ∈ _))

def subscribe (channel : String) (q : Nat) : State :=
  { s with
    subscribers := (channel, q) :: s.subscribers
    created := q :: s.created
    queue := Function.update s.queue q [] }

def unsubscribe (channel : String) (q : Nat) : State :=
  { s with subscribers := s.subscribers.filter (· ≠ (channel, q)) }

def fanOut (channel data : String) : State :=
  { s with queue := fun q => if (channel, q) ∈ s.subscribers then offer (some data) (s.queue q) else s.queue q }

def stop : State :=
  { s with
    stopEvent := true
    queue := fun q => if s.Subscribed q then offer none (s.queue q) else s.queue q }

def queueIter (i q : Nat) : State :=
  { s with iterator := Function.update s.iterator i (some { queue := q }), readers := q :: s.readers }

def setIterator (i : Nat) (it : QueueIter) : State :=
  { s with iterator := Function.update s.iterator i (some it) }

/-- What the iterator does with an item that it got. -/
def receive (i : Nat) (it : QueueIter) (item : Item) (rest : List Item) : State :=
  let s := { s with queue := Function.update s.queue it.queue rest }
  match item with
  | none => s.setIterator i { it with status := .finished }
  | some data => s.setIterator i { it with yielded := it.yielded ++ [some data] }

end State

inductive Label where
  | subscribe (channel : String) (q : Nat)
  | unsubscribe (channel : String) (q : Nat)
  | fanOut (channel data : String)
  | queueIter (i q : Nat)
  /-- `queue.get` returns within the interval. -/
  | get (i : Nat)
  /-- `wait_for` ends in `TimeoutError`. -/
  | heartbeat (i : Nat)
  | close (i : Nat)
  /-- `stop`, up to its first await. -/
  | stop
  deriving DecidableEq

/-- The iterator, while it is reading. -/
def State.reader (s : State) (i : Nat) : Option QueueIter :=
  (s.iterator i).filter (·.status = .reading)

/-- A queue is created by its subscription. Once `stop_event` is set the loop does not call
`_fan_out`, and `stop` is called once. -/
def step (s : State) : Label → Option State
  | .subscribe channel q => if q ∈ s.created then none else some (s.subscribe channel q)
  | .unsubscribe channel q => some (s.unsubscribe channel q)
  | .fanOut channel data => if s.stopEvent then none else some (s.fanOut channel data)
  | .queueIter i q => if q ∈ s.created ∧ s.iterator i = none then some (s.queueIter i q) else none
  | .get i => (s.reader i).bind fun it => match s.queue it.queue with
    | [] => none
    | item :: rest => some (s.receive i it item rest)
  | .heartbeat i => (s.reader i).map fun it =>
    s.setIterator i { it with yielded := it.yielded ++ [none] }
  | .close i => (s.reader i).map fun it => s.setIterator i { it with status := .closed }
  | .stop => if s.stopEvent then none else some s.stop

/-- A handler opens one iterator on the queue that it subscribed. -/
def SingleReader (s : State) : Label → Prop
  | .queueIter _ q => q ∉ s.readers
  | _ => True

instance (s : State) : (l : Label) → Decidable (SingleReader s l)
  | .queueIter _ q => inferInstanceAs (Decidable (q ∉ s.readers))
  | .subscribe .. | .unsubscribe .. | .fanOut .. | .get _ | .heartbeat _ | .close _ | .stop =>
    .isTrue trivial

/-- The queue is not read any more. -/
def State.Closed (s : State) (q : Nat) : Prop :=
  ∃ i it, s.iterator i = some it ∧ it.queue = q ∧ it.status = .closed

/-- The data that is left in the queue. -/
def State.remaining (s : State) (q : Nat) : List String := (s.queue q).reduceOption

def State.yieldedBy (s : State) (i : Nat) : List Item := ((s.iterator i).map (·.yielded)).getD []

/-- What `stop`, called in `s`, has achieved in `u` for an iterator of the queue `q`: since
then it has yielded what was left, in order, and heartbeats, it is not reading the drained
queue, and while it is reading it has got no more items than were left. -/
structure Reached (s u : State) (later : List Label) (q i : Nat) (it : QueueIter) : Prop where
  yields : ∃ new, it.yielded = s.yieldedBy i ++ new ∧ new.reduceOption <+: s.remaining q ∧
    (it.status = .finished → new.reduceOption = s.remaining q)
  ends : u.queue q = [] → it.status ≠ .reading
  gets : it.status = .reading → later.count (.get i) ≤ (s.remaining q).length

/-- What is not changed by what an iterator does. -/
structure SameSubscribers (s t : State) : Prop where
  subscribers : t.subscribers = s.subscribers
  created : t.created = s.created
  readers : t.readers = s.readers
  stopEvent : t.stopEvent = s.stopEvent

/-- What one step of an iterator does to its queue. `next` is the iterator after it. -/
inductive Reads (s t : State) (i : Nat) (it : QueueIter) : Label → QueueIter → Prop where
  | sentinel (rest : List Item) (queued : s.queue it.queue = none :: rest)
      (popped : t.queue = Function.update s.queue it.queue rest) :
      Reads s t i it (.get i) { it with status := .finished }
  | data (data : String) (rest : List Item) (queued : s.queue it.queue = some data :: rest)
      (popped : t.queue = Function.update s.queue it.queue rest) :
      Reads s t i it (.get i) { it with yielded := it.yielded ++ [some data] }
  | heartbeat (kept : t.queue = s.queue) :
      Reads s t i it (.heartbeat i) { it with yielded := it.yielded ++ [none] }
  | close (kept : t.queue = s.queue) : Reads s t i it (.close i) { it with status := .closed }

/-- What a step can do. -/
inductive Does (s t : State) : Label → Prop where
  | subscribe (channel : String) (q : Nat) (fresh : q ∉ s.created)
      (now : t = s.subscribe channel q) :
      Does s t (.subscribe channel q)
  | unsubscribe (channel : String) (q : Nat) (now : t = s.unsubscribe channel q) :
      Does s t (.unsubscribe channel q)
  | fanOut (channel data : String) (going : s.stopEvent = false) (now : t = s.fanOut channel data) :
      Does s t (.fanOut channel data)
  | queueIter (i q : Nat) (created : q ∈ s.created) (fresh : s.iterator i = none)
      (now : t = s.queueIter i q) :
      Does s t (.queueIter i q)
  | reads (i : Nat) (it next : QueueIter) (l : Label) (reading : s.reader i = some it)
      (read : Reads s t i it l next) (same : SameSubscribers s t)
      (now : t.iterator = Function.update s.iterator i (some next)) : Does s t l
  | stop (going : s.stopEvent = false) (now : t = s.stop) : Does s t .stop

variable {s t u : State} {l : Label} {past later : List Label} {q i j : Nat} {it jt : QueueIter}
variable {item : Item} {items rest : List Item}

theorem offer_of_room (room : items.length < queueMaxsize) :
    offer item items = items ++ [item] := by
  simp only [offer, putNowait, if_pos room, Option.getD_some]

theorem offer_of_full (full : ¬items.length < queueMaxsize) : offer item items = items := by
  simp only [offer, putNowait, if_neg full, Option.getD_none]

theorem mem_offer_some {data : String} (mem : none ∈ offer (some data) items) : none ∈ items := by
  by_cases room : items.length < queueMaxsize
  · simpa [offer_of_room room] using mem
  · simpa [offer_of_full room] using mem

theorem reader_eq_some : s.reader i = some it ↔ s.iterator i = some it ∧ it.status = .reading := by
  simp [State.reader, Option.filter_eq_some_iff]

@[simp] theorem setIterator_iterator (s : State) (i : Nat) (it : QueueIter) :
    (s.setIterator i it).iterator = Function.update s.iterator i (some it) := rfl

@[simp] theorem setIterator_queue (s : State) (i : Nat) (it : QueueIter) :
    (s.setIterator i it).queue = s.queue := rfl

theorem step_does (stepped : step s l = some t) : Does s t l := by
  cases l with
  | subscribe channel q =>
    obtain ⟨fresh, now⟩ := Option.ite_none_left_eq_some.mp stepped
    exact .subscribe channel q fresh (Option.some.inj now).symm
  | unsubscribe channel q => exact .unsubscribe channel q (Option.some.inj stepped).symm
  | fanOut channel data =>
    obtain ⟨going, now⟩ := Option.ite_none_left_eq_some.mp stepped
    exact .fanOut channel data (Bool.eq_false_iff.mpr going) (Option.some.inj now).symm
  | queueIter i q =>
    obtain ⟨⟨created, fresh⟩, now⟩ := Option.ite_none_right_eq_some.mp stepped
    exact .queueIter i q created fresh (Option.some.inj now).symm
  | get i =>
    obtain ⟨it, reading, got⟩ := Option.bind_eq_some_iff.mp stepped
    split at got
    · cases got
    · rename_i item rest queued
      cases Option.some.inj got
      cases item with
      | none => exact .reads i it _ _ reading (.sentinel rest queued rfl) ⟨rfl, rfl, rfl, rfl⟩ rfl
      | some data =>
        exact .reads i it _ _ reading (.data data rest queued rfl) ⟨rfl, rfl, rfl, rfl⟩ rfl
  | heartbeat i =>
    obtain ⟨it, reading, now⟩ := Option.map_eq_some_iff.mp stepped
    subst now
    exact .reads i it _ _ reading (.heartbeat rfl) ⟨rfl, rfl, rfl, rfl⟩ rfl
  | close i =>
    obtain ⟨it, reading, now⟩ := Option.map_eq_some_iff.mp stepped
    subst now
    exact .reads i it _ _ reading (.close rfl) ⟨rfl, rfl, rfl, rfl⟩ rfl
  | stop =>
    obtain ⟨going, now⟩ := Option.ite_none_left_eq_some.mp stepped
    exact .stop (Bool.eq_false_iff.mpr going) (Option.some.inj now).symm

theorem stopEvent_of_step (stepped : step s l = some t) (going : t.stopEvent = false) :
    s.stopEvent = false := by
  cases step_does stepped with
  | subscribe channel q fresh now =>
    subst now
    exact going
  | unsubscribe channel q now =>
    subst now
    exact going
  | fanOut channel data going now => exact going
  | queueIter i q created fresh now =>
    subst now
    exact going
  | reads i it next l reading read same now => exact same.stopEvent ▸ going
  | stop going now => exact going

theorem Reads.queue_eq {next : QueueIter} (read : Reads s t i it l next) :
    next.queue = it.queue := by
  cases read <;> rfl

theorem Reads.queue_other {next : QueueIter} (read : Reads s t i it l next) (other : q ≠ it.queue) :
    t.queue q = s.queue q := by
  cases read with
  | sentinel rest queued popped => rw [popped, Function.update_of_ne other]
  | data data rest queued popped => rw [popped, Function.update_of_ne other]
  | heartbeat kept => rw [kept]
  | close kept => rw [kept]

theorem update_cases {iterator : Nat → Option QueueIter} {next : QueueIter}
    (has : Function.update iterator i (some next) j = some jt) :
    j = i ∧ jt = next ∨ j ≠ i ∧ iterator j = some jt := by
  by_cases here : j = i
  · subst here
    rw [Function.update_self] at has
    exact .inl ⟨rfl, (Option.some.inj has).symm⟩
  · rw [Function.update_of_ne here] at has
    exact .inr ⟨here, has⟩

/-- Every queue that is subscribed exists, and no two iterators share a queue. -/
structure Owned (s : State) : Prop where
  subscribed : ∀ q, s.Subscribed q → q ∈ s.created
  reader : ∀ i it, s.iterator i = some it → it.queue ∈ s.readers
  single : ∀ i it, s.iterator i = some it → ∀ j jt, s.iterator j = some jt →
    jt.queue = it.queue → j = i
  opened : ∀ q ∈ s.readers, ∃ i it, s.iterator i = some it ∧ it.queue = q

theorem Owned.queueIter (before : Owned s) (fresh : s.iterator i = none) (unread : q ∉ s.readers) :
    Owned (s.queueIter i q) := by
  have opened (j : Nat) (jt : QueueIter) (has : (s.queueIter i q).iterator j = some jt) :
      j = i ∧ jt.queue = q ∨ s.iterator j = some jt ∧ jt.queue ≠ q := by
    rcases update_cases has with ⟨rfl, rfl⟩ | ⟨-, older⟩
    · exact .inl ⟨rfl, rfl⟩
    · exact .inr ⟨older, fun clash => unread (clash ▸ before.reader j jt older)⟩
  refine ⟨before.subscribed, fun j jt has => ?_, fun j jt hasJ k kt hasK clash => ?_,
    fun p read => ?_⟩
  · rcases opened j jt has with ⟨-, rfl⟩ | ⟨older, -⟩
    · exact List.mem_cons_self
    · exact List.mem_cons_of_mem _ (before.reader j jt older)
  · rcases opened j jt hasJ with ⟨rfl, onQ⟩ | ⟨olderJ, notQ⟩ <;>
      rcases opened k kt hasK with ⟨rfl, onQ'⟩ | ⟨olderK, notQ'⟩
    · rfl
    · exact absurd (clash.trans onQ) notQ'
    · exact absurd (clash.symm.trans onQ') notQ
    · exact before.single j jt olderJ k kt olderK clash
  · rcases List.mem_cons.mp read with rfl | older
    · exact ⟨i, { queue := p }, Function.update_self .., rfl⟩
    · obtain ⟨j, jt, has, onP⟩ := before.opened p older
      have other : j ≠ i := fun here => by simp [here, fresh] at has
      exact ⟨j, jt, (Function.update_of_ne other ..).trans has, onP⟩

/-- An iterator keeps its queue. -/
theorem Owned.reads (before : Owned s) {next : QueueIter} (reading : s.reader i = some it)
    (read : Reads s t i it l next) (same : SameSubscribers s t)
    (now : t.iterator = Function.update s.iterator i (some next)) : Owned t := by
  have had := (reader_eq_some.mp reading).1
  have older (j : Nat) (jt : QueueIter) (has : t.iterator j = some jt) :
      ∃ kt, s.iterator j = some kt ∧ kt.queue = jt.queue := by
    rcases update_cases (now ▸ has) with ⟨rfl, rfl⟩ | ⟨-, older⟩
    · exact ⟨it, had, read.queue_eq.symm⟩
    · exact ⟨jt, older, rfl⟩
  refine ⟨fun p subscribed => ?_, fun j jt has => ?_, fun j jt hasJ k kt hasK clash => ?_,
    fun p opened => ?_⟩
  · rw [same.created]
    exact before.subscribed p (by rwa [State.Subscribed, same.subscribers] at subscribed)
  · obtain ⟨kt, had', onQ⟩ := older j jt has
    rw [same.readers, ← onQ]
    exact before.reader j kt had'
  · obtain ⟨jt', hadJ, sameJ⟩ := older j jt hasJ
    obtain ⟨kt', hadK, sameK⟩ := older k kt hasK
    exact before.single j jt' hadJ k kt' hadK (by rw [sameK, sameJ, clash])
  · obtain ⟨j, jt, has, onP⟩ := before.opened p (same.readers ▸ opened)
    by_cases here : j = i
    · subst here
      cases Option.some.inj (had.symm.trans has)
      exact ⟨j, next, now ▸ Function.update_self .., read.queue_eq.trans onP⟩
    · exact ⟨j, jt, now ▸ (Function.update_of_ne here ..).trans has, onP⟩

theorem step_owned (before : Owned s) (allowed : SingleReader s l) (stepped : step s l = some t) :
    Owned t := by
  cases step_does stepped with
  | subscribe channel q fresh now =>
    subst now
    refine ⟨fun p subscribed => ?_, before.reader, before.single, before.opened⟩
    rcases List.mem_cons.mp subscribed with rfl | older
    · exact List.mem_cons_self
    · exact List.mem_cons_of_mem _ (before.subscribed p older)
  | unsubscribe channel q now =>
    subst now
    refine ⟨fun p subscribed => before.subscribed p ?_, before.reader, before.single, before.opened⟩
    obtain ⟨entry, kept, rfl⟩ := List.mem_map.mp subscribed
    exact List.mem_map_of_mem (List.mem_of_mem_filter kept)
  | fanOut channel data going now =>
    subst now
    exact ⟨before.subscribed, before.reader, before.single, before.opened⟩
  | stop going now =>
    subst now
    exact ⟨before.subscribed, before.reader, before.single, before.opened⟩
  | queueIter i q created fresh now =>
    subst now
    exact before.queueIter fresh allowed
  | reads i it next l reading read same now => exact before.reads reading read same now

/-- Before `stop` no queue holds the sentinel, so no iterator has finished. -/
structure Going (s : State) : Prop where
  data : ∀ q, none ∉ s.queue q
  unfinished : ∀ i it, s.iterator i = some it → it.status ≠ .finished

theorem Going.reads (before : Going s) {next : QueueIter} (reading : s.reader i = some it)
    (read : Reads s t i it l next) (now : t.iterator = Function.update s.iterator i (some next)) :
    Going t := by
  obtain ⟨had, isReading⟩ := reader_eq_some.mp reading
  have others (j : Nat) (jt : QueueIter) (notFinished : next.status ≠ .finished)
      (has : t.iterator j = some jt) : jt.status ≠ .finished := by
    rcases update_cases (now ▸ has) with ⟨-, rfl⟩ | ⟨-, older⟩
    · exact notFinished
    · exact before.unfinished j jt older
  cases read with
  | sentinel rest queued popped => exact absurd (queued ▸ List.mem_cons_self) (before.data it.queue)
  | data data rest queued popped =>
    refine ⟨fun p mem => before.data p ?_, fun j jt => others j jt (by simp [isReading])⟩
    by_cases here : p = it.queue
    · subst here
      rw [popped, Function.update_self] at mem
      exact queued ▸ List.mem_cons_of_mem _ mem
    · rwa [popped, Function.update_of_ne here] at mem
  | heartbeat kept => exact ⟨kept ▸ before.data, fun j jt => others j jt (by simp [isReading])⟩
  | close kept => exact ⟨kept ▸ before.data, fun j jt => others j jt (by simp)⟩

theorem step_going (before : Going s) (stepped : step s l = some t) (going : t.stopEvent = false) :
    Going t := by
  cases step_does stepped with
  | subscribe channel q fresh now =>
    subst now
    refine ⟨fun p mem => ?_, before.unfinished⟩
    by_cases here : p = q
    · subst here
      simp [State.subscribe] at mem
    · exact before.data p (by simpa [State.subscribe, here] using mem)
  | unsubscribe channel q now =>
    subst now
    exact ⟨before.data, before.unfinished⟩
  | fanOut channel data still now =>
    subst now
    refine ⟨fun p mem => before.data p ?_, before.unfinished⟩
    by_cases listens : (channel, p) ∈ s.subscribers
    · have offered : none ∈ offer (some data) (s.queue p) := by
        simpa [State.fanOut, listens] using mem
      exact mem_offer_some offered
    · simpa [State.fanOut, listens] using mem
  | stop still now =>
    subst now
    cases going
  | queueIter i q created fresh now =>
    subst now
    refine ⟨before.data, fun j jt has => ?_⟩
    rcases update_cases has with ⟨-, rfl⟩ | ⟨-, older⟩
    · simp
    · exact before.unfinished j jt older
  | reads i it next l reading read same now => exact before.reads reading read now

/-- How far an iterator of the queue has come in the steps after `stop` was called in `s`. -/
structure Drained (s u : State) (later : List Label) (q i : Nat) (it : QueueIter)
    (new : List Item) : Prop where
  yielded : it.yielded = s.yieldedBy i ++ new
  order : new.reduceOption <+: s.remaining q
  finished : it.status = .finished → new.reduceOption = s.remaining q
  reading : it.status = .reading → ∃ rest, s.remaining q = new.reduceOption ++ rest ∧
    u.queue q = rest.map some ++ [none] ∧ later.count (.get i) = new.reduceOption.length

/-- The queue after `stop` was called in `s`: it ends in the sentinel until that is read. -/
structure Draining (s : State) (q : Nat) (later : List Label) (u : State) : Prop where
  owned : Owned u
  stopped : u.stopEvent = true
  created : q ∈ u.created
  unread : q ∉ u.readers → u.queue q = (s.remaining q).map some ++ [none]
  unopened : ∀ i, u.iterator i = none → s.yieldedBy i = [] ∧ later.count (.get i) = 0
  read : ∀ i it, u.iterator i = some it → it.queue = q → ∃ new, Drained s u later q i it new

theorem count_other (other : l ≠ .get i) : (later ++ [l]).count (.get i) =
    later.count (.get i) := by
  rw [List.count_append, List.count_singleton, if_neg (by simpa using other), Nat.add_zero]

theorem count_get : (later ++ [Label.get i]).count (.get i) = later.count (.get i) + 1 := by
  rw [List.count_append, List.count_singleton, if_pos (by simp)]

theorem Drained.frame {new : List Item} (before : Drained s t later q i it new)
    (kept : u.queue q = t.queue q) (other : l ≠ .get i) :
    Drained s u (later ++ [l]) q i it new := by
  refine ⟨before.yielded, before.order, before.finished, fun isReading => ?_⟩
  rw [kept, count_other other]
  exact before.reading isReading

theorem Draining.frame (before : Draining s q later t) (owned : Owned u)
    (stopped : u.stopEvent = true) (created : q ∈ u.created) (kept : u.queue q = t.queue q)
    (readers : u.readers = t.readers) (iterator : u.iterator = t.iterator)
    (other : ∀ i, l ≠ .get i) : Draining s q (later ++ [l]) u := by
  refine ⟨owned, stopped, created, ?_, fun i none => ?_, fun i it has onQ => ?_⟩
  · rw [readers, kept]
    exact before.unread
  · rw [count_other (other i)]
    exact before.unopened i (iterator ▸ none)
  · obtain ⟨new, drained⟩ := before.read i it (iterator ▸ has) onQ
    exact ⟨new, drained.frame kept (other i)⟩

theorem Drained.reads {new : List Item} {next : QueueIter} (before : Drained s t later q i it new)
    (onQ : it.queue = q) (isReading : it.status = .reading) (read : Reads t u i it l next) :
    ∃ new, Drained s u (later ++ [l]) q i next new := by
  obtain ⟨left, remaining, queue, got⟩ := before.reading isReading
  cases read with
  | sentinel rest queued popped =>
    -- The sentinel is in front only when nothing is left.
    rw [onQ, queue] at queued
    cases left with
    | cons data left => cases queued
    | nil =>
      rw [List.append_nil] at remaining
      exact ⟨new, before.yielded, before.order, fun _ => remaining.symm, nofun⟩
  | data data rest queued popped =>
    rw [onQ, queue] at queued
    cases left with
    | nil => cases queued
    | cons first left =>
      obtain ⟨same, tail⟩ := List.cons.inj queued
      cases same
      have more : (new ++ [some data]).reduceOption = new.reduceOption ++ [data] :=
        List.reduceOption_append new [some data]
      have split : s.remaining q = (new ++ [some data]).reduceOption ++ left := by
        rw [more, remaining, List.append_assoc, List.singleton_append]
      refine ⟨new ++ [some data], ?_, ⟨left, split.symm⟩, fun done => ?_,
        fun _ => ⟨left, split, ?_, ?_⟩⟩
      · simp only [before.yielded, List.append_assoc]
      · exact absurd (isReading.symm.trans done) (by simp)
      · rw [popped, onQ, Function.update_self, ← tail]
        rfl
      · rw [count_get, got, more, List.length_append, List.length_singleton]
  | heartbeat kept =>
    have same : (new ++ [none]).reduceOption = new.reduceOption := by
      rw [List.reduceOption_append, List.reduceOption_cons_of_none, List.reduceOption_nil,
        List.append_nil]
    refine ⟨new ++ [none], ?_, ?_, fun done => ?_, fun _ => ?_⟩
    · simp only [before.yielded, List.append_assoc]
    · rw [same]
      exact before.order
    · exact absurd (isReading.symm.trans done) (by simp)
    · rw [same, count_other (by simp)]
      exact ⟨left, remaining, by rw [kept, queue], got⟩
  | close kept => exact ⟨new, before.yielded, before.order, nofun, nofun⟩

theorem step_draining (before : Draining s q later t) (allowed : SingleReader t l)
    (stepped : step t l = some u) : Draining s q (later ++ [l]) u := by
  have owned := step_owned before.owned allowed stepped
  have stopped := before.stopped
  cases step_does stepped with
  | subscribe channel p fresh now =>
    subst now
    have other : q ≠ p := fun clash => fresh (clash ▸ before.created)
    exact before.frame owned stopped (List.mem_cons_of_mem p before.created)
      (Function.update_of_ne other _ _)
      rfl rfl (by simp)
  | unsubscribe channel p now =>
    subst now
    exact before.frame owned stopped before.created rfl rfl rfl (by simp)
  | fanOut channel data going now => exact absurd (stopped.symm.trans going) (by simp)
  | stop going now => exact absurd (stopped.symm.trans going) (by simp)
  | queueIter i p created fresh now =>
    subst now
    obtain ⟨nothing, none⟩ := before.unopened i fresh
    refine ⟨owned, stopped, before.created, fun unread => ?_, fun j closed => ?_,
      fun j jt has onQ => ?_⟩
    · exact before.unread fun older => unread (List.mem_cons_of_mem p older)
    · rw [count_other (by simp)]
      by_cases here : j = i
      · rw [here]
        exact ⟨nothing, none⟩
      · exact before.unopened j (by simpa [State.queueIter, here] using closed)
    · rcases update_cases has with ⟨rfl, rfl⟩ | ⟨-, older⟩
      · subst onQ
        refine ⟨[], by simp [nothing], by simp, nofun, fun _ => ⟨s.remaining p, rfl, ?_, ?_⟩⟩
        · exact before.unread allowed
        · rw [count_other (by simp), none]
          rfl
      · obtain ⟨new, drained⟩ := before.read j jt older onQ
        exact ⟨new, drained.frame rfl (by simp)⟩
  | reads i it next l reading read same now =>
    obtain ⟨had, isReading⟩ := reader_eq_some.mp reading
    have unopened (j : Nat) (absent : u.iterator j = none) : j ≠ i ∧ t.iterator j = none := by
      have other : j ≠ i := fun here => by simp [now, here] at absent
      exact ⟨other, by simpa [now, other] using absent⟩
    have notOther (j : Nat) (other : j ≠ i) : l ≠ .get j := by
      cases read <;> simp [other.symm]
    refine ⟨owned, same.stopEvent ▸ stopped, same.created ▸ before.created, fun unread => ?_,
      fun j absent => ?_, fun j jt has onQ => ?_⟩
    · have other : q ≠ it.queue := fun here =>
        unread (here ▸ same.readers ▸ before.owned.reader i it had)
      rw [read.queue_other other]
      exact before.unread (same.readers ▸ unread)
    · obtain ⟨other, absent⟩ := unopened j absent
      rw [count_other (notOther j other)]
      exact before.unopened j absent
    · rcases update_cases (now ▸ has) with ⟨rfl, rfl⟩ | ⟨apart, older⟩
      · have onQ : it.queue = q := read.queue_eq ▸ onQ
        obtain ⟨new, drained⟩ := before.read j it had onQ
        exact drained.reads onQ isReading read
      · obtain ⟨new, drained⟩ := before.read j jt older onQ
        have other : q ≠ it.queue := fun here =>
          apart (before.owned.single i it had j jt older (onQ.trans here))
        exact ⟨new, drained.frame (read.queue_other other) (notOther j apart)⟩

theorem owned_initial : Owned {} := ⟨by simp [State.Subscribed], by simp, by simp, by simp⟩

theorem going_initial : Going {} := ⟨by simp, by simp⟩

theorem exec_going (run : exec step s past = some t) (before : Going s)
    (going : t.stopEvent = false) : Going t := by
  have kept : t.stopEvent = false → Going t := by
    refine exec_preserves (fun s => s.stopEvent = false → Going s)
      (fun s l t before stepped still => ?_) run
      fun _ => before
    exact step_going (before (stopEvent_of_step stepped still)) stepped still
  exact kept going

theorem map_reduceOption (data : none ∉ items) : items.reduceOption.map some = items := by
  induction items with
  | nil => rfl
  | cons item items ih =>
    obtain ⟨isData, rest⟩ := not_or.mp (List.mem_cons.not.mp data)
    cases item with
    | none => exact absurd rfl isData
    | some data => rw [List.reduceOption_cons_of_some, List.map_cons, ih rest]

theorem stop_draining (owned : Owned s) (going : Going s) (subscribed : s.Subscribed q)
    (still : s.stopEvent = false) (room : (s.queue q).length < queueMaxsize) :
    Draining s q [] s.stop := by
  have stepped : step s .stop = some s.stop := by simp [step, still]
  have after := step_owned (l := .stop) owned trivial stepped
  have queue : s.stop.queue q = (s.remaining q).map some ++ [none] := by
    rw [State.remaining, map_reduceOption (going.data q)]
    simp only [State.stop, if_pos subscribed, offer_of_room room]
  refine ⟨after, rfl, owned.subscribed q subscribed, fun _ => queue, fun i absent => ⟨?_, rfl⟩,
    fun i it has onQ =>
      ⟨[], ?_, by simp, fun done => ?_, fun _ => ⟨s.remaining q, rfl, queue, rfl⟩⟩⟩
  · have absent : s.iterator i = none := absent
    simp [State.yieldedBy, absent]
  · have has : s.iterator i = some it := has
    simp [State.yieldedBy, has]
  · exact absurd done (going.unfinished i it has)


theorem Draining.reached (draining : Draining s q later u) (has : u.iterator i = some it)
    (onQ : it.queue = q) : Reached s u later q i it := by
  obtain ⟨new, drained⟩ := draining.read i it has onQ
  refine ⟨⟨new, drained.yielded, drained.order, drained.finished⟩, fun empty isReading => ?_,
    fun isReading => ?_⟩
  · obtain ⟨rest, -, queue, -⟩ := drained.reading isReading
    simp [empty] at queue
  · obtain ⟨rest, -, -, got⟩ := drained.reading isReading
    rw [got]
    exact drained.order.length_le

/-- An iterator that is closed stays as it is. -/
theorem step_closed (stepped : step s l = some t) (has : s.iterator i = some it)
    (closed : it.status = .closed) : t.iterator i = some it := by
  cases step_does stepped with
  | subscribe channel q fresh now => exact now ▸ has
  | unsubscribe channel q now => exact now ▸ has
  | fanOut channel data going now => exact now ▸ has
  | stop going now => exact now ▸ has
  | queueIter j q created fresh now =>
    have other : i ≠ j := fun here => by simp [here, fresh] at has
    subst now
    exact (Function.update_of_ne other ..).trans has
  | reads j jt next l reading read same now =>
    obtain ⟨had, isReading⟩ := reader_eq_some.mp reading
    have other : i ≠ j := by
      rintro rfl
      cases Option.some.inj (had.symm.trans has)
      cases isReading.symm.trans closed
    rw [now, Function.update_of_ne other, has]

theorem closed_reached (owned : Owned u) (after : exec step s.stop later = some u)
    (closed : s.Closed q) (has : u.iterator i = some it) (onQ : it.queue = q) :
    Reached s u later q i it := by
  obtain ⟨j, jt, had, onQ', isClosed⟩ := closed
  have still : u.iterator j = some jt :=
    exec_preserves (fun u => u.iterator j = some jt)
      (fun s l t before stepped => step_closed stepped before isClosed)
      after had
  have here := owned.single j jt still i it has (onQ.trans onQ'.symm)
  subst here
  cases Option.some.inj (has.symm.trans still)
  refine ⟨⟨[], ?_, by simp, fun done => ?_⟩, fun _ isReading => ?_, fun isReading => ?_⟩
  · simp [State.yieldedBy, had]
  all_goals cases isClosed.symm.trans ‹_›

/-- Only so many iterators are open. -/
theorem exists_unopened (run : exec step {} past = some s) : ∃ i, s.iterator i = none := by
  have bounded : ∃ n, ∀ i, n ≤ i → s.iterator i = none := by
    refine exec_preserves (fun s => ∃ n, ∀ i, n ≤ i → s.iterator i = none)
      (fun s l t before stepped => ?_) run ⟨0, fun _ _ => rfl⟩
    obtain ⟨n, none⟩ := before
    cases step_does stepped with
    | subscribe channel q fresh now => exact ⟨n, now ▸ none⟩
    | unsubscribe channel q now => exact ⟨n, now ▸ none⟩
    | fanOut channel data going now => exact ⟨n, now ▸ none⟩
    | stop going now => exact ⟨n, now ▸ none⟩
    | queueIter j q created fresh now =>
      refine ⟨n + j + 1, fun i above => ?_⟩
      subst now
      exact (Function.update_of_ne (by omega) ..).trans (none i (by omega))
    | reads j jt next l reading read same now =>
      have below : j < n := by
        by_contra above
        cases (none j (by omega)).symm.trans (reader_eq_some.mp reading).1
      refine ⟨n, fun i above => ?_⟩
      rw [now, Function.update_of_ne (by omega), none i above]
  obtain ⟨n, none⟩ := bounded
  exact ⟨n, none n (Nat.le_refl n)⟩

/-- A reader without the sentinel gets what is left and goes on reading. -/
theorem exec_gets (data : List String) (has : s.iterator i = some it)
    (isReading : it.status = .reading) (queue : s.queue it.queue = data.map some) :
    ∃ t jt, exec step s (List.replicate data.length (.get i)) = some t ∧ t.iterator i = some jt ∧
      jt.queue = it.queue ∧ jt.status = .reading ∧ t.queue it.queue = [] := by
  induction data generalizing s it with
  | nil => exact ⟨s, it, rfl, has, rfl, isReading, queue⟩
  | cons first data ih =>
    have reading := reader_eq_some.mpr ⟨has, isReading⟩
    have got : step s (.get i) = some (s.receive i it (some first) (data.map some)) := by
      simp only [step, reading, Option.bind_some, queue, List.map_cons]
    have next : (s.receive i it (some first) (data.map some)).iterator i =
        some { it with yielded := it.yielded ++ [some first] } := Function.update_self ..
    have left : (s.receive i it (some first) (data.map some)).queue it.queue = data.map some :=
      Function.update_self ..
    obtain ⟨t, jt, run, has', onQ, still, empty⟩ := ih next isReading left
    exact ⟨t, jt, exec_cons.mpr ⟨_, got, run⟩, has', onQ, still, empty⟩

/-- `stop`, called in `s`, reaches every iterator on a queue that is subscribed, whatever is
done after it. -/
def State.StopReaches (s : State) : Prop :=
  ∀ later u, exec step s.stop later = some u → Along step SingleReader s.stop later →
    ∀ q i it, s.Subscribed q → u.iterator i = some it → it.queue = q → Reached s u later q i it

/-- A full queue drains with its iterator still reading. -/
theorem full_queue_drains (owned : Owned s) (going : Going s) (unopened : s.iterator j = none)
    (subscribed : s.Subscribed q) (full : ¬(s.queue q).length < queueMaxsize)
    (notClosed : ¬s.Closed q) : ∃ later u i it, exec step s.stop later = some u ∧
      Along step SingleReader s.stop later ∧ u.iterator i = some it ∧ it.queue = q ∧
        it.status = .reading ∧ u.queue q = [] := by
  have queue : s.stop.queue q = (s.remaining q).map some := by
    rw [State.remaining, map_reduceOption (going.data q)]
    simp only [State.stop, if_pos subscribed, offer_of_full full]
  have gets (i : Nat) (t : State) : Along step SingleReader t
      (List.replicate (s.remaining q).length (.get i)) :=
    along_of_forall (fun l mem _ => by rw [List.eq_of_mem_replicate mem]; trivial) t
  by_cases read : q ∈ s.readers
  · obtain ⟨i, it, has, rfl⟩ := owned.opened q read
    have isReading : it.status = .reading := by
      cases here : it.status with
      | reading => rfl
      | finished => exact absurd here (going.unfinished i it has)
      | closed => exact absurd ⟨i, it, has, rfl, here⟩ notClosed
    have has : s.stop.iterator i = some it := has
    obtain ⟨u, jt, run, has, onQ, reads, empty⟩ :=
      exec_gets (s.remaining it.queue) has isReading queue
    exact ⟨_, u, i, jt, run, gets i _, has, onQ, reads, empty⟩
  · have opened : step s.stop (.queueIter j q) = some (s.stop.queueIter j q) :=
      if_pos ⟨owned.subscribed q subscribed, unopened⟩
    have has : (s.stop.queueIter j q).iterator j = some { queue := q } := Function.update_self ..
    obtain ⟨u, jt, run, has, onQ, reads, empty⟩ := exec_gets (s.remaining q) has rfl queue
    exact ⟨_, u, j, jt, exec_cons.mpr ⟨_, opened, run⟩, along_cons read opened (gets j _), has, onQ,
      reads, empty⟩

/-- `stop` reaches every iterator just when no queue that may still be read is full. -/
theorem stop_reaches_iff (run : exec step {} past = some s)
    (single : Along step SingleReader {} past) (still : s.stopEvent = false) :
    s.StopReaches ↔ ∀ q, s.Subscribed q → (s.queue q).length < queueMaxsize ∨ s.Closed q := by
  have owned : Owned s := exec_invariant step_owned single run owned_initial
  have going := exec_going run going_initial still
  constructor
  · intro reaches q subscribed
    by_contra bad
    obtain ⟨full, notClosed⟩ := not_or.mp bad
    obtain ⟨j, unopened⟩ := exists_unopened run
    obtain ⟨later, u, i, it, after, along, has, onQ, reading, empty⟩ :=
      full_queue_drains owned going unopened subscribed full notClosed
    exact (reaches later u after along q i it subscribed has onQ).ends empty reading
  · intro room later u after along q i it subscribed has onQ
    have stopped : Owned s.stop := ⟨owned.subscribed, owned.reader, owned.single, owned.opened⟩
    rcases room q subscribed with room | closed
    · have started := stop_draining owned going subscribed still room
      have draining : Draining s q later u :=
        exec_history_along (Draining s q) step_draining along after started
      exact draining.reached has onQ
    · exact closed_reached (exec_invariant step_owned along after stopped) after closed has onQ

def audit : String := "agentoe:events:audit"

/-- A queue that holds one event when `stop` is called. -/
theorem short_queue_reached : ∃ s, exec step {} [.subscribe audit 0, .queueIter 0 0,
    .fanOut audit "seq 1"] = some s ∧ s.Subscribed 0 ∧ s.StopReaches := by
  let past : List Label := [.subscribe audit 0, .queueIter 0 0, .fanOut audit "seq 1"]
  have run : exec step {} past =
    some (((({} : State).subscribe audit 0).queueIter 0 0).fanOut audit "seq 1") := rfl
  refine ⟨_, run, by decide, (stop_reaches_iff run (by decide) rfl).mpr fun q subscribed => .inl ?_⟩
  have only : q = 0 := by
    simpa [State.Subscribed, State.subscribe, State.queueIter, State.fanOut] using subscribed
  subst only
  decide

/-- Events fill a queue that has room for them. -/
theorem exec_fanOuts {channel : String} (data : String) (n : Nat)
    (listens : (channel, q) ∈ s.subscribers) (still : s.stopEvent = false)
    (room : (s.queue q).length + n ≤ queueMaxsize) :
    ∃ t, exec step s (List.replicate n (.fanOut channel data)) = some t ∧
      t.subscribers = s.subscribers ∧ t.iterator = s.iterator ∧ t.stopEvent = false ∧
        t.queue q = s.queue q ++ List.replicate n (some data) := by
  induction n generalizing s with
  | zero => exact ⟨s, rfl, rfl, rfl, still, (List.append_nil _).symm⟩
  | succ n ih =>
    have sent : step s (.fanOut channel data) = some (s.fanOut channel data) := by
      simp [step, still]
    have queue : (s.fanOut channel data).queue q = s.queue q ++ [some data] := by
      simp only [State.fanOut, if_pos listens]
      exact offer_of_room (by omega)
    have left : ((s.fanOut channel data).queue q).length + n ≤ queueMaxsize := by
      simp only [queue, List.length_append, List.length_singleton]
      omega
    obtain ⟨t, run, subscribers, iterator, going, filled⟩ :=
      ih (s := s.fanOut channel data) listens still left
    refine ⟨t, exec_cons.mpr ⟨_, sent, run⟩, subscribers, iterator, going, ?_⟩
    rw [filled, queue, List.append_assoc, List.singleton_append, List.replicate_succ]

/-- The iterator of a queue that 200 events have filled has read them all after `stop`, and goes
on. -/
theorem full_queue_loses_sentinel : ∃ s u it,
    exec step {} ([.subscribe audit 0, .queueIter 0 0] ++
      List.replicate 200 (.fanOut audit "seq")) = some s ∧
    s.Subscribed 0 ∧ exec step s.stop (List.replicate 200 (.get 0)) = some u ∧
      u.iterator 0 = some it ∧
    it.queue = 0 ∧ u.queue 0 = [] ∧ it.status = .reading ∧ ¬s.StopReaches := by
  let opened := (({} : State).subscribe audit 0).queueIter 0 0
  have start : exec step {} [.subscribe audit 0, .queueIter 0 0] = some opened := rfl
  obtain ⟨s, filled, subscribers, iterator, -, queue⟩ :=
    exec_fanOuts (s := opened) (q := 0) "seq" 200 (List.mem_singleton.mpr rfl) rfl (by decide)
  have subscribed : s.Subscribed 0 := by
    rw [State.Subscribed, subscribers]
    decide
  have full : s.stop.queue 0 = (List.replicate 200 "seq").map some := by
    have same : s.queue 0 = (List.replicate 200 "seq").map some := by
      rw [queue, List.map_replicate]
      rfl
    have noRoom : ¬(s.queue 0).length < queueMaxsize := by
      rw [same, List.length_map, List.length_replicate]
      decide
    simp only [State.stop, if_pos subscribed, offer_of_full noRoom]
    exact same
  have has : s.stop.iterator 0 = some { queue := 0 } := iterator ▸ rfl
  obtain ⟨u, it, drained, reads, onQ, reading, empty⟩ :=
    exec_gets (List.replicate 200 "seq") has rfl full
  rw [List.length_replicate] at drained
  refine ⟨s, u, it, exec_append.mpr ⟨opened, start, filled⟩, subscribed, drained, reads, onQ, empty,
    reading, ?_⟩
  intro reaches
  have meets : Along step SingleReader s.stop (List.replicate 200 (.get 0)) :=
    along_of_forall (fun l mem _ => by rw [List.eq_of_mem_replicate mem]; trivial) _
  exact (reaches _ u drained meets 0 0 it subscribed reads onQ).ends empty reading

end AgentOE.SseBroadcaster
