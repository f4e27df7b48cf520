import Mathlib.Data.Nat.Digits.Lemmas
import AgentOE.EventStream
import AgentOE.Domain.SseBroadcaster

/-! What the routes of `stream.py` send for the payloads that `queue_iter` yields, and what a
browser reads of it. -/
namespace AgentOE.SseStream
open Transition SseBroadcaster EventStream

/-- The characters of `datetime.isoformat`. -/
abbrev Iso := {text : Text // ∀ c ∈ text, c.isDigit = true ∨ c ∈ "-:T+.".toList}

/-- `_sse_event`. The data of a `dict` is the text that `json.dumps` makes of it. -/
def sseEvent (event data : Text) (id : Option Text) : Text :=
  let lines := (id.filter (· ≠ [])).toList.map ("id: ".toList ++ ·) ++
    ["event: ".toList ++ event, "data: ".toList ++ data, [], []]
  ['\n'].intercalate lines

def heartbeatName : Text := "heartbeat".toList

/-- `json.dumps` of the time, which has nothing to escape. -/
def heartbeatData (now : Iso) : Text := "\x7b\"ts\": \"".toList ++ now.1 ++ "\"\x7d".toList

/-- `_heartbeat`. -/
def heartbeat (now : Iso) : Text := sseEvent heartbeatName (heartbeatData now) none

def str (n : Nat) : Text := Nat.toDigits 10 n

/-- The frames of `_redis_channel_stream` for what is yielded, each with the time at which it
is. Without a broadcaster there are heartbeats only. -/
def redisChannelStream (eventName : Text) : Nat → List (Item × Iso) → List Text
  | _, [] => []
  | seq, (none, now) :: rest => heartbeat now :: redisChannelStream eventName seq rest
  | seq, (some payload, _) :: rest =>
    sseEvent eventName payload.toList (some (str (seq + 1))) ::
      redisChannelStream eventName (seq + 1) rest

/-- The id that the browser has read after `seq` payloads. -/
def lastId (seq : Nat) : Text := if seq = 0 then [] else str seq

/-- The events that the frames stand for. -/
def events (eventName : Text) : Nat → List (Item × Iso) → List Event
  | _, [] => []
  | seq, (none, now) :: rest =>
    ⟨heartbeatName, heartbeatData now, lastId seq⟩ :: events eventName seq rest
  | seq, (some payload, _) :: rest =>
    ⟨eventName, payload.toList, str (seq + 1)⟩ :: events eventName (seq + 1) rest

/-- What a browser has dispatched after the text. -/
def received (text : Text) : List Event := (({} : Reader).feed text).dispatched

structure Name (eventName : Text) : Prop where
  nonempty : eventName ≠ []
  clean : Clean eventName

/-- Each payload stays on its line. -/
def OneLine (items : List (Item × Iso)) : Prop :=
  ∀ payload ∈ items.filterMap (·.1), Clean payload.toList

variable {eventName data : Text} {id? : Option Text} {now : Iso} {n seq : Nat}
    {items : List (Item × Iso)}
variable {r : Reader}

theorem clean_of_forall (other : ∀ c ∈ data, c ≠ '\n' ∧ c ≠ '\r') : Clean data :=
  ⟨fun mem => (other _ mem).1 rfl, fun mem => (other _ mem).2 rfl⟩

theorem isDigit_str : ∀ c ∈ str n, c.isDigit = true := fun _ mem =>
  Nat.isDigit_of_mem_toDigits (by decide) (by decide) mem

theorem str_ne_nil : str n ≠ [] := Nat.toDigits_ne_nil

theorem clean_str : Clean (str n) := by
  refine clean_of_forall fun c mem => ?_
  have digit := isDigit_str c mem
  constructor <;> (rintro rfl; revert digit; decide)

theorem null_notMem_str : Char.ofNat 0 ∉ str n := fun mem => absurd (isDigit_str _ mem) (by decide)

theorem clean_heartbeatData : Clean (heartbeatData now) := by
  have inner : Clean now.1 := by
    refine clean_of_forall fun c mem => ?_
    rcases now.2 c mem with digit | sign
    · constructor <;> (rintro rfl; revert digit; decide)
    · constructor <;> (rintro rfl; revert sign; decide)
  have front : Clean "\x7b\"ts\": \"".toList := by decide
  have back : Clean "\"\x7d".toList := by decide
  exact clean_append.mpr ⟨clean_append.mpr ⟨front, inner⟩, back⟩

/-! ### One frame -/

/-- The lines in front of the data. -/
def front (id : Option Text) (event : Text) : List Entry :=
  id.toList.map (fun id => ⟨"id".toList, id⟩) ++ [⟨"event".toList, event⟩]

/-- An id that `_sse_event` writes and the browser keeps. -/
structure Id (id : Text) : Prop where
  nonempty : id ≠ []
  clean : Clean id
  null : Char.ofNat 0 ∉ id

theorem id_str : Id (str n) := ⟨str_ne_nil, clean_str, null_notMem_str⟩

theorem sseEvent_eq (ids : ∀ i ∈ id?, Id i) (event data : Text) : sseEvent event data id? =
    (front id? event).flatMap Entry.text ++ block [⟨"data".toList, data⟩] := by
  cases id? with
  | none => simp [sseEvent, front, List.intercalate, block, Entry.text]
  | some i =>
    have kept : (some i).filter (· ≠ []) = some i := by simp [(ids i rfl).nonempty]
    simp only [sseEvent, kept]
    simp [front, List.intercalate, block, Entry.text]

/-- Between two frames. -/
structure Settled (r : Reader) : Prop where
  fresh : r.Fresh
  type : r.type = []
  data : r.data = []

theorem feed_front (fresh : r.Fresh) (ids : ∀ i ∈ id?, Id i) (clean : Clean eventName) :
    let opened := { r with type := eventName, lastEventId := id?.getD r.lastEventId }
    r.feed ((front id? eventName).flatMap Entry.text) = opened ∧ opened.Fresh := by
  have wellFormed : ∀ f ∈ front id? eventName, f.WellFormed := by
    have event : Entry.WellFormed ⟨"event".toList, eventName⟩ :=
      ⟨(by decide : ':' ∉ "event".toList), (by decide : Clean "event".toList), clean⟩
    cases id? with
    | none => simpa [front] using event
    | some i =>
      have id : Entry.WellFormed ⟨"id".toList, i⟩ :=
        ⟨(by decide : ':' ∉ "id".toList), (by decide : Clean "id".toList), (ids i rfl).clean⟩
      simpa [front] using ⟨id, event⟩
  obtain ⟨read, -⟩ := Reader.feed_entries fresh wellFormed
  refine ⟨read.trans ?_, fresh.begun, fresh.afterReturn, fresh.line⟩
  cases id? with
  | none => exact Reader.field_event r eventName
  | some i =>
    have kept := Reader.field_id r (ids i rfl).null
    exact (congrArg (Reader.field · _ eventName) kept).trans (Reader.field_event _ eventName)

theorem feed_sseEvent (id? : Option Text) (settled : Settled r) (ids : ∀ i ∈ id?, Id i)
    (name : Name eventName) (clean : Clean data) :
    let id := id?.getD r.lastEventId
    let after := { r with lastEventId := id, dispatched := r.dispatched ++ [⟨eventName, data, id⟩] }
    r.feed (sseEvent eventName data id?) = after ∧ Settled after := by
  obtain ⟨opened, fresh⟩ := feed_front settled.fresh ids name.clean
  have wellFormed : ∀ f ∈ [Entry.mk "data".toList data], f.WellFormed := by
    have only : Entry.WellFormed ⟨"data".toList, data⟩ :=
      ⟨(by decide : ':' ∉ "data".toList), (by decide : Clean "data".toList), clean⟩
    simpa using only
  obtain ⟨read, -⟩ := Reader.feed_block fresh wellFormed
  refine ⟨?_, ⟨settled.fresh.begun, settled.fresh.afterReturn, settled.fresh.line⟩, settled.type,
    settled.data⟩
  rw [sseEvent_eq ids, Reader.feed_append, opened, read]
  simp only [Reader.interpret, List.foldl_cons, List.foldl_nil, Reader.field_data]
  simp [Reader.dispatch, settled.data, name.nonempty, settled.type]

/-- A payload with the end of a line in it is not what the browser is told of. -/
theorem feed_broken (settled : Settled r) (ids : ∀ i ∈ id?, Id i) (clean : Clean eventName)
    (broken : ¬Clean data) (rest : Text) :
    ∃ e later, (r.feed (sseEvent eventName data id? ++ rest)).dispatched =
      r.dispatched ++ e :: later ∧ e.data.length < data.length := by
  obtain ⟨opened, fresh⟩ := feed_front settled.fresh ids clean
  obtain ⟨e, later, dispatched, shorter⟩ := Reader.feed_broken fresh settled.data broken
  have before : (r.feed (sseEvent eventName data id?)).dispatched = r.dispatched ++ e :: later := by
    rw [sseEvent_eq ids, Reader.feed_append, opened, dispatched]
  obtain ⟨more, whole⟩ := Reader.feed_dispatched (r := r.feed (sseEvent eventName data id?)) rest
  refine ⟨e, later ++ more, ?_, shorter⟩
  rw [Reader.feed_append, ← whole, before, List.append_assoc, List.cons_append]

/-! ### A stream -/

theorem lastId_succ : lastId (seq + 1) = str (seq + 1) := if_neg (Nat.succ_ne_zero seq)

theorem oneLine_none : OneLine ((none, now) :: items) ↔ OneLine items := Iff.rfl

theorem oneLine_some {payload : String} :
    OneLine ((some payload, now) :: items) ↔ Clean payload.toList ∧
      OneLine items := List.forall_mem_cons

/-- From any point of the stream on. -/
theorem frames_dispatched (name : Name eventName) (settled : Settled r)
    (last : r.lastEventId = lastId seq) :
    (r.feed (redisChannelStream eventName seq items).flatten).dispatched =
      r.dispatched ++ events eventName seq items ↔ OneLine items := by
  induction items generalizing r seq with
  | nil => simp [redisChannelStream, events, OneLine]
  | cons item items ih =>
    obtain ⟨payload?, now⟩ := item
    cases payload? with
    | none =>
      have beat : Name heartbeatName := ⟨by decide, by decide⟩
      obtain ⟨read, after⟩ := feed_sseEvent none settled (by simp) beat (@clean_heartbeatData now)
      have rest := ih after last
      rw [redisChannelStream, List.flatten_cons, Reader.feed_append, heartbeat, read, events,
        oneLine_none, ← last]
      rw [List.append_assoc, List.singleton_append] at rest
      exact rest
    | some payload =>
      have ids : ∀ i ∈ some (str (seq + 1)), Id i := by simpa using id_str
      rw [redisChannelStream, List.flatten_cons, events]
      by_cases clean : Clean payload.toList
      · obtain ⟨read, after⟩ := feed_sseEvent _ settled ids name clean
        have rest := ih after lastId_succ.symm
        rw [List.append_assoc, List.singleton_append] at rest
        rw [Reader.feed_append, read, oneLine_some, and_iff_right clean]
        exact rest
      · -- The first event that is dispatched for it already has other data.
        obtain ⟨e, later, dispatched, shorter⟩ := feed_broken settled ids name.clean clean
          (redisChannelStream eventName (seq + 1) items).flatten
        refine iff_of_false (fun same => ?_) (fun oneLine => clean (oneLine_some.mp oneLine).1)
        rw [dispatched, List.append_cancel_left_eq] at same
        obtain ⟨rfl, -⟩ := List.cons_eq_cons.mp same
        exact Nat.lt_irrefl _ shorter

theorem sseEvent_begins (event data : Text) (id? : Option Text) (ids : ∀ i ∈ id?, Id i) :
    ∃ c rest, sseEvent event data id? = c :: rest ∧ c ≠ byteOrderMark := by
  rw [sseEvent_eq ids]
  cases id? with
  | none => exact ⟨'e', _, rfl, by decide⟩
  | some i => exact ⟨'i', _, rfl, by decide⟩

/-- A stream of frames does not begin with a byte order mark. -/
theorem received_flatten (frames : List Text)
    (first : ∀ frame ∈ frames.head?, ∃ event data id?, (∀ i ∈ id?, Id i) ∧
      frame = sseEvent event data id?) :
    received frames.flatten = (({ begun := true } : Reader).feed frames.flatten).dispatched := by
  cases frames with
  | nil => rfl
  | cons frame frames =>
    obtain ⟨event, data, id?, ids, rfl⟩ := first frame rfl
    obtain ⟨c, rest, begins, other⟩ := sseEvent_begins event data id? ids
    rw [List.flatten_cons, begins, List.cons_append, received, Reader.feed_begun other]

theorem frame_head : ∀ frame ∈ (redisChannelStream eventName seq items).head?,
    ∃ event data id?, (∀ i ∈ id?, Id i) ∧ frame = sseEvent event data id? := by
  rcases items with _ | ⟨⟨payload?, now⟩, items⟩
  · simp [redisChannelStream]
  · cases payload? with
    | none =>
      rintro frame ⟨⟩
      exact ⟨heartbeatName, heartbeatData now, none, by simp, rfl⟩
    | some payload =>
      rintro frame ⟨⟩
      exact ⟨eventName, payload.toList, some (str (seq + 1)), by simpa using id_str, rfl⟩

theorem settled_begun : Settled { begun := true } := ⟨⟨rfl, rfl, rfl⟩, rfl, rfl⟩

theorem received_events (name : Name eventName) (oneLine : OneLine items) :
    received (redisChannelStream eventName 0 items).flatten = events eventName 0 items := by
  rw [received_flatten _ frame_head]
  exact (frames_dispatched name settled_begun rfl).mpr oneLine

/-- A browser is told of exactly what has been yielded, with the number of each payload as its
id, just when no payload has the end of a line in it. -/
theorem stream_read_back_iff (name : Name eventName) (items : List (Item × Iso)) :
    received (redisChannelStream eventName 0 items).flatten = events eventName 0 items ↔
      OneLine items := by
  rw [received_flatten _ frame_head]
  exact frames_dispatched name settled_begun rfl

/-- `stream_audit`. -/
def auditName : Text := "audit.append".toList

def noon : Iso := ⟨"2026-01-01T12:00:00+00:00".toList, by simp⟩

theorem audit_read_back :
    received (redisChannelStream auditName 0 [(none, noon), (some "one", noon)]).flatten =
      [⟨heartbeatName, heartbeatData noon, []⟩, ⟨auditName, "one".toList, "1".toList⟩] ↔
    OneLine [(none, noon), (some "one", noon)] :=
  stream_read_back_iff ⟨by decide, by decide⟩ [(none, noon), (some "one", noon)]

/-! ### The routes -/

/-- The events of the routes over a channel: `stream_sessions`, `stream_audit`, `stream_alerts`. -/
def channelNames : List Text := ["session.event", "audit.append", "alert.event"].map String.toList

def metricsName : Text := "metrics.tick".toList

def routeNames : List Text := metricsName :: channelNames

/-- The frames of `stream_metrics`: a snapshot, as `json.dumps` writes it, or a heartbeat where
there is none in time. -/
def metricsStream : List (Option Text × Iso) → List Text
  | [] => []
  | (some snapshot, _) :: rest => sseEvent metricsName snapshot none :: metricsStream rest
  | (none, now) :: rest => heartbeat now :: metricsStream rest

/-- An event that a browser is told of by one of the routes. -/
inductive Routed (ev : Event) : Prop where
  | channel (name : Text) (known : name ∈ channelNames) (items : List (Item × Iso))
      (oneLine : OneLine items) (told : ev ∈ received (redisChannelStream name 0 items).flatten) :
      Routed ev
  | metrics (ticks : List (Option Text × Iso))
      (oneLine : ∀ snapshot ∈ ticks.filterMap (·.1), Clean snapshot)
      (told : ev ∈ received (metricsStream ticks).flatten) : Routed ev

theorem type_of_mem_events {ev : Event} (mem : ev ∈ events eventName seq items) :
    ev.type = heartbeatName ∨ ev.type = eventName := by
  induction items generalizing seq with
  | nil => cases mem
  | cons item items ih =>
    obtain ⟨payload?, now⟩ := item
    cases payload? with
    | none =>
      rcases List.mem_cons.mp mem with rfl | older
      · exact .inl rfl
      · exact ih older
    | some payload =>
      rcases List.mem_cons.mp mem with rfl | older
      · exact .inr rfl
      · exact ih older

theorem feed_metrics {ticks : List (Option Text × Iso)} (settled : Settled r)
    (oneLine : ∀ snapshot ∈ ticks.filterMap (·.1), Clean snapshot) :
    ∃ later, (r.feed (metricsStream ticks).flatten).dispatched = r.dispatched ++ later ∧
      ∀ ev ∈ later, ev.type = heartbeatName ∨ ev.type = metricsName := by
  induction ticks generalizing r with
  | nil => exact ⟨[], by simp [metricsStream], by simp⟩
  | cons tick ticks ih =>
    obtain ⟨snapshot?, now⟩ := tick
    have frame : ∃ name text,
        metricsStream ((snapshot?, now) :: ticks) = sseEvent name text none :: metricsStream ticks ∧
          Name name ∧ Clean text ∧ (name = heartbeatName ∨ name = metricsName) := by
      cases snapshot? with
      | none => exact ⟨_, _, rfl, ⟨by decide, by decide⟩, clean_heartbeatData, .inl rfl⟩
      | some snapshot =>
        exact ⟨_, _, rfl, ⟨by decide, by decide⟩, oneLine snapshot List.mem_cons_self, .inr rfl⟩
    obtain ⟨name, text, first, named, clean, known⟩ := frame
    obtain ⟨read, after⟩ := feed_sseEvent none settled (by simp) named clean
    have others : ∀ snapshot ∈ ticks.filterMap (·.1), Clean snapshot := by
      intro snapshot mem
      cases snapshot? with
      | none => exact oneLine snapshot mem
      | some earlier => exact oneLine snapshot (List.mem_cons_of_mem _ mem)
    obtain ⟨later, dispatched, types⟩ := ih after others
    refine ⟨⟨name, text, (none : Option Text).getD r.lastEventId⟩ :: later, ?_, ?_⟩
    · rw [first, List.flatten_cons, Reader.feed_append, read, dispatched, List.append_assoc,
        List.singleton_append]
    · exact List.forall_mem_cons.mpr ⟨known, types⟩

/-- Whatever the routes send, a browser is told of events with their names only. -/
theorem Routed.type {ev : Event} (routed : Routed ev) : ev.type ∈ heartbeatName :: routeNames := by
  cases routed with
  | channel name known items oneLine told =>
    have named : Name name := by
      have all : ∀ name ∈ channelNames, name ≠ [] ∧ Clean name := by decide
      exact ⟨(all name known).1, (all name known).2⟩
    rw [received_events named oneLine] at told
    rcases type_of_mem_events told with beat | route
    · exact beat ▸ List.mem_cons_self
    · exact route ▸ List.mem_cons_of_mem _ (List.mem_cons_of_mem _ known)
  | metrics ticks oneLine told =>
    have begun := received_flatten (metricsStream ticks) <| by
      rcases ticks with _ | ⟨⟨_ | snapshot, now⟩, ticks⟩
      · simp [metricsStream]
      · rintro frame ⟨⟩
        exact ⟨heartbeatName, heartbeatData now, none, by simp, rfl⟩
      · rintro frame ⟨⟩
        exact ⟨metricsName, snapshot, none, by simp, rfl⟩
    obtain ⟨later, dispatched, types⟩ := feed_metrics settled_begun oneLine
    rw [begun, dispatched] at told
    rcases types ev (by simpa using told) with beat | route
    · exact beat ▸ List.mem_cons_self
    · exact route ▸ List.mem_cons_of_mem _ List.mem_cons_self

/-! ### From a channel to the browser -/

/-- The message that a label hands to `_fan_out` for a channel. -/
def publishedBy (channel : String) : Label → Option String
  | .fanOut c data => if c = channel then some data else none
  | .subscribe .. | .unsubscribe .. | .queueIter .. | .get _ | .heartbeat _ | .close _ | .stop =>
    none

def published (channel : String) (ls : List Label) : List String :=
  ls.filterMap (publishedBy channel)

variable {s t : State} {l : Label} {past ls : List Label} {channel : String} {q i : Nat}
    {it : QueueIter}

theorem published_append : published channel (past ++ [l]) =
    published channel past ++ (publishedBy channel l).toList := by
  simp only [published, List.filterMap_append]
  cases found : publishedBy channel l <;> simp [found]

theorem offer_data (data : String) (waiting : List Item) :
    ((offer (some data) waiting).reduceOption).Sublist (waiting.reduceOption ++ [data]) := by
  by_cases room : waiting.length < queueMaxsize
  · rw [offer_of_room room, List.reduceOption_append]
    exact List.Sublist.refl _
  · rw [offer_of_full room]
    exact List.sublist_append_left _ _

theorem offer_sentinel (waiting : List Item) :
    (offer none waiting).reduceOption = waiting.reduceOption := by
  by_cases room : waiting.length < queueMaxsize
  · rw [offer_of_room room, List.reduceOption_append]
    exact List.append_nil _
  · rw [offer_of_full room]

/-- A queue holds messages of its channel, and an iterator has yielded such that came before
them, all in the order in which they were published. -/
structure Delivered (past : List Label) (s : State) : Prop where
  created : ∀ channel q, .subscribe channel q ∈ past → q ∈ s.created
  subscribers : ∀ channel q, (channel, q) ∈ s.subscribers → .subscribe channel q ∈ past
  single : ∀ channel channel' q, .subscribe channel q ∈ past → .subscribe channel' q ∈ past →
    channel = channel'
  opened : ∀ i it, s.iterator i = some it → it.queue ∈ s.created
  queued : ∀ channel q, .subscribe channel q ∈ past →
    (s.queue q).reduceOption.Sublist (published channel past)
  yielded : ∀ i it channel, s.iterator i = some it → .subscribe channel it.queue ∈ past →
    (it.yielded.reduceOption ++ (s.queue it.queue).reduceOption).Sublist (published channel past)

theorem Delivered.subscribe (before : Delivered past s) (fresh : q ∉ s.created) :
    Delivered (past ++ [.subscribe channel q]) (s.subscribe channel q) := by
  have known : ∀ {c p}, p ≠ q →
      (Label.subscribe c p ∈ past ++ [.subscribe channel q] ↔ Label.subscribe c p ∈ past) := by
    intro c p other
    simp [other]
  have new : ∀ {c}, Label.subscribe c q ∈ past ++ [.subscribe channel q] → c = channel := by
    intro c mem
    rcases List.mem_append.mp mem with older | last
    · exact absurd (before.created c q older) fresh
    · simpa using last
  have same : ∀ c, published c (past ++ [.subscribe channel q]) = published c past := by
    intro c
    rw [published_append, publishedBy, Option.toList_none, List.append_nil]
  refine ⟨fun c p mem => ?_, fun c p mem => ?_, fun c c' p mem mem' => ?_, fun i it has => ?_,
    fun c p mem => ?_, fun i it c has mem => ?_⟩
  · by_cases here : p = q
    · exact here ▸ List.mem_cons_self
    · exact List.mem_cons_of_mem _ (before.created c p ((known here).mp mem))
  · rcases List.mem_cons.mp mem with now | older
    · exact List.mem_append_right _ (by simpa using now)
    · exact List.mem_append_left _ (before.subscribers c p older)
  · by_cases here : p = q
    · subst here
      exact (new mem).trans (new mem').symm
    · exact before.single c c' p ((known here).mp mem) ((known here).mp mem')
  · exact List.mem_cons_of_mem _ (before.opened i it has)
  · rw [same]
    by_cases here : p = q
    · subst here
      simp [State.subscribe]
    · simpa [State.subscribe, here] using before.queued c p ((known here).mp mem)
  · have here : it.queue ≠ q := fun clash => fresh (clash ▸ before.opened i it has)
    rw [same]
    simpa [State.subscribe, here] using before.yielded i it c has ((known here).mp mem)

/-- A label that subscribes nothing leaves what is known of the subscriptions. -/
theorem mem_subscribe (other : ∀ c p, l ≠ .subscribe c p) {c : String} {p : Nat} :
    Label.subscribe c p ∈ past ++ [l] ↔ Label.subscribe c p ∈ past := by
  simp [(other c p).symm]

theorem Delivered.fanOut (before : Delivered past s) (channel data : String) :
    Delivered (past ++ [.fanOut channel data]) (s.fanOut channel data) := by
  have known : ∀ {c p}, Label.subscribe c p ∈ past ++ [.fanOut channel data] ↔
      .subscribe c p ∈ past := mem_subscribe fun _ _ => by simp
  have offered : ∀ {c p front}, Label.subscribe c p ∈ past →
      (front ++ (s.queue p).reduceOption).Sublist (published c past) →
      (front ++ ((s.fanOut channel data).queue p).reduceOption).Sublist
        (published c (past ++ [.fanOut channel data])) := by
    intro c p front subscribed kept
    rw [published_append]
    by_cases listens : (channel, p) ∈ s.subscribers
    · have here : channel = c := before.single _ _ p (before.subscribers _ _ listens) subscribed
      have put : ((s.fanOut channel data).queue p).reduceOption.Sublist
          ((s.queue p).reduceOption ++ [data]) := by
        simpa [State.fanOut, listens] using offer_data data (s.queue p)
      refine ((List.Sublist.refl front).append put).trans ?_
      rw [← List.append_assoc, publishedBy, if_pos here, Option.toList_some]
      exact kept.append (List.Sublist.refl _)
    · have same : (s.fanOut channel data).queue p = s.queue p := by simp [State.fanOut, listens]
      rw [same]
      exact kept.trans (List.sublist_append_left _ _)
  refine ⟨fun c p mem => before.created c p (known.mp mem),
    fun c p mem => known.mpr (before.subscribers c p mem),
    fun c c' p mem mem' => before.single c c' p (known.mp mem) (known.mp mem'), before.opened,
      fun c p mem => ?_, fun i it c has mem => ?_⟩
  · simpa using @offered c p [] (known.mp mem) (by simpa using before.queued c p (known.mp mem))
  · exact offered (known.mp mem) (before.yielded i it c has (known.mp mem))

theorem Delivered.reads (before : Delivered past s) {next : QueueIter}
    (reading : s.reader i = some it) (read : Reads s t i it l next) (same : SameSubscribers s t)
    (now : t.iterator = Function.update s.iterator i (some next)) : Delivered (past ++ [l]) t := by
  have had := (reader_eq_some.mp reading).1
  have other : ∀ c p, l ≠ .subscribe c p := by
    intro c p
    cases read <;> simp
  have silent : ∀ c, published c (past ++ [l]) = published c past := by
    intro c
    have nothing : publishedBy c l = none := by cases read <;> rfl
    rw [published_append, nothing, Option.toList_none, List.append_nil]
  have popped : ∀ p, (t.queue p).reduceOption.Sublist (s.queue p).reduceOption := by
    intro p
    by_cases here : p = it.queue
    · subst here
      cases read with
      | sentinel rest queued popped => simp [popped, queued, List.reduceOption]
      | data data rest queued popped => simp [popped, queued, List.reduceOption]
      | heartbeat kept => rw [kept]
      | close kept => rw [kept]
    · rw [read.queue_other here]
  -- What is yielded is what was in front of the queue.
  have moved : (next.yielded.reduceOption ++ (t.queue next.queue).reduceOption).Sublist
      (it.yielded.reduceOption ++ (s.queue it.queue).reduceOption) := by
    cases read with
    | sentinel rest queued popped => simp [popped, queued, List.reduceOption]
    | data data rest queued popped => simp [popped, queued, List.reduceOption]
    | heartbeat kept => simp [kept, List.reduceOption]
    | close kept => simp [kept]
  refine ⟨fun c p mem => ?_, fun c p mem => ?_, fun c c' p mem mem' => ?_, fun j jt has => ?_,
    fun c p mem => ?_, fun j jt c has mem => ?_⟩
  · rw [same.created]
    exact before.created c p ((mem_subscribe other).mp mem)
  · rw [same.subscribers] at mem
    exact (mem_subscribe other).mpr (before.subscribers c p mem)
  · exact before.single c c' p ((mem_subscribe other).mp mem) ((mem_subscribe other).mp mem')
  · rw [same.created]
    rcases update_cases (now ▸ has) with ⟨rfl, rfl⟩ | ⟨-, older⟩
    · exact read.queue_eq ▸ before.opened j it had
    · exact before.opened j jt older
  · rw [silent]
    exact (popped p).trans (before.queued c p ((mem_subscribe other).mp mem))
  · rw [silent]
    have subscribed := (mem_subscribe other).mp mem
    rcases update_cases (now ▸ has) with ⟨rfl, rfl⟩ | ⟨-, older⟩
    · exact moved.trans (before.yielded j it c had (read.queue_eq ▸ subscribed))
    · exact ((List.Sublist.refl _).append (popped jt.queue)).trans
        (before.yielded j jt c older subscribed)

theorem step_delivered (before : Delivered past s) (stepped : step s l = some t) :
    Delivered (past ++ [l]) t := by
  have quiet : ∀ {u : State}, (∀ c p, l ≠ .subscribe c p) → (∀ c, publishedBy c l = none) →
      Delivered past u → Delivered (past ++ [l]) u := by
    intro u other nothing kept
    have silent : ∀ c, published c (past ++ [l]) = published c past := by
      intro c
      rw [published_append, nothing c, Option.toList_none, List.append_nil]
    refine ⟨fun c p mem => kept.created c p ((mem_subscribe other).mp mem),
      fun c p mem => (mem_subscribe other).mpr (kept.subscribers c p mem),
      fun c c' p mem mem' => kept.single c c' p ((mem_subscribe other).mp mem)
        ((mem_subscribe other).mp mem'), kept.opened, fun c p mem => ?_, fun i it c has mem => ?_⟩
    · exact silent c ▸ kept.queued c p ((mem_subscribe other).mp mem)
    · exact silent c ▸ kept.yielded i it c has ((mem_subscribe other).mp mem)
  cases step_does stepped with
  | subscribe channel q fresh now => exact now ▸ before.subscribe fresh
  | unsubscribe channel q now =>
    subst now
    refine quiet (by simp) (fun _ => rfl) ⟨before.created, fun c p mem => ?_, before.single,
      before.opened, before.queued, before.yielded⟩
    exact before.subscribers c p (List.mem_of_mem_filter mem)
  | fanOut channel data going now => exact now ▸ before.fanOut channel data
  | queueIter i q created fresh now =>
    subst now
    refine quiet (by simp) (fun _ => rfl) ⟨before.created, before.subscribers, before.single,
      fun j jt has => ?_, before.queued, fun j jt c has mem => ?_⟩
    · rcases update_cases has with ⟨rfl, rfl⟩ | ⟨-, older⟩
      · exact created
      · exact before.opened j jt older
    · rcases update_cases has with ⟨rfl, rfl⟩ | ⟨-, older⟩
      · exact before.queued c q mem
      · exact before.yielded j jt c older mem
  | reads i it next l reading read same now => exact before.reads reading read same now
  | stop going now =>
    subst now
    have kept : ∀ p, (s.stop.queue p).reduceOption = (s.queue p).reduceOption := by
      intro p
      by_cases listens : s.Subscribed p
      · simpa [State.stop, listens] using offer_sentinel (s.queue p)
      · simp [State.stop, listens]
    refine quiet (by simp) (fun _ => rfl) ⟨before.created, before.subscribers, before.single,
      before.opened, fun c p mem => ?_, fun j jt c has mem => ?_⟩
    · exact kept p ▸ before.queued c p mem
    · exact kept jt.queue ▸ before.yielded j jt c has mem

theorem initial_delivered : Delivered [] {} := by
  refine ⟨?_, ?_, ?_, ?_, ?_, ?_⟩ <;> simp

theorem filter_events (own : eventName ≠ heartbeatName) (seq : Nat) (items : List (Item × Iso)) :
    (events eventName seq items).filter (·.type = eventName) =
      (items.filterMap (·.1)).mapIdx fun k payload =>
        ⟨eventName, payload.toList, str (seq + k + 1)⟩ := by
  induction items generalizing seq with
  | nil => rfl
  | cons item items ih =>
    obtain ⟨payload?, now⟩ := item
    cases payload? with
    | none => simpa [events, own.symm] using ih seq
    | some payload =>
      have rest := ih (seq + 1)
      simp only [events, List.filterMap_cons, List.mapIdx_cons, Nat.add_zero]
      rw [List.filter_cons_of_pos (by simp), rest]
      simp only [Nat.add_assoc, Nat.add_comm 1]

/-- From the publishers to a browser: over every run of the broadcaster, what a browser is told
of under the name of the route are messages of the subscribed channel, each at most once and in
their order, and numbered without a gap. -/
theorem channel_delivered (run : exec step {} ls = some t) (has : t.iterator i = some it)
    (subscribed : .subscribe channel it.queue ∈ ls)
    (clean : ∀ data ∈ published channel ls, Clean data.toList) (name : Name eventName)
    (own : eventName ≠ heartbeatName) {sent : List (Item × Iso)}
    (connected : sent.map (·.1) <+: it.yielded) :
    ∃ payloads : List String, payloads.Sublist (published channel ls) ∧
      (received (redisChannelStream eventName 0 sent).flatten).filter (·.type = eventName) =
        payloads.mapIdx fun k payload => ⟨eventName, payload.toList, str (k + 1)⟩ := by
  have delivered : Delivered ls t :=
    exec_history Delivered (fun _ _ _ _ before stepped =>
      step_delivered before stepped) run initial_delivered
  have yielded : (sent.filterMap (·.1)).Sublist (published channel ls) := by
    have all := delivered.yielded i it channel has subscribed
    have some : (sent.map (·.1)).reduceOption.Sublist it.yielded.reduceOption :=
      connected.sublist.filterMap _
    have here : sent.filterMap (·.1) = (sent.map (·.1)).reduceOption := by
      rw [List.reduceOption, List.filterMap_map]
      rfl
    exact here ▸ some.trans ((List.sublist_append_left _ _).trans all)
  have oneLine : OneLine sent := fun payload mem => clean payload (yielded.subset mem)
  refine ⟨sent.filterMap (·.1), yielded, ?_⟩
  rw [received_events name oneLine, filter_events own]
  simp only [Nat.zero_add]

def auditRun : List Label := [.subscribe "agentoe:events:audit" 0, .queueIter 0 0,
  .fanOut "agentoe:events:audit" "one", .fanOut "agentoe:events:alerts" "two", .get 0]

theorem audit_delivered : ∃ payloads : List String,
    payloads.Sublist (published "agentoe:events:audit" auditRun) ∧
    (received (redisChannelStream auditName 0 [(some "one", noon)]).flatten).filter
      (·.type = auditName) =
      payloads.mapIdx fun k payload => ⟨auditName, payload.toList, str (k + 1)⟩ :=
  @channel_delivered _ _ auditRun _ 0 ⟨0, .reading, [some "one"]⟩ rfl rfl (by decide) (by decide)
    ⟨by decide, by decide⟩ (by decide) _ (List.prefix_refl _)

end AgentOE.SseStream
