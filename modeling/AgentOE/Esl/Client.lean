import AgentOE.Transition
import AgentOE.Esl.Framing

/-! The ESL client as a system of goroutines: callers of `SendAPI` and
`SendBgAPI`, which differ only in the command they write, the event loop and the
(re)connection. FreeSWITCH answers the commands of a connection in order. -/
namespace AgentOE.Esl.Client
open Text Transition

/-- How far `Connect` has come on the current connection. -/
inductive Stage where
  | greeting
  | greeted
  | authSent
  | authed
  | subscribeSent
  | running
  deriving DecidableEq

inductive Owner (C : Type) where
  | auth
  | subscribe
  | call (c : C)
  deriving DecidableEq

/-- A string in `apiRespCh`. `owner` and `answer` record the command and the
reply frame it was read from; no step reads them. -/
structure Delivery (C : Type) where
  owner : Option (Owner C)
  answer : Bytes
  body : Bytes
  deriving DecidableEq

/-- `returned none` is an error, `returned (some d)` is `(d.body, nil)`. -/
inductive Status (C : Type) where
  | idle
  | waiting
  | returned (result : Option (Delivery C))
  deriving DecidableEq

/-- `pending` holds the commands without an answer so far, `unread` what the
client has received and not yet read. -/
structure Conn (C : Type) where
  stage : Stage
  pending : List (Owner C)
  unread : Bytes

structure State (C : Type) where
  conn : Option (Conn C)
  mu : Option C
  apiRespCh : List (Delivery C)
  status : C → Status C
  closed : Bool

def State.initial (C : Type) : State C := ⟨none, none, [], fun _ => .idle, false⟩

inductive WriteOutcome where
  | sent
  /-- The bytes went to a connection that is already dead. -/
  | lost
  | failed
  deriving DecidableEq

inductive Action (C : Type) where
  | dial
  | greet
  | sendAuth
  | sendSubscribe
  | drop
  | close
  /-- The server's answer to the oldest command is received and read. -/
  | reply (frame : Frame)
  /-- Any other bytes from the server. -/
  | notice (bytes : Bytes)
  | read
  | call (c : C) (outcome : WriteOutcome)
  | receive (c : C)
  /-- Timeout, cancelled context or closed client. -/
  | abandon (c : C)

variable {C : Type} [DecidableEq C]

def channelCapacity : Nat := 16

/-- A full channel drops the string. -/
def offer (channel : List (Delivery C)) (delivery : Delivery C) : List (Delivery C) :=
  if channel.length < channelCapacity then channel ++ [delivery] else channel

def State.finish (σ : State C) (c : C) (result : Option (Delivery C)) : State C :=
  { σ with mu := none, status := Function.update σ.status c (.returned result) }

/-- One `readResponse` or one round of `eventLoop` over the bytes received, with
the event that goes to the handler. An incomplete frame is left unread. -/
def readUnit (σ : State C) (conn : Conn C) (input : Bytes) (owner : Option (Owner C))
    (answer : Bytes) : Option (State C × Option Event) :=
  match conn.stage with
  | .authSent => match readHeaders [] input with
    | none => some ({ σ with conn := some { conn with unread := input } }, none)
    | some (resp, rest) =>
      if contains (ascii "+OK") resp ∨ contains (ascii "Reply-Text: +OK") resp then
        some ({ σ with conn := some { conn with stage := .authed, unread := rest } }, none)
      else some ({ σ with conn := none }, none)
  | .subscribeSent => match readHeaders [] input with
    | none => some ({ σ with conn := some { conn with unread := input } }, none)
    | some (_, rest) =>
      some ({ σ with conn := some { conn with stage := .running, unread := rest } }, none)
  | .running => match readEventData input with
    | .error _ => some ({ σ with conn := some { conn with unread := input } }, none)
    | .ok (data, rest) =>
      let next := { σ with conn := some { conn with unread := rest } }
      match route data with
      | some (.reply body) =>
        some ({ next with apiRespCh := offer σ.apiRespCh ⟨owner, answer, body⟩ }, none)
      | some (.handled event) => some (next, some event)
      | none => some (next, none)
  | .greeting | .greeted | .authed => none

/-- FreeSWITCH answers `auth` and `event` with a `command/reply`. -/
def answers : Owner C → Frame → Bool
  | _, .event _ => false
  | .call _, .apiResponse _ _ => true
  | _, .apiResponse _ _ => false
  | _, .commandReply _ _ => true

/-- `sendCommand` of the handshake: it locks the mutex only for the write. -/
def handshakeWrite (σ : State C) (before after : Stage) (owner : Owner C) : Option (State C) :=
  match σ.conn, σ.mu with
  | some conn, none =>
    if conn.stage = before then
      some { σ with conn := some ⟨after, conn.pending ++ [owner], conn.unread⟩ }
    else none
  | _, _ => none

/-- A step, with the event it hands to the handler. -/
def stepEvent (σ : State C) : Action C → Option (State C × Option Event)
  | .dial =>
    if σ.conn.isNone ∧ σ.closed = false then
      some ({ σ with conn := some ⟨.greeting, [], []⟩ }, none)
    else none
  | .greet => match σ.conn with
    | some conn =>
      if conn.stage = .greeting then
        some ({ σ with conn := some { conn with stage := .greeted } }, none)
      else none
    | none => none
  | .sendAuth => (handshakeWrite σ .greeted .authSent .auth).map (·, none)
  | .sendSubscribe => (handshakeWrite σ .authed .subscribeSent .subscribe).map (·, none)
  | .drop => some ({ σ with conn := none }, none)
  | .close => some ({ σ with conn := none, closed := true }, none)
  | .reply frame => match σ.conn with
    | some ⟨stage, owner :: pending, unread⟩ =>
      if answers owner frame then
        -- behind a body that `readResponse` left there, the frame is not recognised as such
        readUnit σ ⟨stage, pending, unread⟩ (unread ++ frame.encode)
          (if unread = [] then some owner else none) frame.payload
      else none
    | _ => none
  | .notice bytes => match σ.conn with
    | some conn => readUnit σ conn (conn.unread ++ bytes) none []
    | none => none
  | .read => match σ.conn with
    | some conn => readUnit σ conn conn.unread none []
    | none => none
  | .call c outcome =>
    if σ.mu.isNone ∧ σ.status c ≠ .waiting then
      let locked := { σ with mu := some c, status := Function.update σ.status c .waiting }
      match outcome with
      | .failed => some (locked.finish c none, none)
      | .lost => some (locked, none)
      | .sent => σ.conn.map fun conn =>
        ({ locked with conn := some { conn with pending := conn.pending ++ [.call c] } }, none)
    else none
  | .receive c => match σ.apiRespCh with
    | delivery :: rest =>
      if σ.status c = .waiting then
        some ({ σ with apiRespCh := rest }.finish c (some delivery), none)
      else none
    | [] => none
  | .abandon c => if σ.status c = .waiting then some (σ.finish c none, none) else none

def step (σ : State C) (action : Action C) : Option (State C) :=
  (stepEvent σ action).map Prod.fst

/-- Every successful call returned the body of the reply to its own command. -/
def Matched (σ : State C) : Prop := ∀ c delivery, σ.status c = .returned (some delivery) →
  delivery.owner = some (.call c) ∧ delivery.body = delivery.answer

/-- The runs on which replies stay in step with calls: a call gives up only when
its reply cannot arrive any more, and nothing but a reply looks like one. -/
def Disciplined (σ : State C) : Action C → Prop
  | .abandon c => (∀ conn, σ.conn = some conn → .call c ∉ conn.pending) ∧
      ∀ delivery ∈ σ.apiRespCh, delivery.owner ≠ some (.call c)
  | .notice bytes => (∀ conn, σ.conn = some conn → conn.stage = .running) ∧
      ∃ data, readEventData bytes = .ok (data, []) ∧ ∀ body, route data ≠ some (.reply body)
  | _ => True

/-- The handshake's own command whose answer the client is reading for. -/
def Stage.awaiting : Stage → List (Owner C)
  | .authSent => [.auth]
  | .subscribeSent => [.subscribe]
  | _ => []

/-- Behind the handshake's command only the current call waits for an answer,
and only while its reply is not in the channel. -/
def Conn.Sound (mu : Option C) (channel : List (Delivery C)) (conn : Conn C) : Prop :=
  conn.unread = [] ∧ ∃ calls, conn.pending = conn.stage.awaiting ++ calls ∧
    (calls = [] ∨ ∃ c, mu = some c ∧ calls = [.call c] ∧ channel = [])

structure Inv (σ : State C) : Prop where
  conn : ∀ conn, σ.conn = some conn → conn.Sound σ.mu σ.apiRespCh
  channel : σ.apiRespCh = [] ∨ ∃ c delivery, σ.mu = some c ∧ σ.apiRespCh = [delivery] ∧
    delivery.owner = some (.call c) ∧ delivery.body = delivery.answer
  locked : ∀ c, σ.mu = some c ↔ σ.status c = .waiting
  matched : Matched σ

omit [DecidableEq C] in
theorem call_not_awaited {stage : Stage} {c : C} : .call c ∉ stage.awaiting (C := C) := by
  cases stage <;> simp [Stage.awaiting]

namespace Inv
variable {σ : State C}

omit [DecidableEq C] in
theorem initial : Inv (State.initial C) := by
  refine ⟨?_, .inl rfl, ?_, ?_⟩
  · intro _ connected
    cases connected
  · intro c
    simp [State.initial]
  · intro c delivery returned
    cases returned

omit [DecidableEq C] in
/-- Losing or replacing the connection. -/
theorem setConn (inv : Inv σ) {conn : Option (Conn C)}
    (sound : ∀ next, conn = some next → next.Sound σ.mu σ.apiRespCh) :
    Inv { σ with conn := conn } :=
  ⟨sound, inv.channel, inv.locked, inv.matched⟩

omit [DecidableEq C] in
theorem disconnect (inv : Inv σ) : Inv { σ with conn := none } :=
  inv.setConn fun _ connected => by cases connected

omit [DecidableEq C] in
/-- With the mutex free nothing is outstanding but the handshake. -/
theorem free (inv : Inv σ) (unlocked : σ.mu = none) : σ.apiRespCh = [] ∧
    ∀ conn, σ.conn = some conn → conn.unread = [] ∧ conn.pending = conn.stage.awaiting := by
  constructor
  · rcases inv.channel with empty | ⟨c, delivery, locked, -⟩
    · exact empty
    · rw [unlocked] at locked
      cases locked
  · intro conn connected
    obtain ⟨read, calls, pending, empty | ⟨c, locked, -⟩⟩ := inv.conn conn connected
    · exact ⟨read, by rw [pending, empty, List.append_nil]⟩
    · rw [unlocked] at locked
      cases locked

/-- A call returns and nothing of it stays behind. -/
theorem finish (inv : Inv σ) {c : C} (waiting : σ.status c = .waiting) {channel : List (Delivery C)}
    {result : Option (Delivery C)} (empty : channel = [])
    (quiet : ∀ conn, σ.conn = some conn → .call c ∉ conn.pending)
    (own : ∀ delivery, result = some delivery →
      delivery.owner = some (.call c) ∧ delivery.body = delivery.answer) :
    Inv ({ σ with apiRespCh := channel }.finish c result) := by
  have locked : σ.mu = some c := (inv.locked c).mpr waiting
  refine ⟨?_, .inl empty, ?_, ?_⟩
  · intro conn connected
    obtain ⟨read, calls, pending, none | ⟨d, owner, call, -⟩⟩ := inv.conn conn connected
    · exact ⟨read, calls, pending, .inl none⟩
    · have same : c = d := Option.some.inj (locked.symm.trans owner)
      refine absurd ?_ (quiet conn connected)
      rw [pending, call, same]
      simp
  · intro d
    by_cases same : d = c
    · simp [State.finish, same]
    · have other : σ.status d ≠ .waiting := by
        intro waits
        have second := (inv.locked d).mpr waits
        exact same (Option.some.inj (second.symm.trans locked))
      simp [State.finish, same, other]
  · intro d delivery returned
    by_cases same : d = c
    · subst same
      have result : result = some delivery := by simpa [State.finish] using returned
      exact own delivery result
    · apply inv.matched
      simpa [State.finish, same] using returned

/-- The channel holds the reply to the call that waits for it. -/
theorem receive (inv : Inv σ) {c : C} {delivery : Delivery C} {rest : List (Delivery C)}
    (waiting : σ.status c = .waiting) (channel : σ.apiRespCh = delivery :: rest) :
    Inv ({ σ with apiRespCh := rest }.finish c (some delivery)) := by
  have locked : σ.mu = some c := (inv.locked c).mpr waiting
  rcases inv.channel with empty | ⟨d, own, owner, single, matched⟩
  · rw [channel] at empty
    cases empty
  · cases Option.some.inj (locked.symm.trans owner)
    obtain ⟨rfl, rfl⟩ := List.cons.inj (channel.symm.trans single)
    refine inv.finish waiting rfl ?_ ?_
    · intro conn connected mem
      obtain ⟨-, calls, pending, none | ⟨-, -, -, empty⟩⟩ := inv.conn conn connected
      · rw [pending, none, List.append_nil] at mem
        exact call_not_awaited mem
      · rw [channel] at empty
        cases empty
    · intro other same
      exact Option.some.inj same ▸ matched

/-- A call that gives up after its reply has become impossible. -/
theorem abandon (inv : Inv σ) {c : C} (waiting : σ.status c = .waiting)
    (quiet : ∀ conn, σ.conn = some conn → .call c ∉ conn.pending)
    (unanswered : ∀ delivery ∈ σ.apiRespCh, delivery.owner ≠ some (.call c)) :
    Inv (σ.finish c none) := by
  have locked : σ.mu = some c := (inv.locked c).mpr waiting
  have empty : σ.apiRespCh = [] := by
    rcases inv.channel with empty | ⟨d, delivery, owner, single, matched⟩
    · exact empty
    · cases Option.some.inj (locked.symm.trans owner)
      exact absurd matched.1 (unanswered delivery (by simp [single]))
  exact inv.finish waiting empty quiet (by simp)

/-- A call takes the mutex and writes. -/
theorem call (inv : Inv σ) (unlocked : σ.mu = none) (c : C) {conn : Option (Conn C)}
    (wrote : conn = σ.conn ∨ ∃ current, σ.conn = some current ∧
      conn = some { current with pending := current.pending ++ [.call c] }) :
    Inv { σ with conn := conn, mu := some c, status := Function.update σ.status c .waiting } := by
  obtain ⟨empty, quiet⟩ := inv.free unlocked
  refine ⟨?_, .inl empty, ?_, ?_⟩
  · intro next connected
    rcases wrote with same | ⟨current, before, after⟩
    · obtain ⟨read, pending⟩ := quiet next (same ▸ connected)
      exact ⟨read, [], by simpa using pending, .inl rfl⟩
    · obtain ⟨read, pending⟩ := quiet current before
      rw [after] at connected
      cases Option.some.inj connected
      exact ⟨read, [.call c], by rw [pending], .inr ⟨c, rfl, rfl, empty⟩⟩
  · intro d
    by_cases same : d = c
    · simp [same]
    · have other : σ.status d ≠ .waiting := by
        intro waits
        rw [← inv.locked d, unlocked] at waits
        cases waits
      simp [same, other, Ne.symm same]
  · intro d delivery returned
    by_cases same : d = c
    · simp [same] at returned
    · apply inv.matched
      simpa [same] using returned

omit [DecidableEq C] in
/-- The oldest command is the handshake's or the current call's, and the frame
that answers it is read as its answer. -/
theorem reply (inv : Inv σ) {frame : Frame} {stage : Stage} {owner : Owner C}
    {pending : List (Owner C)} {unread : Bytes} {result : State C × Option Event}
    (connected : σ.conn = some ⟨stage, owner :: pending, unread⟩)
    (answer : answers owner frame = true)
    (read : readUnit σ ⟨stage, pending, unread⟩ (unread ++ frame.encode)
      (if unread = [] then some owner else none) frame.payload = some result) : Inv result.1 := by
  obtain ⟨rfl, calls, outstanding, sound⟩ := inv.conn _ connected
  have headers := readHeaders_encode frame []
  have data := readEventData_encode frame []
  rw [List.append_nil] at headers data
  rw [List.nil_append, if_pos rfl] at read
  cases stage with
  | authSent =>
    obtain ⟨rfl, rfl⟩ := List.cons.inj outstanding
    have payload : frame.payload = [] := by
      cases frame <;> first | rfl | cases answer
    simp only [readUnit, headers, payload, List.append_nil] at read
    split at read
    · cases Option.some.inj read
      exact inv.setConn fun next same => Option.some.inj same ▸ ⟨rfl, pending, rfl, sound⟩
    · cases Option.some.inj read
      exact inv.disconnect
  | subscribeSent =>
    obtain ⟨rfl, rfl⟩ := List.cons.inj outstanding
    have payload : frame.payload = [] := by
      cases frame <;> first | rfl | cases answer
    simp only [readUnit, headers, payload, List.append_nil] at read
    cases Option.some.inj read
    exact inv.setConn fun next same => Option.some.inj same ▸ ⟨rfl, pending, rfl, sound⟩
  | running =>
    rcases sound with none | ⟨c, locked, call, empty⟩
    · rw [none] at outstanding
      cases outstanding
    · rw [call] at outstanding
      obtain ⟨rfl, rfl⟩ := List.cons.inj outstanding
      have reply : frame.event? = none := by
        cases frame <;> first | rfl | cases answer
      simp only [readUnit, data, (route_frame frame reply).2, empty] at read
      cases Option.some.inj read
      refine ⟨?_, .inr ⟨c, _, locked, rfl, rfl, rfl⟩, inv.locked, inv.matched⟩
      intro next same
      cases Option.some.inj same
      exact ⟨rfl, [], rfl, .inl rfl⟩
  | greeting | greeted | authed => cases read

omit [DecidableEq C] in
theorem notice (inv : Inv σ) {conn : Conn C} {bytes data : Bytes} {result : State C × Option Event}
    (connected : σ.conn = some conn) (running : conn.stage = .running)
    (whole : readEventData bytes = .ok (data, [])) (other : ∀ body, route data ≠ some (.reply body))
    (read : readUnit σ conn (conn.unread ++ bytes) none [] = some result) : Inv result.1 := by
  obtain ⟨stage, pending, unread⟩ := conn
  cases running
  obtain ⟨rfl, sound⟩ := inv.conn _ connected
  have same : Inv { σ with conn := some ⟨.running, pending, []⟩ } :=
    inv.setConn fun next eq => Option.some.inj eq ▸ ⟨rfl, sound⟩
  simp only [readUnit, List.nil_append, whole] at read
  split at read
  · rename_i body routed
    exact absurd routed (other body)
  · cases Option.some.inj read
    exact same
  · cases Option.some.inj read
    exact same

omit [DecidableEq C] in
/-- Nothing is left to read. -/
theorem read (inv : Inv σ) {conn : Conn C} {result : State C × Option Event}
    (connected : σ.conn = some conn)
    (read : readUnit σ conn conn.unread none [] = some result) : Inv result.1 := by
  obtain ⟨stage, pending, unread⟩ := conn
  obtain ⟨rfl, sound⟩ := inv.conn _ connected
  have same : Inv { σ with conn := some ⟨stage, pending, []⟩ } :=
    inv.setConn fun next eq => Option.some.inj eq ▸ ⟨rfl, sound⟩
  have headers : readHeaders [] [] = none := readHeaders_eof rfl
  have data : readEventData [] = .error .eof := by
    simp [readEventData, headers]
  cases stage with
  | authSent =>
    simp only [readUnit, headers] at read
    cases Option.some.inj read
    exact same
  | subscribeSent =>
    simp only [readUnit, headers] at read
    cases Option.some.inj read
    exact same
  | running =>
    simp only [readUnit, data] at read
    cases Option.some.inj read
    exact same
  | greeting | greeted | authed => cases read

omit [DecidableEq C] in
theorem handshakeWrite (inv : Inv σ) {before after : Stage} {owner : Owner C} {τ : State C}
    (start : before.awaiting (C := C) = []) (next : after.awaiting = [owner])
    (wrote : handshakeWrite σ before after owner = some τ) : Inv τ := by
  unfold Client.handshakeWrite at wrote
  split at wrote
  · rename_i conn connected unlocked
    obtain ⟨read, pending⟩ := (inv.free unlocked).2 conn connected
    split at wrote
    · rename_i stage
      cases Option.some.inj wrote
      refine inv.setConn fun later same => Option.some.inj same ▸ ⟨read, [], ?_, .inl rfl⟩
      rw [pending, stage, start, next]
      rfl
    · cases wrote
  · cases wrote

end Inv

theorem stepEvent_inv {σ : State C} {action : Action C} {result : State C × Option Event}
    (inv : Inv σ) (disciplined : Disciplined σ action)
    (stepped : stepEvent σ action = some result) : Inv result.1 := by
  cases action with
  | dial =>
    simp only [stepEvent] at stepped
    split at stepped
    · cases Option.some.inj stepped
      exact inv.setConn fun next same => Option.some.inj same ▸ ⟨rfl, [], rfl, .inl rfl⟩
    · cases stepped
  | greet =>
    simp only [stepEvent] at stepped
    split at stepped
    · rename_i conn connected
      obtain ⟨read, calls, pending, sound⟩ := inv.conn conn connected
      split at stepped
      · rename_i stage
        cases Option.some.inj stepped
        rw [stage] at pending
        exact inv.setConn fun next same => Option.some.inj same ▸ ⟨read, calls, pending, sound⟩
      · cases stepped
    · cases stepped
  | sendAuth =>
    obtain ⟨next, wrote, rfl⟩ := Option.map_eq_some_iff.mp stepped
    exact inv.handshakeWrite rfl rfl wrote
  | sendSubscribe =>
    obtain ⟨next, wrote, rfl⟩ := Option.map_eq_some_iff.mp stepped
    exact inv.handshakeWrite rfl rfl wrote
  | drop =>
    cases Option.some.inj stepped
    exact inv.disconnect
  | close =>
    cases Option.some.inj stepped
    have gone := inv.disconnect
    exact ⟨gone.conn, gone.channel, gone.locked, gone.matched⟩
  | reply frame =>
    simp only [stepEvent] at stepped
    split at stepped
    · rename_i connected
      split at stepped
      · rename_i answer
        exact inv.reply connected answer stepped
      · cases stepped
    · cases stepped
  | notice bytes =>
    obtain ⟨running, data, whole, other⟩ := disciplined
    simp only [stepEvent] at stepped
    split at stepped
    · rename_i conn connected
      exact inv.notice connected (running conn connected) whole other stepped
    · cases stepped
  | read =>
    simp only [stepEvent] at stepped
    split at stepped
    · rename_i conn connected
      exact inv.read connected stepped
    · cases stepped
  | call c outcome =>
    simp only [stepEvent] at stepped
    split at stepped
    · rename_i ready
      have unlocked : σ.mu = none := by simpa using ready.1
      have called := inv.call unlocked c (.inl rfl)
      cases outcome with
      | failed =>
        cases Option.some.inj stepped
        obtain ⟨empty, quiet⟩ := inv.free unlocked
        refine called.finish (by simp) empty ?_ (by simp)
        intro conn connected mem
        rw [(quiet conn connected).2] at mem
        exact call_not_awaited mem
      | lost =>
        cases Option.some.inj stepped
        exact called
      | sent =>
        obtain ⟨conn, connected, rfl⟩ := Option.map_eq_some_iff.mp stepped
        exact inv.call unlocked c (.inr ⟨conn, connected, rfl⟩)
    · cases stepped
  | receive c =>
    simp only [stepEvent] at stepped
    split at stepped
    · rename_i delivery rest channel
      split at stepped
      · rename_i waiting
        cases Option.some.inj stepped
        exact inv.receive waiting channel
      · cases stepped
    · cases stepped
  | abandon c =>
    obtain ⟨quiet, unanswered⟩ := disciplined
    simp only [stepEvent] at stepped
    split at stepped
    · rename_i waiting
      cases Option.some.inj stepped
      exact inv.abandon waiting quiet unanswered
    · cases stepped

theorem step_inv {σ τ : State C} {action : Action C} (inv : Inv σ)
    (disciplined : Disciplined σ action) (stepped : step σ action = some τ) : Inv τ := by
  obtain ⟨result, event, rfl⟩ := Option.map_eq_some_iff.mp stepped
  exact stepEvent_inv inv disciplined event

theorem replies_match_calls (actions : List (Action C)) (σ : State C)
    (disciplined : Along step Disciplined (State.initial C) actions)
    (reached : exec step (State.initial C) actions = some σ) : Matched σ :=
  (exec_invariant step_inv disciplined reached Inv.initial).matched

def handshake : List (Action C) :=
  [.dial, .greet, .sendAuth, .reply (.commandReply [ascii "Reply-Text: +OK accepted"] (by decide)),
    .sendSubscribe, .reply (.commandReply [ascii "Reply-Text: +OK event listener"] (by decide))]

def apiReply (body : String) (bounded : (ascii body).length < 2 ^ 63) : Frame :=
  .apiResponse (ascii body) bounded

/-- Two calls one after the other. -/
def twoCalls : List (Action Bool) :=
  handshake ++ ([.call false .sent, .reply (apiReply "+OK first" (by decide)), .receive false,
    .call true .sent, .reply (apiReply "+OK second" (by decide)), .receive true] :
      List (Action Bool))

theorem replies_match_calls_in_turn : ∃ σ, exec step (State.initial Bool) twoCalls = some σ ∧
    σ.status true = .returned (some ⟨some (.call true), ascii "+OK second", ascii "+OK second"⟩) ∧
    Matched σ := by
  have result : (exec step (State.initial Bool) twoCalls).map (·.status true) =
      some (.returned (some ⟨some (.call true), ascii "+OK second", ascii "+OK second"⟩)) := by
    decide +kernel
  obtain ⟨σ, reached, status⟩ := Option.map_eq_some_iff.mp result
  have disciplined : Along step Disciplined (State.initial Bool) twoCalls := by
    apply along_of_forall
    simp [twoCalls, handshake, Disciplined]
  exact ⟨σ, reached, status, replies_match_calls twoCalls σ disciplined reached⟩

/-- The first call times out, its reply comes late and goes to the second. -/
def lateReply : List (Action Bool) :=
  handshake ++ ([.call false .sent, .abandon false, .call true .sent,
    .reply (apiReply "+OK first" (by decide)), .receive true] : List (Action Bool))

theorem late_reply_mismatched : ∃ σ, exec step (State.initial Bool) lateReply = some σ ∧
    ¬Matched σ := by
  have result : (exec step (State.initial Bool) lateReply).map (·.status true) =
      some (.returned (some ⟨some (.call false), ascii "+OK first", ascii "+OK first"⟩)) := by
    decide +kernel
  obtain ⟨σ, reached, status⟩ := Option.map_eq_some_iff.mp result
  refine ⟨σ, reached, ?_⟩
  intro matched
  have owner := (matched true _ status).1
  cases owner

end AgentOE.Esl.Client
