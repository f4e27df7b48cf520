import AgentOE.Idempotency.Middleware

/-! At most one execution for an idempotency key. The record under the key is
read as a slot that one request holds from its `SET NX` to its `SET` or `DEL`;
the stored response stays for good. -/
namespace AgentOE.Idempotency
open Transition

section Guarantee
variable {C : Type} (settings : Settings) (hashes : Hashes) (requests : C → Request) (key : String)

/-- The request ran the handler to a response below 500. -/
def Succeeded (σ : State C) (c : C) : Prop :=
  ∃ response, σ.handled c = some (.returned response) ∧ response.statusCode < 500

/-- `call_next` raised or returned a 5xx. -/
def Failed (σ : State C) (c : C) : Prop :=
  σ.handled c = some .raised ∨
    ∃ response, σ.handled c = some (.returned response) ∧ 500 ≤ response.statusCode

/-- The request may have written the record in progress and not stored its
response: it runs on from its `SET NX`, or has broken off. -/
def Phase.took : Phase → Bool
  | .running | .releasing _ | .collecting _ | .storing _ => true
  | .finished .cancelled | .finished .raised => true
  | _ => false

/-- The record under the key is in progress, for the request `d`. -/
def InFlight (σ : State C) (d : C) : Prop :=
  (σ.phase d).took = true ∧
    σ.redis key = some (serializeInProgress (hashOf hashes requests d))

/-- Another request is in flight while `c` waits for Redis. -/
def Overlaps (σ : State C) (c : C) : Prop :=
  (σ.phase c).awaits = true ∧ ∃ d, d ≠ c ∧ InFlight hashes requests key σ d

/-- In some state of the run. The second `SET NX` may lose against a request that
has ended by the time the 409 is built. -/
def Overlapped [DecidableEq C] (start : State C) (actions : List (Action C)) (c : C) : Prop :=
  ∃ past ρ, past <+: actions ∧ exec (step settings hashes requests) start past = some ρ ∧
    Overlaps hashes requests key ρ c

/-- `response` repeats what `d` stored, or refuses `c` for its other body. -/
def Repeats (d : C) (stored : Response) (c : C) (response : Response) : Prop :=
  if hashOf hashes requests d = hashOf hashes requests c then
    response.statusCode = stored.statusCode ∧ response.body = storedBody settings stored
  else response = keyMismatch

/-- What a request that did not run the handler may be answered: 409 if it met
another in flight, otherwise by the handler's one success. -/
def Duplicate (lapped : C → Prop) (σ : State C) (c : C) (response : Response) : Prop :=
  (response = inFlight ∧ lapped c) ∨ ∃ d stored, σ.handled d = some (.returned stored) ∧
    stored.statusCode < 500 ∧ Repeats settings hashes requests d stored c response

/-- The success of `d` is what the key holds. -/
def Stored (σ : State C) (d : C) (stored : Response) : Prop :=
  σ.handled d = some (.returned stored) ∧ stored.statusCode < 500 ∧
    σ.redis key = some (serializeDone settings (hashOf hashes requests d) stored)

/-- The request has still to read the record. -/
def Phase.unread : Phase → Bool
  | .arriving | .acquiring | .reading => true
  | _ => false

/-- What the record under the key stands for. -/
inductive Slot (C : Type) where
  | free
  | held (owner : C)
  | done (owner : C) (response : Response)

def Slot.value : Slot C → Option Value
  | .free => none
  | .held owner => some (serializeInProgress (hashOf hashes requests owner))
  | .done owner response => some (serializeDone settings (hashOf hashes requests owner) response)

/-- The request has taken the slot and not yet let go of it. -/
def Phase.holds : Phase → Bool
  | .running | .releasing _ | .collecting _ | .storing _ => true
  | _ => false

def Slot.Answers (lapped : C → Prop) (slot : Slot C) (c : C) (response : Response) : Prop :=
  (response = inFlight ∧ lapped c) ∨ ∃ d stored, slot = .done d stored ∧
    Repeats settings hashes requests d stored c response

/-- The success was stored before it was sent. -/
def Slot.Served (slot : Slot C) (c : C) (handled : Option Handled) (response : Response) : Prop :=
  ∀ stored, handled = some (.returned stored) → stored.statusCode < 500 →
    response = stored ∧ slot = .done c stored

def Phase.Sound (lapped : C → Prop) (slot : Slot C) (c : C) (handled : Option Handled) :
    Phase → Prop
  | .arriving | .acquiring | .reading | .running => handled = none
  | .retrying => handled = none ∧ (slot = .free ∨ lapped c)
  | .passing | .repairing => False
  | .releasing none => handled = some .raised
  | .releasing (some response) => handled = some (.returned response) ∧ 500 ≤ response.statusCode
  | .collecting response | .storing response =>
    handled = some (.returned response) ∧ response.statusCode < 500
  | .finished (.responded response) =>
    (handled = none → slot.Answers settings hashes requests lapped c response) ∧
      slot.Served c handled response
  | .finished _ => True

/-- `lapped` holds of every request that has met another in flight. -/
structure Inv (lapped : C → Prop) (σ : State C) (slot : Slot C) : Prop where
  value : σ.redis key = slot.value settings hashes requests
  holder : ∀ c, (σ.phase c).holds = true → slot = .held c
  owner : ∀ c, slot = .held c → (σ.phase c).took = true
  seen : ∀ c, Overlaps hashes requests key σ c → lapped c
  succeeded : ∀ c, Succeeded σ c → slot = .held c ∨ ∃ response, slot = .done c response
  stored : ∀ c response, slot = .done c response →
    σ.handled c = some (.returned response) ∧ response.statusCode < 500
  sound : ∀ c, (σ.phase c).Sound settings hashes requests lapped slot c (σ.handled c)

/-- A request that has not read the record of `d`, or has been answered from it. -/
def Phase.Follows (d : C) (stored : Response) (c : C) : Phase → Prop
  | .arriving | .acquiring | .reading => True
  | .finished (.responded response) => Repeats settings hashes requests d stored c response
  | .finished _ => True
  | _ => False

/-- How one step of `c` may change the slot. -/
inductive Slot.Move (c : C) : Slot C → Slot C → Prop where
  | stay : Slot.Move c slot slot
  | take : Slot.Move c .free (.held c)
  | release : Slot.Move c (.held c) .free
  | finish : Slot.Move c (.held c) (.done c response)

variable {settings hashes requests key} {lapped : C → Prop} {σ τ : State C} {slot next : Slot C}

theorem Failed.not_succeeded (failed : Failed σ c) : ¬Succeeded σ c := by
  rintro ⟨response, returned, below⟩
  rcases failed with raised | ⟨other, failing, above⟩
  · rw [returned] at raised
    cases raised
  · rw [returned] at failing
    cases failing
    omega

theorem Phase.Sound.failed (sound : (Phase.releasing result).Sound settings hashes requests lapped
    slot c (σ.handled c)) : Failed σ c := by
  cases result with
  | none => exact .inl sound
  | some response => exact .inr ⟨response, sound⟩

/-- A request answered with what its own handler returned. -/
theorem Phase.Sound.responded (returned : handled = some (.returned response))
    (isDone : response.statusCode < 500 → slot = .done c response) :
    (Phase.finished (.responded response)).Sound settings hashes requests lapped slot c handled := by
  subst returned
  refine ⟨nofun, fun stored same below => ?_⟩
  cases same
  exact ⟨rfl, isDone below⟩

/-- A finished request is answered for good: a stored response stays. A free slot
may be taken only in sight of the requests that wait. -/
theorem Phase.Sound.mono {phase : Phase} {handled : Option Handled}
    (sound : phase.Sound settings hashes requests lapped slot c handled)
    (kept : ∀ {d response}, slot = .done d response → next = .done d response)
    (taken : phase.awaits = true → slot = .free → next = .free ∨ lapped c) :
    phase.Sound settings hashes requests lapped next c handled := by
  cases phase with
  | retrying =>
    obtain ⟨unhandled, free | met⟩ := sound
    · exact ⟨unhandled, taken rfl free⟩
    · exact ⟨unhandled, .inr met⟩
  | finished outcome =>
    cases outcome with
    | responded response =>
      obtain ⟨answers, served⟩ := sound
      refine ⟨fun unhandled => ?_, fun stored returned below => ?_⟩
      · rcases answers unhandled with refused | ⟨d, stored, isDone, matched⟩
        · exact .inl refused
        · exact .inr ⟨d, stored, kept isDone, matched⟩
      · obtain ⟨same, isDone⟩ := served stored returned below
        exact ⟨same, kept isDone⟩
    | raised | cancelled => trivial
  | releasing response => cases response <;> exact sound
  | _ => exact sound

namespace Slot.Move

theorem held (move : Slot.Move c slot next) (other : d ≠ c) (owner : slot = .held d) :
    next = .held d := by
  cases move with
  | stay => exact owner
  | take => cases owner
  | release | finish => exact absurd (Slot.held.inj owner).symm other

theorem done (move : Slot.Move c slot next) (isDone : slot = .done d response) :
    next = .done d response := by
  cases move with
  | stay => exact isDone
  | take | release | finish => cases isDone

/-- Who else holds the slot after the move held it before. -/
theorem held_back (move : Slot.Move c slot next) (other : d ≠ c) (owner : next = .held d) :
    slot = .held d := by
  cases move with
  | stay => exact owner
  | take => exact absurd (Slot.held.inj owner).symm other
  | release | finish => cases owner

/-- Only the mover takes a free slot. -/
theorem free (move : Slot.Move c slot next) (free : slot = .free) :
    next = .free ∨ next = .held c := by
  cases move with
  | stay => exact .inl free
  | take => exact .inr rfl
  | release | finish => cases free

end Slot.Move

/-- What a Redis write of `c` may do to the slot, given what its handler did. -/
structure Advances (σ : State C) (c : C) (slot next : Slot C) : Prop where
  move : Slot.Move c slot next
  succeeded : Succeeded σ c → next = .held c ∨ ∃ response, next = .done c response
  stored : ∀ d response, next = .done d response →
    σ.handled d = some (.returned response) ∧ response.statusCode < 500

namespace Advances

theorem take : Advances σ c .free (.held c) := ⟨.take, fun _ => .inl rfl, nofun⟩

theorem release (failed : ¬Succeeded σ c) : Advances σ c (.held c) .free :=
  ⟨.release, fun success => absurd success failed, nofun⟩

theorem finish (returned : σ.handled c = some (.returned response))
    (below : response.statusCode < 500) : Advances σ c (.held c) (.done c response) := by
  refine ⟨.finish, fun _ => .inr ⟨response, rfl⟩, ?_⟩
  intro d stored isDone
  cases isDone
  exact ⟨returned, below⟩

end Advances

/-- The `GET` of a record that some request has written. -/
theorem resume_reading (written : slot ≠ .free) (c : C) (met : ∀ d, slot = .held d → lapped c) :
    ∃ response,
      Phase.reading.resume (hashOf hashes requests c) (slot.value settings hashes requests) =
        .finished (.responded response) ∧
      slot.Answers settings hashes requests lapped c response := by
  cases slot with
  | free => exact absurd rfl written
  | held d => exact ⟨inFlight, rfl, .inl ⟨rfl, met d rfl⟩⟩
  | done d stored =>
    obtain ⟨record, read, existing⟩ :=
      @deserialize_done settings (hashOf hashes requests d) stored
    have nonempty : hashOf hashes requests d ≠ "" := hexdigest_ne_empty _
    simp only [Slot.value, Phase.resume, read, proceed, existing, answer]
    by_cases same : hashOf hashes requests d = hashOf hashes requests c
    · refine ⟨replay (storedCopy settings stored), ?_, .inr ⟨d, stored, rfl, ?_⟩⟩
      · simp [same]
      · rw [Repeats, if_pos same]
        exact ⟨rfl, rfl⟩
    · refine ⟨keyMismatch, ?_, .inr ⟨d, stored, rfl, ?_⟩⟩
      · simp [same, nonempty]
      · rw [Repeats, if_neg same]

namespace Inv

theorem stay (inv : Inv settings hashes requests key lapped σ slot) (c : C) :
    Advances σ c slot slot :=
  ⟨.stay, inv.succeeded c, inv.stored⟩

/-- Whoever waits while the slot is held by another has met it in flight. -/
theorem met (inv : Inv settings hashes requests key lapped σ slot)
    (awaits : (σ.phase c).awaits = true) (idle : (σ.phase c).took = false)
    (held : slot = .held d) : lapped c := by
  have took := inv.owner d held
  have other : d ≠ c := by
    rintro rfl
    rw [took] at idle
    cases idle
  refine inv.seen c ⟨awaits, d, other, took, ?_⟩
  rw [inv.value, held, Slot.value]

/-- The command `c` waits for, with the phase it goes on in. -/
theorem command (inv : Inv settings hashes requests key lapped σ slot) (c : C)
    (awaits : (σ.phase c).awaits = true) : ∃ next, Advances σ c slot next ∧
    (σ.phase c).write settings (hashOf hashes requests c) (slot.value settings hashes requests) =
      next.value settings hashes requests ∧
    let resumed := (σ.phase c).resume (hashOf hashes requests c)
      (slot.value settings hashes requests)
    (resumed.holds = true → next = .held c) ∧ (next = .held c → resumed.took = true) ∧
      resumed.Sound settings hashes requests lapped next c (σ.handled c) := by
  have sound := inv.sound c
  have holder := inv.holder c
  have met : (σ.phase c).took = false → ∀ d, slot = .held d → lapped c :=
    fun idle d held => inv.met awaits idle held
  have owner := inv.owner c
  generalize phase : σ.phase c = current at *
  cases current with
  | acquiring =>
    cases slot with
    | free => exact ⟨.held c, .take, rfl, fun _ => rfl, fun _ => rfl, sound⟩
    | held d => exact ⟨_, inv.stay c, rfl, nofun, fun own => owner own, sound⟩
    | done d stored => exact ⟨_, inv.stay c, rfl, nofun, nofun, sound⟩
  | reading =>
    by_cases written : slot = .free
    · subst written
      exact ⟨_, inv.stay c, rfl, nofun, nofun, sound, .inl rfl⟩
    · obtain ⟨response, resumed, answers⟩ := resume_reading written c (met rfl)
      rw [resumed]
      refine ⟨_, inv.stay c, rfl, nofun, fun own => absurd (owner own) nofun,
        fun _ => answers, fun stored returned => ?_⟩
      rw [sound] at returned
      cases returned
  | retrying =>
    obtain ⟨unhandled, waited⟩ := sound
    by_cases free : slot = .free
    · subst free
      exact ⟨.held c, .take, rfl, fun _ => rfl, fun _ => rfl, unhandled⟩
    · have resumed : Phase.retrying.resume (hashOf hashes requests c)
          (slot.value settings hashes requests) = .finished (.responded inFlight) := by
        cases slot with
        | free => exact absurd rfl free
        | held d | done d stored => rfl
      have written : Phase.retrying.write settings (hashOf hashes requests c)
          (slot.value settings hashes requests) = slot.value settings hashes requests := by
        cases slot with
        | free => exact absurd rfl free
        | held d | done d stored => rfl
      rw [resumed]
      refine ⟨slot, inv.stay c, written, nofun, fun own => absurd (owner own) nofun,
        fun _ => .inl ⟨rfl, waited.resolve_left free⟩, fun stored returned => ?_⟩
      rw [unhandled] at returned
      cases returned
  | repairing => cases sound
  | releasing response =>
    cases holder rfl
    have failed : Failed σ c := sound.failed
    refine ⟨.free, .release failed.not_succeeded, rfl, ?_⟩
    cases response with
    | none => exact ⟨nofun, nofun, trivial⟩
    | some response =>
      exact ⟨nofun, nofun, .responded sound.1 fun below => absurd sound.2 (Nat.not_le.mpr below)⟩
  | storing response =>
    cases holder rfl
    exact ⟨.done c response, .finish sound.1 sound.2, rfl, nofun, nofun,
      .responded sound.1 fun _ => rfl⟩
  | arriving | passing | running | collecting | finished => cases awaits

/-- Whatever `c` waits for may still reach Redis after `c` is gone. -/
theorem write (inv : Inv settings hashes requests key lapped σ slot) (c : C) :
    ∃ next, Advances σ c slot next ∧
    (σ.phase c).write settings (hashOf hashes requests c) (slot.value settings hashes requests) =
      next.value settings hashes requests := by
  by_cases awaits : (σ.phase c).awaits = true
  · obtain ⟨next, advances, written, -⟩ := inv.command c awaits
    exact ⟨next, advances, written⟩
  · refine ⟨slot, inv.stay c, ?_⟩
    revert awaits
    cases σ.phase c <;> simp [Phase.awaits, Phase.write]

theorem once (inv : Inv settings hashes requests key lapped σ slot) (first : Succeeded σ c)
    (second : Succeeded σ d) : c = d := by
  rcases inv.succeeded c first with held | ⟨response, isDone⟩
  · rcases inv.succeeded d second with held' | ⟨response, isDone⟩
    · exact Slot.held.inj (held.symm.trans held')
    · cases held.symm.trans isDone
  · rcases inv.succeeded d second with held | ⟨response', isDone'⟩
    · cases isDone.symm.trans held
    · exact (Slot.done.inj (isDone.symm.trans isDone')).1

theorem duplicate (inv : Inv settings hashes requests key lapped σ slot)
    (ended : σ.phase c = .finished (.responded response)) (unhandled : σ.handled c = none) :
    Duplicate settings hashes requests lapped σ c response := by
  have sound := inv.sound c
  rw [ended] at sound
  rcases sound.1 unhandled with refused | ⟨d, stored, isDone, matched⟩
  · exact .inl refused
  · obtain ⟨returned, below⟩ := inv.stored d stored isDone
    exact .inr ⟨d, stored, returned, below, matched⟩

/-- A success that has been sent is under the key. -/
theorem stores {stored : Response} (inv : Inv settings hashes requests key lapped σ slot)
    (ended : σ.phase c = .finished (.responded response))
    (returned : σ.handled c = some (.returned stored)) (below : stored.statusCode < 500) :
    response = stored ∧ Stored settings hashes requests key σ c stored := by
  have sound := inv.sound c
  rw [ended] at sound
  obtain ⟨same, isDone⟩ := sound.2 stored returned below
  refine ⟨same, returned, below, ?_⟩
  rw [inv.value, isDone, Slot.value]

theorem done {stored : Response} (inv : Inv settings hashes requests key lapped σ slot)
    (isStored : Stored settings hashes requests key σ d stored) : slot = .done d stored := by
  obtain ⟨returned, below, value⟩ := isStored
  rcases inv.succeeded d ⟨stored, returned, below⟩ with held | ⟨response, isDone⟩
  · rw [inv.value, held] at value
    -- the status tells the two records apart
    cases value
  · have same := (inv.stored d response isDone).1.symm.trans returned
    cases same
    exact isDone

/-- A failed handler leaves only the release to do. -/
theorem releasing (inv : Inv settings hashes requests key lapped σ slot) (failed : Failed σ c)
    (unfinished : ∀ outcome, σ.phase c ≠ .finished outcome) :
    ∃ response, σ.phase c = .releasing response := by
  have sound := inv.sound c
  have handled : σ.handled c ≠ none := by
    rcases failed with raised | ⟨response, returned, -⟩
    · rw [raised]
      nofun
    · rw [returned]
      nofun
  generalize phase : σ.phase c = current at *
  cases current with
  | releasing response => exact ⟨response, rfl⟩
  | collecting response | storing response =>
    exact absurd ⟨response, sound⟩ failed.not_succeeded
  | finished outcome => exact absurd rfl (unfinished outcome)
  | passing | repairing => cases sound
  | retrying => exact absurd sound.1 handled
  | arriving | acquiring | reading | running => exact absurd sound handled

end Inv

variable [DecidableEq C]

/-- One step of `c`: everyone else is where they were. -/
theorem Inv.advance (inv : Inv settings hashes requests key lapped σ slot)
    (frame : ∀ d, d ≠ c → τ.phase d = σ.phase d ∧ τ.handled d = σ.handled d)
    (move : Slot.Move c slot next) (value : τ.redis key = next.value settings hashes requests)
    (holder : (τ.phase c).holds = true → next = .held c)
    (owner : next = .held c → (τ.phase c).took = true)
    (later : ∀ d, Overlaps hashes requests key τ d → lapped d)
    (succeeded : Succeeded τ c → next = .held c ∨ ∃ response, next = .done c response)
    (stored : ∀ d response, next = .done d response →
      τ.handled d = some (.returned response) ∧ response.statusCode < 500)
    (sound : (τ.phase c).Sound settings hashes requests lapped next c (τ.handled c)) :
    Inv settings hashes requests key lapped τ next := by
  refine ⟨value, ?_, ?_, later, ?_, stored, ?_⟩
  · intro d holds
    by_cases same : d = c
    · subst same
      exact holder holds
    · rw [(frame d same).1] at holds
      exact move.held same (inv.holder d holds)
  · intro d own
    by_cases same : d = c
    · subst same
      exact owner own
    · rw [(frame d same).1]
      exact inv.owner d (move.held_back same own)
  · intro d success
    by_cases same : d = c
    · subst same
      exact succeeded success
    · have before : Succeeded σ d := by
        rwa [Succeeded, (frame d same).2] at success
      rcases inv.succeeded d before with owner | ⟨response, isDone⟩
      · exact .inl (move.held same owner)
      · exact .inr ⟨response, move.done isDone⟩
  · intro d
    by_cases same : d = c
    · subst same
      exact sound
    · rw [(frame d same).1, (frame d same).2]
      refine (inv.sound d).mono move.done fun awaits free => ?_
      refine (move.free free).imp_right fun taken => later d ?_
      refine ⟨by rwa [(frame d same).1], c, Ne.symm same, owner taken, ?_⟩
      rw [value, taken, Slot.value]

namespace Inv

theorem moveTo (inv : Inv settings hashes requests key lapped σ slot) {phase : Phase}
    (later : ∀ d, Overlaps hashes requests key (σ.moveTo c phase) d → lapped d)
    (holder : phase.holds = true → slot = .held c) (owner : slot = .held c → phase.took = true)
    (sound : phase.Sound settings hashes requests lapped slot c (σ.handled c)) :
    Inv settings hashes requests key lapped (σ.moveTo c phase) slot := by
  refine inv.advance ?_ .stay inv.value ?_ ?_ later (inv.succeeded c) inv.stored ?_
  · intro d other
    simp [State.moveTo, other]
  · simpa [State.moveTo] using holder
  · simpa [State.moveTo] using owner
  · simpa [State.moveTo] using sound

/-- The handler of the slot's owner ends. -/
theorem handle (inv : Inv settings hashes requests key lapped σ slot) {phase : Phase}
    (later : ∀ d, Overlaps hashes requests key (σ.handle c handled phase) d → lapped d)
    (running : σ.phase c = .running) (took : phase.took = true)
    (sound : phase.Sound settings hashes requests lapped slot c (some handled)) :
    Inv settings hashes requests key lapped (σ.handle c handled phase) slot := by
  have owner : slot = .held c := inv.holder c (by rw [running]; rfl)
  refine inv.advance ?_ .stay inv.value (fun _ => owner) ?_ later (fun _ => .inl owner) ?_ ?_
  · intro d other
    simp [State.handle, other]
  · simpa [State.handle] using fun _ => took
  · intro d response isDone
    rw [owner] at isDone
    cases isDone
  · simpa [State.handle] using sound

/-- A Redis write of `c`, which keeps what its handler did. -/
theorem put (inv : Inv settings hashes requests key lapped σ slot) {phase : Phase}
    (later : ∀ d, Overlaps hashes requests key
      ((σ.put key (next.value settings hashes requests)).moveTo c phase) d → lapped d)
    (advances : Advances σ c slot next) (holder : phase.holds = true → next = .held c)
    (owner : next = .held c → phase.took = true)
    (sound : phase.Sound settings hashes requests lapped next c (σ.handled c)) :
    Inv settings hashes requests key lapped
      ((σ.put key (next.value settings hashes requests)).moveTo c phase) next := by
  refine inv.advance ?_ advances.move ?_ ?_ ?_ later advances.succeeded advances.stored ?_
  · intro d other
    simp [State.moveTo, State.put, other]
  · simp [State.moveTo, State.put]
  · simpa [State.moveTo] using holder
  · simpa [State.moveTo] using owner
  · simpa [State.moveTo, State.put] using sound

end Inv

/-- The guarantee in a state that `actions` reach, with every step that is possible
from there on. -/
structure AtMostOnce (settings : Settings) (hashes : Hashes) (requests : C → Request)
    (key : String) (start : State C) (actions : List (Action C)) (σ : State C) : Prop where
  once : ∀ c d, Succeeded σ c → Succeeded σ d → c = d
  duplicate : ∀ c response, σ.phase c = .finished (.responded response) → σ.handled c = none →
    Duplicate settings hashes requests
      (Overlapped settings hashes requests key start actions) σ c response
  stores : ∀ c response stored, σ.phase c = .finished (.responded response) →
    σ.handled c = some (.returned stored) → stored.statusCode < 500 →
    response = stored ∧ Stored settings hashes requests key σ c stored
  /-- A stored response is never answered by a 409 nor by a second execution. -/
  settled : ∀ d stored c future τ response, Stored settings hashes requests key σ d stored →
    (σ.phase c).unread = true → exec (step settings hashes requests) σ future = some τ →
    τ.phase c = .finished (.responded response) →
    τ.handled c = none ∧ Repeats settings hashes requests d stored c response
  progress : ∀ c, σ.phase c ≠ .running → (∀ outcome, σ.phase c ≠ .finished outcome) →
    ∃ action τ, action.request = c ∧ step settings hashes requests σ action = some τ ∧
      (τ.phase c).rank < (σ.phase c).rank
  releases : ∀ c, Failed σ c → (∀ outcome, σ.phase c ≠ .finished outcome) →
    ∃ τ, step settings hashes requests σ (.command c) = some τ ∧ τ.redis key = none
  freed : ∀ action τ c outcome, step settings hashes requests σ action = some τ →
    Failed τ c → (∀ earlier, σ.phase c ≠ .finished earlier) → τ.phase c = .finished outcome →
    outcome ≠ .cancelled → τ.redis key = none

/-- Everything that `c` may do next, once it has been sent to the slot. -/
inductive Takes (settings : Settings) (hashes : Hashes) (requests : C → Request) (key : String)
    (σ : State C) (c : C) : State C → Prop where
  | arrive : σ.phase c = .arriving →
    Takes settings hashes requests key σ c (σ.moveTo c .acquiring)
  | command : (σ.phase c).awaits = true → Takes settings hashes requests key σ c
    ((σ.put key ((σ.phase c).write settings (hashOf hashes requests c) (σ.redis key))).moveTo c
      ((σ.phase c).resume (hashOf hashes requests c) (σ.redis key)))
  | handlerEnds (handled : Handled) : σ.phase c = .running →
    Takes settings hashes requests key σ c (σ.handle c handled handled.resume)
  | collect : σ.phase c = .collecting response →
    Takes settings hashes requests key σ c (σ.moveTo c (.storing response))
  | collectRaises : σ.phase c = .collecting response →
    Takes settings hashes requests key σ c (σ.moveTo c (.finished .raised))
  | cancel (value : Option Value) : value = σ.redis key ∨
      value = (σ.phase c).write settings (hashOf hashes requests c) (σ.redis key) →
    Takes settings hashes requests key σ c ((σ.put key value).moveTo c (.finished .cancelled))

namespace Takes

/-- A step moves the request it belongs to and no other. -/
theorem frame (takes : Takes settings hashes requests key σ c τ) (other : d ≠ c) :
    τ.phase d = σ.phase d := by
  cases takes with
  | handlerEnds handled running => simp [State.handle, other]
  | arrive | command | collect | collectRaises | cancel => simp [State.moveTo, State.put, other]

theorem handled (takes : Takes settings hashes requests key σ c τ) (other : d ≠ c) :
    τ.handled d = σ.handled d := by
  cases takes with
  | handlerEnds handled running => simp [State.handle, other]
  | arrive | command | collect | collectRaises | cancel => rfl

theorem inv (takes : Takes settings hashes requests key σ c τ)
    (later : ∀ d, Overlaps hashes requests key τ d → lapped d)
    (inv : Inv settings hashes requests key lapped σ slot) :
    ∃ next, Slot.Move c slot next ∧ Inv settings hashes requests key lapped τ next := by
  have sound := inv.sound c
  have owner := inv.owner c
  cases takes with
  | arrive phase =>
    rw [phase] at sound owner
    exact ⟨slot, .stay, inv.moveTo later nofun (fun own => absurd (owner own) nofun) sound⟩
  | command awaits =>
    obtain ⟨next, advances, written, holder, owner, sound⟩ := inv.command c awaits
    rw [inv.value, written] at later ⊢
    exact ⟨next, advances.move, inv.put later advances holder owner sound⟩
  | handlerEnds handled running =>
    refine ⟨slot, .stay, inv.handle later running ?_ ?_⟩
    · cases handled with
      | raised => rfl
      | returned response =>
        simp only [Handled.resume]
        split <;> rfl
    · cases handled with
      | raised => rfl
      | returned response =>
        simp only [Handled.resume]
        split
        · rename_i failing
          exact ⟨rfl, failing⟩
        · rename_i below
          exact ⟨rfl, Nat.lt_of_not_le below⟩
  | collect collecting =>
    rw [collecting] at sound
    have holds : slot = .held c := inv.holder c (by rw [collecting]; rfl)
    exact ⟨slot, .stay, inv.moveTo later (fun _ => holds) (fun _ => rfl) sound⟩
  | collectRaises collecting =>
    exact ⟨slot, .stay, inv.moveTo later nofun (fun _ => rfl) trivial⟩
  | cancel value sent =>
    rw [inv.value] at sent
    rcases sent with rfl | rfl
    · exact ⟨slot, .stay, inv.put later (inv.stay c) nofun (fun _ => rfl) trivial⟩
    · obtain ⟨next, advances, written⟩ := inv.write c
      rw [written] at later ⊢
      exact ⟨next, advances.move, inv.put later advances nofun (fun _ => rfl) trivial⟩

/-- A request that follows `d` goes on to read what `d` stored. -/
theorem follows (takes : Takes settings hashes requests key σ e τ)
    (inv : Inv settings hashes requests key lapped σ (.done d stored))
    (follows : (σ.phase c).Follows settings hashes requests d stored c)
    (unhandled : σ.handled c = none) :
    (τ.phase c).Follows settings hashes requests d stored c ∧ τ.handled c = none := by
  by_cases own : c = e
  · subst own
    cases takes with
    | arrive arriving =>
      exact ⟨by simp [State.moveTo, Phase.Follows], unhandled⟩
    | command awaits =>
      refine ⟨?_, unhandled⟩
      rw [inv.value]
      simp only [State.moveTo, Function.update_self]
      generalize phase : σ.phase c = current at *
      cases current with
      | acquiring => trivial
      | reading =>
        obtain ⟨response, resumed, answers⟩ := @resume_reading _ settings hashes requests
          (fun _ => False) (.done d stored) nofun c nofun
        rw [resumed]
        rcases answers with ⟨-, impossible⟩ | ⟨d', stored', isDone, matched⟩
        · cases impossible
        · cases isDone
          exact matched
      | retrying | repairing | releasing | storing => cases follows
      | arriving | passing | running | collecting | finished => cases awaits
    | handlerEnds handled running =>
      rw [running] at follows
      cases follows
    | collect collecting | collectRaises collecting =>
      rw [collecting] at follows
      cases follows
    | cancel value sent => exact ⟨by simp [State.moveTo, Phase.Follows], unhandled⟩
  · rw [takes.frame own, takes.handled own]
    exact ⟨follows, unhandled⟩

/-- The last step of a request whose handler failed is the release. -/
theorem freed (takes : Takes settings hashes requests key σ c τ)
    (inv : Inv settings hashes requests key lapped σ slot) (failed : Failed τ c)
    (unfinished : ∀ earlier, σ.phase c ≠ .finished earlier)
    (ended : τ.phase c = .finished outcome) (completed : outcome ≠ .cancelled) :
    τ.redis key = none := by
  cases takes with
  | arrive phase => simp [State.moveTo] at ended
  | command awaits =>
    have before : Failed σ c := failed
    obtain ⟨response, releasing⟩ := inv.releasing before unfinished
    simp [State.moveTo, State.put, releasing, Phase.write]
  | handlerEnds handled running =>
    simp only [State.handle, Function.update_self] at ended
    cases handled with
    | raised => cases ended
    | returned response =>
      simp only [Handled.resume] at ended
      split at ended <;> cases ended
  | collect collecting => simp [State.moveTo] at ended
  | collectRaises collecting =>
    have sound := inv.sound c
    rw [collecting] at sound
    exact absurd ⟨_, sound⟩ failed.not_succeeded
  | cancel value sent =>
    simp only [State.moveTo, Function.update_self, Phase.finished.injEq] at ended
    exact absurd ended.symm completed

end Takes

variable (guarded : ∀ c, gate settings (requests c) = .guarded)
  (keyed : ∀ c, keyOf settings hashes requests c = key)
include guarded keyed

/-- The inversion of `step`. A guarded request never passes the slot by. -/
theorem Inv.takes {action : Action C} (inv : Inv settings hashes requests key lapped σ slot)
    (stepped : step settings hashes requests σ action = some τ) :
    Takes settings hashes requests key σ action.request τ := by
  have sound := inv.sound action.request
  cases action with
  | arrive c =>
    simp only [step, guarded] at stepped
    split at stepped
    · rename_i phase
      cases Option.some.inj stepped
      exact .arrive phase
    · contradiction
  | command c =>
    simp only [step, keyed] at stepped
    split at stepped
    · rename_i awaits
      cases Option.some.inj stepped
      exact .command awaits
    · contradiction
  | handlerRaises c =>
    simp only [step] at stepped
    split at stepped
    · rename_i running
      cases Option.some.inj stepped
      exact .handlerEnds .raised running
    · rename_i passing
      simp only [Action.request, passing] at sound
      cases sound
    · contradiction
  | handlerReturns c response =>
    simp only [step] at stepped
    split at stepped
    · rename_i running
      cases Option.some.inj stepped
      exact .handlerEnds (.returned response) running
    · rename_i passing
      simp only [Action.request, passing] at sound
      cases sound
    · contradiction
  | collect c =>
    simp only [step] at stepped
    split at stepped
    · rename_i response collecting
      cases Option.some.inj stepped
      exact .collect collecting
    · contradiction
  | collectRaises c =>
    simp only [step] at stepped
    split at stepped
    · rename_i response collecting
      cases Option.some.inj stepped
      exact .collectRaises collecting
    · contradiction
  | cancel c sent =>
    simp only [step, keyed] at stepped
    split at stepped
    · contradiction
    · cases Option.some.inj stepped
      cases sent with
      | false => exact .cancel _ (.inl rfl)
      | true => exact .cancel _ (.inr rfl)

/-- `lapped` may be anything that holds of the requests which meet another in some
state of the run. -/
theorem exec_inv {start : State C} {actions : List (Action C)}
    (run : exec (step settings hashes requests) start actions = some σ)
    (seen : ∀ c, Overlapped settings hashes requests key start actions c → lapped c)
    (inv : Inv settings hashes requests key lapped start slot) :
    ∃ slot, Inv settings hashes requests key lapped σ slot := by
  have reached := exec_history
    (fun past ρ => exec (step settings hashes requests) start past = some ρ ∧
      (past <+: actions → ∃ slot, Inv settings hashes requests key lapped ρ slot)) ?_ run
    ⟨rfl, fun _ => ⟨slot, inv⟩⟩
  · exact reached.2 (List.prefix_refl actions)
  · rintro past ρ action τ ⟨walked, before⟩ stepped
    have extended : exec (step settings hashes requests) start (past ++ [action]) = some τ :=
      exec_append.mpr ⟨ρ, walked, exec_cons.mpr ⟨τ, stepped, rfl⟩⟩
    refine ⟨extended, fun within => ?_⟩
    obtain ⟨slot, inv⟩ := before ((List.prefix_append past [action]).trans within)
    have later : ∀ c, Overlaps hashes requests key τ c → lapped c :=
      fun c overlaps => seen c ⟨_, τ, within, extended, overlaps⟩
    obtain ⟨next, -, after⟩ := (inv.takes guarded keyed stepped).inv later inv
    exact ⟨next, after⟩

/-- Once `d` has stored its success, whoever has not read the record can only read
that one. -/
theorem Inv.settled {stored : Response} {future : List (Action C)}
    (inv : Inv settings hashes requests key (fun _ => True) σ (.done d stored))
    (unread : (σ.phase c).unread = true)
    (run : exec (step settings hashes requests) σ future = some τ) :
    (τ.phase c).Follows settings hashes requests d stored c ∧ τ.handled c = none := by
  have reached := exec_preserves
    (fun ρ => Inv settings hashes requests key (fun _ => True) ρ (.done d stored) ∧
      (ρ.phase c).Follows settings hashes requests d stored c ∧ ρ.handled c = none) ?_ run ?_
  · exact reached.2
  · rintro ρ action ρ' ⟨before, follows, unhandled⟩ stepped
    have takes := before.takes guarded keyed stepped
    obtain ⟨next, move, after⟩ := takes.inv (fun _ _ => trivial) before
    rw [move.done rfl] at after
    exact ⟨after, takes.follows before follows unhandled⟩
  · have sound := inv.sound c
    generalize phase : σ.phase c = current at *
    cases current with
    | arriving | acquiring | reading => exact ⟨inv, trivial, sound⟩
    | passing | retrying | repairing | running | releasing | collecting | storing | finished =>
      cases unread

omit guarded in
theorem step_release (phase : σ.phase c = .releasing response) :
    ∃ τ, step settings hashes requests σ (.command c) = some τ ∧ τ.redis key = none := by
  simp only [step, phase, Phase.awaits, if_true, keyed]
  exact ⟨_, rfl, by simp [State.moveTo, State.put, Phase.write]⟩

omit keyed in
/-- Only the handler can keep a request from ending. -/
theorem Inv.progress (inv : Inv settings hashes requests key lapped σ slot)
    (notRunning : σ.phase c ≠ .running) (unfinished : ∀ outcome, σ.phase c ≠ .finished outcome) :
    ∃ action τ, action.request = c ∧ step settings hashes requests σ action = some τ ∧
      (τ.phase c).rank < (σ.phase c).rank := by
  by_cases awaits : (σ.phase c).awaits = true
  · refine ⟨.command c, _, rfl, if_pos awaits, ?_⟩
    simpa [State.moveTo] using resume_rank awaits _ _
  · have sound := inv.sound c
    generalize phase : σ.phase c = current at *
    cases current with
    | arriving =>
      refine ⟨.arrive c, σ.moveTo c .acquiring, rfl, by simp [step, phase, guarded], ?_⟩
      simp [State.moveTo, Phase.rank]
    | collecting response =>
      refine ⟨.collect c, σ.moveTo c (.storing response), rfl, by simp [step, phase], ?_⟩
      simp [State.moveTo, Phase.rank]
    | passing => cases sound
    | running => exact absurd rfl notRunning
    | finished outcome => exact absurd rfl (unfinished outcome)
    | acquiring | reading | retrying | repairing | releasing | storing => exact absurd rfl awaits

theorem Inv.atMostOnce {start : State C} {actions : List (Action C)}
    (inv : Inv settings hashes requests key
      (Overlapped settings hashes requests key start actions) σ slot)
    (met : Inv settings hashes requests key (fun _ => True) σ any) :
    AtMostOnce settings hashes requests key start actions σ := by
  refine ⟨fun c d => inv.once, fun c response => inv.duplicate,
    fun c response stored => inv.stores, ?_, fun c => inv.progress guarded, ?_, ?_⟩
  · intro d stored c future τ response isStored unread run ended
    cases met.done isStored
    obtain ⟨follows, unhandled⟩ := met.settled guarded keyed unread run
    rw [ended] at follows
    exact ⟨unhandled, follows⟩
  · intro c failed unfinished
    obtain ⟨response, phase⟩ := inv.releasing failed unfinished
    exact step_release keyed phase
  · intro action τ c outcome stepped failed unfinished ended
    have takes := inv.takes guarded keyed stepped
    by_cases own : c = action.request
    · subst own
      exact takes.freed inv failed unfinished ended
    · rw [takes.frame own] at ended
      exact absurd ended (unfinished outcome)

omit guarded keyed in
omit [DecidableEq C] in
theorem Inv.initial {redis : String → Option Value} (absent : redis key = none) :
    Inv settings hashes requests key lapped (State.initial redis) (.free : Slot C) := by
  refine ⟨absent, nofun, nofun, ?_, ?_, nofun, fun c => rfl⟩
  · rintro c ⟨awaits, -⟩
    cases awaits
  · rintro c ⟨response, returned, -⟩
    cases returned

end Guarantee

def Request.Carries (request : Request) (tenantId : Option String)
    (method path clientKey : String) : Prop :=
  request.tenantId = tenantId ∧ upper request.method = method ∧ request.path = path ∧
    request.clientKey = clientKey

theorem handler_runs_at_most_once {C : Type} [DecidableEq C] (settings : Settings)
    (hashes : Hashes) (requests : C → Request) (tenantId : Option String)
    (method path clientKey : String) (redis : String → Option Value)
    (actions : List (Action C)) (σ : State C)
    (same : ∀ c, (requests c).Carries tenantId method path clientKey)
    (guarded : ∀ c, gate settings (requests c) = .guarded)
    (absent : redis (buildIdemKey settings hashes tenantId method path clientKey) = none)
    (reached : exec (step settings hashes requests) (State.initial redis) actions = some σ) :
    AtMostOnce settings hashes requests
      (buildIdemKey settings hashes tenantId method path clientKey) (State.initial redis) actions
      σ := by
  have keyed : ∀ c, keyOf settings hashes requests c =
      buildIdemKey settings hashes tenantId method path clientKey := by
    intro c
    obtain ⟨sameTenant, sameMethod, samePath, sameKey⟩ := same c
    rw [keyOf, sameTenant, sameMethod, samePath, sameKey]
  obtain ⟨slot, inv⟩ := exec_inv guarded keyed reached (fun _ overlapped => overlapped)
    (.initial absent)
  obtain ⟨any, met⟩ := exec_inv guarded keyed reached (fun _ _ => trivial) (.initial absent)
  exact inv.atMostOnce guarded keyed met

/-- The digests of the three inputs below. -/
def publishHashes : Hashes where
  sha1 := fun _ i => [7, 92, 6, 23, 29, 70, 212, 213, 150, 97, 98, 21, 243, 213, 13, 90, 171, 188,
    127, 54].getD i 0
  sha256 := fun body i =>
    if body = utf8 "\x7b\"version\":1\x7d" then
      [36, 48, 241, 162, 173, 41, 130, 208, 6, 120, 133, 72, 138, 76, 137, 226, 26, 209, 215, 200,
        59, 17, 91, 168, 241, 178, 10, 204, 136, 223, 174, 168].getD i 0
    else
      [162, 253, 205, 207, 35, 129, 7, 247, 189, 128, 185, 181, 1, 243, 150, 48, 43, 26, 134, 184,
        235, 200, 118, 122, 124, 143, 110, 15, 196, 163, 124, 140].getD i 0

/-- The last of five requests reuses the key for another body. -/
def publish (c : Fin 5) : Request where
  method := "POST"
  path := "/api/v1/scenarios/s1/publish"
  tenantId := some "t1"
  idempotencyKey := "abcd1234efgh"
  body := utf8 (if c = 4 then "\x7b\"version\":9\x7d" else "\x7b\"version\":1\x7d")

/-- The first handler fails and the second succeeds while the third request is
refused; the fourth is a replay. -/
def publishRun : List (Action (Fin 5)) :=
  [.arrive 0, .arrive 1, .command 0, .command 1, .handlerReturns 0 ⟨503, [], []⟩, .command 0,
    .command 1, .command 1, .arrive 2, .command 2, .command 2,
    .handlerReturns 1 ⟨201, [("content-type", "application/json")], utf8 "ok"⟩, .collect 1,
    .command 1, .arrive 3, .command 3, .command 3, .arrive 4, .command 4, .command 4]

theorem handler_runs_at_most_once_publish :
    ∃ σ, exec (step Settings.default publishHashes publish) (State.initial fun _ => none)
        publishRun = some σ ∧
      AtMostOnce Settings.default publishHashes publish
        (buildIdemKey Settings.default publishHashes (some "t1") "POST"
          "/api/v1/scenarios/s1/publish" "abcd1234efgh") (State.initial fun _ => none) publishRun
        σ := by
  have complete : (exec (step Settings.default publishHashes publish)
      (State.initial fun _ => none) publishRun).isSome = true := by decide +kernel
  refine ⟨_, (Option.some_get complete).symm, ?_⟩
  refine handler_runs_at_most_once Settings.default publishHashes publish (some "t1") "POST"
    "/api/v1/scenarios/s1/publish" "abcd1234efgh" (fun _ => none) publishRun _ ?_ ?_ rfl
    (Option.some_get complete).symm
  · have method : upper "POST" = "POST" := by decide +kernel
    have clientKey : String.ofList (strip "abcd1234efgh".toList) = "abcd1234efgh" := by
      decide +kernel
    exact fun c => ⟨rfl, method, rfl, clientKey⟩
  · decide +kernel

end AgentOE.Idempotency
