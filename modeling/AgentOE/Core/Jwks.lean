import Mathlib.Algebra.Order.Ring.Rat
import Mathlib.Tactic.Linarith
import AgentOE.Transition

/-! `JWKSCache.get_key`, run by any number of lookups at once. A step reads the clock once
and goes on to the next await or the next reading; the lock is handed on in the order of its
waiters. These are more interleavings than the event loop has, which suspends a lookup only
while it waits for the lock or the fetch. What is fetched, and when, is given. -/
namespace AgentOE.Jwks
open Transition

/-- Seconds of the monotonic clock. -/
abbrev Time := Rat

structure Settings where
  jwksUrl : String
  jwksCacheTtlSeconds : Time

def Settings.enabled (settings : Settings) : Bool := settings.jwksUrl ≠ ""

/-- `_fail_backoff_s`. -/
def failBackoff : Time := 30

structure Jwk (X : Type) where
  kid : Option String
  material : X
  deriving DecidableEq

abbrev Keys (X : Type) := List (String × Jwk X)

variable {X C : Type}

/-- `dict[kid] = jwk`. -/
def assign (keys : Keys X) (kid : String) (jwk : Jwk X) : Keys X :=
  if keys.any (·.1 = kid) then keys.map fun entry => if entry.1 = kid then (kid, jwk) else entry
  else keys ++ [(kid, jwk)]

/-- A set without any `kid` is kept as its first key. -/
def byKid (keys : List (Jwk X)) : Keys X :=
  let named := keys.foldl (fun dict jwk => jwk.kid.elim dict fun kid => assign dict kid jwk) []
  match named, keys with
  | [], jwk :: _ => [("_default_", jwk)]
  | named, _ => named

structure CacheEntry (X : Type) where
  keysByKid : Keys X
  fetchedAt : Time
  deriving DecidableEq

/-- Where a lookup of a `kid` stands. `again` is the forced refresh after a `kid` that is
missing. -/
inductive Progress (X : Type) where
  | idle
  | refreshing (kid : Option String) (force again : Bool)
  | waiting (kid : Option String) (force again : Bool)
  /-- The lock is taken and nothing has been looked at yet. -/
  | entering (kid : Option String) (force again : Bool)
  | fetching (kid : Option String) (again : Bool)
  | answered (kid : Option String) (result : Option (Jwk X))
  deriving DecidableEq

/-- `started` and `failed` are recorded for the statements below; no step reads them. -/
inductive Event where
  | started (time : Time)
  | failed (time : Time)
  deriving DecidableEq

structure State (C X : Type) where
  entry : Option (CacheEntry X)
  lastFailAt : Time
  holder : Option C
  waiters : List C
  progress : C → Progress X
  clock : Time
  events : List Event

def State.initial (clock : Time) : State C X := ⟨none, 0, none, [], fun _ => .idle, clock, []⟩

/-- How a fetch ends: an exception, or the keys of the document. -/
inductive Outcome (X : Type) where
  | failed
  | fetched (keys : List (Jwk X))
  deriving DecidableEq

inductive Label (C X : Type) where
  | lookup (c : C) (kid : Option String) (now : Time)
  | refresh (c : C) (now : Time)
  /-- The first waiter takes the lock. -/
  | wake (c : C) (now : Time)
  | enter (c : C) (now : Time)
  | finish (c : C) (outcome : Outcome X) (now : Time)
  deriving DecidableEq

def Label.now : Label C X → Time
  | .lookup _ _ now | .refresh _ now | .wake _ now | .enter _ now | .finish _ _ now => now

section Machine
variable [DecidableEq C] (settings : Settings)

namespace State

def moveTo (σ : State C X) (c : C) (progress : Progress X) : State C X :=
  { σ with progress := Function.update σ.progress c progress }

/-- `get_key` once a refresh has returned the cached entry. -/
def deliver (σ : State C X) (c : C) (kid : Option String) (again : Bool) : State C X :=
  match σ.entry, kid with
  | none, _ => σ.moveTo c (.answered kid none)
  | some entry, none => σ.moveTo c (.answered none (entry.keysByKid.head?.map (·.2)))
  | some entry, some name => match entry.keysByKid.lookup name with
    | some jwk => σ.moveTo c (.answered kid (some jwk))
    | none =>
      if again then σ.moveTo c (.answered kid none) else σ.moveTo c (.refreshing kid true true)

/-- The cached entry is younger than the TTL. -/
def fresh (settings : Settings) (σ : State C X) (now : Time) : Bool :=
  σ.entry.any fun entry => now - entry.fetchedAt < settings.jwksCacheTtlSeconds

end State

/-- The step itself, at the reading `now` of the clock. -/
def act (σ : State C X) : Label C X → Option (State C X)
  | .lookup c kid now => match σ.progress c with
    | .idle =>
      if !settings.enabled then some (σ.moveTo c (.answered kid none))
      else if σ.entry.isNone then some (σ.moveTo c (.refreshing kid true false))
      else if σ.fresh settings now then some (σ.deliver c kid false)
      else some (σ.moveTo c (.refreshing kid false false))
    | _ => none
  | .refresh c now => match σ.progress c with
    | .refreshing kid force again =>
      if !force && now - σ.lastFailAt < failBackoff then some (σ.deliver c kid again)
      else if σ.holder.isNone && σ.waiters.isEmpty then
        some ({ σ with holder := some c }.moveTo c (.entering kid force again))
      else some ({ σ with waiters := σ.waiters ++ [c] }.moveTo c (.waiting kid force again))
    | _ => none
  | .wake c _ => match σ.progress c, σ.holder, σ.waiters with
    | .waiting kid force again, none, first :: rest =>
      if first = c then
        some ({ σ with holder := some c, waiters := rest }.moveTo c (.entering kid force again))
      else none
    | _, _, _ => none
  | .enter c now => match σ.progress c with
    | .entering kid force again =>
      if !force && σ.fresh settings now then some ({ σ with holder := none }.deliver c kid again)
      else some ({ σ with events := σ.events ++ [Event.started now] }.moveTo c
        (.fetching kid again))
    | _ => none
  | .finish c outcome now => match σ.progress c with
    | .fetching kid again => match outcome with
      | .failed =>
        let failed := { σ with
          holder := none, lastFailAt := now, events := σ.events ++ [Event.failed now] }
        some (failed.deliver c kid again)
      | .fetched keys =>
        some ({ σ with holder := none, entry := some ⟨byKid keys, now⟩ }.deliver c kid again)
    | _ => none

/-- The clock never goes back. -/
def step (σ : State C X) (l : Label C X) : Option (State C X) :=
  if σ.clock ≤ l.now then act settings { σ with clock := l.now } l else none

end Machine

/-- A fetch has failed less than the back-off ago. -/
def State.inBackoff (σ : State C X) (now : Time) : Prop :=
  ∃ failed, Event.failed failed ∈ σ.events ∧ now < failed + failBackoff

/-- No fetch is started within the back-off of one that failed before. -/
def BacksOff (events : List Event) : Prop :=
  events.Pairwise fun first later => ∀ failed started, first = .failed failed →
    later = .started started → failed + failBackoff ≤ started

/-- No forced refresh is asked for during the back-off, and nobody waits for the lock while a
fetch fails. -/
def Calm (σ : State C X) : Label C X → Prop
  | .refresh c now => ∀ kid again, σ.progress c = .refreshing kid true again → ¬σ.inBackoff now
  | .finish _ .failed _ => σ.waiters = []
  | _ => True

def Event.time : Event → Time
  | .started time | .failed time => time

namespace Progress

/-- The lookup has the lock. -/
def holds : Progress X → Bool
  | .entering _ _ _ | .fetching _ _ => true
  | _ => false

def waits : Progress X → Bool
  | .waiting _ _ _ => true
  | _ => false

/-- The lookup is past the back-off check and has not fetched yet. -/
def bound : Progress X → Bool
  | .waiting _ _ _ | .entering _ _ _ => true
  | _ => false

end Progress

structure Inv (σ : State C X) : Prop where
  past : ∀ event ∈ σ.events, event.time ≤ σ.clock
  last : ∀ failed, Event.failed failed ∈ σ.events → failed ≤ σ.lastFailAt
  lock : ∀ c, (σ.progress c).holds = true → σ.holder = some c
  queued : ∀ c, (σ.progress c).waits = true → c ∈ σ.waiters
  quiet : ∀ c, (σ.progress c).bound = true → ∀ failed, Event.failed failed ∈ σ.events →
    failed + failBackoff ≤ σ.clock
  backs : BacksOff σ.events

/-- All that a step can do, with what it has checked. -/
inductive Acts [DecidableEq C] (settings : Settings) (σ : State C X) :
    Label C X → State C X → Prop where
  | off (idle : σ.progress c = .idle) (off : settings.enabled = false) :
    Acts settings σ (.lookup c kid now) (σ.moveTo c (.answered kid none))
  | isCached (idle : σ.progress c = .idle) (on : settings.enabled = true) :
    Acts settings σ (.lookup c kid now) (σ.deliver c kid false)
  | isStale (idle : σ.progress c = .idle) (on : settings.enabled = true) (force : Bool) :
    Acts settings σ (.lookup c kid now) (σ.moveTo c (.refreshing kid force false))
  | backsOff (here : σ.progress c = .refreshing kid force again) :
    Acts settings σ (.refresh c now) (σ.deliver c kid again)
  | takes (here : σ.progress c = .refreshing kid force again)
    (passes : force = true ∨ failBackoff ≤ now - σ.lastFailAt) (free : σ.holder = none) :
    Acts settings σ (.refresh c now) ({ σ with holder := some c }.moveTo c
      (.entering kid force again))
  | waits (here : σ.progress c = .refreshing kid force again)
    (passes : force = true ∨ failBackoff ≤ now - σ.lastFailAt) :
    Acts settings σ (.refresh c now) ({ σ with waiters := σ.waiters ++ [c] }.moveTo c
      (.waiting kid force again))
  | wakes (here : σ.progress c = .waiting kid force again) (free : σ.holder = none)
      (first : σ.waiters = c :: rest) : Acts settings σ (.wake c now)
      ({ σ with holder := some c, waiters := rest }.moveTo c (.entering kid force again))
  | isFresh (here : σ.progress c = .entering kid force again) :
    Acts settings σ (.enter c now) ({ σ with holder := none }.deliver c kid again)
  | starts (here : σ.progress c = .entering kid force again) :
    Acts settings σ (.enter c now)
      ({ σ with events := σ.events ++ [Event.started now] }.moveTo c (.fetching kid again))
  | fails (here : σ.progress c = .fetching kid again) :
    Acts settings σ (.finish c .failed now)
      ({ σ with holder := none, lastFailAt := now, events := σ.events ++ [Event.failed now] }.deliver c kid again)
  | fetches (here : σ.progress c = .fetching kid again) (keys : List (Jwk X)) :
    Acts settings σ (.finish c (.fetched keys) now)
      ({ σ with holder := none, entry := some ⟨byKid keys, now⟩ }.deliver c kid again)

variable {settings : Settings} {σ τ : State C X} {l : Label C X} {c : C}

theorem Inv.initial (boot : Time) : Inv (State.initial boot : State C X) := by
  constructor <;> simp [State.initial, Progress.holds, Progress.waits, Progress.bound, BacksOff]

theorem Inv.tick (inv : Inv σ) (later : σ.clock ≤ now) : Inv { σ with clock := now } :=
  ⟨fun event mem => (inv.past event mem).trans later, inv.last, inv.lock, inv.queued,
    fun c bound failed mem => (inv.quiet c bound failed mem).trans later, inv.backs⟩

section Steps
variable [DecidableEq C]

theorem act_cases (acted : act settings σ l = some τ) : Acts settings σ l τ := by
  cases l with
  | lookup c kid time =>
    simp only [act] at acted
    split at acted
    · rename_i idle
      split at acted
      · rename_i disabled
        cases acted
        exact .off idle (by simpa using disabled)
      · rename_i enabled
        have on : settings.enabled = true := by simpa using enabled
        split at acted
        · cases acted
          exact .isStale idle on true
        · split at acted <;> cases acted
          · exact .isCached idle on
          · exact .isStale idle on false
    · cases acted
  | refresh c time =>
    simp only [act] at acted
    split at acted
    · rename_i kid force again here
      split at acted
      · cases acted
        exact .backsOff here
      · rename_i checked
        have passes : force = true ∨ failBackoff ≤ time - σ.lastFailAt := by
          cases force with
          | true => exact .inl rfl
          | false => exact .inr (by simpa using checked)
        split at acted <;> cases acted
        · rename_i unlocked
          rw [Bool.and_eq_true, Option.isNone_iff_eq_none] at unlocked
          exact .takes here passes unlocked.1
        · exact .waits here passes
    · cases acted
  | wake c time =>
    simp only [act] at acted
    split at acted
    · rename_i kid force again first rest here free queue
      split at acted
      · rename_i same
        cases acted
        exact .wakes here free (same ▸ queue)
      · cases acted
    · cases acted
  | enter c time =>
    simp only [act] at acted
    split at acted
    · rename_i kid force again here
      split at acted <;> cases acted
      · exact .isFresh here
      · exact .starts here
    · cases acted
  | finish c outcome time =>
    simp only [act] at acted
    split at acted
    · rename_i kid again here
      cases outcome with
      | failed =>
        cases acted
        exact .fails here
      | fetched keys =>
        cases acted
        exact .fetches here keys
    · cases acted

/-- What a delivery does: it answers with the cached key, if there is one, or goes on to a
forced refresh. -/
theorem deliver_cases (σ : State C X) (c : C) (kid : Option String) (again : Bool) :
    ∃ p, σ.deliver c kid again = σ.moveTo c p ∧
      (p = .refreshing kid true true ∨ ∃ result, p = .answered kid result ∧
      ∀ entry name jwk, σ.entry = some entry → kid = some name →
        entry.keysByKid.lookup name = some jwk →
        result = some jwk) := by
  unfold State.deliver
  split
  · rename_i empty
    exact ⟨_, rfl, .inr ⟨_, rfl, fun entry name jwk cached => by simp [empty] at cached⟩⟩
  · exact ⟨_, rfl, .inr ⟨_, rfl, fun _ _ _ _ named => by cases named⟩⟩
  · rename_i entry name cached
    split
    · rename_i jwk found
      refine ⟨_, rfl, .inr ⟨_, rfl, fun other known other' same named looked => ?_⟩⟩
      cases Option.some.inj (cached.symm.trans same)
      cases Option.some.inj named
      exact found.symm.trans looked
    · rename_i missing
      have absent : ∀ other known jwk, σ.entry = some other → some name = some known →
          other.keysByKid.lookup known = some jwk → (none : Option (Jwk X)) = some jwk := by
        intro other known jwk same named looked
        cases Option.some.inj (cached.symm.trans same)
        cases Option.some.inj named
        exact missing.symm.trans looked
      split
      · exact ⟨_, rfl, .inr ⟨_, rfl, absent⟩⟩
      · exact ⟨_, rfl, .inl rfl⟩

/-- Neither has nor wants the lock. -/
def Progress.Free (p : Progress X) : Prop := p.holds = false ∧ p.waits = false ∧ p.bound = false

theorem deliver_free (σ : State C X) (c : C) (kid : Option String) (again : Bool) :
    ∃ p, σ.deliver c kid again = σ.moveTo c p ∧ p.Free := by
  obtain ⟨p, same, rfl | ⟨result, rfl, -⟩⟩ := deliver_cases σ c kid again
  · exact ⟨_, same, rfl, rfl, rfl⟩
  · exact ⟨_, same, rfl, rfl, rfl⟩

@[simp] theorem moveTo_self (σ : State C X) (c : C) (p : Progress X) :
    (σ.moveTo c p).progress c = p := Function.update_self ..

theorem moveTo_other (σ : State C X) (p : Progress X) (differs : d ≠ c) :
    (σ.moveTo c p).progress d = σ.progress d := Function.update_of_ne differs ..

/-- The moved lookup is checked by itself. -/
theorem inv_moveTo {ρ : State C X} {p : Progress X}
    (past : ∀ event ∈ ρ.events, event.time ≤ ρ.clock)
    (last : ∀ failed, Event.failed failed ∈ ρ.events → failed ≤ ρ.lastFailAt)
    (backs : BacksOff ρ.events)
    (lock : ∀ d, d ≠ c → (ρ.progress d).holds = true → ρ.holder = some d)
    (queued : ∀ d, d ≠ c → (ρ.progress d).waits = true → d ∈ ρ.waiters)
    (quiet : ∀ d, d ≠ c → (ρ.progress d).bound = true → ∀ failed, Event.failed failed ∈ ρ.events →
      failed + failBackoff ≤ ρ.clock)
    (ownLock : p.holds = true → ρ.holder = some c) (ownTurn : p.waits = true → c ∈ ρ.waiters)
    (ownQuiet : p.bound = true → ∀ failed, Event.failed failed ∈ ρ.events →
      failed + failBackoff ≤ ρ.clock) : Inv (ρ.moveTo c p) := by
  refine ⟨past, last, fun d => ?_, fun d => ?_, fun d => ?_, backs⟩
  · by_cases same : d = c
    · subst same
      rwa [moveTo_self]
    · rw [moveTo_other ρ p same]
      exact lock d same
  · by_cases same : d = c
    · subst same
      rwa [moveTo_self]
    · rw [moveTo_other ρ p same]
      exact queued d same
  · by_cases same : d = c
    · subst same
      rwa [moveTo_self]
    · rw [moveTo_other ρ p same]
      exact quiet d same

omit [DecidableEq C] in
/-- The holder is the only lookup that has the lock. -/
theorem Inv.alone (inv : Inv σ) (mine : (σ.progress c).holds = true)
    (theirs : (σ.progress d).holds = true) :
    d = c := Option.some.inj ((inv.lock d theirs).symm.trans (inv.lock c mine))

theorem Inv.leave (inv : Inv σ) {p : Progress X} (free : p.Free) (c : C) : Inv (σ.moveTo c p) := by
  obtain ⟨holds, waits, bound⟩ := free
  exact inv_moveTo inv.past inv.last inv.backs (fun d _ => inv.lock d) (fun d _ => inv.queued d)
    (fun d _ => inv.quiet d) (by simp [holds]) (by simp [waits]) (by simp [bound])

/-- The lock is given back, perhaps after a fetch. -/
theorem Inv.release (inv : Inv σ) (mine : (σ.progress c).holds = true) {p : Progress X}
    (free : p.Free) (entry : Option (CacheEntry X)) :
    Inv ({ σ with holder := none, entry := entry }.moveTo c p) := by
  obtain ⟨holds, waits, bound⟩ := free
  exact inv_moveTo inv.past inv.last inv.backs
    (fun d differs theirs => absurd (inv.alone mine theirs) differs)
    (fun d _ => inv.queued d) (fun d _ => inv.quiet d) (by simp [holds]) (by simp [waits])
      (by simp [bound])

/-- A fetch fails while nobody waits. -/
theorem Inv.fail (inv : Inv σ) (mine : (σ.progress c).holds = true) (nobody : σ.waiters = [])
    {p : Progress X} (free : p.Free) : Inv ({ σ with
      holder := none
      lastFailAt := σ.clock
      events := σ.events ++ [Event.failed σ.clock] }.moveTo c p) := by
  obtain ⟨holds, waits, bound⟩ := free
  have past : ∀ event ∈ σ.events ++ [Event.failed σ.clock], event.time ≤ σ.clock := by
    intro event mem
    rcases List.mem_append.mp mem with mem | mem
    · exact inv.past event mem
    · rw [List.mem_singleton.mp mem]
      exact le_refl _
  have unheld : ∀ d, d ≠ c → (σ.progress d).holds = false := fun d differs =>
    Bool.eq_false_iff.mpr fun theirs => differs (inv.alone mine theirs)
  have unwaited : ∀ d, (σ.progress d).waits = false := by
    refine fun d => Bool.eq_false_iff.mpr fun theirs => ?_
    have mem := inv.queued d theirs
    rw [nobody] at mem
    cases mem
  have unbound : ∀ d, d ≠ c → (σ.progress d).bound = false := by
    intro d differs
    have first := unheld d differs
    have second := unwaited d
    revert first second
    cases σ.progress d <;> simp [Progress.holds, Progress.waits, Progress.bound]
  refine inv_moveTo past (fun failed mem => past _ mem) ?_ (fun d differs theirs => ?_)
    (fun d _ => inv.queued d)
    (fun d differs theirs => ?_) (by simp [holds]) (by simp [waits]) (by simp [bound])
  · refine List.pairwise_append.mpr ⟨inv.backs, List.pairwise_singleton .., ?_⟩
    intro first _ later mem failed started _ isStart
    cases List.mem_singleton.mp mem
    cases isStart
  · rw [unheld d differs] at theirs
    cases theirs
  · rw [unbound d differs] at theirs
    cases theirs

theorem Inv.start (inv : Inv σ) (here : σ.progress c = .entering kid force again) :
    Inv ({ σ with events := σ.events ++ [Event.started σ.clock] }.moveTo c
      (.fetching kid again)) := by
  have failures : ∀ failed, Event.failed failed ∈ σ.events ++ [Event.started σ.clock] →
      Event.failed failed ∈ σ.events := by
    intro failed mem
    rcases List.mem_append.mp mem with mem | mem
    · exact mem
    · cases List.mem_singleton.mp mem
  have old := inv.quiet c (by rw [here]; rfl)
  refine inv_moveTo ?_ (fun failed mem => inv.last failed (failures failed mem)) ?_
    (fun d _ => inv.lock d)
    (fun d _ => inv.queued d) (fun d _ theirs failed mem =>
      inv.quiet d theirs failed (failures failed mem))
    (fun _ => inv.lock c (by rw [here]; rfl)) (by simp [Progress.waits]) (by simp [Progress.bound])
  · intro event mem
    rcases List.mem_append.mp mem with mem | mem
    · exact inv.past event mem
    · rw [List.mem_singleton.mp mem]
      exact le_refl _
  · refine List.pairwise_append.mpr ⟨inv.backs, List.pairwise_singleton .., ?_⟩
    intro first before later mem failed started isFailure isStart
    cases List.mem_singleton.mp mem
    cases isStart
    exact old failed (isFailure ▸ before)

/-- A lookup that is past the back-off check takes the free lock. -/
theorem Inv.take (inv : Inv σ) (free : σ.holder = none)
    (old : ∀ failed, Event.failed failed ∈ σ.events → failed + failBackoff ≤ σ.clock)
    (waiters : List C) (others : ∀ d, d ≠ c → d ∈ σ.waiters → d ∈ waiters) :
    Inv ({ σ with holder := some c, waiters := waiters }.moveTo c (.entering kid force again)) := by
  refine inv_moveTo inv.past inv.last inv.backs (fun d _ theirs => ?_)
    (fun d differs theirs => others d differs (inv.queued d theirs)) (fun d _ => inv.quiet d)
      (fun _ => rfl)
    (by simp [Progress.waits]) (fun _ => old)
  have held := inv.lock d theirs
  rw [free] at held
  cases held

theorem Inv.wait (inv : Inv σ)
    (old : ∀ failed, Event.failed failed ∈ σ.events → failed + failBackoff ≤ σ.clock) :
    Inv ({ σ with waiters := σ.waiters ++ [c] }.moveTo c (.waiting kid force again)) :=
  inv_moveTo inv.past inv.last inv.backs (fun d _ => inv.lock d)
    (fun d _ theirs => List.mem_append_left _ (inv.queued d theirs)) (fun d _ => inv.quiet d)
    (by simp [Progress.holds]) (fun _ => List.mem_append_right _ (List.mem_singleton.mpr rfl))
      (fun _ => old)

theorem Inv.deliver (inv : Inv σ) (c : C) (kid : Option String) (again : Bool) :
    Inv (σ.deliver c kid again) := by
  obtain ⟨p, same, free⟩ := deliver_free σ c kid again
  rw [same]
  exact inv.leave free c

omit [DecidableEq C] in
/-- Past the back-off check every failed fetch is old, as a forced refresh is calm. -/
theorem Inv.old (inv : Inv σ) (calm : Calm σ (.refresh c σ.clock))
    (here : σ.progress c = .refreshing kid force again)
    (passes : force = true ∨ failBackoff ≤ σ.clock - σ.lastFailAt) :
    ∀ failed, Event.failed failed ∈ σ.events → failed + failBackoff ≤ σ.clock := by
  intro failed mem
  rcases passes with rfl | checked
  · exact not_lt.mp fun recent => calm kid again here ⟨failed, mem, recent⟩
  · linarith [inv.last failed mem]

/-- What each step keeps, at its reading of the clock. -/
theorem act_inv (inv : Inv σ) (calm : Calm σ l) (now : σ.clock = l.now)
    (acted : act settings σ l = some τ) :
    Inv τ := by
  cases act_cases acted with
  | off | isStale => exact inv.leave ⟨rfl, rfl, rfl⟩ _
  | isCached => exact inv.deliver _ _ _
  | backsOff here => exact inv.deliver _ _ _
  | takes here passes free =>
    cases now
    exact inv.take free (inv.old calm here passes) σ.waiters fun _ _ mem => mem
  | waits here passes =>
    cases now
    exact inv.wait (inv.old calm here passes)
  | wakes here free first =>
    refine inv.take free (inv.quiet _ (by rw [here]; rfl)) _ fun d differs mem => ?_
    rw [first] at mem
    exact (List.mem_cons.mp mem).resolve_left differs
  | @isFresh c kid force again _ here =>
    obtain ⟨p, same, free⟩ := deliver_free { σ with holder := none } c kid again
    rw [same]
    exact inv.release (by rw [here]; rfl) free σ.entry
  | starts here =>
    cases now
    exact inv.start here
  | @fails c kid again time here =>
    cases now
    obtain ⟨p, same, free⟩ := deliver_free
      { σ with holder := none, lastFailAt := σ.clock, events := σ.events ++ [Event.failed σ.clock] }
      c kid again
    rw [same]
    exact inv.fail (by rw [here]; rfl) calm free
  | @fetches c kid again time here keys =>
    obtain ⟨p, same, free⟩ :=
      deliver_free { σ with holder := none, entry := some ⟨byKid keys, time⟩ } c kid again
    rw [same]
    exact inv.release (by rw [here]; rfl) free _

theorem step_inv (inv : Inv σ) (calm : Calm σ l) (stepped : step settings σ l = some τ) :
    Inv τ := by
  simp only [step] at stepped
  split at stepped
  · rename_i later
    exact act_inv (inv.tick later) calm rfl stepped
  · cases stepped

/-! Which key a lookup is answered with. -/

/-- Every lookup of the name that is answered from now on is answered with the key. -/
def Serves (name : String) (jwk : Jwk X) (before σ : State C X) : Prop :=
  (∃ entry, σ.entry = some entry ∧ entry.keysByKid.lookup name = some jwk) ∧
    ∀ c result, σ.progress c = .answered (some name) result →
      before.progress c = .answered (some name) result ∨ result = some jwk

variable {before : State C X} {name : String} {jwk : Jwk X}

theorem Serves.moveTo (serves : Serves name jwk before σ) {ρ : State C X}
    (entry : ρ.entry = σ.entry) (progress : ρ.progress = σ.progress) {p : Progress X}
    (right : ∀ result, p = .answered (some name) result → result = some jwk) (c : C) :
    Serves name jwk before (ρ.moveTo c p) := by
  refine ⟨by rw [State.moveTo, entry]; exact serves.1, fun d result answered => ?_⟩
  by_cases same : d = c
  · subst same
    rw [moveTo_self] at answered
    exact .inr (right result answered)
  · rw [moveTo_other ρ p same, progress] at answered
    exact serves.2 d result answered

theorem Serves.deliver (serves : Serves name jwk before σ) {ρ : State C X}
    (entry : ρ.entry = σ.entry) (progress : ρ.progress = σ.progress) (c : C) (kid : Option String)
    (again : Bool) :
    Serves name jwk before (ρ.deliver c kid again) := by
  obtain ⟨p, same, rfl | ⟨answer, rfl, right⟩⟩ := deliver_cases ρ c kid again
  · rw [same]
    exact serves.moveTo entry progress (fun _ answered => by cases answered) c
  · rw [same]
    refine serves.moveTo entry progress (fun result answered => ?_) c
    cases answered
    obtain ⟨cached, there, found⟩ := serves.1
    exact right cached name jwk (entry.trans there) rfl found

/-- Until another set of keys is fetched. -/
theorem act_serves (on : settings.enabled = true) (serves : Serves name jwk before σ)
    (unfetched : ∀ c keys time, l ≠ .finish c (.fetched keys) time)
    (acted : act settings σ l = some τ) :
    Serves name jwk before τ := by
  cases act_cases acted with
  | off idle off => rw [off] at on; cases on
  | isStale | takes | waits | wakes | starts =>
    exact serves.moveTo rfl rfl (fun _ answered => by cases answered) _
  | isCached | backsOff | isFresh | fails => exact serves.deliver (by rfl) (by rfl) _ _ _
  | fetches here keys => exact absurd rfl (unfetched _ keys _)

/-- Without a URL nothing is fetched. -/
def Off (σ : State C X) : Prop :=
  σ.entry = none ∧ ∀ c, σ.progress c = .idle ∨ ∃ kid result, σ.progress c = .answered kid result

theorem step_off (off : settings.enabled = false) (inv : Off σ) (stepped : step settings σ l = some τ) : Off τ := by
  have waits (c : C) (p : Progress X) (other : p ≠ .idle ∧ ∀ kid result, p ≠ .answered kid result) :
      σ.progress c ≠ p := by
    rcases inv.2 c with here | ⟨kid, result, here⟩
    · rw [here]
      exact other.1.symm
    · rw [here]
      exact (other.2 kid result).symm
  simp only [step] at stepped
  split at stepped
  · cases act_cases stepped with
    | @off c kid _ idle _ =>
      refine ⟨inv.1, fun d => ?_⟩
      by_cases same : d = c
      · subst same
        exact .inr ⟨kid, none, moveTo_self ..⟩
      · rw [moveTo_other _ _ same]
        exact inv.2 d
    | isCached idle on | isStale idle on => rw [off] at on; cases on
    | backsOff here | takes here | waits here | wakes here | isFresh here | starts here | fails here | fetches here =>
      exact absurd here (waits _ _ ⟨nofun, nofun⟩)
  · cases stepped

theorem step_serves (on : settings.enabled = true) (serves : Serves name jwk before σ)
    (unfetched : ∀ c keys time, l ≠ .finish c (.fetched keys) time)
    (stepped : step settings σ l = some τ) :
    Serves name jwk before τ := by
  simp only [step] at stepped
  split at stepped
  · have ticked : Serves name jwk before { σ with clock := l.now } := serves
    exact act_serves on ticked unfetched stepped
  · cases stepped

/-- A cached key, and a lookup of it that is answered before another set is fetched. -/
theorem cached_key_returned {boot : Time} {past rest : List (Label C X)}
    (reached : exec (step settings) (State.initial boot) past = some σ)
    (run : exec (step settings) σ rest = some τ) (cached : σ.entry = some entry)
    (found : entry.keysByKid.lookup name = some jwk)
    (unfetched : ∀ c keys time, .finish c (.fetched keys) time ∉ rest) : Serves name jwk σ τ := by
  have on : settings.enabled = true := by
    by_contra off
    have idle : Off (State.initial boot : State C X) := ⟨rfl, fun _ => .inl rfl⟩
    have empty := exec_preserves Off (fun _ _ _ inv stepped =>
      step_off (by simpa using off) inv stepped) reached idle
    rw [empty.1] at cached
    cases cached
  have start : Serves name jwk σ σ := ⟨⟨entry, cached, found⟩, fun _ _ answered => .inl answered⟩
  have along : Along (step settings) (fun _ l => ∀ c keys time,
      l ≠ .finish c (.fetched keys) time) σ rest := by
    refine along_of_forall (fun l mem _ => ?_) σ
    rintro c keys time rfl
    exact unfetched c keys time mem
  exact exec_invariant (fun serves other stepped =>
    step_serves on serves other stepped) along run start

/-- In a calm run no fetch is started within the back-off of a failed one, and a lookup that
is answered before another set is fetched gets the cached key. -/
theorem jwks_backoff {boot : Time} {labels : List (Label C X)}
    (calm : Along (step settings) Calm (State.initial boot) labels)
    (run : exec (step settings) (State.initial boot) labels = some τ) :
    BacksOff τ.events ∧
    ∀ past rest σ entry name jwk c result, labels = past ++ rest →
      exec (step settings) (State.initial boot) past = some σ → σ.entry = some entry →
      entry.keysByKid.lookup name = some jwk →
        (∀ c keys time, .finish c (.fetched keys) time ∉ rest) →
      σ.progress c ≠ .answered (some name) result → τ.progress c = .answered (some name) result →
      result = some jwk := by
  refine ⟨(exec_invariant (fun inv calm stepped => step_inv inv calm stepped) calm run
    (Inv.initial boot)).backs, ?_⟩
  rintro past rest σ entry name jwk c result rfl reached cached found unfetched before answered
  obtain ⟨middle, first, second⟩ := exec_append.mp run
  cases Option.some.inj (reached.symm.trans first)
  exact ((cached_key_returned reached second cached found unfetched).2 c result
    answered).resolve_left before

end Steps

/-! One lookup after another. -/

def shipped : Settings := ⟨"https://idp.example/jwks.json", 300⟩

/-- A lookup that fetches. -/
def fetches (c : Nat) (kid : String) (outcome : Outcome Unit) (now : Time) :
    List (Label Nat Unit) :=
  [.lookup c (some kid) now, .refresh c now, .enter c now, .finish c outcome now]

/-- With nothing cached, a lookup one second after a failed fetch fetches again. -/
theorem cold_start_fetches_again : ∃ τ, exec (step shipped) (State.initial 100)
    (fetches 0 "k1" .failed 100 ++ fetches 1 "k1" .failed 101) = some τ ∧ ¬BacksOff τ.events := by
  have events : (exec (step shipped) (State.initial 100)
      (fetches 0 "k1" .failed 100 ++ fetches 1 "k1" .failed 101)).map (·.events) =
      some [.started 100, .failed 100, .started 101, .failed 101] := by decide +kernel
  obtain ⟨τ, run, same⟩ := Option.map_eq_some_iff.mp events
  refine ⟨τ, run, fun backs => ?_⟩
  rw [same] at backs
  have soon := (List.pairwise_cons.mp (List.pairwise_cons.mp backs).2).1 (.started 101)
    (by simp) 100 101 rfl rfl
  exact absurd soon (by decide +kernel)

def calmBool (σ : State Nat Unit) : Label Nat Unit → Bool
  | .refresh c now => match σ.progress c with
    | .refreshing _ true _ => σ.events.all fun event => event.time + failBackoff ≤ now
    | _ => true
  | .finish _ .failed _ => σ.waiters = []
  | _ => true

theorem calm_of_bool (σ : State Nat Unit) (l : Label Nat Unit) (checked : calmBool σ l = true) :
    Calm σ l := by
  cases l with
  | refresh c now =>
    rintro kid again here ⟨failed, mem, recent⟩
    simp only [calmBool, here, List.all_eq_true, decide_eq_true_eq] at checked
    exact absurd (checked _ mem) (not_le.mpr recent)
  | finish c outcome now =>
    cases outcome with
    | failed =>
      have nobody : σ.waiters = [] := of_decide_eq_true checked
      exact nobody
    | fetched keys => trivial
  | lookup | wake | enter => trivial

def signing : Jwk Unit := ⟨some "k1", ()⟩

/-- A key is fetched; when it has expired a refresh fails, and during the back-off it is served. -/
def expires : List (Label Nat Unit) :=
  fetches 0 "k1" (.fetched [signing]) 100 ++ fetches 1 "k1" .failed 500 ++
    [.lookup 2 (some "k1") 510, .refresh 2 510]

theorem expired_key_served : ∃ τ, exec (step shipped) (State.initial 100) expires = some τ ∧
    BacksOff τ.events ∧
    τ.progress 2 = .answered (some "k1") (some signing) := by
  have calm : Along (step shipped) Calm (State.initial 100) expires :=
    along_of_bool calm_of_bool (by decide +kernel)
  have answered : (exec (step shipped) (State.initial 100) expires).map (·.progress 2) =
      some (.answered (some "k1") (some signing)) := by decide +kernel
  obtain ⟨τ, run, same⟩ := Option.map_eq_some_iff.mp answered
  exact ⟨τ, run, (jwks_backoff calm run).1, same⟩

end AgentOE.Jwks
