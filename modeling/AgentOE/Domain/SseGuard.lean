import Mathlib.Logic.Function.Basic
import AgentOE.Census
import AgentOE.Transition

/-! The connection guard of `stream.py`: an `asyncio.Semaphore` that a route acquires before it
returns a stream, and that the generator of the stream releases when it is over. A label is
what runs without an await. -/
namespace AgentOE.SseGuard
open Transition Census

/-- Where a request is. A response is `dropped` when its generator is given up before it has
run at all, so that its `finally` never does. -/
inductive Phase where
  | idle
  | waiting
  | refused
  | accepted
  | streaming
  | over
  | dropped
  deriving DecidableEq

/-- `waiters` are the requests that wait in `acquire`, first come first. -/
structure State where
  value : Nat
  waiters : List Nat := []
  phase : Nat → Phase := fun _ => .idle

namespace State
variable (s : State)

def enter (r : Nat) (phase : Phase) : State := { s with phase := Function.update s.phase r phase }

/-- `Semaphore.locked`. -/
def locked : Bool := s.value = 0 || s.waiters ≠ []

/-- `Semaphore.acquire`, for a request that goes on with its response when it is done. -/
def acquire (r : Nat) : State :=
  if s.locked then { s with waiters := s.waiters ++ [r] }.enter r .waiting
  else { s with value := s.value - 1 }.enter r .accepted

/-- `Semaphore.release`, which hands the slot to the first that waits. -/
def release : State :=
  match s.waiters with
  | [] => { s with value := s.value + 1 }
  | r :: rest => { s with waiters := rest }.enter r .accepted

/-- `_sse_streaming_response`. -/
def sseStreamingResponse (r : Nat) : State :=
  if s.locked = false ∧ 0 < s.value then s.acquire r
  else if s.value = 0 then s.enter r .refused
  else s.acquire r

/-- `stream_metrics`, which has its own guard. -/
def streamMetrics (r : Nat) : State := if s.value = 0 then s.enter r .refused else s.acquire r

end State

inductive Label where
  | sseStreamingResponse (r : Nat)
  | streamMetrics (r : Nat)
  /-- The generator runs up to its first `yield`. -/
  | start (r : Nat)
  /-- The generator ends, is closed or is cancelled. -/
  | finish (r : Nat)
  | drop (r : Nat)
  deriving DecidableEq

/-- The request that asks for a stream. -/
def Label.request : Label → Option Nat
  | .sseStreamingResponse r | .streamMetrics r => some r
  | .start _ | .finish _ | .drop _ => none

/-- With `SSE_MAX_CONNECTIONS_PER_POD` at 1 or more; else there is no semaphore. -/
def step (s : State) : Label → Option State
  | .sseStreamingResponse r => if s.phase r = .idle then some (s.sseStreamingResponse r) else none
  | .streamMetrics r => if s.phase r = .idle then some (s.streamMetrics r) else none
  | .start r => if s.phase r = .accepted then some (s.enter r .streaming) else none
  | .finish r => if s.phase r = .streaming then some (s.release.enter r .over) else none
  | .drop r => if s.phase r = .accepted then some (s.enter r .dropped) else none

/-- The response of the request is being sent, or is about to be. -/
def State.Open (s : State) (r : Nat) : Prop := s.phase r = .accepted ∨ s.phase r = .streaming

def State.Lost (s : State) (r : Nat) : Prop := s.phase r = .dropped

/-- Every slot is free, with an open response, or lost with a dropped one, and nobody waits. -/
structure Conserved (size : Nat) (past : List Label) (s : State) : Prop where
  waiters : s.waiters = []
  calm : ∀ r, s.phase r ≠ .waiting
  slots : ∃ n k, Number s.Open n ∧ Number s.Lost k ∧ n + k + s.value = size
  lost : ∀ r, s.Lost r ↔ .drop r ∈ past

variable {s t : State} {l : Label} {past ls : List Label} {size r q : Nat} {p : Phase}

@[simp] theorem enter_value : (s.enter r p).value = s.value := rfl

@[simp] theorem enter_self : (s.enter r p).phase r = p := Function.update_self ..

theorem enter_other (other : q ≠ r) : (s.enter r p).phase q = s.phase q :=
  Function.update_of_ne other ..

/-- A step does not wait: it refuses the request, gives it a slot, or moves one of its own. -/
inductive Does (s t : State) : Label → Prop where
  | refused (r : Nat) (l : Label) (asks : l.request = some r) (idle : s.phase r = .idle)
      (full : s.value = 0) (now : t = s.enter r .refused) : Does s t l
  | accepted (r : Nat) (l : Label) (asks : l.request = some r) (idle : s.phase r = .idle)
      (free : 0 < s.value) (now : t = { s with value := s.value - 1 }.enter r .accepted) :
        Does s t l
  | start (r : Nat) (was : s.phase r = .accepted) (now : t = s.enter r .streaming) :
      Does s t (.start r)
  | finish (r : Nat) (was : s.phase r = .streaming)
      (now : t = { s with value := s.value + 1 }.enter r .over) :
      Does s t (.finish r)
  | drop (r : Nat) (was : s.phase r = .accepted) (now : t = s.enter r .dropped) : Does s t (.drop r)

theorem locked_iff (calm : s.waiters = []) : s.locked = false ↔ 0 < s.value := by
  simp [State.locked, calm, Nat.pos_iff_ne_zero]

theorem acquire_free (calm : s.waiters = []) (free : 0 < s.value) :
    s.acquire r = { s with value := s.value - 1 }.enter r .accepted := by
  simp [State.acquire, (locked_iff calm).mpr free]

theorem step_does (calm : s.waiters = []) (stepped : step s l = some t) : Does s t l := by
  cases l with
  | sseStreamingResponse r =>
    obtain ⟨idle, now⟩ := Option.ite_none_right_eq_some.mp stepped
    by_cases free : 0 < s.value
    · refine .accepted r _ rfl idle free ?_
      rw [← Option.some.inj now, State.sseStreamingResponse,
        if_pos ⟨(locked_iff calm).mpr free, free⟩]
      exact acquire_free calm free
    · have full : s.value = 0 := Nat.eq_zero_of_not_pos free
      refine .refused r _ rfl idle full ?_
      rw [← Option.some.inj now, State.sseStreamingResponse, if_neg fun both => free both.2,
        if_pos full]
  | streamMetrics r =>
    obtain ⟨idle, now⟩ := Option.ite_none_right_eq_some.mp stepped
    by_cases full : s.value = 0
    · refine .refused r _ rfl idle full ?_
      rw [← Option.some.inj now, State.streamMetrics, if_pos full]
    · refine .accepted r _ rfl idle (Nat.pos_of_ne_zero full) ?_
      rw [← Option.some.inj now, State.streamMetrics, if_neg full]
      exact acquire_free calm (Nat.pos_of_ne_zero full)
  | start r =>
    obtain ⟨was, now⟩ := Option.ite_none_right_eq_some.mp stepped
    exact .start r was (Option.some.inj now).symm
  | finish r =>
    obtain ⟨was, now⟩ := Option.ite_none_right_eq_some.mp stepped
    refine .finish r was ?_
    simp only [← Option.some.inj now, State.release, calm]
  | drop r =>
    obtain ⟨was, now⟩ := Option.ite_none_right_eq_some.mp stepped
    exact .drop r was (Option.some.inj now).symm

/-- A request enters a phase in which it waits for nothing. -/
theorem calm_enter (calm : ∀ q, s.phase q ≠ .waiting) (other : p ≠ .waiting) (q : Nat) :
    (s.enter r p).phase q ≠ .waiting := by
  by_cases here : q = r
  · subst here
    simpa using other
  · rw [enter_other here]
    exact calm q

theorem open_other (other : q ≠ r) : (s.enter r p).Open q ↔ s.Open q := by
  simp only [State.Open, enter_other other]

theorem lost_other (other : q ≠ r) : (s.enter r p).Lost q ↔ s.Lost q := by
  simp only [State.Lost, enter_other other]

theorem lost_enter (before : s.phase r ≠ .dropped) (after : p ≠ .dropped) (q : Nat) :
    (s.enter r p).Lost q ↔ s.Lost q := by
  by_cases here : q = r
  · subst here
    exact iff_of_false (by simpa [State.Lost] using after) before
  · exact lost_other here

theorem step_conserved (before : Conserved size past s) (stepped : step s l = some t) :
    Conserved size (past ++ [l]) t := by
  obtain ⟨n, k, opened, dropped, total⟩ := before.slots
  cases step_does before.waiters stepped with
  | refused r l asks idle full now =>
    subst now
    have same : ∀ q, (s.enter r .refused).Open q ↔ s.Open q := by
      intro q
      by_cases here : q = r
      · subst here
        simp [State.Open, idle]
      · exact open_other here
    have lost := lost_enter (s := s) (r := r) (p := .refused) (by simp [idle]) (by decide)
    refine ⟨before.waiters, calm_enter before.calm (by decide),
      ⟨n, k, opened.congr same, dropped.congr lost, total⟩, fun q => ?_⟩
    rw [lost, before.lost]
    have other : l ≠ .drop q := by
      rintro rfl
      cases asks
    simp [other.symm]
  | accepted r l asks idle free now =>
    subst now
    let taken : State := { s with value := s.value - 1 }
    have lost := lost_enter (s := taken) (r := r) (p := .accepted) (by simp [taken, idle])
      (by decide)
    have gained : Number (taken.enter r .accepted).Open (n + 1) := by
      refine opened.gain (i := r) (by simp [State.Open, idle]) (.inl enter_self) fun q other => ?_
      exact open_other (s := taken) other
    refine ⟨before.waiters, calm_enter before.calm (by decide),
      ⟨n + 1, k, gained, dropped.congr lost, ?_⟩, fun q => ?_⟩
    · simp only [enter_value]
      omega
    · rw [lost]
      refine (before.lost q).trans ?_
      have other : l ≠ .drop q := by
        rintro rfl
        cases asks
      simp [other.symm]
  | start r was now =>
    subst now
    have same : ∀ q, (s.enter r .streaming).Open q ↔ s.Open q := by
      intro q
      by_cases here : q = r
      · subst here
        simp [State.Open, was]
      · exact open_other here
    have lost := lost_enter (s := s) (r := r) (p := .streaming) (by simp [was]) (by decide)
    refine ⟨before.waiters, calm_enter before.calm (by decide),
      ⟨n, k, opened.congr same, dropped.congr lost, total⟩, fun q => ?_⟩
    rw [lost, before.lost]
    simp
  | finish r was now =>
    subst now
    let freed : State := { s with value := s.value + 1 }
    have lost := lost_enter (s := freed) (r := r) (p := .over) (by simp [freed, was]) (by decide)
    obtain ⟨m, rfl, fewer⟩ : ∃ m, n = m + 1 ∧ Number (freed.enter r .over).Open m := by
      refine opened.lose (i := r) (.inr was) (by simp [State.Open]) fun q other => ?_
      exact open_other (s := freed) other
    refine ⟨before.waiters, calm_enter before.calm (by decide),
      ⟨m, k, fewer, dropped.congr lost, ?_⟩, fun q => ?_⟩
    · simp only [enter_value]
      omega
    · rw [lost]
      exact (before.lost q).trans (by simp)
  | drop r was now =>
    subst now
    obtain ⟨m, rfl, fewer⟩ : ∃ m, n = m + 1 ∧ Number (s.enter r .dropped).Open m :=
      opened.lose (i := r) (.inl was) (by simp [State.Open]) fun q other => open_other other
    have gained : Number (s.enter r .dropped).Lost (k + 1) :=
      dropped.gain (i := r) (by simp [State.Lost, was]) enter_self fun q other => lost_other other
    refine ⟨before.waiters, calm_enter before.calm (by decide), ⟨m, k + 1, fewer, gained, ?_⟩,
      fun q => ?_⟩
    · simp only [enter_value]
      omega
    · by_cases here : q = r
      · subst here
        simp [State.Lost]
      · rw [lost_other here, before.lost]
        simp [here]

theorem run_conserved (run : exec step { value := size } ls = some s) : Conserved size ls s := by
  refine exec_history (Conserved size) (fun _ _ _ _ before stepped =>
    step_conserved before stepped) run ?_
  refine ⟨rfl, fun r => by simp, ⟨0, 0, ?_, ?_, by simp⟩, fun r => by simp [State.Lost]⟩
  · exact number_zero.mpr fun r => by simp [State.Open]
  · exact number_zero.mpr fun r => by simp [State.Lost]

/-- However requests, streams and lost responses interleave: no request waits for a slot, it is
refused just when the open responses and those that were dropped before they began take all of
them, and a slot that is neither is free. -/
theorem slots_conserved (run : exec step { value := size } ls = some s) :
    (∀ r, s.phase r ≠ .waiting) ∧ ∃ n k, Number s.Open n ∧ Number (fun r => .drop r ∈ ls) k ∧
      n + k + s.value = size ∧ ∀ r l t, l.request = some r → step s l = some t →
        (t.phase r = .refused ↔ n + k = size) ∧ (t.phase r = .accepted ↔ n + k < size) := by
  have conserved := run_conserved run
  obtain ⟨n, k, opened, dropped, total⟩ := conserved.slots
  refine ⟨conserved.calm, n, k, opened, dropped.congr fun r => (conserved.lost r).symm, total, ?_⟩
  intro r l t asks stepped
  cases step_does conserved.waiters stepped with
  | refused q l here idle full now =>
    obtain rfl := Option.some.inj (here.symm.trans asks)
    subst now
    exact ⟨iff_of_true enter_self (by omega), iff_of_false (by simp) (by omega)⟩
  | accepted q l here idle free now =>
    obtain rfl := Option.some.inj (here.symm.trans asks)
    subst now
    exact ⟨iff_of_false (by simp) (by omega), iff_of_true enter_self (by omega)⟩
  | start q was now => cases asks
  | finish q was now => cases asks
  | drop q was now => cases asks

/-- When no stream is open, all slots are back unless a response was dropped. -/
theorem slots_returned_iff (run : exec step { value := size } ls = some s)
    (quiet : ∀ r, ¬s.Open r) : s.value = size ↔ ∀ r, .drop r ∉ ls := by
  have conserved := run_conserved run
  obtain ⟨n, k, opened, lost, total⟩ := conserved.slots
  have dropped : Number (fun r => .drop r ∈ ls) k := lost.congr fun r => (conserved.lost r).symm
  obtain rfl : n = 0 := opened.unique (number_zero.mpr quiet)
  rw [← number_zero]
  constructor
  · intro full
    obtain rfl : k = 0 := by omega
    exact dropped
  · intro none
    obtain rfl : k = 0 := dropped.unique none
    omega

def guardRun : List Label :=
  [.sseStreamingResponse 0, .drop 0, .streamMetrics 1, .start 1, .sseStreamingResponse 2]

def guarded : State := (exec step { value := 2 } guardRun).getD { value := 2 }

theorem guarded_conserved : (∀ r, guarded.phase r ≠ .waiting) ∧
    ∃ n k, Number guarded.Open n ∧ Number (fun r => .drop r ∈ guardRun) k ∧
      n + k + guarded.value = 2 ∧ ∀ r l t, l.request = some r → step guarded l = some t →
        (t.phase r = .refused ↔ n + k = 2) ∧ (t.phase r = .accepted ↔ n + k < 2) :=
  slots_conserved (show exec step { value := 2 } guardRun = some guarded from rfl)

end AgentOE.SseGuard
