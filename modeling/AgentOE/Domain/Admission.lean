import AgentOE.Census
import AgentOE.Transition
import Mathlib.Data.Fintype.Basic

/-! The sessions of one tenant and the counter that limits them: the middleware reads it, and
the handler raises and lowers it much later. Handlers are not cancelled. -/
namespace AgentOE.Admission
open Transition Census

/-- A connection attempt. `reachable` is kept of the moment at which it passed the middleware. -/
inductive Phase where
  | idle
  /-- The handler before `increment_session_count`. -/
  | setUp (reachable : Bool)
  /-- The receive loop. -/
  | live (reachable : Bool)
  /-- The handler's cleanup before `decrement_session_count`. -/
  | closing (reachable : Bool)
  | gone
  deriving DecidableEq, Repr

/-- The counter `admission:{tenant_id}`, zero where there is none. -/
structure State (C : Type) where
  count : Nat
  phase : C → Phase

def State.initial {C : Type} : State C := ⟨0, fun _ => .idle⟩

/-- How an attempt gets through the middleware. -/
inductive Check where
  | read
  /-- The read raises, and counts as zero. -/
  | failed
  /-- `dispatch` does not look: it is not called for the scope of a WebSocket, or the token that it
  sees names no tenant, or another one. -/
  | skipped
  deriving DecidableEq, Repr

inductive Label (C : Type) where
  | attempt (c : C) (check : Check)
  /-- The handler turns the attempt away. -/
  | refuse (c : C)
  /-- `applied` is whether the command takes effect. Errors are logged and dropped. -/
  | increment (c : C) (applied : Bool)
  /-- The receive loop ends. -/
  | leave (c : C)
  | decrement (c : C) (applied : Bool)
  deriving DecidableEq, Repr

variable {C : Type} [DecidableEq C] (limit : Nat)

def State.moveTo (σ : State C) (count : Nat) (c : C) (phase : Phase) : State C :=
  ⟨count, Function.update σ.phase c phase⟩

/-- `get_tenant_session_count`. -/
def sessionCount (σ : State C) : Check → Nat
  | .read => σ.count
  | .failed | .skipped => 0

def dispatch (σ : State C) (check : Check) : Phase :=
  if check ≠ .skipped ∧ limit ≤ sessionCount σ check then .gone else .setUp (check ≠ .failed)

/-- The script of `decrement_session_count`. -/
def decFloor (count : Nat) : Nat := count - 1

def step (σ : State C) : Label C → Option (State C)
  | .attempt c check =>
    if σ.phase c = .idle then some (σ.moveTo σ.count c (dispatch limit σ check)) else none
  | .refuse c => match σ.phase c with
    | .setUp _ => some (σ.moveTo σ.count c .gone)
    | _ => none
  | .increment c applied => match σ.phase c with
    | .setUp reachable =>
      some (σ.moveTo (if applied then σ.count + 1 else σ.count) c (.live reachable))
    | _ => none
  | .leave c => match σ.phase c with
    | .live reachable => some (σ.moveTo σ.count c (.closing reachable))
    | _ => none
  | .decrement c applied => match σ.phase c with
    | .closing _ => some (σ.moveTo (if applied then decFloor σ.count else σ.count) c .gone)
    | _ => none

def Phase.isLive : Phase → Bool
  | .live _ => true
  | _ => false

/-- Raised and not yet lowered. -/
def Phase.isCounted : Phase → Bool
  | .live _ | .closing _ => true
  | _ => false

/-- Let through while Redis was reachable, and not gone. -/
def Phase.isAdmitted : Phase → Bool
  | .setUp reachable | .live reachable | .closing reachable => reachable
  | _ => false

def Quiescent (σ : State C) : Prop :=
  ∀ c, σ.phase c = .idle ∨ (σ.phase c).isLive = true ∨ σ.phase c = .gone

/-- No change of the counter is lost, and an attempt is let through only while the counter and
the attempts that have yet to raise it are below the limit. -/
def Admits (σ : State C) : Label C → Prop
  | .attempt _ check => check ≠ .failed → dispatch limit σ check ≠ .gone →
    ∃ n, Number (fun c => σ.phase c = .setUp true) n ∧ σ.count + n < limit
  | .increment _ applied | .decrement _ applied => applied = true
  | .refuse _ | .leave _ => True

/-! The counter. -/

variable {limit} {σ τ : State C}

theorem moveTo_phase (σ : State C) (count : Nat) (c d : C) (phase : Phase) :
    (σ.moveTo count c phase).phase d = if d = c then phase else σ.phase d := by
  simp [State.moveTo, Function.update_apply]

/-- How many attempts are in a kind of phase, after one of them has moved. -/
theorem number_moveTo (f : Phase → Bool) {n : Nat}
    (number : Number (fun c => f (σ.phase c) = true) n) (count : Nat) (c : C) (phase : Phase) :
    ∃ m, Number (fun d => f ((σ.moveTo count c phase).phase d) = true) m ∧
      m + (f (σ.phase c)).toNat = n + (f phase).toNat := by
  refine number.change (i := c) Iff.rfl ?_ fun d other => ?_
  · rw [moveTo_phase, if_pos rfl]
  · rw [moveTo_phase, if_neg other]

structure Inv (limit : Nat) (σ : State C) : Prop where
  counted : Number (fun c => (σ.phase c).isCounted = true) σ.count
  admitted : ∃ n, n ≤ limit ∧ Number (fun c => (σ.phase c).isAdmitted = true) n

theorem Inv.moveTo (inv : Inv limit σ)
    (counted : count + (σ.phase c).isCounted.toNat = σ.count + phase.isCounted.toNat)
    (admitted : phase.isAdmitted = true → (σ.phase c).isAdmitted = true) :
    Inv limit (σ.moveTo count c phase) := by
  obtain ⟨m, number, balance⟩ := number_moveTo Phase.isCounted inv.counted count c phase
  obtain ⟨n, few, number'⟩ := inv.admitted
  constructor
  case counted =>
    have same : m = count := by omega
    rwa [same] at number
  case admitted =>
    obtain ⟨k, number'', balance'⟩ := number_moveTo Phase.isAdmitted number' count c phase
    have fewer : phase.isAdmitted.toNat ≤ (σ.phase c).isAdmitted.toNat :=
      Bool.toNat_le_toNat admitted
    exact ⟨k, by omega, number''⟩

/-- An attempt gets through while there is room for it. -/
theorem Inv.admit (inv : Inv limit σ) (idle : σ.phase c = .idle)
    (waiting : Number (fun c => σ.phase c = .setUp true) n) (room : σ.count + n < limit)
    (reachable : Bool) : Inv limit (σ.moveTo σ.count c (.setUp reachable)) := by
  obtain ⟨k, few, number⟩ :=
    inv.counted.cover waiting (r := fun c => (σ.phase c).isAdmitted = true) (by
    intro d admitted
    cases phase : σ.phase d with
    | idle | gone => rw [phase] at admitted; cases admitted
    | live | closing => exact .inl rfl
    | setUp reachable =>
      rw [phase] at admitted
      exact .inr (congrArg Phase.setUp admitted))
  obtain ⟨m, number', balance⟩ :=
    number_moveTo Phase.isCounted inv.counted σ.count c (.setUp reachable)
  obtain ⟨k', number'', balance'⟩ :=
    number_moveTo Phase.isAdmitted number σ.count c (.setUp reachable)
  rw [idle] at balance balance'
  constructor
  case counted =>
    have same : m = σ.count := balance
    rwa [same] at number'
  case admitted =>
    have one : (Phase.setUp reachable).isAdmitted.toNat ≤ 1 := Bool.toNat_le _
    have none : Phase.idle.isAdmitted.toNat = 0 := rfl
    exact ⟨k', by omega, number''⟩

theorem step_inv (inv : Inv limit σ) (admits : Admits limit σ l)
    (stepped : step limit σ l = some τ) :
    Inv limit τ := by
  cases l with
  | attempt c check =>
    rw [step] at stepped
    split at stepped
    · rename_i idle
      cases stepped
      by_cases denied : dispatch limit σ check = .gone
      · rw [denied]
        exact inv.moveTo (by rw [idle]; rfl) (by simp [Phase.isAdmitted])
      · have passed : dispatch limit σ check = .setUp (check ≠ .failed) := by
          rw [dispatch] at denied ⊢
          split at denied
          · exact absurd rfl denied
          · rename_i open_
            rw [if_neg open_]
        rw [passed]
        by_cases failed : check = .failed
        · exact inv.moveTo (by rw [idle]; rfl) (by simp [failed, Phase.isAdmitted])
        · obtain ⟨n, waiting, room⟩ := admits failed denied
          exact inv.admit idle waiting room _
    · cases stepped
  | refuse c =>
    rw [step] at stepped
    split at stepped
    · rename_i reachable phase
      cases stepped
      exact inv.moveTo (by rw [phase]; rfl) (by simp [Phase.isAdmitted])
    · cases stepped
  | increment c applied =>
    cases (show applied = true from admits)
    rw [step] at stepped
    split at stepped
    · rename_i reachable phase
      cases stepped
      exact inv.moveTo (by rw [phase]; rfl) (by simp [phase, Phase.isAdmitted])
    · cases stepped
  | leave c =>
    rw [step] at stepped
    split at stepped
    · rename_i reachable phase
      cases stepped
      exact inv.moveTo (by rw [phase]; rfl) (by simp [phase, Phase.isAdmitted])
    · cases stepped
  | decrement c applied =>
    cases (show applied = true from admits)
    rw [step] at stepped
    split at stepped
    · rename_i reachable phase
      cases stepped
      obtain ⟨m, -, balance⟩ := number_moveTo Phase.isCounted inv.counted σ.count c .gone
      rw [phase] at balance
      have counted : m + 1 = σ.count := balance
      refine inv.moveTo ?_ (by simp [Phase.isAdmitted])
      rw [phase, if_pos rfl, decFloor, ← counted]
      rfl
    · cases stepped

omit [DecidableEq C] in
theorem initial_inv : Inv (C := C) limit .initial where
  counted := number_zero.mpr (by simp [State.initial, Phase.isCounted])
  admitted := ⟨0, Nat.zero_le _, number_zero.mpr (by simp [State.initial, Phase.isAdmitted])⟩

/-- In a run without the races and the losses the limit holds, and the counter is right whenever
no handler is on its way. -/
theorem admission_limited (run : exec (step limit) .initial labels = some σ)
    (admits : Along (step limit) (Admits limit) .initial labels) :
    (∃ n, n ≤ limit ∧ Number (fun c => σ.phase c = .live true) n) ∧
      (Quiescent σ → Number (fun c => (σ.phase c).isLive = true) σ.count) := by
  have inv : Inv limit σ := exec_invariant step_inv admits run initial_inv
  constructor
  · obtain ⟨n, few, number⟩ := inv.admitted
    obtain ⟨m, fewer, live⟩ := number.subset (q := fun c => σ.phase c = .live true) (by
      intro c live
      rw [live]
      rfl)
    exact ⟨m, fewer.trans few, live⟩
  · intro quiescent
    refine inv.counted.congr fun c => ?_
    rcases quiescent c with idle | live | gone
    · simp [idle, Phase.isLive, Phase.isCounted]
    · cases phase : σ.phase c <;> simp_all [Phase.isLive, Phase.isCounted]
    · simp [gone, Phase.isLive, Phase.isCounted]

instance [Fintype C] (limit : Nat) (σ : State C) : (l : Label C) → Decidable (Admits limit σ l)
  | .attempt _ check => decidable_of_iff (check ≠ .failed → dispatch limit σ check ≠ .gone →
      σ.count + (Finset.univ.filter fun c => σ.phase c = .setUp true).card < limit)
    (imp_congr_right fun _ => imp_congr_right fun _ =>
      ⟨fun room => ⟨_, number_filter, room⟩, fun ⟨_, number, room⟩ =>
        number_filter.unique number ▸ room⟩)
  | .increment _ applied | .decrement _ applied => inferInstanceAs (Decidable (applied = true))
  | .refuse _ | .leave _ => .isTrue trivial

/-- Two calls one after the other, with room for one. -/
def oneByOne : List (Label (Fin 2)) :=
  [.attempt 0 .skipped, .increment 0 true, .leave 0, .decrement 0 true, .attempt 1 .skipped,
    .increment 1 true]

theorem oneByOne_limited : ∃ σ, exec (step 1) .initial oneByOne = some σ ∧ σ.phase 1 = .live true ∧
    (∃ n, n ≤ 1 ∧ Number (fun c => σ.phase c = .live true) n) ∧
    (Quiescent σ → Number (fun c => (σ.phase c).isLive = true) σ.count) := by
  have reached : (exec (step 1) .initial oneByOne).map (fun σ => σ.phase 1) =
      some (.live true) := by
    decide +kernel
  obtain ⟨σ, run, live⟩ := Option.map_eq_some_iff.mp reached
  have admits : Along (step 1) (Admits 1) .initial oneByOne := by decide +kernel
  exact ⟨σ, run, live, admission_limited run admits⟩

/-- Two WebSockets that nobody looks at. -/
def together : List (Label (Fin 2)) :=
  [.attempt 0 .skipped, .attempt 1 .skipped, .increment 0 true, .increment 1 true]

/-- A session whose increment is lost. -/
def uncounted : List (Label (Fin 2)) := [.attempt 0 .skipped, .increment 0 false]

theorem limit_exceeded :
    (∃ σ, exec (step 1) .initial together = some σ ∧
      ¬∃ n, n ≤ 1 ∧ Number (fun c => σ.phase c = .live true) n) ∧
    ∃ σ, exec (step 1) .initial uncounted = some σ ∧ Quiescent σ ∧
      ¬Number (fun c => (σ.phase c).isLive = true) σ.count := by
  constructor
  · have reached : (exec (step 1) .initial together).map
        (fun σ => decide (∀ c, σ.phase c = .live true)) =
        some true := by decide +kernel
    obtain ⟨σ, run, all⟩ := Option.map_eq_some_iff.mp reached
    refine ⟨σ, run, ?_⟩
    rintro ⟨n, few, number⟩
    have two : Number (fun c => σ.phase c = .live true) 2 :=
      ⟨Finset.univ, fun c => iff_of_true (Finset.mem_univ c) (of_decide_eq_true all c), rfl⟩
    have same := number.unique two
    omega
  · have reached : (exec (step 1) .initial uncounted).map
        (fun σ => (σ.count, σ.phase 0, σ.phase 1)) =
        some (0, .live true, .idle) := by decide +kernel
    obtain ⟨σ, run, seen⟩ := Option.map_eq_some_iff.mp reached
    simp only [Prod.mk.injEq] at seen
    obtain ⟨none, first, second⟩ := seen
    refine ⟨σ, run, ?_, ?_⟩
    · intro c
      match c with
      | 0 => exact .inr (.inl (by rw [first]; rfl))
      | 1 => exact .inl second
    · rw [none, number_zero]
      exact fun quiet => quiet 0 (by rw [first]; rfl)

end AgentOE.Admission
