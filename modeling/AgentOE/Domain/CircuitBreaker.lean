import AgentOE.Transition
import Mathlib.Algebra.Order.Group.Int
import Mathlib.Algebra.Order.Group.Unbundled.Basic
import Mathlib.Algebra.Ring.Int.Defs
import Mathlib.Data.Fintype.Basic

/-! The circuit breaker in front of the speech and language services. The lock
is never held across a suspension, so `__aenter__` and `__aexit__` are atomic and
a cancellation can only arrive inside the guarded block. -/
namespace AgentOE.CircuitBreaker
open Transition

inductive CircuitState where
  | closed
  | opened
  | halfOpen
  deriving DecidableEq, Repr

/-- A raised exception with the classes it is an instance of. -/
structure Exc where
  classes : List String
  deriving DecidableEq, Repr

def Exc.isInstance (exc : Exc) (cls : String) : Bool := exc.classes.contains cls

def Exc.runtimeError : Exc := ⟨["RuntimeError", "Exception", "BaseException"]⟩

structure Config (T : Type) where
  failureThreshold : Int
  recoveryTimeout : T
  halfOpenMaxCalls : Int
  successThreshold : Int
  excludedExceptions : List String

/-- The `CB_*` settings and their defaults, in seconds. -/
structure Settings where
  failureThreshold : Int := 5
  successThreshold : Int := 2
  sttRecoveryTimeout : Int := 30
  sttHalfOpenMaxCalls : Int := 3
  llmRecoveryTimeout : Int := 30
  llmHalfOpenMaxCalls : Int := 2
  ttsRecoveryTimeout : Int := 20
  ttsHalfOpenMaxCalls : Int := 3

def makeServiceConfig (settings : Settings) (serviceKey : String) : Config Int :=
  let common : Config Int := ⟨settings.failureThreshold, 30, 3, settings.successThreshold,
    ["RuntimeError"]⟩
  if serviceKey = "groq-stt" then
    { common with
      recoveryTimeout := settings.sttRecoveryTimeout
      halfOpenMaxCalls := settings.sttHalfOpenMaxCalls }
  else if serviceKey = "groq-llm-primary" ∨ serviceKey = "groq-llm-fallback" then
    { common with
      recoveryTimeout := settings.llmRecoveryTimeout
      halfOpenMaxCalls := settings.llmHalfOpenMaxCalls }
  else if serviceKey = "google-tts" then
    { common with
      recoveryTimeout := settings.ttsRecoveryTimeout
      halfOpenMaxCalls := settings.ttsHalfOpenMaxCalls }
  else common

structure Stats (T : Type) where
  state : CircuitState
  failureCount : Nat
  successCount : Nat
  lastFailureTime : T
  totalCalls : Nat
  totalFailures : Nat
  halfOpenCalls : Nat
  deriving DecidableEq

def Stats.initial (T : Type) [Zero T] : Stats T := ⟨.closed, 0, 0, 0, 0, 0, 0⟩

variable {T : Type}

def isExcluded (cfg : Config T) (exc : Exc) : Bool := cfg.excludedExceptions.any exc.isInstance

/-- How the guarded block is left. -/
inductive Outcome where
  | returned
  | raised (exc : Exc)
  deriving DecidableEq

/-- `__aexit__` calls `_on_failure` for this exception. -/
def counted (cfg : Config T) (exc : Exc) : Bool :=
  !exc.isInstance "CircuitBreakerOpenError" && !isExcluded cfg exc

/-- The last part of `_check_state`: a slot of the HALF_OPEN state. -/
def takeSlot (cfg : Config T) (stats : Stats T) : Stats T × Bool :=
  if cfg.halfOpenMaxCalls ≤ stats.halfOpenCalls then (stats, false)
  else ({ stats with halfOpenCalls := stats.halfOpenCalls + 1 }, true)

/-- `false` where the source raises `CircuitBreakerOpenError`. The statistics
written before the raise are kept. -/
def checkState [Sub T] [LE T] [DecidableLE T] (cfg : Config T) (now : T) (stats : Stats T) :
    Stats T × Bool :=
  match stats.state with
  | .closed => (stats, true)
  | .opened =>
    if cfg.recoveryTimeout ≤ now - stats.lastFailureTime then
      takeSlot cfg { stats with state := .halfOpen, halfOpenCalls := 0, successCount := 0 }
    else (stats, false)
  | .halfOpen => takeSlot cfg stats

def aenter [Sub T] [LE T] [DecidableLE T] (cfg : Config T) (now : T) (stats : Stats T) :
    Stats T × Bool :=
  match checkState cfg now stats with
  | (checked, true) => ({ checked with totalCalls := checked.totalCalls + 1 }, true)
  | (checked, false) => (checked, false)

def onSuccess (cfg : Config T) (stats : Stats T) : Stats T :=
  let stats := { stats with failureCount := 0 }
  if stats.state = .halfOpen then
    let stats := { stats with successCount := stats.successCount + 1 }
    if cfg.successThreshold ≤ stats.successCount then
      { stats with state := .closed, successCount := 0, halfOpenCalls := 0 }
    else stats
  else stats

def onFailure (cfg : Config T) (now : T) (stats : Stats T) : Stats T :=
  let stats := { stats with
    failureCount := stats.failureCount + 1
    totalFailures := stats.totalFailures + 1
    lastFailureTime := now }
  if stats.state = .halfOpen then { stats with state := .opened, halfOpenCalls := 0 }
  else if stats.state = .closed ∧ cfg.failureThreshold ≤ stats.failureCount then
    { stats with state := .opened }
  else stats

def aexit (cfg : Config T) (outcome : Outcome) (now : T) (stats : Stats T) : Stats T :=
  match outcome with
  | .returned => onSuccess cfg stats
  | .raised exc => if counted cfg exc then onFailure cfg now stats else stats

/-- What can happen in `__aenter__`, with the guard of each branch. -/
inductive Enters [Sub T] [LE T] (cfg : Config T) (now : T) (stats : Stats T) :
    Stats T → Bool → Prop where
  | closed : stats.state = .closed →
      Enters cfg now stats { stats with totalCalls := stats.totalCalls + 1 } true
  | early : stats.state = .opened → ¬ cfg.recoveryTimeout ≤ now - stats.lastFailureTime →
      Enters cfg now stats stats false
  | probe : stats.state = .opened → cfg.recoveryTimeout ≤ now - stats.lastFailureTime →
      0 < cfg.halfOpenMaxCalls →
      Enters cfg now stats { stats with
        state := .halfOpen, successCount := 0, halfOpenCalls := 1
        totalCalls := stats.totalCalls + 1 } true
  | noSlots : stats.state = .opened → cfg.recoveryTimeout ≤ now - stats.lastFailureTime →
      cfg.halfOpenMaxCalls ≤ 0 →
      Enters cfg now stats { stats with
        state := .halfOpen, successCount := 0, halfOpenCalls := 0 } false
  | slot : stats.state = .halfOpen → stats.halfOpenCalls < cfg.halfOpenMaxCalls →
      Enters cfg now stats { stats with
        halfOpenCalls := stats.halfOpenCalls + 1, totalCalls := stats.totalCalls + 1 } true
  | full : stats.state = .halfOpen → cfg.halfOpenMaxCalls ≤ stats.halfOpenCalls →
      Enters cfg now stats stats false

theorem aenter_enters [Sub T] [LE T] [DecidableLE T] (cfg : Config T) (now : T) (stats : Stats T) :
    Enters cfg now stats (aenter cfg now stats).1 (aenter cfg now stats).2 := by
  unfold aenter checkState
  cases state : stats.state with
  | closed => exact .closed state
  | opened =>
    by_cases elapsed : cfg.recoveryTimeout ≤ now - stats.lastFailureTime
    · by_cases slots : cfg.halfOpenMaxCalls ≤ 0
      · simpa [elapsed, takeSlot, slots] using Enters.noSlots state elapsed slots
      · simpa [elapsed, takeSlot, slots] using Enters.probe state elapsed (not_le.mp slots)
    · simpa [elapsed] using Enters.early state elapsed
  | halfOpen =>
    by_cases slots : cfg.halfOpenMaxCalls ≤ stats.halfOpenCalls
    · simpa [takeSlot, slots] using Enters.full state slots
    · simpa [takeSlot, slots] using Enters.slot state (not_le.mp slots)

/-- What can happen in `__aexit__`, with the guard of each branch. -/
inductive Exits (cfg : Config T) (now : T) (stats : Stats T) : Outcome → Stats T → Prop where
  | success : stats.state ≠ .halfOpen →
      Exits cfg now stats .returned { stats with failureCount := 0 }
  | probed : stats.state = .halfOpen → stats.successCount + 1 < cfg.successThreshold →
      Exits cfg now stats .returned
        { stats with failureCount := 0, successCount := stats.successCount + 1 }
  | recovered : stats.state = .halfOpen → cfg.successThreshold ≤ stats.successCount + 1 →
      Exits cfg now stats .returned
        { stats with state := .closed, failureCount := 0, successCount := 0, halfOpenCalls := 0 }
  | ignored : counted cfg exc = false → Exits cfg now stats (.raised exc) stats
  | relapsed : counted cfg exc = true → stats.state = .halfOpen →
      Exits cfg now stats (.raised exc) { stats with
        state := .opened, failureCount := stats.failureCount + 1, lastFailureTime := now
        totalFailures := stats.totalFailures + 1, halfOpenCalls := 0 }
  | tripped : counted cfg exc = true → stats.state = .closed →
      cfg.failureThreshold ≤ stats.failureCount + 1 →
      Exits cfg now stats (.raised exc) { stats with
        state := .opened, failureCount := stats.failureCount + 1, lastFailureTime := now
        totalFailures := stats.totalFailures + 1 }
  | tolerated : counted cfg exc = true → stats.state = .closed →
      stats.failureCount + 1 < cfg.failureThreshold →
      Exits cfg now stats (.raised exc) { stats with
        failureCount := stats.failureCount + 1, lastFailureTime := now
        totalFailures := stats.totalFailures + 1 }
  | late : counted cfg exc = true → stats.state = .opened →
      Exits cfg now stats (.raised exc) { stats with
        failureCount := stats.failureCount + 1, lastFailureTime := now
        totalFailures := stats.totalFailures + 1 }

theorem aexit_exits (cfg : Config T) (outcome : Outcome) (now : T) (stats : Stats T) :
    Exits cfg now stats outcome (aexit cfg outcome now stats) := by
  cases outcome with
  | returned =>
    by_cases state : stats.state = .halfOpen
    · by_cases reached : cfg.successThreshold ≤ stats.successCount + 1
      · have branch : Exits cfg now stats .returned _ := .recovered state reached
        simpa [aexit, onSuccess, state, reached] using branch
      · have branch : Exits cfg now stats .returned _ := .probed state (not_le.mp reached)
        simpa [aexit, onSuccess, state, reached] using branch
    · have branch : Exits cfg now stats .returned _ := .success state
      simpa [aexit, onSuccess, state] using branch
  | raised exc =>
    cases failure : counted cfg exc with
    | false => simpa [aexit, failure] using Exits.ignored failure
    | true =>
      cases state : stats.state with
      | halfOpen => simpa [aexit, onFailure, failure, state] using Exits.relapsed failure state
      | opened => simpa [aexit, onFailure, failure, state] using Exits.late failure state
      | closed =>
        by_cases reached : cfg.failureThreshold ≤ stats.failureCount + 1
        · simpa [aexit, onFailure, failure, state, reached] using
            Exits.tripped failure state reached
        · simpa [aexit, onFailure, failure, state, reached] using
            Exits.tolerated failure state (not_le.mp reached)

section Runs
variable {C : Type} [DecidableEq C]

/-- The breaker with the calls that are inside their guarded block. -/
structure Machine (C T : Type) where
  stats : Stats T
  inFlight : C → Bool

def Machine.initial (C T : Type) [Zero T] : Machine C T := ⟨.initial T, fun _ => false⟩

/-- A label carries the reading of the clock that its step makes. -/
inductive Label (C T : Type) where
  | enter (c : C) (now : T)
  | exit (c : C) (outcome : Outcome) (now : T)

variable [Sub T] [LE T] [DecidableLE T]

def step (cfg : Config T) (σ : Machine C T) : Label C T → Option (Machine C T)
  | .enter c now =>
    if σ.inFlight c then none
    else
      let entered := aenter cfg now σ.stats
      some ⟨entered.1, Function.update σ.inFlight c entered.2⟩
  | .exit c outcome now =>
    if σ.inFlight c then
      some ⟨aexit cfg outcome now σ.stats, Function.update σ.inFlight c false⟩
    else none

/-- The label is a call of `__aenter__` that is let through. -/
def admits (cfg : Config T) (σ : Machine C T) : Label C T → Bool
  | .enter _ now => (aenter cfg now σ.stats).2
  | .exit .. => false

/-- Every step of the machine, with the branch of the source it takes. -/
inductive Takes (cfg : Config T) (σ : Machine C T) : Label C T → Bool → Machine C T → Prop where
  | enter : σ.inFlight c = false → Enters cfg now σ.stats stats admitted →
      Takes cfg σ (.enter c now) admitted ⟨stats, Function.update σ.inFlight c admitted⟩
  | exit : σ.inFlight c = true → Exits cfg now σ.stats outcome stats →
      Takes cfg σ (.exit c outcome now) false ⟨stats, Function.update σ.inFlight c false⟩

theorem step_takes {cfg : Config T} {σ τ : Machine C T} (stepped : step cfg σ l = some τ) :
    Takes cfg σ l (admits cfg σ l) τ := by
  cases l with
  | enter c now =>
    simp only [step, Option.ite_none_left_eq_some, Bool.not_eq_true, Option.some.injEq] at stepped
    obtain ⟨idle, rfl⟩ := stepped
    exact .enter idle (aenter_enters cfg now σ.stats)
  | exit c outcome now =>
    simp only [step, Option.ite_none_right_eq_some, Option.some.injEq] at stepped
    obtain ⟨running, rfl⟩ := stepped
    exact .exit running (aexit_exits cfg outcome now σ.stats)

end Runs

section Records
variable {C : Type}

/-- What a call leaves in the breaker's record. -/
inductive Record (T : Type) where
  | success
  | failure (time : T)
  deriving DecidableEq

def Record.isFailure : Record T → Bool
  | .success => false
  | .failure _ => true

def Record.time : Record T → Option T
  | .success => none
  | .failure time => some time

/-- Read off the label alone: neither the statistics nor the admission count. -/
def recorded (cfg : Config T) : Label C T → Option (Record T)
  | .enter .. => none
  | .exit _ .returned _ => some .success
  | .exit _ (.raised exc) now => if counted cfg exc then some (.failure now) else none

def records (cfg : Config T) (labels : List (Label C T)) : List (Record T) :=
  labels.filterMap (recorded cfg)

/-- Counted failures after the last success. -/
def failuresSinceSuccess (past : List (Record T)) : Nat :=
  (past.reverse.takeWhile Record.isFailure).length

def lastFailure (past : List (Record T)) : Option T := (past.filterMap Record.time).getLast?

/-- What the statistics say about the past, in every reachable state. -/
structure Tracks (cfg : Config T) (past : List (Record T)) (stats : Stats T) : Prop where
  belowThreshold : stats.state = .closed → stats.failureCount < cfg.failureThreshold
  count : stats.failureCount = failuresSinceSuccess past
  opened : stats.state = .opened → lastFailure past = some stats.lastFailureTime
  slots : stats.state = .halfOpen → stats.halfOpenCalls ≤ cfg.halfOpenMaxCalls

@[simp] theorem failures_snoc_failure (past : List (Record T)) (time : T) :
    failuresSinceSuccess (past ++ [.failure time]) = failuresSinceSuccess past + 1 := by
  simp [failuresSinceSuccess, List.takeWhile_cons, Record.isFailure]

@[simp] theorem failures_snoc_success (past : List (Record T)) :
    failuresSinceSuccess (past ++ [.success]) = 0 := by
  simp [failuresSinceSuccess, Record.isFailure]

@[simp] theorem lastFailure_snoc_failure (past : List (Record T)) (time : T) :
    lastFailure (past ++ [.failure time]) = some time := by
  simp [lastFailure, Record.time]

@[simp] theorem lastFailure_snoc_success (past : List (Record T)) :
    lastFailure (past ++ [.success]) = lastFailure past := by
  simp [lastFailure, Record.time]

/-- The configurations of the safety property. -/
structure Config.Positive (cfg : Config T) : Prop where
  failureThreshold : 1 ≤ cfg.failureThreshold
  halfOpenMaxCalls : 1 ≤ cfg.halfOpenMaxCalls
  successThreshold : 1 ≤ cfg.successThreshold

theorem Tracks.initial [Zero T] (positive : Config.Positive cfg) :
    Tracks cfg [] (Stats.initial T) := by
  have threshold := positive.failureThreshold
  constructor
  case belowThreshold => intro _; simp only [Stats.initial]; omega
  case count => rfl
  case opened => intro opened; cases opened
  case slots => intro halfOpen; cases halfOpen

theorem Tracks.enter [Sub T] [LE T] {cfg : Config T} (tracks : Tracks cfg past stats)
    (positive : Config.Positive cfg) (enters : Enters cfg now stats next admitted) :
    Tracks cfg past next := by
  have maximum := positive.halfOpenMaxCalls
  cases enters with
  | closed _ => exact ⟨tracks.belowThreshold, tracks.count, tracks.opened, tracks.slots⟩
  | early _ _ => exact tracks
  | probe _ _ _ => exact ⟨nofun, tracks.count, nofun, fun _ => by simpa using maximum⟩
  | noSlots _ _ empty => omega
  | slot state free =>
    refine ⟨tracks.belowThreshold, tracks.count, tracks.opened, fun _ => ?_⟩
    change ((stats.halfOpenCalls + 1 : Nat) : Int) ≤ cfg.halfOpenMaxCalls
    omega
  | full _ _ => exact tracks

/-- A late exit is recorded in the state the breaker is in by then, not in the
one the call was admitted in. -/
theorem Tracks.exit (tracks : Tracks cfg past stats) (positive : Config.Positive cfg)
    (exits : Exits cfg now stats outcome next) (c : C) :
    Tracks cfg (past ++ (recorded cfg (.exit c outcome now)).toList) next := by
  have threshold := positive.failureThreshold
  have zero_below : ((0 : Nat) : Int) < cfg.failureThreshold := by omega
  have count := tracks.count
  cases exits with
  | success state =>
    constructor
    case belowThreshold => exact fun _ => zero_below
    case count => simp [recorded]
    case opened => intro opened; simpa [recorded] using tracks.opened opened
    case slots => exact tracks.slots
  | probed state below =>
    constructor
    case belowThreshold => exact fun _ => zero_below
    case count => simp [recorded]
    case opened => intro opened; simpa [recorded] using tracks.opened opened
    case slots => exact tracks.slots
  | recovered state reached =>
    constructor
    case belowThreshold => exact fun _ => zero_below
    case count => simp [recorded]
    case opened => intro opened; cases opened
    case slots => intro halfOpen; cases halfOpen
  | ignored uncounted => simpa [recorded, uncounted] using tracks
  | relapsed failure state =>
    exact ⟨nofun, by simp [recorded, failure, count], by simp [recorded, failure], nofun⟩
  | tripped failure state reached =>
    exact ⟨nofun, by simp [recorded, failure, count], by simp [recorded, failure], nofun⟩
  | tolerated failure state below =>
    constructor
    case belowThreshold => intro _; simpa using below
    case count => simp [recorded, failure, count]
    case opened => intro opened; cases state.symm.trans opened
    case slots => intro halfOpen; cases state.symm.trans halfOpen
  | late failure state =>
    constructor
    case belowThreshold => intro closed; cases state.symm.trans closed
    case count => simp [recorded, failure, count]
    case opened => simp [recorded, failure]
    case slots => intro halfOpen; cases state.symm.trans halfOpen

theorem records_snoc (cfg : Config T) (past : List (Label C T)) (l : Label C T) :
    records cfg (past ++ [l]) = records cfg past ++ (recorded cfg l).toList := by
  cases outcome : recorded cfg l <;> simp [records, outcome]

end Records

section Safety
variable {C : Type} [DecidableEq C] [Sub T] [LE T] [DecidableLE T]

theorem step_tracks {cfg : Config T} {σ τ : Machine C T} (positive : cfg.Positive)
    (tracks : Tracks cfg past σ.stats) (stepped : step cfg σ l = some τ) :
    Tracks cfg (past ++ (recorded cfg l).toList) τ.stats := by
  cases step_takes stepped with
  | enter _ enters => simpa [recorded] using tracks.enter positive enters
  | @exit c _ _ _ _ exits => exact tracks.exit positive exits c

theorem run_tracks [Zero T] {cfg : Config T} (positive : cfg.Positive)
    (run : exec (step cfg) (Machine.initial C T) labels = some σ) :
    Tracks cfg (records cfg labels) σ.stats := by
  apply exec_history (fun past (σ : Machine C T) => Tracks cfg (records cfg past) σ.stats) _ run
    (Tracks.initial positive)
  intro past σ l τ before stepped
  rw [records_snoc]
  exact step_tracks positive before stepped

/-- The calls let through by the steps of a run. -/
def admissions (cfg : Config T) : Machine C T → List (Label C T) → Nat
  | _, [] => 0
  | σ, l :: ls => match step cfg σ l with
    | some τ => (admits cfg σ l).toNat + admissions cfg τ ls
    | none => 0

/-- Each step of the run leaves the breaker HALF_OPEN. The step that opens the
episode may start in another state. -/
def Episode (cfg : Config T) : Machine C T → List (Label C T) → Prop :=
  Along (step cfg) fun σ l => ∀ τ, step cfg σ l = some τ → τ.stats.state = .halfOpen

/-- Slots taken in the current episode. -/
def slotsTaken (stats : Stats T) : Nat := if stats.state = .halfOpen then stats.halfOpenCalls else 0

omit [DecidableLE T] in
theorem Enters.slotsTaken {cfg : Config T} (enters : Enters cfg now stats next admitted)
    (halfOpen : next.state = .halfOpen) :
    slotsTaken next = slotsTaken stats + admitted.toNat := by
  cases enters with
  | closed state => cases state.symm.trans halfOpen
  | early state _ => cases state.symm.trans halfOpen
  | probe state _ _ => simp [CircuitBreaker.slotsTaken, state]
  | noSlots state _ _ => simp [CircuitBreaker.slotsTaken, state]
  | slot state _ => simp [CircuitBreaker.slotsTaken, state]
  | full _ _ => rfl

omit [Sub T] [LE T] [DecidableLE T] in
theorem Exits.slotsTaken {cfg : Config T} (exits : Exits cfg now stats outcome next)
    (halfOpen : next.state = .halfOpen) : slotsTaken next = slotsTaken stats := by
  cases exits with
  | success _ => rfl
  | probed _ _ => rfl
  | recovered _ _ => cases halfOpen
  | ignored _ => rfl
  | relapsed _ _ => cases halfOpen
  | tripped _ _ _ => cases halfOpen
  | tolerated _ _ _ => rfl
  | late _ _ => rfl

theorem step_slotsTaken {cfg : Config T} {σ τ : Machine C T} (stepped : step cfg σ l = some τ)
    (halfOpen : τ.stats.state = .halfOpen) :
    slotsTaken τ.stats = slotsTaken σ.stats + (admits cfg σ l).toNat := by
  have takes := step_takes stepped
  generalize admits cfg σ l = admitted at takes ⊢
  cases takes with
  | enter _ enters => exact enters.slotsTaken halfOpen
  | exit _ exits => exact exits.slotsTaken halfOpen

omit [Sub T] [LE T] [DecidableLE T] in
theorem Tracks.slotsTaken_le {cfg : Config T} (tracks : Tracks cfg past stats)
    (positive : cfg.Positive) : slotsTaken stats ≤ cfg.halfOpenMaxCalls := by
  have maximum := positive.halfOpenMaxCalls
  by_cases halfOpen : stats.state = .halfOpen
  · simpa [slotsTaken, halfOpen] using tracks.slots halfOpen
  · simp only [slotsTaken, halfOpen, if_false]
    omega

/-- The slots are never given back within an episode, so they bound everything
the episode lets through. -/
theorem episode_admissions {cfg : Config T} {σ : Machine C T} (positive : cfg.Positive)
    (tracks : Tracks cfg past σ.stats) (episode : Episode cfg σ ls) :
    slotsTaken σ.stats + admissions cfg σ ls ≤ cfg.halfOpenMaxCalls := by
  induction ls generalizing σ past with
  | nil => simpa [admissions] using tracks.slotsTaken_le positive
  | cons l ls ih =>
    cases stepped : step cfg σ l with
    | none => simpa [admissions, stepped] using tracks.slotsTaken_le positive
    | some τ =>
      have rest := ih (step_tracks positive tracks stepped) (episode.2 τ stepped)
      have taken := step_slotsTaken stepped (episode.1 τ stepped)
      simp only [admissions, stepped]
      omega

/-- A call passes an open breaker only when the recovery time has run since the
last counted failure. -/
theorem opened_admits {cfg : Config T} (tracks : Tracks cfg past stats)
    (opened : stats.state = .opened) (admitted : (aenter cfg now stats).2 = true) :
    ∃ failed, lastFailure past = some failed ∧ cfg.recoveryTimeout ≤ now - failed := by
  refine ⟨stats.lastFailureTime, tracks.opened opened, ?_⟩
  have enters := aenter_enters cfg now stats
  rw [admitted] at enters
  generalize (aenter cfg now stats).1 = next at enters
  cases enters with
  | closed state => cases state.symm.trans opened
  | probe _ elapsed _ => exact elapsed
  | slot state _ => cases state.symm.trans opened

/-- Safety of the breaker over every interleaving and every clock. -/
theorem breaker_safety [Zero T] {cfg : Config T} (positive : cfg.Positive)
    (run : exec (step cfg) (Machine.initial C T) labels = some σ) :
    (σ.stats.state = .closed → σ.stats.failureCount < cfg.failureThreshold) ∧
    σ.stats.failureCount = failuresSinceSuccess (records cfg labels) ∧
    (∀ ls, Episode cfg σ ls → admissions cfg σ ls ≤ cfg.halfOpenMaxCalls) ∧
    (∀ now, σ.stats.state = .opened → (aenter cfg now σ.stats).2 = true →
      ∃ failed, lastFailure (records cfg labels) = some failed ∧
        cfg.recoveryTimeout ≤ now - failed) := by
  have tracks := run_tracks positive run
  refine ⟨tracks.belowThreshold, tracks.count, ?_, ?_⟩
  · intro ls episode
    have bound := episode_admissions positive tracks episode
    omega
  · intro now opened admitted
    exact opened_admits tracks opened admitted

end Safety

def llmConfig : Config Int := makeServiceConfig {} "groq-llm-primary"

def timeoutError : Exc := ⟨["TimeoutError", "OSError", "Exception", "BaseException"]⟩

/-- Five overlapping calls fail, and two probes are let through 31 s later. -/
def outage : List (Label (Fin 7) Int) :=
  [0, 1, 2, 3, 4].map (Label.enter · 0) ++
    [0, 1, 2, 3, 4].map (Label.exit · (.raised timeoutError) 1) ++
    [Label.enter 5 32, Label.enter 6 33]

theorem breaker_safety_outage :
    ∃ σ, exec (step llmConfig) (Machine.initial (Fin 7) Int) outage = some σ ∧
      σ.stats.state = .halfOpen ∧
      σ.stats.failureCount = failuresSinceSuccess (records llmConfig outage) ∧
      ∀ ls, Episode llmConfig σ ls → admissions llmConfig σ ls ≤ llmConfig.halfOpenMaxCalls := by
  have positive : llmConfig.Positive := ⟨by decide, by decide, by decide⟩
  have probing : (exec (step llmConfig) (Machine.initial (Fin 7) Int) outage).map (·.stats.state) =
      some .halfOpen := by decide +kernel
  obtain ⟨σ, run, state⟩ := Option.map_eq_some_iff.mp probing
  have safety := breaker_safety positive run
  exact ⟨σ, run, state, safety.2.1, safety.2.2.1⟩

section Progress
variable {C : Type} [DecidableEq C] [AddCommGroup T] [LinearOrder T]

def Idle (σ : Machine C T) : Prop := ∀ c, σ.inFlight c = false

/-- From some time on, `__aenter__` lets a call through. -/
def CanAdmit (cfg : Config T) (stats : Stats T) : Prop :=
  ∃ t, ∀ now, t ≤ now → (aenter cfg now stats).2 = true

/-- HALF_OPEN with no slot left. -/
def Exhausted (cfg : Config T) (stats : Stats T) : Prop :=
  stats.state = .halfOpen ∧ cfg.halfOpenMaxCalls ≤ stats.halfOpenCalls

/-- When the last call in flight ends in an exhausted HALF_OPEN state, it ends by
a counted failure or as the success that closes the breaker. -/
def Settles (cfg : Config T) (σ : Machine C T) : Label C T → Prop
  | .enter .. => True
  | .exit c outcome _ => (∀ d, d ≠ c → σ.inFlight d = false) → Exhausted cfg σ.stats →
    match outcome with
    | .returned => cfg.successThreshold ≤ σ.stats.successCount + 1
    | .raised exc => counted cfg exc = true

instance (cfg : Config T) (stats : Stats T) : Decidable (Exhausted cfg stats) :=
  inferInstanceAs (Decidable (_ ∧ _))

instance [Fintype C] (cfg : Config T) (σ : Machine C T) :
    (l : Label C T) → Decidable (Settles cfg σ l)
  | .enter .. => isTrue trivial
  | .exit _ .returned _ => inferInstanceAs (Decidable (_ → _ → _))
  | .exit _ (.raised _) _ => inferInstanceAs (Decidable (_ → _ → _))

theorem canAdmit_iff [IsOrderedAddMonoid T] (cfg : Config T) (slots : 1 ≤ cfg.halfOpenMaxCalls)
    (stats : Stats T) : CanAdmit cfg stats ↔ ¬ Exhausted cfg stats := by
  constructor
  · rintro ⟨t, admitted⟩ ⟨halfOpen, full⟩
    have passes := admitted t le_rfl
    simp [aenter, checkState, takeSlot, halfOpen, full] at passes
  · intro free
    refine ⟨stats.lastFailureTime + cfg.recoveryTimeout, fun now later => ?_⟩
    have enters := aenter_enters cfg now stats
    generalize aenter cfg now stats = entered at enters ⊢
    obtain ⟨next, admitted⟩ := entered
    cases enters with
    | closed _ => rfl
    | early _ short => exact absurd (le_sub_iff_add_le'.mpr later) short
    | probe _ _ _ => rfl
    | noSlots _ _ none => omega
    | slot _ _ => rfl
    | full halfOpen full => exact absurd ⟨halfOpen, full⟩ free

/-- An idle breaker still has a way out. -/
def Unwedged (cfg : Config T) (σ : Machine C T) : Prop := Idle σ → ¬ Exhausted cfg σ.stats

theorem step_unwedged {cfg : Config T} {σ τ : Machine C T} (slots : 1 ≤ cfg.halfOpenMaxCalls)
    (before : Unwedged cfg σ) (settles : Settles cfg σ l) (stepped : step cfg σ l = some τ) :
    Unwedged cfg τ := by
  intro idle exhausted
  have takes := step_takes stepped
  generalize admits cfg σ l = admitted at takes
  cases takes with
  | @enter c _ _ _ outside enters =>
    have refused : admitted = false := by simpa using idle c
    have idleBefore : Idle σ := by
      intro d
      by_cases same : d = c
      · exact same ▸ outside
      · simpa [Function.update_of_ne same] using idle d
    subst refused
    cases enters with
    | early opened _ => cases opened.symm.trans exhausted.1
    | noSlots _ _ none => omega
    | full halfOpen full => exact before idleBefore ⟨halfOpen, full⟩
  | @exit c _ outcome _ _ exits =>
    have last : ∀ d, d ≠ c → σ.inFlight d = false := by
      intro d other
      simpa [Function.update_of_ne other] using idle d
    cases exits with
    | success state => exact state exhausted.1
    | probed state below =>
      have reached := settles last ⟨state, exhausted.2⟩
      exact absurd reached (not_le.mpr below)
    | recovered _ _ => cases exhausted.1
    | ignored uncounted => exact Bool.noConfusion (uncounted.symm.trans (settles last exhausted))
    | relapsed _ _ => cases exhausted.1
    | tripped _ _ _ => cases exhausted.1
    | tolerated _ state _ => cases state.symm.trans exhausted.1
    | late _ state => cases state.symm.trans exhausted.1

theorem settles_of_unwedged {cfg : Config T} {σ τ : Machine C T}
    (stepped : step cfg σ l = some τ) (after : Unwedged cfg τ) : Settles cfg σ l := by
  cases step_takes stepped with
  | enter _ _ => trivial
  | @exit c now outcome next _ exits =>
    intro last exhausted
    have idle : Idle (⟨next, Function.update σ.inFlight c false⟩ : Machine C T) := by
      intro d
      by_cases same : d = c
      · simp [same]
      · simpa [Function.update_of_ne same] using last d same
    have free := after idle
    cases exits with
    | success state => exact absurd exhausted.1 state
    | probed _ _ => exact absurd exhausted free
    | recovered _ reached => exact reached
    | ignored _ => exact absurd exhausted free
    | relapsed failure _ => exact failure
    | tripped failure _ _ => exact failure
    | tolerated failure _ _ => exact failure
    | late failure _ => exact failure

/-- Every idle state of a run can admit a call again exactly when the run settles
each exhausted HALF_OPEN state it leaves. -/
theorem idle_breaker_recovers_iff [IsOrderedAddMonoid T] {cfg : Config T}
    (slots : 1 ≤ cfg.halfOpenMaxCalls)
    (run : exec (step cfg) (Machine.initial C T) labels = some σ) :
    (∀ past τ, past <+: labels → exec (step cfg) (Machine.initial C T) past = some τ →
      Idle τ → CanAdmit cfg τ.stats) ↔
    Along (step cfg) (Settles cfg) (Machine.initial C T) labels := by
  have fresh : Unwedged cfg (Machine.initial C T) := fun _ exhausted => by cases exhausted.1
  refine reached_iff_along (Unwedged cfg) ?_ ?_ ?_ fresh (along_true _) run
  · intro σ l τ _ _ stepped admits
    exact settles_of_unwedged stepped fun idle => (canAdmit_iff cfg slots τ.stats).mp (admits idle)
  · intro σ l τ unwedged _ stepped settles
    exact step_unwedged slots unwedged settles stepped
  · intro σ unwedged idle
    exact (canAdmit_iff cfg slots σ.stats).mpr (unwedged idle)

/-- Both probes succeed. -/
def recovery : List (Label (Fin 7) Int) :=
  outage ++ [Label.exit 5 .returned 34, Label.exit 6 .returned 35]

theorem idle_breaker_recovers_outage :
    ∃ σ, exec (step llmConfig) (Machine.initial (Fin 7) Int) recovery = some σ ∧ Idle σ ∧
      CanAdmit llmConfig σ.stats := by
  have drained : (exec (step llmConfig) (Machine.initial (Fin 7) Int) recovery).map
      (fun σ => decide (∀ c, σ.inFlight c = false)) = some true := by
    decide +kernel
  obtain ⟨σ, run, checked⟩ := Option.map_eq_some_iff.mp drained
  have idle : ∀ c, σ.inFlight c = false := of_decide_eq_true checked
  have settles : Along (step llmConfig) (Settles llmConfig)
    (Machine.initial (Fin 7) Int) recovery := by decide +kernel
  have recovers := (idle_breaker_recovers_iff (by decide) run).mpr settles
  exact ⟨σ, run, idle, recovers recovery σ List.prefix_rfl run idle⟩

/-- One probe of the default configuration raises an excluded exception and the
other succeeds. -/
def wedge : List (Label (Fin 7) Int) :=
  outage ++ [Label.exit 5 (.raised .runtimeError) 34, Label.exit 6 .returned 35]

theorem idle_breaker_wedges :
    1 ≤ llmConfig.halfOpenMaxCalls ∧
    ∃ σ, exec (step llmConfig) (Machine.initial (Fin 7) Int) wedge = some σ ∧ Idle σ ∧
      ¬ CanAdmit llmConfig σ.stats := by
  have slots : 1 ≤ llmConfig.halfOpenMaxCalls := by decide
  have wedged : ((exec (step llmConfig) (Machine.initial (Fin 7) Int) wedge).map fun σ =>
      decide ((∀ c, σ.inFlight c = false) ∧ Exhausted llmConfig σ.stats)) = some true := by
    decide +kernel
  obtain ⟨σ, run, checked⟩ := Option.map_eq_some_iff.mp wedged
  obtain ⟨idle, exhausted⟩ := of_decide_eq_true checked
  exact ⟨slots, σ, run, idle,
    fun admits => (canAdmit_iff llmConfig slots σ.stats).mp admits exhausted⟩

end Progress

end AgentOE.CircuitBreaker
