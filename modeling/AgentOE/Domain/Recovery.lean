import AgentOE.Domain.CircuitBreaker

/-! Whose results move the circuit breaker: which calls decide a HALF_OPEN episode,
and what a burst of cancellations does. -/
namespace AgentOE.CircuitBreaker
open Transition

variable {T C : Type} [DecidableEq C]

/-- Calls of the labels that were admitted within them and have succeeded. `inside` are
the calls that were admitted so far. -/
def probeSuccesses (inside : C → Bool) : List (Label C T) → Nat
  | [] => 0
  | .enter c _ :: ls => probeSuccesses (Function.update inside c true) ls
  | .exit c .returned _ :: ls =>
    (inside c).toNat + probeSuccesses (Function.update inside c false) ls
  | .exit c (.raised _) _ :: ls => probeSuccesses (Function.update inside c false) ls

/-- A call that was admitted within the labels has failed. -/
def ProbeFailed (cfg : Config T) (inside : C → Bool) : List (Label C T) → Prop
  | [] => False
  | .enter c _ :: ls => ProbeFailed cfg (Function.update inside c true) ls
  | .exit c .returned _ :: ls => ProbeFailed cfg (Function.update inside c false) ls
  | .exit c (.raised exc) _ :: ls =>
    counted cfg exc = true ∧ inside c = true ∨ ProbeFailed cfg (Function.update inside c false) ls

/-- Every result that is recorded comes from a call that was admitted within the labels. -/
def OwnResults (cfg : Config T) (inside : C → Bool) : List (Label C T) → Prop
  | [] => True
  | .enter c _ :: ls => OwnResults cfg (Function.update inside c true) ls
  | .exit c outcome now :: ls =>
    ((recorded cfg (.exit c outcome now)).isSome = true → inside c = true) ∧
    OwnResults cfg (Function.update inside c false) ls

def Label.succeeds : Label C T → Bool
  | .exit _ .returned _ => true
  | _ => false

/-- Successes recorded in the current episode. -/
def successesCounted (stats : Stats T) : Nat :=
  if stats.state = .halfOpen then stats.successCount else 0

section Attribution
variable {cfg : Config T} {inside : C → Bool}

theorem probeSuccesses_eq (own : OwnResults cfg inside ls) :
    probeSuccesses inside ls = (ls.filter Label.succeeds).length := by
  induction ls generalizing inside with
  | nil => rfl
  | cons l ls ih =>
    cases l with
    | enter c now =>
      rw [probeSuccesses, ih own, List.filter_cons_of_neg (by simp [Label.succeeds])]
    | exit c outcome now =>
      obtain ⟨mine, rest⟩ := own
      cases outcome with
      | returned =>
        have admitted : inside c = true := mine rfl
        rw [probeSuccesses, ih rest, admitted, List.filter_cons_of_pos rfl, List.length_cons]
        exact Nat.add_comm ..
      | raised exc =>
        rw [probeSuccesses, ih rest, List.filter_cons_of_neg (by simp [Label.succeeds])]

theorem probeFailed_snoc (own : OwnResults cfg inside (ls ++ [.exit c (.raised exc) now]))
    (failure : counted cfg exc = true) :
    ProbeFailed cfg inside (ls ++ [.exit c (.raised exc) now]) := by
  induction ls generalizing inside with
  | nil => exact .inl ⟨failure, own.1 (by simp [recorded, failure])⟩
  | cons l ls ih =>
    cases l with
    | enter d time => exact ih own
    | exit d outcome time =>
      cases outcome with
      | returned => exact ih own.2
      | raised other => exact .inr (ih own.2)

end Attribution

section Episodes
variable [Sub T] [LE T] [DecidableLE T] {cfg : Config T}

omit [DecidableLE T] in
theorem Enters.successesCounted (enters : Enters cfg now stats next admitted)
    (halfOpen : next.state = .halfOpen) : successesCounted next = successesCounted stats := by
  cases enters with
  | closed state => cases state.symm.trans halfOpen
  | early state _ => cases state.symm.trans halfOpen
  | probe state _ _ => simp [CircuitBreaker.successesCounted, state]
  | noSlots state _ _ => simp [CircuitBreaker.successesCounted, state]
  | slot state _ => rfl
  | full _ _ => rfl

omit [Sub T] [LE T] [DecidableLE T] [DecidableEq C] in
theorem Exits.successesCounted (exits : Exits cfg now stats outcome next)
    (halfOpen : next.state = .halfOpen) (c : C) : successesCounted next =
      successesCounted stats + (Label.exit c outcome now).succeeds.toNat := by
  cases exits with
  | success state => exact absurd halfOpen state
  | probed state _ => simp [CircuitBreaker.successesCounted, state, Label.succeeds]
  | recovered _ _ => cases halfOpen
  | ignored _ => rfl
  | relapsed _ _ => cases halfOpen
  | tripped _ _ _ => cases halfOpen
  | tolerated _ state _ => cases state.symm.trans halfOpen
  | late _ state => cases state.symm.trans halfOpen

theorem step_successesCounted {σ τ : Machine C T} (stepped : step cfg σ l = some τ)
    (halfOpen : τ.stats.state = .halfOpen) :
    successesCounted τ.stats = successesCounted σ.stats + l.succeeds.toNat := by
  cases step_takes stepped with
  | enter _ enters => exact enters.successesCounted halfOpen
  | @exit c _ _ _ _ exits => exact exits.successesCounted halfOpen c

/-- The breaker counts every success of an episode, whoever made it. -/
theorem episode_successes {σ τ : Machine C T} (episode : Episode cfg σ ls)
    (run : exec (step cfg) σ ls = some τ) :
    successesCounted τ.stats = successesCounted σ.stats + (ls.filter Label.succeeds).length := by
  induction ls generalizing σ with
  | nil =>
    cases Option.some.inj run
    rfl
  | cons l ls ih =>
    obtain ⟨υ, first, rest⟩ := exec_cons.mp run
    have here := step_successesCounted first (episode.1 υ first)
    rw [ih (episode.2 υ first) rest, here, List.filter_cons]
    cases l.succeeds
    · rfl
    · simp only [Bool.toNat_true, if_true, List.length_cons]
      omega

/-- The step that ends an episode. -/
theorem episode_end {τ υ : Machine C T} (halfOpen : τ.stats.state = .halfOpen)
    (stepped : step cfg τ l = some υ) :
    (υ.stats.state = .closed → l.succeeds = true ∧
      cfg.successThreshold ≤ τ.stats.successCount + 1) ∧
    (υ.stats.state = .opened → ∃ c exc now, l = .exit c (.raised exc) now ∧
      counted cfg exc = true) := by
  have takes := step_takes stepped
  generalize admits cfg τ l = admitted at takes
  cases takes with
  | enter _ enters =>
    have still : ∀ {state}, state ≠ .halfOpen → ∀ next : CircuitState, next = .halfOpen →
        next ≠ state := by
      rintro state other _ rfl
      exact other.symm
    cases enters with
    | closed state => cases state.symm.trans halfOpen
    | early state _ => cases state.symm.trans halfOpen
    | probe state _ _ => cases state.symm.trans halfOpen
    | noSlots state _ _ => cases state.symm.trans halfOpen
    | slot state _ =>
      exact ⟨fun closed => (nomatch state.symm.trans closed),
        fun opened => (nomatch state.symm.trans opened)⟩
    | full state _ =>
      exact ⟨fun closed => (nomatch state.symm.trans closed),
        fun opened => (nomatch state.symm.trans opened)⟩
  | exit _ exits =>
    cases exits with
    | success state => exact absurd halfOpen state
    | probed state _ =>
      exact ⟨fun closed => (nomatch state.symm.trans closed),
        fun opened => (nomatch state.symm.trans opened)⟩
    | recovered _ reached => exact ⟨fun _ => ⟨rfl, reached⟩, nofun⟩
    | ignored _ =>
      exact ⟨fun closed => (nomatch halfOpen.symm.trans closed),
        fun opened => (nomatch halfOpen.symm.trans opened)⟩
    | relapsed failure _ => exact ⟨nofun, fun _ => ⟨_, _, _, rfl, failure⟩⟩
    | tripped _ state _ => cases state.symm.trans halfOpen
    | tolerated _ state _ => cases state.symm.trans halfOpen
    | late _ state => cases state.symm.trans halfOpen

/-- An episode in which no call admitted before it is recorded is decided by its
probes. -/
theorem recovery_decided_by_probes {σ τ υ : Machine C T} (outside : σ.stats.state ≠ .halfOpen)
    (episode : Episode cfg σ ls) (run : exec (step cfg) σ ls = some τ)
    (halfOpen : τ.stats.state = .halfOpen) (ended : step cfg τ l = some υ)
    (own : OwnResults cfg (fun _ => false) (ls ++ [l])) :
    (υ.stats.state = .closed → cfg.successThreshold ≤ probeSuccesses (fun _ => false) (ls ++ [l])) ∧
    (υ.stats.state = .opened → ProbeFailed cfg (fun _ => false) (ls ++ [l])) := by
  obtain ⟨recovers, relapses⟩ := episode_end halfOpen ended
  constructor
  · intro closed
    obtain ⟨success, reached⟩ := recovers closed
    have counts := episode_successes episode run
    simp only [successesCounted, outside, halfOpen, if_true, if_false, Nat.zero_add] at counts
    have total : probeSuccesses (fun _ => false) (ls ++ [l]) = τ.stats.successCount + 1 := by
      rw [probeSuccesses_eq own, List.filter_append, List.length_append, ← counts,
        List.filter_cons_of_pos success]
      rfl
    rw [total]
    exact_mod_cast reached
  · intro opened
    obtain ⟨c, exc, now, rfl, failure⟩ := relapses opened
    exact probeFailed_snoc own failure

theorem episode_of_bool {σ : Machine C T}
    (checked : alongBool (step cfg) (fun σ l =>
      (step cfg σ l).all (·.stats.state = .halfOpen)) σ ls = true) :
    Episode cfg σ ls := by
  refine along_of_bool (fun σ l stays τ stepped => ?_) checked
  rw [stepped] at stays
  exact of_decide_eq_true stays

/-- The state that an episode starts from, its last HALF_OPEN state, and the one after
it, of a fixed run. -/
def episodeStates [Zero T] (cfg : Config T) (past ls : List (Label C T)) (l : Label C T) :
    Option (Machine C T × Machine C T × Machine C T) :=
  (exec (step cfg) (Machine.initial C T) past).bind fun σ =>
    if σ.stats.state ≠ .halfOpen ∧ alongBool (step cfg)
        (fun σ l => (step cfg σ l).all (·.stats.state = .halfOpen)) σ ls = true then
      (exec (step cfg) σ ls).bind fun τ =>
        if τ.stats.state = .halfOpen then (step cfg τ l).map fun υ => (σ, τ, υ) else none
    else none

theorem episodeStates_spec [Zero T] {σ τ υ : Machine C T}
    (states : episodeStates cfg past ls l = some (σ, τ, υ)) :
    exec (step cfg) (Machine.initial C T) past = some σ ∧ σ.stats.state ≠ .halfOpen ∧
      Episode cfg σ ls ∧ exec (step cfg) σ ls = some τ ∧ τ.stats.state = .halfOpen ∧
      step cfg τ l = some υ := by
  obtain ⟨σ, run, rest⟩ := Option.bind_eq_some_iff.mp states
  split at rest
  case isFalse => cases rest
  case isTrue opens =>
    obtain ⟨τ, inside, rest⟩ := Option.bind_eq_some_iff.mp rest
    split at rest
    case isFalse => cases rest
    case isTrue halfOpen =>
      obtain ⟨υ, ended, same⟩ := Option.map_eq_some_iff.mp rest
      cases same
      exact ⟨run, opens.1, episode_of_bool opens.2, inside, halfOpen, ended⟩

end Episodes

/-- Five overlapping calls fail. -/
def tripping : List (Label (Fin 8) Int) :=
  [0, 1, 2, 3, 4].map (Label.enter · 0) ++
    [0, 1, 2, 3, 4].map (Label.exit · (.raised timeoutError) 1)

theorem probes_recover : ∃ σ τ υ,
    episodeStates llmConfig tripping [.enter 5 32, .enter 6 33, .exit 5 .returned 34]
      (.exit 6 .returned 35) = some (σ, τ, υ) ∧
    υ.stats.state = .closed ∧
    llmConfig.successThreshold ≤ probeSuccesses (T := Int) (C := Fin 8) (fun _ => false)
      [.enter 5 32, .enter 6 33, .exit 5 .returned 34, .exit 6 .returned 35] := by
  have reached : (episodeStates llmConfig tripping [.enter 5 32, .enter 6 33, .exit 5 .returned 34]
      (.exit 6 .returned 35)).map (·.2.2.stats.state) = some .closed := by decide +kernel
  obtain ⟨⟨σ, τ, υ⟩, states, closed⟩ := Option.map_eq_some_iff.mp reached
  obtain ⟨-, outside, episode, run, halfOpen, ended⟩ := episodeStates_spec states
  have own : OwnResults llmConfig (fun _ => false)
      ([.enter 5 32, .enter 6 33, .exit 5 .returned 34] ++
          [.exit 6 .returned 35] : List (Label (Fin 8) Int)) :=
    ⟨fun _ => rfl, fun _ => rfl, trivial⟩
  exact ⟨σ, τ, υ, states, closed,
    (recovery_decided_by_probes outside episode run halfOpen ended own).1 closed⟩

/-- Two more calls are in flight when the breaker opens, and end while the probe runs. -/
def overload : List (Label (Fin 8) Int) := [5, 6].map (Label.enter · 0) ++ tripping

def probing : List (Label (Fin 8) Int) := [.enter 7 32, .exit 5 .returned 33]

/-- Late results close the breaker without a probe's success, or open it without a
probe's failure. -/
theorem late_results_decide :
    (∃ σ τ υ, episodeStates llmConfig overload probing (.exit 6 .returned 34) = some (σ, τ, υ) ∧
      υ.stats.state = .closed ∧ probeSuccesses (fun _ => false)
        (probing ++ [.exit 6 .returned 34]) = 0 ∧
      (0 : Nat) < llmConfig.successThreshold) ∧
    ∃ σ τ υ, episodeStates llmConfig overload probing (.exit 6 (.raised timeoutError) 34) =
      some (σ, τ, υ) ∧
      υ.stats.state = .opened ∧
      ¬ProbeFailed llmConfig (fun _ => false) (probing ++ [.exit 6 (.raised timeoutError) 34]) := by
  have recovers : (episodeStates llmConfig overload probing (.exit 6 .returned 34)).map
      (·.2.2.stats.state) = some .closed := by decide +kernel
  have relapses : (episodeStates llmConfig overload probing (.exit 6 (.raised timeoutError) 34)).map
      (·.2.2.stats.state) = some .opened := by decide +kernel
  obtain ⟨⟨σ, τ, υ⟩, states, closed⟩ := Option.map_eq_some_iff.mp recovers
  obtain ⟨⟨σ', τ', υ'⟩, states', opened⟩ := Option.map_eq_some_iff.mp relapses
  refine ⟨⟨σ, τ, υ, states, closed, by decide, by decide⟩, σ', τ', υ', states', opened, ?_⟩
  simp [probing, ProbeFailed]

/-! Cancellations. -/

/-- `asyncio.CancelledError`, which is no `Exception`. -/
def Exc.cancelledError : Exc := ⟨["CancelledError", "BaseException"]⟩

/-- A call that ends does so by success, an excluded exception or a cancellation. -/
def EndsQuietly (cfg : Config T) : Label C T → Prop
  | .enter .. | .exit _ .returned _ => True
  | .exit _ (.raised exc) _ => isExcluded cfg exc = true ∨ exc = .cancelledError

def Untouched (stats : Stats T) : Prop :=
  stats.state = .closed ∧ stats.failureCount = 0 ∧ stats.totalFailures = 0

/-- The label does not cancel a call, or the configuration excludes cancellations. -/
def Uncounted (cfg : Config T) (l : Label C T) : Prop :=
  isExcluded cfg .cancelledError = true ∨ ∀ c now, l ≠ .exit c (.raised .cancelledError) now

theorem counted_excluded {cfg : Config T} (excluded : isExcluded cfg exc = true) :
    counted cfg exc = false := by
  simp [counted, excluded]

theorem counted_cancelledError {cfg : Config T} :
    counted cfg .cancelledError = !isExcluded cfg .cancelledError := by
  have other : Exc.cancelledError.isInstance "CircuitBreakerOpenError" = false := by decide
  simp [counted, other]

section Cancellations
variable [Sub T] [LE T] [DecidableLE T] {cfg : Config T}

theorem step_untouched {σ τ : Machine C T} (before : Untouched σ.stats)
    (quiet : EndsQuietly cfg l ∧ Uncounted cfg l) (stepped : step cfg σ l = some τ) :
    Untouched τ.stats := by
  have closed := before.1
  have takes := step_takes stepped
  generalize admits cfg σ l = admitted at takes
  cases takes with
  | enter _ enters =>
    cases enters with
    | closed _ => exact before
    | early state _ | probe state _ _ | noSlots state _ _ | slot state _ | full state _ =>
      cases state.symm.trans closed
  | @exit c _ outcome _ _ exits =>
    have uncounted : ∀ exc, outcome = .raised exc → counted cfg exc = false := by
      rintro exc rfl
      rcases quiet.1 with excluded | rfl
      · exact counted_excluded excluded
      · rcases quiet.2 with excluded | other
        · exact counted_excluded excluded
        · exact absurd rfl (other c _)
    cases exits with
    | success _ => exact ⟨closed, rfl, before.2.2⟩
    | ignored _ => exact before
    | probed state _ | recovered state _ => cases state.symm.trans closed
    | relapsed failure _ | tripped failure _ _ | tolerated failure _ _ | late failure _ =>
      cases failure.symm.trans (uncounted _ rfl)

/-- A cancellation that is not excluded is a failure to the breaker. -/
theorem cancelled_touches {σ τ : Machine C T} (counts : isExcluded cfg .cancelledError = false)
    (stepped : step cfg σ (.exit c (.raised .cancelledError) now) = some τ) :
    ¬Untouched τ.stats := by
  rintro ⟨-, -, unfailed⟩
  have failure : counted cfg .cancelledError = true := by
    rw [counted_cancelledError, counts]
    rfl
  cases step_takes stepped with
  | exit _ exits =>
    cases exits with
    | ignored uncounted => cases failure.symm.trans uncounted
    | relapsed | tripped | tolerated | late => cases unfailed

/-- A breaker whose calls succeed, are cancelled or raise excluded exceptions stays as it
was just in case nothing is cancelled, or cancellations are excluded. -/
theorem cancellations_ignored_iff [Zero T] {labels : List (Label C T)} {σ : Machine C T}
    (quiet : ∀ l ∈ labels, EndsQuietly cfg l)
    (run : exec (step cfg) (Machine.initial C T) labels = some σ) :
    (∀ past τ, past <+: labels → exec (step cfg) (Machine.initial C T) past = some τ →
      Untouched τ.stats) ↔
    isExcluded cfg .cancelledError = true ∨
      ∀ c now, Label.exit c (.raised .cancelledError) now ∉ labels := by
  constructor
  · intro untouched
    cases excluded : isExcluded cfg .cancelledError with
    | true => exact .inl rfl
    | false =>
      refine .inr fun c now mem => ?_
      obtain ⟨past, rest, rfl⟩ := List.append_of_mem mem
      obtain ⟨τ, before, after⟩ := exec_append.mp run
      obtain ⟨υ, stepped, -⟩ := exec_cons.mp after
      have reached : exec (step cfg) (Machine.initial C T) (past ++ [_]) = some υ :=
        exec_append.mpr ⟨τ, before, exec_cons.mpr ⟨υ, stepped, rfl⟩⟩
      exact cancelled_touches excluded stepped (untouched _ υ ⟨rest, by simp⟩ reached)
  · rintro uncounted past τ ⟨rest, rfl⟩ reached
    refine exec_history_along (fun _ σ => Untouched σ.stats) step_untouched ?_ reached
      ⟨rfl, rfl, rfl⟩
    refine along_of_forall (fun l mem _ => ⟨quiet l (List.mem_append_left _ mem), ?_⟩) _
    refine uncounted.imp_right fun uncancelled c now => ?_
    rintro rfl
    exact uncancelled c now (List.mem_append_left _ mem)

end Cancellations

/-- Five callers hang up. -/
def hangups : List (Label (Fin 8) Int) :=
  [0, 1, 2, 3, 4].map (Label.enter · 0) ++
    [0, 1, 2, 3, 4].map (Label.exit · (.raised .cancelledError) 1)

/-- Cancellations are excluded, too. -/
def forbearing : Config Int :=
  { llmConfig with excludedExceptions := "CancelledError" :: llmConfig.excludedExceptions }

/-- Behind the five, a call raises an exception that is excluded in any case. -/
def quietCalls : List (Label (Fin 8) Int) :=
  hangups ++ [.enter 5 2, .exit 5 (.raised .runtimeError) 3]

theorem quiet_calls_ignored : ∃ σ,
    exec (step forbearing) (Machine.initial (Fin 8) Int) quietCalls = some σ ∧
      Untouched σ.stats := by
  have complete : (exec (step forbearing) (Machine.initial (Fin 8) Int) quietCalls).isSome =
      true := by
    decide +kernel
  have run := (Option.some_get complete).symm
  have raised : isExcluded forbearing .runtimeError = true := by decide
  have quiet : ∀ l ∈ quietCalls, EndsQuietly forbearing l := by
    simp [quietCalls, hangups, EndsQuietly, raised]
  have excluded : isExcluded forbearing .cancelledError = true := by decide
  exact ⟨_, run, (cancellations_ignored_iff quiet run).mpr
    (.inl excluded) quietCalls _ List.prefix_rfl run⟩

theorem hangups_trip :
    (∀ l ∈ hangups, EndsQuietly llmConfig l) ∧
    ∃ σ, exec (step llmConfig) (Machine.initial (Fin 8) Int) hangups = some σ ∧
      σ.stats.state = .opened ∧ ¬Untouched σ.stats := by
  have reached : (exec (step llmConfig) (Machine.initial (Fin 8) Int) hangups).map (·.stats.state) =
      some .opened := by decide +kernel
  obtain ⟨σ, run, opened⟩ := Option.map_eq_some_iff.mp reached
  refine ⟨?_, σ, run, opened, fun untouched => by cases opened.symm.trans untouched.1⟩
  simp [hangups, EndsQuietly]

end AgentOE.CircuitBreaker
