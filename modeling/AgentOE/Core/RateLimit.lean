import Mathlib.Algebra.Order.Ring.Rat
import Mathlib.Data.List.Induction
import Mathlib.Data.List.Pairwise
import Mathlib.Tactic.Linarith
import AgentOE.Session.Store

/-! `rate_limit_check`: a counter in Redis that the first call of a window creates and
that expires with the window. A script runs at one instant. -/
namespace AgentOE.RateLimit
open Session (Config scopedKey)

structure Settings extends Config where
  rateLimitEnabled : Bool

/-- Seconds. -/
abbrev Time := Rat

/-- A key with its expiry. -/
structure Counter where
  value : Nat
  expiresAt : Time
  deriving DecidableEq

abbrev Redis := String → Option Counter

/-- An expired key is not there. -/
def live (now : Time) (key : Option Counter) : Option Counter :=
  key.filter fun counter => now < counter.expiresAt

/-- `INCR`, and `EXPIRE` after the first one. -/
def count (window : Nat) (now : Time) (key : Option Counter) : Counter :=
  match live now key with
  | some counter => { counter with value := counter.value + 1 }
  | none => ⟨1, now + window⟩

/-- `_RATE_LIMIT_LUA`, on its key. -/
def rateLimitLua (limit : Int) (window : Nat) (now : Time) (key : Option Counter) : Nat × Counter :=
  let current := count window now key
  (if (current.value : Int) > limit then 0 else 1, current)

def bucketKey (cfg : Config) (bucket : String) : String := scopedKey cfg "rl" [bucket] none

def rateLimitCheck (settings : Settings) (bucket : String) (limit : Int) (window : Nat) (now : Time)
    (redis : Redis) : Bool × Redis :=
  if !settings.rateLimitEnabled || limit ≤ 0 then (true, redis)
  else
    let key := bucketKey settings.toConfig bucket
    let (result, counter) := rateLimitLua limit window now (redis key)
    (result == 1, Function.update redis key (some counter))

/-- A call, and the end of the window that it was counted in. -/
structure Call where
  time : Time
  allowed : Bool
  windowEnd : Option Time
  deriving DecidableEq

section Calls
variable (settings : Settings) (bucket : String) (limit : Int) (window : Nat)

/-- Calls at the given times. -/
def calls (redis : Redis) : List Time → List Call
  | [] => []
  | now :: times =>
    let (allowed, after) := rateLimitCheck settings bucket limit window now redis
    ⟨now, allowed, (after (bucketKey settings.toConfig bucket)).map (·.expiresAt)⟩ ::
      calls after times

def redisAfter (redis : Redis) (times : List Time) : Redis :=
  times.foldl (fun redis now => (rateLimitCheck settings bucket limit window now redis).2) redis

end Calls

/-! The bucket's key alone, with the limiter on. -/

def counted (limit : Int) (window : Nat) : Option Counter → List Time → List Call
  | _, [] => []
  | key, now :: times =>
    let counter := count window now key
    ⟨now, counter.value ≤ limit, some counter.expiresAt⟩ ::
      counted limit window (some counter) times

def counterAfter (window : Nat) (key : Option Counter) (times : List Time) : Option Counter :=
  times.foldl (fun key now => some (count window now key)) key

variable {settings : Settings} {bucket : String} {limit : Int} {window : Nat} {redis : Redis}
  {key : Option Counter} {times : List Time} {now : Time}

section On
variable (on : settings.rateLimitEnabled = true) (positive : 1 ≤ limit)
include on positive

theorem rateLimitCheck_on (now : Time) (redis : Redis) :
    rateLimitCheck settings bucket limit window now redis =
      (decide ((count window now (redis (bucketKey settings.toConfig bucket))).value ≤ limit),
        Function.update redis (bucketKey settings.toConfig bucket)
          (some (count window now (redis (bucketKey settings.toConfig bucket))))) := by
  have asked : ¬limit ≤ 0 := by omega
  simp only [rateLimitCheck, on, asked, rateLimitLua, Bool.not_true, decide_false, Bool.or_self,
    Bool.false_eq_true, if_false, gt_iff_lt, Prod.mk.injEq, and_true]
  split <;> simp_all

theorem calls_eq (redis : Redis) (times : List Time) :
    calls settings bucket limit window redis times =
    counted limit window (redis (bucketKey settings.toConfig bucket)) times := by
  induction times generalizing redis with
  | nil => rfl
  | cons now times ih =>
    simp only [calls, counted, rateLimitCheck_on on positive, ih, Function.update_self,
      Option.map_some]

theorem redisAfter_eq (redis : Redis) (times : List Time) :
    redisAfter settings bucket limit window redis times (bucketKey settings.toConfig bucket) =
      counterAfter window (redis (bucketKey settings.toConfig bucket)) times := by
  induction times generalizing redis with
  | nil => rfl
  | cons now times ih =>
    rw [redisAfter, List.foldl_cons, ← redisAfter, ih, rateLimitCheck_on on positive]
    simp only [Function.update_self]
    rfl

end On

/-- A call is counted in the window that is open, or opens one when the last has ended. -/
theorem count_cases (window : Nat) (now : Time) (key : Option Counter) :
    (∃ counter, key = some counter ∧ now < counter.expiresAt ∧
      count window now key = ⟨counter.value + 1, counter.expiresAt⟩) ∨
    (∀ counter, key = some counter → counter.expiresAt ≤ now) ∧
      count window now key = ⟨1, now + window⟩ := by
  cases key with
  | none => exact .inr ⟨by simp, rfl⟩
  | some counter =>
    by_cases stays : now < counter.expiresAt
    · exact .inl ⟨counter, rfl, stays, by simp [count, live, Option.filter, stays]⟩
    · refine .inr ⟨?_, by simp [count, live, Option.filter, stays]⟩
      rintro _ ⟨⟩
      exact not_lt.mp stays

/-- The end of a later window is that of an earlier one, or at least a window after it. -/
def Apart (window : Nat) (first later : Time) : Prop := later = first ∨ first + window ≤ later

theorem apart_trans {first second third : Time} (left : Apart window first second)
    (right : Apart window second third) : Apart window first third := by
  have width : (0 : Time) ≤ window := Nat.cast_nonneg window
  rcases left with rfl | left
  · exact right
  · rcases right with rfl | right
    · exact .inr left
    · exact .inr (by linarith)

/-- The windows of two calls are apart. -/
def Call.Apart (window : Nat) (call later : Call) : Prop :=
  ∃ first, call.windowEnd = some first ∧ ∃ second, later.windowEnd = some second ∧
    RateLimit.Apart window first second

theorem count_apart {counter : Counter} (now : Time) :
    Apart window counter.expiresAt (count window now (some counter)).expiresAt := by
  rcases count_cases window now (some counter) with ⟨_, ⟨⟩, -, counts⟩ | ⟨ended, counts⟩
  · rw [counts]
    exact .inl rfl
  · rw [counts]
    exact .inr (by linarith [ended counter rfl])

theorem counted_apart {counter : Counter} {call : Call}
    (mem : call ∈ counted limit window (some counter) times) :
    ∃ finish, call.windowEnd = some finish ∧ Apart window counter.expiresAt finish := by
  induction times generalizing counter with
  | nil => cases mem
  | cons now times ih =>
    rcases List.mem_cons.mp mem with rfl | mem
    · exact ⟨_, rfl, count_apart now⟩
    · obtain ⟨finish, same, apart⟩ := ih mem
      exact ⟨finish, same, apart_trans (count_apart now) apart⟩

/-- All windows of the calls are apart, the ends of earlier ones first. -/
theorem counted_pairwise (limit : Int) (window : Nat) (key : Option Counter) (times : List Time) :
    (counted limit window key times).Pairwise (Call.Apart window) := by
  induction times generalizing key with
  | nil => exact .nil
  | cons now times ih =>
    refine List.pairwise_cons.mpr ⟨fun later mem => ?_, ih _⟩
    obtain ⟨second, same, apart⟩ := counted_apart mem
    exact ⟨_, rfl, second, same, apart⟩

/-- A call falls into its window, which has not been open for longer than it lasts. -/
theorem counted_inside (wide : 1 ≤ window) (sorted : times.Pairwise (· ≤ ·))
    (begun : ∀ counter, key = some counter → ∀ now ∈ times, counter.expiresAt ≤ now + window)
    {call : Call} (mem : call ∈ counted limit window key times) :
    ∃ finish, call.windowEnd = some finish ∧ call.time < finish ∧ finish ≤ call.time + window := by
  have width : (1 : Time) ≤ window := by exact_mod_cast wide
  induction times generalizing key with
  | nil => cases mem
  | cons now times ih =>
    obtain ⟨later, sorted⟩ := List.pairwise_cons.mp sorted
    have here : now < (count window now key).expiresAt ∧
        (count window now key).expiresAt ≤ now + window := by
      rcases count_cases window now key with ⟨counter, same, stays, counts⟩ | ⟨-, counts⟩
      · rw [counts]
        exact ⟨stays, begun counter same now List.mem_cons_self⟩
      · rw [counts]
        exact ⟨by linarith, le_refl _⟩
    rcases List.mem_cons.mp mem with rfl | mem
    · exact ⟨_, rfl, here⟩
    · refine ih sorted ?_ mem
      rintro _ ⟨⟩ next inside
      linarith [later next inside]

/-- The calls that were allowed in the window with the given end. -/
def allowedIn (finish : Time) (calls : List Call) : List Call :=
  calls.filter fun call => call.allowed && call.windowEnd = some finish

/-- What is left of the limit in a window: all of it, unless the window is the open one. -/
def remaining (limit : Int) (finish : Time) : Option Counter → Int
  | some counter => if counter.expiresAt = finish then max 0 (limit - counter.value) else limit
  | none => limit

theorem remaining_nonneg (positive : 1 ≤ limit) (finish : Time) (key : Option Counter) :
    0 ≤ remaining limit finish key := by
  unfold remaining
  split
  · split <;> omega
  · omega

/-- No window ends at the same time as one that has ended before. -/
theorem allowedIn_ended {counter : Counter} {finish : Time} (before : finish < counter.expiresAt) :
    allowedIn finish
      (counted limit window (some counter) times) = [] := by
  have width : (0 : Time) ≤ window := Nat.cast_nonneg window
  rw [allowedIn, List.filter_eq_nil_iff]
  intro call mem accepted
  obtain ⟨other, same, apart⟩ := counted_apart mem
  simp only [same, Option.some.injEq, Bool.and_eq_true, decide_eq_true_eq] at accepted
  rcases apart with apart | apart <;> linarith [accepted.2]

theorem length_allowedIn (limit : Int) (window : Nat) (finish : Time) (key : Option Counter)
    (now : Time) (times : List Time) :
    (allowedIn finish (counted limit window key (now :: times))).length =
      (if ((count window now key).value : Int) ≤ limit ∧
        (count window now key).expiresAt = finish then 1 else 0) +
        (allowedIn finish (counted limit window (some (count window now key)) times)).length := by
  simp only [allowedIn, counted, List.filter_cons, Bool.and_eq_true, decide_eq_true_eq,
    Option.some.injEq]
  split
  · rw [List.length_cons, Nat.add_comm]
  · rw [Nat.zero_add]

/-- A window that opens has all of the limit left. -/
theorem remaining_opens (limit : Int) (wide : 1 ≤ window)
    (ended : ∀ counter, key = some counter → counter.expiresAt ≤ now) :
    remaining limit (now + window) key = limit := by
  have width : (1 : Time) ≤ window := by exact_mod_cast wide
  cases key with
  | none => rfl
  | some counter =>
    have older : counter.expiresAt ≠ now + window := by
      intro same
      linarith [ended counter rfl]
    simp only [remaining, older, if_false]

theorem counted_le_remaining (positive : 1 ≤ limit) (wide : 1 ≤ window) (finish : Time)
    (key : Option Counter) (times : List Time) :
    ((allowedIn finish (counted limit window key times)).length : Int) ≤
      remaining limit finish key := by
  have width : (1 : Time) ≤ window := by exact_mod_cast wide
  induction times generalizing key with
  | nil => exact remaining_nonneg positive finish key
  | cons now times ih =>
    have rest := ih (some (count window now key))
    rw [length_allowedIn]
    rcases count_cases window now key with ⟨counter, rfl, stays, counts⟩ | ⟨ended, counts⟩
    · rw [counts] at rest ⊢
      simp only [remaining] at rest ⊢
      by_cases same : counter.expiresAt = finish
      · simp only [same, if_true, and_true] at rest ⊢
        split <;> omega
      · simp only [same, if_false, and_false] at rest ⊢
        omega
    · by_cases opens : now + window = finish
      · have untouched : remaining limit finish key = limit :=
          opens ▸ remaining_opens limit wide ended
        rw [counts] at rest ⊢
        simp only [remaining, opens, if_true] at rest
        rw [untouched]
        simp only [opens, and_true]
        split <;> omega
      · rw [counts] at rest ⊢
        simp only [opens, and_false, if_false, Nat.zero_add]
        cases key with
        | none => simpa only [remaining, opens, if_false] using rest
        | some counter =>
          by_cases same : counter.expiresAt = finish
          · have passed : finish < now + window := by linarith [ended counter rfl]
            rw [allowedIn_ended passed]
            exact remaining_nonneg positive finish _
          · simpa only [remaining, opens, same, if_false] using rest

/-- Two windows are the same or do not meet, in whichever order they are. -/
theorem separate {calls : List Call} (apart : calls.Pairwise (Call.Apart window))
    {call later : Call} (memCall : call ∈ calls) (memLater : later ∈ calls) {first second : Time}
    (ends : call.windowEnd = some first) (endsLater : later.windowEnd = some second) :
    first = second ∨ first + window ≤ second ∨ second + window ≤ first := by
  let Separate (call later : Call) : Prop := ∀ first second, call.windowEnd = some first →
    later.windowEnd = some second → first = second ∨ first + window ≤ second ∨
      second + window ≤ first
  have symmetric : Std.Symm Separate := by
    constructor
    intro call later separate second first endsLater ends
    rcases separate first second ends endsLater with same | before | after
    · exact .inl same.symm
    · exact .inr (.inr before)
    · exact .inr (.inl after)
  have reflexive : ∀ call ∈ calls, Separate call call := by
    intro call _ first second ends again
    exact .inl (Option.some.inj (ends.symm.trans again))
  have pairs : calls.Pairwise Separate := by
    refine apart.imp ?_
    rintro call later ⟨first, ends, second, endsLater, apart⟩ x y hx hy
    cases Option.some.inj (ends.symm.trans hx)
    cases Option.some.inj (endsLater.symm.trans hy)
    rcases apart with rfl | apart
    · exact .inl rfl
    · exact .inr (.inl apart)
  exact pairs.forall_of_forall reflexive memCall memLater first second ends endsLater

/-- Beyond the window of the first call there is room for one more. -/
theorem beyond_first {call : Call} {rest : List Call} {first start : Time}
    (apart : ∀ later ∈ rest, call.Apart window later) (ends : call.windowEnd = some first)
    (after : start < first) {later : Call} (mem : later ∈ call :: rest)
    (differs : later.windowEnd ≠ some first) :
    ∃ finish, later.windowEnd = some finish ∧ start + window < finish := by
  have inRest : later ∈ rest := by
    rcases List.mem_cons.mp mem with rfl | mem
    · exact absurd ends differs
    · exact mem
  obtain ⟨_, same, finish, endsLater, apart⟩ := apart later inRest
  cases Option.some.inj (ends.symm.trans same)
  rcases apart with rfl | apart
  · exact absurd endsLater differs
  · exact ⟨finish, endsLater, by linarith⟩

/-- An interval as long as a window meets two windows at most. -/
theorem length_le_two_windows {calls : List Call} (start : Time) (positive : 1 ≤ limit)
    (inside : ∀ call ∈ calls, ∃ finish, call.windowEnd = some finish ∧ start < finish ∧
      finish < start + 2 * window)
    (apart : calls.Pairwise (Call.Apart window))
    (few : ∀ finish, ((calls.filter (·.windowEnd = some finish)).length : Int) ≤ limit) :
    (calls.length : Int) ≤ 2 * limit := by
  cases calls with
  | nil =>
    simp only [List.length_nil]
    omega
  | cons call rest =>
    obtain ⟨first, ends, after, -⟩ := inside call List.mem_cons_self
    have fromFirst := (List.pairwise_cons.mp apart).1
    have halves := List.length_eq_length_filter_add (l := call :: rest) (·.windowEnd = some first)
    have firstFew := few first
    by_cases alone : ∀ other ∈ call :: rest, other.windowEnd = some first
    · rw [List.filter_eq_self.mpr (by simpa using alone)] at firstFew
      omega
    · push Not at alone
      obtain ⟨other, mem, differs⟩ := alone
      have beyond : ∀ later ∈ call :: rest, later.windowEnd ≠ some first →
          ∃ finish, later.windowEnd = some finish ∧ start + window < finish ∧
              finish < start + 2 * window := by
        intro later mem differs
        obtain ⟨finish, endsLater, low⟩ := beyond_first fromFirst ends after mem differs
        obtain ⟨_, same, -, high⟩ := inside later mem
        cases Option.some.inj (endsLater.symm.trans same)
        exact ⟨finish, endsLater, low, high⟩
      obtain ⟨second, endsOther, lowOther, highOther⟩ := beyond other mem differs
      have others : ∀ later ∈ call :: rest, later.windowEnd ≠ some first →
          later.windowEnd = some second := by
        intro later memLater differsLater
        obtain ⟨finish, endsLater, low, high⟩ := beyond later memLater differsLater
        rcases separate apart mem memLater endsOther endsLater with rfl | before | before
        · exact endsLater
        · linarith
        · linarith
      have secondFew : (((call :: rest).filter fun later =>
          !decide (later.windowEnd = some first)).length : Int) ≤
          limit := by
        refine le_trans ?_ (few second)
        rw [← List.countP_eq_length_filter, ← List.countP_eq_length_filter]
        exact_mod_cast List.countP_mono_left fun later mem differs => by
          simpa using others later mem (by simpa using differs)
      omega

/-- The open window of a run has begun with one of its calls. -/
theorem counterAfter_began (window : Nat) (times : List Time) {counter : Counter}
    (stands : counterAfter window none times = some counter) :
    ∃ now ∈ times, counter.expiresAt = now + window := by
  induction times using List.reverseRecOn generalizing counter with
  | nil => cases stands
  | append_singleton times now ih =>
    have last : count window now (counterAfter window none times) = counter := by
      rw [counterAfter, List.foldl_append] at stands
      exact Option.some.inj stands
    rw [← last]
    rcases count_cases window now (counterAfter window none times)
      with ⟨counter, same, -, counts⟩ | ⟨-, counts⟩
    · obtain ⟨first, mem, began⟩ := ih same
      exact ⟨first, List.mem_append_left _ mem, by rw [counts]; exact began⟩
    · exact ⟨now, List.mem_append_right _ (List.mem_singleton.mpr rfl), by rw [counts]⟩

/-- With the limiter on: twice the limit in any interval as long as a window, the limit in
each window, and a call after a window without calls is allowed. -/
theorem rate_limit_bound (settings : Settings) (bucket : String) (limit : Int) (window : Nat)
    (redis : Redis) (times : List Time) (on : settings.rateLimitEnabled = true)
    (positive : 1 ≤ limit) (wide : 1 ≤ window)
    (unused : redis (bucketKey settings.toConfig bucket) = none) (sorted : times.Pairwise (· ≤ ·)) :
    (∀ start : Time, (((calls settings bucket limit window redis times).filter fun call =>
      call.allowed && decide (start ≤ call.time) && decide
        (call.time < start + window)).length : Int) ≤ 2 * limit) ∧
    (∀ finish, ((allowedIn finish (calls settings bucket limit window redis times)).length : Int) ≤
      limit) ∧ ∀ now, (∀ earlier ∈ times, earlier + window ≤ now) →
      (rateLimitCheck settings bucket limit window now
        (redisAfter settings bucket limit window redis times)).1 = true := by
  rw [calls_eq on positive, unused]
  have few : ∀ finish, ((allowedIn finish (counted limit window none times)).length : Int) ≤
      limit := fun finish =>
    counted_le_remaining positive wide finish none times
  refine ⟨fun start => ?_, few, fun now quiet => ?_⟩
  · refine length_le_two_windows start positive ?_ ((counted_pairwise ..).filter _) fun finish => ?_
    · intro call mem
      obtain ⟨inside, accepted⟩ := List.mem_filter.mp mem
      simp only [Bool.and_eq_true, decide_eq_true_eq] at accepted
      obtain ⟨finish, ends, after, bound⟩ := counted_inside wide sorted (by simp) inside
      exact ⟨finish, ends, by linarith, by linarith⟩
    · refine le_trans ?_ (few finish)
      rw [allowedIn, List.filter_filter]
      exact_mod_cast (List.monotone_filter_right _ fun call accepted => by simp_all).length_le
  · rw [rateLimitCheck_on on positive, redisAfter_eq on positive, unused]
    rcases count_cases window now (counterAfter window none times)
      with ⟨counter, same, stays, -⟩ | ⟨-, counts⟩
    · obtain ⟨first, mem, began⟩ := counterAfter_began window times same
      linarith [quiet first mem]
    · simpa [counts] using positive

/-- A bucket of one call a minute: the call at its expiry is in a new window. -/
theorem busy_bucket_bounded :
    (calls ⟨Config.default, true⟩ "ip:10.0.0.1" 1 60 (fun _ => none) [0, 59, 60, 61]).map
      (·.allowed) = [true, false, true, false] ∧
    ∀ start : Time, (((calls ⟨Config.default, true⟩ "ip:10.0.0.1" 1 60
      (fun _ => none) [0, 59, 60, 61]).filter
      fun call =>
        call.allowed && decide (start ≤ call.time) && decide
          (call.time < start + (60 : Nat))).length : Int) ≤
      2 * 1 :=
  ⟨by decide +kernel, (rate_limit_bound ⟨Config.default, true⟩ "ip:10.0.0.1" 1 60 (fun _ => none) [0, 59, 60, 61]
    rfl (by decide) (by decide) rfl (by decide +kernel)).1⟩

end AgentOE.RateLimit
