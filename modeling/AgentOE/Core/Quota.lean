import Mathlib.Data.Rat.Floor
import Mathlib.Tactic.Linarith
import Mathlib.Tactic.Positivity
import AgentOE.Agentic.LlmStream
import AgentOE.Domain.TenantKeys

/-! The daily quota of a tenant: `commit_usage` adds to two counters of the day in Redis,
and `check_quota` reads them. Redis commands succeed. -/
namespace AgentOE.Quota
open TenantKeys (Date tokensKey costKey)

structure Settings extends Session.Config where
  llmQuotaEnabled : Bool
  /-- 0 is no limit, here and below. -/
  llmDailyTokenQuotaDefault : Int
  llmDailyCostQuotaCentsDefault : Int
  /-- "fallback", "reject" or "warn". -/
  llmQuotaExceededBehavior : String

/-- The limits that a tenant's configuration may set. -/
structure TenantCfg where
  llmDailyTokenQuota : Option Int
  llmDailyCostQuotaCents : Option Int

/-- Seconds since the epoch. -/
abbrev Time := Rat

/-- `expiresAt` is absent until `EXPIRE` has set it. -/
structure Entry where
  value : Int
  expiresAt : Option Time

abbrev Redis := String → Option Entry

def Entry.live (now : Time) (entry : Entry) : Bool := entry.expiresAt.all (now < ·)

/-- An expired key is not there. -/
def lookup (now : Time) (redis : Redis) (key : String) : Option Entry :=
  (redis key).filter (Entry.live now)

def incrby (now : Time) (key : String) (amount : Int) (redis : Redis) : Redis :=
  Function.update redis key <| some <| match lookup now redis key with
    | some entry => { entry with value := entry.value + amount }
    | none => ⟨amount, none⟩

def expire (now : Time) (key : String) (seconds : Nat) (redis : Redis) : Redis :=
  Function.update redis key <|
    (lookup now redis key).map fun entry => { entry with expiresAt := some (now + seconds) }

/-- Python's `round`: the nearest integer, of two the even one. -/
def round (x : Rat) : Int :=
  if x < ⌊x⌋ + 1 / 2 ∨ x = ⌊x⌋ + 1 / 2 ∧ ⌊x⌋ % 2 = 0 then ⌊x⌋ else ⌊x⌋ + 1

def ttlSeconds : Nat := 172800

def secondsPerDay : Nat := 86400

/-- The number of a day since the epoch. -/
def dayOf (now : Time) : Int := ⌊now / secondsPerDay⌋

section Day
variable (settings : Settings) (calendar : Int → Date)

def todayTokensKey (tenantId : String) (now : Time) : String :=
  tokensKey settings.toConfig (calendar (dayOf now)) tenantId

def todayCostKey (tenantId : String) (now : Time) : String :=
  costKey settings.toConfig (calendar (dayOf now)) tenantId

def commitUsage (tenantId : String) (tokens : Int) (costCents : Rat) (now : Time) (redis : Redis) :
    Redis :=
  if tokens ≤ 0 ∧ costCents ≤ 0 then redis
  else
    let tkey := todayTokensKey settings calendar tenantId now
    let ckey := todayCostKey settings calendar tenantId now
    let counted :=
      if 0 < tokens then expire now tkey ttlSeconds (incrby now tkey tokens redis) else redis
    if 0 < costCents then expire now ckey ttlSeconds (incrby now ckey (round costCents) counted)
    else counted

structure QuotaStatus where
  tokensUsedToday : Int
  tokensLimit : Int
  costCentsUsedToday : Int
  costCentsLimit : Int
  overTokens : Bool
  overCost : Bool
  deriving DecidableEq

def QuotaStatus.over (status : QuotaStatus) : Bool := status.overTokens || status.overCost

def limitsFor (cfg : Option TenantCfg) : Int × Int :=
  ((cfg.bind (·.llmDailyTokenQuota)).getD settings.llmDailyTokenQuotaDefault,
    (cfg.bind (·.llmDailyCostQuotaCents)).getD settings.llmDailyCostQuotaCentsDefault)

def used (now : Time) (redis : Redis) (key : String) : Int :=
  ((lookup now redis key).map (·.value)).getD 0

def checkQuota (tenantId : String) (cfg : Option TenantCfg) (now : Time) (redis : Redis) :
    QuotaStatus :=
  let (tokenLimit, costLimit) := limitsFor settings cfg
  let tokensUsed := used now redis (todayTokensKey settings calendar tenantId now)
  let costUsed := used now redis (todayCostKey settings calendar tenantId now)
  ⟨tokensUsed, tokenLimit, costUsed, costLimit, 0 < tokenLimit && tokenLimit ≤ tokensUsed,
    0 < costLimit && costLimit ≤ costUsed⟩

structure QuotaExceeded where
  graceful : Bool
  scope : String
  deriving DecidableEq

def enforceQuota (tenantId : String) (cfg : Option TenantCfg) (now : Time) (redis : Redis) :
    Except QuotaExceeded QuotaStatus :=
  if !settings.llmQuotaEnabled then .ok ⟨0, 0, 0, 0, false, false⟩
  else
    let status := checkQuota settings calendar tenantId cfg now redis
    if !status.over then .ok status
    else if settings.llmQuotaExceededBehavior = "warn" then .ok status
    else .error ⟨settings.llmQuotaExceededBehavior = "fallback",
      if status.overTokens then "tokens" else "cost"⟩

/-- A call of `commit_usage`. -/
structure Usage where
  time : Time
  tokens : Int
  costCents : Rat

def commitAll (tenantId : String) (redis : Redis) (usages : List Usage) : Redis :=
  usages.foldl
    (fun redis usage =>
      commitUsage settings calendar tenantId usage.tokens usage.costCents usage.time redis)
    redis

end Day

/-! Rounding. -/

theorem round_near (x : Rat) : |(round x : Rat) - x| ≤ 1 / 2 := by
  have low := Int.floor_le x
  have high := Int.lt_floor_add_one x
  unfold round
  split
  · rename_i down
    have half : x ≤ ⌊x⌋ + 1 / 2 := by
      rcases down with less | ⟨same, -⟩
      · exact less.le
      · exact same.le
    exact abs_le.mpr ⟨by linarith, by linarith⟩
  · rename_i up
    have half : ⌊x⌋ + 1 / 2 ≤ x := not_lt.mp (not_or.mp up).1
    push_cast
    exact abs_le.mpr ⟨by linarith, by linarith⟩

theorem round_intCast (n : Int) : round n = n := by simp [round]

theorem round_eq_zero {x : Rat} (nonneg : 0 ≤ x) (small : x ≤ 1 / 2) : round x = 0 := by
  have low : ⌊x⌋ = 0 := Int.floor_eq_zero_iff.mpr ⟨nonneg, by linarith⟩
  rw [round, low, if_pos]
  rcases lt_or_eq_of_le small with less | same
  · exact .inl (by simpa using less)
  · exact .inr (by simpa using same)

theorem one_le_round {x : Rat} (large : 1 / 2 < x) : 1 ≤ round x := by
  have near := abs_le.mp (round_near x)
  have positive : (0 : Rat) < round x := by linarith
  exact_mod_cast positive

theorem round_nonneg {x : Rat} (nonneg : 0 ≤ x) : 0 ≤ round x := by
  by_cases small : x ≤ 1 / 2
  · rw [round_eq_zero nonneg small]
  · have := one_le_round (not_le.mp small)
    omega

/-! What the calls of a day cost. -/

/-- What `commit_usage` adds. -/
def countedCost (usages : List Usage) : Int :=
  ((usages.filter (0 < ·.costCents)).map fun usage => round usage.costCents).sum

def exactCost (usages : List Usage) : Rat :=
  ((usages.filter (0 < ·.costCents)).map (·.costCents)).sum

/-- The cost is no whole number of cents. -/
def Usage.fractional (usage : Usage) : Bool := usage.costCents ≠ ⌊usage.costCents⌋

variable {usage : Usage} {usages : List Usage}

theorem countedCost_cons (usage : Usage) (usages : List Usage) : countedCost (usage :: usages) =
    (if 0 < usage.costCents then round usage.costCents else 0) + countedCost usages := by
  by_cases positive : 0 < usage.costCents <;> simp [countedCost, positive]

theorem exactCost_cons (usage : Usage) (usages : List Usage) : exactCost (usage :: usages) =
    (if 0 < usage.costCents then usage.costCents else 0) + exactCost usages := by
  by_cases positive : 0 < usage.costCents <;> simp [exactCost, positive]

/-- Half a cent for each call, and nothing for a whole number of cents. -/
theorem drift_le (usages : List Usage) : |(countedCost usages : Rat) - exactCost usages| ≤
    ((usages.filter fun usage =>
      decide (0 < usage.costCents) && usage.fractional).length : Rat) / 2 := by
  induction usages with
  | nil => simp [countedCost, exactCost]
  | cons usage usages ih =>
    rw [countedCost_cons, exactCost_cons]
    by_cases positive : 0 < usage.costCents
    · by_cases whole : usage.costCents = ⌊usage.costCents⌋
      · have exact : (round usage.costCents : Rat) = usage.costCents := by
          rw [whole, round_intCast]
        simp only [positive, if_true, Int.cast_add, exact, add_sub_add_left_eq_sub]
        simpa [List.filter_cons, Usage.fractional, ← whole] using ih
      · have counts : (usage :: usages).filter
            (fun usage => decide (0 < usage.costCents) && usage.fractional) =
            usage :: usages.filter fun usage =>
                decide (0 < usage.costCents) && usage.fractional := by
          simp [positive, Usage.fractional, whole]
        rw [counts, List.length_cons, Nat.cast_add, Nat.cast_one, add_div]
        simp only [positive, if_true, Int.cast_add]
        have near := abs_le.mp (round_near usage.costCents)
        have rest := abs_le.mp ih
        exact abs_le.mpr ⟨by linarith, by linarith⟩
    · simpa [List.filter_cons, positive] using ih

/-- Calls that cost more than half a cent count for one at least. -/
theorem length_le_countedCost (usages : List Usage) :
    ((usages.filter (1 / 2 < ·.costCents)).length : Int) ≤ countedCost usages := by
  induction usages with
  | nil => simp [countedCost]
  | cons usage usages ih =>
    rw [countedCost_cons]
    by_cases large : 1 / 2 < usage.costCents
    · have positive : 0 < usage.costCents := by linarith
      have one := one_le_round large
      simp only [List.filter_cons, large, decide_true, if_true, positive, List.length_cons,
        Nat.cast_add, Nat.cast_one]
      omega
    · simp only [List.filter_cons, large, decide_false, Bool.false_eq_true, if_false]
      split
      · have := round_nonneg (le_of_lt ‹0 < usage.costCents›)
        omega
      · omega

theorem countedCost_small (small : ∀ usage ∈ usages, usage.costCents ≤ 1 / 2) :
    countedCost usages = 0 := by
  induction usages with
  | nil => rfl
  | cons usage usages ih =>
    obtain ⟨first, rest⟩ := List.forall_mem_cons.mp small
    rw [countedCost_cons, ih rest, add_zero]
    split
    · exact round_eq_zero (le_of_lt ‹0 < usage.costCents›) first
    · rfl

/-! The counter of a day. -/

/-- The counter of a day outlives it. -/
theorem dayOf_lt {first now : Time} (same : dayOf now = dayOf first) :
    now < first + ttlSeconds := by
  have high := Int.lt_floor_add_one (now / secondsPerDay)
  have low := Int.floor_le (first / secondsPerDay)
  simp only [dayOf] at same
  rw [same] at high
  have apart : now / secondsPerDay < first / secondsPerDay + 1 := by linarith
  simp only [secondsPerDay, ttlSeconds, Nat.cast_ofNat] at apart ⊢
  linarith

theorem keys_ne (cfg : Session.Config) (today : Date) (tenantId : String) :
    tokensKey cfg today tenantId ≠ costKey cfg today tenantId := by
  intro same
  have parts := congrArg TenantKeys.segments same
  simp only [tokensKey, costKey, Session.scopedKey] at parts
  rw [TenantKeys.segments_intercalate (by simp), TenantKeys.segments_intercalate (by simp)] at parts
  simp only [List.flatMap_append, List.append_assoc, List.append_cancel_left_eq, List.flatMap_cons,
    List.flatMap_nil, List.append_nil, List.append_cancel_right_eq] at parts
  exact absurd parts (by decide)

section Day
variable {settings : Settings} {calendar : Int → Date} {tenantId : String} {redis : Redis}
    {day : Int} {total : Int}

/-- The counter of the day holds a total, and is not gone before the day is over. -/
def Stands (key : String) (day : Int) (total : Int) (redis : Redis) : Prop :=
  match redis key with
  | none => total = 0
  | some entry => entry.value = total ∧ ∃ finish, entry.expiresAt = some finish ∧
      ∀ now, dayOf now = day → now < finish

theorem Stands.lookup {key : String} (stands : Stands key day total redis) {now : Time}
    (today : dayOf now = day) :
    Quota.lookup now redis key = redis key ∧ used now redis key = total := by
  unfold Stands at stands
  cases held : redis key with
  | none =>
    rw [held] at stands
    simp [Quota.lookup, used, held, stands]
  | some entry =>
    rw [held] at stands
    obtain ⟨value, finish, expires, lives⟩ := stands
    have alive : entry.live now = true := by simp [Entry.live, expires, lives now today]
    simp [Quota.lookup, used, held, Option.filter, alive, value]

theorem incrby_other {key other : String} (differs : other ≠ key) (now : Time) (amount : Int)
    (redis : Redis) :
    incrby now key amount redis other = redis other := Function.update_of_ne differs _ _

theorem expire_other {key other : String} (differs : other ≠ key) (now : Time) (seconds : Nat)
    (redis : Redis) :
    expire now key seconds redis other = redis other := Function.update_of_ne differs _ _

/-- `INCRBY` and `EXPIRE` of the counter itself. -/
theorem Stands.add {key : String} (stands : Stands key day total redis) {now : Time}
    (today : dayOf now = day) (amount : Int) : Stands key day (total + amount)
      (expire now key ttlSeconds (incrby now key amount redis)) := by
  have kept : ∀ later, dayOf later = day → later < now + ttlSeconds := fun later same =>
    dayOf_lt (same.trans today.symm)
  obtain ⟨found, -⟩ := stands.lookup today
  have added : ∃ entry, incrby now key amount redis key = some entry ∧
      entry.value = total + amount ∧ entry.live now = true := by
    cases held : redis key with
    | none =>
      have zero : total = 0 := by simpa [Stands, held] using stands
      exact ⟨⟨amount, none⟩, by simp [incrby, found, held], by simp [zero], rfl⟩
    | some entry =>
      obtain ⟨value, finish, expires, lives⟩ : entry.value = total ∧
          ∃ finish, entry.expiresAt = some finish ∧
          ∀ now, dayOf now = day → now < finish := by simpa [Stands, held] using stands
      exact ⟨{ entry with value := entry.value + amount },
        by simp [incrby, found, held], by simp [value],
        by simp [Entry.live, expires, lives now today]⟩
  obtain ⟨entry, after, value, alive⟩ := added
  have stored : expire now key ttlSeconds (incrby now key amount redis) key =
      some { entry with expiresAt := some (now + ttlSeconds) } := by
    simp [expire, Quota.lookup, after, Option.filter, alive]
  rw [Stands, stored]
  exact ⟨value, _, rfl, kept⟩

theorem Stands.congr {key : String} {other : Redis} (stands : Stands key day total redis)
    (same : other key = redis key) : Stands key day total other := by
  rwa [Stands, same]

/-- One call adds its rounded cost, and nothing when it has none. -/
theorem Stands.commitUsage
    (stands : Stands (costKey settings.toConfig (calendar day) tenantId) day total redis)
    {now : Time} (today : dayOf now = day) (tokens : Int) (costCents : Rat) :
    Stands (costKey settings.toConfig (calendar day) tenantId) day
      (total + if 0 < costCents then round costCents else 0)
      (commitUsage settings calendar tenantId tokens costCents now redis) := by
  have differs := (keys_ne settings.toConfig (calendar day) tenantId).symm
  have counted : Stands (costKey settings.toConfig (calendar day) tenantId) day total
      (if 0 < tokens then
        expire now (tokensKey settings.toConfig (calendar day) tenantId) ttlSeconds
          (incrby now (tokensKey settings.toConfig (calendar day) tenantId) tokens redis)
      else redis) := by
    split
    · exact stands.congr (by rw [expire_other differs, incrby_other differs])
    · exact stands
  simp only [Quota.commitUsage, todayTokensKey, todayCostKey, today]
  by_cases nothing : tokens ≤ 0 ∧ costCents ≤ 0
  · rw [if_pos nothing, if_neg (not_lt.mpr nothing.2), add_zero]
    exact stands
  · rw [if_neg nothing]
    by_cases positive : 0 < costCents
    · rw [if_pos positive, if_pos positive]
      exact counted.add today _
    · rw [if_neg positive, if_neg positive, add_zero]
      exact counted

theorem Stands.commitAll
    (stands : Stands (costKey settings.toConfig (calendar day) tenantId) day total redis)
    (sameDay : ∀ usage ∈ usages, dayOf usage.time = day) :
    Stands (costKey settings.toConfig (calendar day) tenantId) day (total + countedCost usages)
      (commitAll settings calendar tenantId redis usages) := by
  induction usages generalizing redis total with
  | nil => simpa [countedCost, Quota.commitAll] using stands
  | cons usage usages ih =>
    obtain ⟨first, rest⟩ := List.forall_mem_cons.mp sameDay
    rw [countedCost_cons, ← add_assoc]
    exact ih (stands.commitUsage first usage.tokens usage.costCents) rest

/-- The counter is the sum of the rounded costs: it drifts by half a cent a call at most, calls
of more than half a cent reach the limit, and calls of no more never do. -/
theorem cost_counter (settings : Settings) (calendar : Int → Date) (tenantId : String)
    (cfg : Option TenantCfg) (day : Int) (redis : Redis) (usages : List Usage)
    (unused : redis (costKey settings.toConfig (calendar day) tenantId) = none)
    (sameDay : ∀ usage ∈ usages, dayOf usage.time = day) (now : Time) (today : dayOf now = day) :
    let status := checkQuota settings calendar tenantId cfg now
      (commitAll settings calendar tenantId redis usages)
    status.costCentsUsedToday = countedCost usages ∧
    |(status.costCentsUsedToday : Rat) - exactCost usages| ≤
      ((usages.filter fun usage => decide (0 < usage.costCents) && usage.fractional).length :
        Rat) / 2 ∧ (0 < status.costCentsLimit → status.costCentsLimit ≤
      (usages.filter (1 / 2 < ·.costCents)).length →
      status.overCost = true) ∧
    ((∀ usage ∈ usages, usage.costCents ≤ 1 / 2) → status.overCost = false) := by
  have start : Stands (costKey settings.toConfig (calendar day) tenantId) day 0 redis := by
    rw [Stands, unused]
  have read : used now (commitAll settings calendar tenantId redis usages)
      (todayCostKey settings calendar tenantId now) = countedCost usages := by
    rw [todayCostKey, today, ((start.commitAll sameDay).lookup today).2, zero_add]
  simp only [checkQuota, read]
  refine ⟨trivial, drift_le usages, fun limited enough => ?_, fun small => ?_⟩
  · have reached := length_le_countedCost usages
    simp only [Bool.and_eq_true, decide_eq_true_eq]
    omega
  · rw [countedCost_small small]
    simp only [Bool.and_eq_false_iff, decide_eq_false_iff_not]
    omega

end Day

/-- No listed price makes a call of at most 8333 tokens count. -/
theorem estimate_uncounted (model : String) {tokens : Int} (nonneg : 0 ≤ tokens)
    (few : tokens ≤ 8333) : round (Agentic.LlmStream.estimateCostCents model tokens) = 0 := by
  have lower : (0 : Rat) ≤ tokens := by exact_mod_cast nonneg
  have upper : (tokens : Rat) ≤ 8333 := by exact_mod_cast few
  have price : ∃ rate : Rat, (Agentic.LlmStream.defaultPriceCentsPer1k.lookup model).getD
      (5 / 100) = rate ∧ 0 ≤ rate ∧ rate ≤ 6 / 100 := by
    simp only [Agentic.LlmStream.defaultPriceCentsPer1k, List.lookup_cons]
    split
    · exact ⟨6 / 100, rfl, by norm_num, le_refl _⟩
    · split
      · exact ⟨3 / 100, rfl, by norm_num, by norm_num⟩
      · exact ⟨5 / 100, rfl, by norm_num, by norm_num⟩
  obtain ⟨rate, same, rateNonneg, bound⟩ := price
  rw [Agentic.LlmStream.estimateCostCents, same]
  apply round_eq_zero
  · positivity
  · calc (tokens : Rat) / 1000 * rate ≤ 8333 / 1000 * (6 / 100) := by gcongr
      _ ≤ 1 / 2 := by norm_num

/-- Four calls of 0.3 cents each. -/
def smallCalls : List Usage := List.replicate 4 ⟨0, 1, 3 / 10⟩

def shipped : Settings := ⟨Session.Config.default, true, 5000000, 0, "fallback"⟩

/-- The day of every call here. -/
def newYear (_ : Int) : Date := ⟨2026, 1, 1⟩

theorem small_calls_drift : ¬|((checkQuota shipped newYear "t" none 0
      (commitAll shipped newYear "t" (fun _ => none) smallCalls)).costCentsUsedToday : Rat) -
    (smallCalls.map (·.costCents)).sum| < 1 := by
  decide +kernel

theorem small_calls_never_over : (checkQuota shipped newYear "t" (some ⟨none, some 1⟩) 0
    (commitAll shipped newYear "t" (fun _ => none) smallCalls)).overCost = false :=
  (cost_counter shipped newYear "t" (some ⟨none, some 1⟩) 0 (fun _ => none) smallCalls rfl
    (by decide +kernel) 0
    (by decide +kernel)).2.2.2 (by decide +kernel)

end AgentOE.Quota
