import AgentOE.Transition
import AgentOE.Session.Store

/-! The kill switch: documents in MongoDB and, per scope and target, one cached
boolean in Redis. Calls interleave between their MongoDB and Redis operations,
each of which may fail. -/
namespace AgentOE.KillSwitch
open Transition Collection
open Session (Config scopedKey)

inductive KillSwitchScope where
  | tenant
  | feature
  | scenario
  deriving DecidableEq, Repr

def KillSwitchScope.value : KillSwitchScope → String
  | .tenant => "tenant"
  | .feature => "feature"
  | .scenario => "scenario"

/-- `logLevel` is what `LOG_LEVEL` sets the root logger of the standard library to. -/
structure Settings extends Config where
  logLevel : Nat

def warning : Nat := 30

def Settings.isEnabledFor (cfg : Settings) (level : Nat) : Bool := cfg.logLevel ≤ level

/-- `LOG_LEVEL` is `INFO`. -/
def Settings.default : Settings := ⟨Config.default, 20⟩

/-- `LOG_LEVEL` is `ERROR`. -/
def Settings.errorsOnly : Settings := ⟨Config.default, 40⟩

/-- What a switch is pulled for. -/
structure Target where
  scope : KillSwitchScope
  targetId : String
  deriving DecidableEq, Repr

structure SwitchDoc where
  switchId : String
  target : Target
  reason : String
  activatedBy : String
  activatedAt : Nat
  active : Bool
  deactivatedAt : Option Nat
  deriving DecidableEq, Repr

def cacheKey (cfg : Settings) (k : Target) : String :=
  scopedKey cfg.toConfig "kill_switch" [k.scope.value, k.targetId] none

def activeFor (k : Target) (doc : SwitchDoc) : Bool := doc.target == k && doc.active

def byActiveId (switchId : String) (doc : SwitchDoc) : Bool :=
  doc.switchId == switchId && doc.active

/-- A call between two of its store operations. `activated` has returned its
document, and `raised` has ended with an exception. -/
inductive Call where
  | idle
  | checking (k : Target)
  | missed (k : Target)
  | found (k : Target) (active : Bool)
  | answered (k : Target) (active : Bool)
  | activating (doc : SwitchDoc)
  | inserted (k : Target)
  | activated (k : Target)
  | deactivating (switchId : String) (now : Nat)
  | deactivated (k : Target)
  | finished
  | raised
  deriving DecidableEq, Repr

structure State (C : Type) where
  docs : List SwitchDoc
  cache : String → Option String
  call : C → Call

def State.initial (C : Type) : State C := ⟨[], fun _ => none, fun _ => .idle⟩

inductive Action (C : Type) where
  | isActive (c : C) (k : Target)
  | activate (c : C) (switchId : String) (k : Target) (reason activatedBy : String) (now : Nat)
  | deactivate (c : C) (switchId : String) (now : Nat)
  /-- The call's next operation on a store. -/
  | next (c : C)
  /-- The operation fails, `performed` all the same or not. -/
  | fail (c : C) (performed : Bool)
  | expire (key : String)

variable {C : Type} [DecidableEq C] (cfg : Settings)

def State.moveTo (σ : State C) (c : C) (call : Call) : State C :=
  { σ with call := Function.update σ.call c call }

/-- `cache_kill_switch`: `"1"` or `"0"`, whatever is cached. -/
def State.cacheKillSwitch (σ : State C) (k : Target) (active : Bool) : State C :=
  { σ with cache := Function.update σ.cache (cacheKey cfg k) (some (if active then "1" else "0")) }

/-- What follows the `SETEX` of `activate`: the standard library's logger is given
`switch_id`, which `Logger._log` does not take. -/
def logActivated (k : Target) : Call :=
  if cfg.isEnabledFor warning then .raised else .activated k

def State.takeBack (σ : State C) (switchId : String) (now : Nat) : State C :=
  let off := fun doc : SwitchDoc => { doc with active := false, deactivatedAt := some now }
  { σ with docs := updateOne (byActiveId switchId) off σ.docs }

def advance (σ : State C) (c : C) : Call → Option (State C)
  | .checking k => match σ.cache (cacheKey cfg k) with
    | some val => some (σ.moveTo c (.answered k (val == "1")))
    | none => some (σ.moveTo c (.missed k))
  | .missed k => some (σ.moveTo c (.found k (findOne (activeFor k) σ.docs).isSome))
  | .found k active => some ((σ.cacheKillSwitch cfg k active).moveTo c (.answered k active))
  | .activating doc =>
    some ({ σ with docs := insertOne doc σ.docs }.moveTo c (.inserted doc.target))
  | .inserted k => some ((σ.cacheKillSwitch cfg k true).moveTo c (logActivated cfg k))
  | .deactivating switchId now => match findOne (byActiveId switchId) σ.docs with
    | some doc => some ((σ.takeBack switchId now).moveTo c (.deactivated doc.target))
    | none => some (σ.moveTo c .finished)
  -- the other active documents of the target are not consulted
  | .deactivated k => some ((σ.cacheKillSwitch cfg k false).moveTo c .finished)
  | .idle | .answered .. | .activated _ | .finished | .raised => none

/-- The same operations where the store fails: `get_kill_switch_cached` and
`cache_kill_switch` catch the `RedisError`, and nothing catches what MongoDB raises. -/
def operationFails (σ : State C) (c : C) (performed : Bool) : Call → Option (State C)
  | .checking k => some (σ.moveTo c (.missed k))
  | .missed _ => some (σ.moveTo c .raised)
  | .found k active =>
    some ((if performed then σ.cacheKillSwitch cfg k active else σ).moveTo c (.answered k active))
  | .activating doc =>
    some ((if performed then { σ with docs := insertOne doc σ.docs } else σ).moveTo c .raised)
  | .inserted k =>
    some ((if performed then σ.cacheKillSwitch cfg k true else σ).moveTo c (logActivated cfg k))
  | .deactivating switchId now =>
    some ((if performed then σ.takeBack switchId now else σ).moveTo c .raised)
  | .deactivated k =>
    some ((if performed then σ.cacheKillSwitch cfg k false else σ).moveTo c .finished)
  | .idle | .answered .. | .activated _ | .finished | .raised => none

def step (σ : State C) : Action C → Option (State C)
  | .isActive c k => if σ.call c = .idle then some (σ.moveTo c (.checking k)) else none
  | .activate c switchId k reason activatedBy now =>
    if σ.call c = .idle then
      some (σ.moveTo c (.activating ⟨switchId, k, reason, activatedBy, now, true, none⟩))
    else none
  | .deactivate c switchId now =>
    if σ.call c = .idle then some (σ.moveTo c (.deactivating switchId now)) else none
  | .next c => advance cfg σ c (σ.call c)
  | .fail c performed => operationFails cfg σ c performed (σ.call c)
  | .expire key => some { σ with cache := Function.update σ.cache key none }

/-- The scope's own words tell the keys apart: they hold no colon. -/
theorem cacheKey_injective (cfg : Settings) : Function.Injective (cacheKey cfg) := by
  rintro ⟨scope, target⟩ ⟨scope', target'⟩ same
  have whole :
      cfg.redisKeyNamespace ++ ":" ++ "kill_switch" ++ ":" ++ scope.value ++ ":" ++ target =
      cfg.redisKeyNamespace ++ ":" ++ "kill_switch" ++ ":" ++ scope'.value ++ ":" ++ target' := same
  simp only [String.append_assoc, String.append_right_inj] at whole
  have scopes : scope = scope' := by
    have letter := congrArg (fun text : String => text.toList.head?) whole
    cases scope <;> cases scope' <;> first | rfl | simp [KillSwitchScope.value] at letter
  subst scopes
  have targets : target = target' := by simpa [String.append_right_inj] using whole
  rw [targets]

/-- The operations that end in a `SETEX`, with what they cache. -/
inductive Writes : Call → Target → Bool → Call → Prop where
  | found : Writes (.found k active) k active (.answered k active)
  | inserted : Writes (.inserted k) k true (logActivated cfg k)
  | deactivated : Writes (.deactivated k) k false .finished

/-- Every step, with what it reads and writes. -/
inductive Takes (σ : State C) : Action C → State C → Prop where
  | start : σ.call c = .idle → Takes σ l (σ.moveTo c call)
  | hit : σ.call c = .checking k → σ.cache (cacheKey cfg k) = some val →
      Takes σ l (σ.moveTo c (.answered k (val == "1")))
  | miss : σ.call c = .checking k → Takes σ l (σ.moveTo c (.missed k))
  | read : σ.call c = .missed k →
      Takes σ l (σ.moveTo c (.found k (findOne (activeFor k) σ.docs).isSome))
  | cache : l = .next c ∨ l = .fail c true → Writes cfg (σ.call c) k active call →
      Takes σ l ((σ.cacheKillSwitch cfg k active).moveTo c call)
  | uncached : Writes cfg (σ.call c) k active call → Takes σ l (σ.moveTo c call)
  | insert : σ.call c = .activating doc →
      Takes σ l ({ σ with docs := insertOne doc σ.docs }.moveTo c call)
  | deactivate : σ.call c = .deactivating switchId now →
      Takes σ l ({ σ with docs := docs }.moveTo c call)
  | raise : Takes σ l (σ.moveTo c .raised)
  | expire : Takes σ (.expire key) { σ with cache := Function.update σ.cache key none }

variable {cfg}

theorem advance_takes {σ τ : State C} {c : C} (stepped : advance cfg σ c (σ.call c) = some τ) :
    Takes cfg σ (.next c) τ := by
  cases call : σ.call c <;> rw [call] at stepped
  case idle | answered | activated | finished | raised => cases stepped
  case checking k =>
    simp only [advance] at stepped
    split at stepped <;> cases stepped
    · rename_i val cached
      exact .hit call cached
    · exact .miss call
  case missed k =>
    cases stepped
    exact .read call
  case found k active =>
    cases stepped
    exact .cache (.inl rfl) (call ▸ .found)
  case activating doc =>
    cases stepped
    exact .insert call
  case inserted k =>
    cases stepped
    exact .cache (.inl rfl) (call ▸ .inserted)
  case deactivating switchId now =>
    simp only [advance] at stepped
    split at stepped <;> cases stepped
    · exact .deactivate call
    · exact .deactivate call
  case deactivated k =>
    cases stepped
    exact .cache (.inl rfl) (call ▸ .deactivated)

/-- A `SETEX` that fails, performed or not. -/
theorem setex_fails_takes {σ : State C} {c : C} (writes : Writes cfg (σ.call c) k active call)
    (performed : Bool) : Takes cfg σ (.fail c performed)
      ((if performed then σ.cacheKillSwitch cfg k active else σ).moveTo c call) := by
  cases performed with
  | true => exact .cache (.inr rfl) writes
  | false => exact .uncached writes

theorem operationFails_takes {σ τ : State C} {c : C} {performed : Bool}
    (stepped : operationFails cfg σ c performed (σ.call c) = some τ) :
    Takes cfg σ (.fail c performed) τ := by
  cases call : σ.call c <;> rw [call] at stepped <;> cases stepped
  case checking k => exact .miss call
  case missed k => exact .raise
  case found k active => exact setex_fails_takes (call ▸ .found) performed
  case activating doc =>
    cases performed with
    | true => exact .insert call
    | false => exact .raise
  case inserted k => exact setex_fails_takes (call ▸ .inserted) performed
  case deactivating switchId now =>
    cases performed with
    | true => exact .deactivate call
    | false => exact .raise
  case deactivated k => exact setex_fails_takes (call ▸ .deactivated) performed

theorem step_takes {σ τ : State C} (stepped : step cfg σ l = some τ) : Takes cfg σ l τ := by
  cases l with
  | isActive c k =>
    simp only [step, Option.ite_none_right_eq_some, Option.some.injEq] at stepped
    obtain ⟨idle, rfl⟩ := stepped
    exact .start idle
  | activate c switchId k reason activatedBy now =>
    simp only [step, Option.ite_none_right_eq_some, Option.some.injEq] at stepped
    obtain ⟨idle, rfl⟩ := stepped
    exact .start idle
  | deactivate c switchId now =>
    simp only [step, Option.ite_none_right_eq_some, Option.some.injEq] at stepped
    obtain ⟨idle, rfl⟩ := stepped
    exact .start idle
  | next c => exact advance_takes stepped
  | fail c performed => exact operationFails_takes stepped
  | expire key =>
    cases stepped
    exact .expire

/-- A document of the target is active in MongoDB. -/
def Active (σ : State C) (k : Target) : Prop := ∃ doc ∈ σ.docs, activeFor k doc = true

/-- The step leaves another entry than `"1"` for the target: it caches `"0"`, or is
the `SETEX` of an activation that is not performed over such an entry. -/
def hides (cfg : Settings) (σ : State C) (k : Target) : Action C → Bool
  | .next c | .fail c true => σ.call c == .found k false || σ.call c == .deactivated k
  | .fail c false => σ.call c == .inserted k && σ.cache (cacheKey cfg k) ∉ [none, some "1"]
  | _ => false

/-- The cache does not answer for the target that it is inactive. -/
def Unmasked (cfg : Settings) (k : Target) (σ : State C) : Prop :=
  ∀ val, σ.cache (cacheKey cfg k) = some val → val = "1"

theorem step_unmasked {σ τ : State C} (unmasked : Unmasked cfg k σ)
    (unhidden : hides cfg σ k l = false) (stepped : step cfg σ l = some τ) : Unmasked cfg k τ := by
  intro val cached
  cases step_takes stepped with
  | start | hit | miss | read | uncached | insert | deactivate | raise =>
    exact unmasked val cached
  | @cache _ c k' active call performs writes =>
    change Function.update σ.cache (cacheKey cfg k') _ (cacheKey cfg k) = some val at cached
    by_cases same : k' = k
    · subst same
      have writesTrue : active = true := by
        have silent : σ.call c ≠ .found k' false ∧ σ.call c ≠ .deactivated k' := by
          rcases performs with rfl | rfl <;> simpa [hides] using unhidden
        generalize before : σ.call c = phase at writes silent
        cases writes with
        | found => simpa using silent.1
        | inserted => rfl
        | deactivated => exact absurd rfl silent.2
      simpa [writesTrue] using cached.symm
    · have keys : cacheKey cfg k ≠ cacheKey cfg k' :=
        fun equal => same (cacheKey_injective cfg equal).symm
      rw [Function.update_of_ne keys] at cached
      exact unmasked val cached
  | @expire key =>
    by_cases same : cacheKey cfg k = key
    · simp [same] at cached
    · exact unmasked val (by simpa [Function.update_of_ne same] using cached)

/-- A call of `is_active` on the target that has not read `False` anywhere. It
raises where MongoDB does. -/
def Reads (k : Target) : Call → Prop
  | .checking asked | .missed asked => asked = k
  | .found asked active | .answered asked active => asked = k ∧ active = true
  | .raised => True
  | _ => False

theorem reads_moveTo {σ : State C} {c d : C} (reads : Reads k (σ.call c))
    (own : d = c → Reads k call) : Reads k ((σ.moveTo d call).call c) := by
  by_cases same : c = d
  · subst same
    simpa [State.moveTo] using own rfl
  · simpa [State.moveTo, Function.update_of_ne same] using reads

/-- Only a reader caches what it answers. -/
theorem Writes.reads (writes : Writes cfg before asked active call) (reads : Reads k before) :
    Reads k call := by
  cases writes with
  | found => exact reads
  | inserted | deactivated => cases reads

theorem step_reads {σ τ : State C} {c : C} (unmasked : Unmasked cfg k σ) (active : Active σ k)
    (reads : Reads k (σ.call c)) (stepped : step cfg σ l = some τ) : Reads k (τ.call c) := by
  cases step_takes stepped with
  | @start d _ call idle =>
    apply reads_moveTo reads
    rintro rfl
    simp [idle, Reads] at reads
  | @hit d asked val _ checking cached =>
    apply reads_moveTo reads
    rintro rfl
    rw [checking] at reads
    obtain rfl : asked = k := reads
    exact ⟨rfl, by simp [unmasked val cached]⟩
  | @miss d asked _ checking =>
    apply reads_moveTo reads
    rintro rfl
    rwa [checking] at reads
  | @read d asked _ missed =>
    apply reads_moveTo reads
    rintro rfl
    rw [missed] at reads
    obtain rfl : asked = k := reads
    exact ⟨rfl, List.find?_isSome.mpr active⟩
  | insert activating =>
    apply reads_moveTo (σ := { σ with docs := _ }) reads
    rintro rfl
    simp [activating, Reads] at reads
  | deactivate deactivating =>
    apply reads_moveTo (σ := { σ with docs := _ }) reads
    rintro rfl
    simp [deactivating, Reads] at reads
  | @cache _ d asked _ call _ writes =>
    apply reads_moveTo (σ := σ.cacheKillSwitch cfg _ _) reads
    rintro rfl
    exact writes.reads reads
  | @uncached d asked _ call _ writes =>
    apply reads_moveTo reads
    rintro rfl
    exact writes.reads reads
  | raise => exact reads_moveTo reads fun _ => trivial
  | expire => exact reads

omit [DecidableEq C] in
theorem cached_unmasked (σ : State C) (k : Target) :
    Unmasked cfg k (σ.cacheKillSwitch cfg k true) := by
  intro val cached
  simpa [State.cacheKillSwitch] using cached.symm

/-- The step on which an `activate` call returns. -/
theorem returned_unmasked {σ armed : State C} {d : C} (inserted : σ.call d = .inserted k)
    (ending : l ∈ [Action.next d, Action.fail d true, Action.fail d false])
    (stepped : step cfg σ l = some armed) (unhidden : hides cfg σ k l = false) :
    Unmasked cfg k armed := by
  simp only [List.mem_cons, List.not_mem_nil, or_false] at ending
  rcases ending with rfl | rfl | rfl <;>
    simp only [step, inserted, advance, operationFails, Option.some.injEq] at stepped <;>
    subst stepped
  · exact cached_unmasked σ k
  · exact cached_unmasked σ k
  · intro val cached
    change σ.cache (cacheKey cfg k) = some val at cached
    simpa [hides, inserted, cached] using unhidden

/-- An `activate` call does not return while warnings are logged. -/
theorem silent_of_returned {σ armed : State C} {d : C} (inserted : σ.call d = .inserted k)
    (ending : l ∈ [Action.next d, Action.fail d true, Action.fail d false])
    (stepped : step cfg σ l = some armed) (returned : armed.call d = .activated k) :
    cfg.isEnabledFor warning = false := by
  simp only [List.mem_cons, List.not_mem_nil, or_false] at ending
  have logged : armed.call d = logActivated cfg k := by
    rcases ending with rfl | rfl | rfl <;>
      simp only [step, inserted, advance, operationFails, Option.some.injEq] at stepped <;>
      simp [← stepped, State.moveTo]
  rw [returned, logActivated] at logged
  cases enabled : cfg.isEnabledFor warning with
  | true => simp [enabled] at logged
  | false => rfl

/-- Between the return of an `activate` call and the end of an `is_active` call
that started after it, with an active document there throughout: the answer is
`True` when warnings are logged, since then no `activate` returns, or when no step
from the call's own `SETEX` on hides the switch. -/
theorem armed_switch_is_active {σ armed τ : State C} {c d : C} (inserted : σ.call d = .inserted k)
    (ending : l ∈ [Action.next d, Action.fail d true, Action.fail d false])
    (stepped : step cfg σ l = some armed) (returned : armed.call d = .activated k)
    (run : exec (step cfg) armed (waiting ++ Action.isActive c k :: rest) = some τ)
    (remains : Along (step cfg) (fun σ _ => Active σ k) armed
      (waiting ++ Action.isActive c k :: rest))
    (unhidden : cfg.isEnabledFor warning = true ∨ Along (step cfg)
      (fun σ l => hides cfg σ k l = false) σ (l :: (waiting ++ Action.isActive c k :: rest)))
    (answered : τ.call c = .answered k active) : active = true := by
  have silent := silent_of_returned inserted ending stepped returned
  obtain ⟨first, unhidden⟩ := unhidden.resolve_left (by simp [silent])
  have unhidden := unhidden armed stepped
  have armedUnmasked := returned_unmasked inserted ending stepped first
  obtain ⟨before, waited, run⟩ := exec_append.mp run
  obtain ⟨started, first, run⟩ := exec_cons.mp run
  have unmasked : Unmasked cfg k before :=
    exec_invariant step_unmasked (along_append_left unhidden) waited armedUnmasked
  have remains := along_append_right remains waited
  have unhidden := along_append_right unhidden waited
  have reading : Reads k (started.call c) := by
    simp only [step, Option.ite_none_right_eq_some, Option.some.injEq] at first
    obtain ⟨-, rfl⟩ := first
    simp [State.moveTo, Reads]
  have kept : Unmasked cfg k τ ∧ Reads k (τ.call c) := by
    apply exec_invariant _ (along_and (remains.2 started first) (unhidden.2 started first)) run
      ⟨step_unmasked unmasked unhidden.1 first, reading⟩
    rintro σ l τ ⟨unmasked, reads⟩ ⟨active, unhidden⟩ stepped
    exact ⟨step_unmasked unmasked unhidden stepped, step_reads unmasked active reads stepped⟩
  rw [answered] at kept
  exact kept.2.2

/-- The condition is needed: a step that hides the switch answers the next
`is_active` call, with a document active or not. -/
theorem cached_false_masks {σ τ : State C} {c : C} (hidden : hides cfg σ k l = true)
    (stepped : step cfg σ l = some τ) (idle : τ.call c = .idle) :
    ∃ ρ, exec (step cfg) τ [.isActive c k, .next c] = some ρ ∧ ρ.call c = .answered k false := by
  have cached : ∃ val, τ.cache (cacheKey cfg k) = some val ∧ val ≠ "1" := by
    cases l with
    | next d =>
      simp only [hides, Bool.or_eq_true, beq_iff_eq] at hidden
      refine ⟨"0", ?_, by decide⟩
      rcases hidden with found | deactivated
      · simp only [step, found, advance, Option.some.injEq] at stepped
        simp [← stepped, State.moveTo, State.cacheKillSwitch]
      · simp only [step, deactivated, advance, Option.some.injEq] at stepped
        simp [← stepped, State.moveTo, State.cacheKillSwitch]
    | fail d performed =>
      cases performed with
      | true =>
        simp only [hides, Bool.or_eq_true, beq_iff_eq] at hidden
        refine ⟨"0", ?_, by decide⟩
        rcases hidden with found | deactivated
        · simp only [step, found, operationFails, if_true, Option.some.injEq] at stepped
          simp [← stepped, State.moveTo, State.cacheKillSwitch]
        · simp only [step, deactivated, operationFails, if_true, Option.some.injEq] at stepped
          simp [← stepped, State.moveTo, State.cacheKillSwitch]
      | false =>
        simp only [hides, Bool.and_eq_true, beq_iff_eq, decide_eq_true_eq] at hidden
        obtain ⟨inserted, other⟩ := hidden
        simp only [step, inserted, operationFails, Option.some.injEq] at stepped
        subst stepped
        cases entry : σ.cache (cacheKey cfg k) with
        | none => simp [entry] at other
        | some val => exact ⟨val, entry, by simpa [entry] using other⟩
    | isActive | activate | deactivate | expire => cases hidden
  obtain ⟨val, entry, other⟩ := cached
  refine ⟨(τ.moveTo c (.checking k)).moveTo c (.answered k false), ?_, by simp [State.moveTo]⟩
  have falsehood : (val == "1") = false := beq_eq_false_iff_ne.mpr other
  simp [exec, step, idle, advance, State.moveTo, entry, falsehood]

instance (σ : State C) (k : Target) : Decidable (Active σ k) :=
  inferInstanceAs (Decidable (∃ doc ∈ σ.docs, activeFor k doc = true))

def acme : Target := ⟨.tenant, "t_acme"⟩

def pull (c : Fin 4) (switchId : String) : List (Action (Fin 4)) :=
  [.activate c switchId acme "incident" "ops" 1, .next c]

def after (ls : List (Action (Fin 4))) : State (Fin 4) :=
  (exec (step .errorsOnly) (State.initial (Fin 4)) ls).getD (State.initial (Fin 4))

theorem exec_after (complete : (exec (step .errorsOnly) (State.initial (Fin 4)) ls).isSome = true) :
    exec (step .errorsOnly) (State.initial (Fin 4)) ls = some (after ls) := by
  obtain ⟨σ, run⟩ := Option.isSome_iff_exists.mp complete
  simp [after, run]

theorem exec_after_append
    (complete : (exec (step .errorsOnly) (State.initial (Fin 4)) (ls ++ ms)).isSome = true) :
    exec (step .errorsOnly) (after ls) ms = some (after (ls ++ ms)) := by
  obtain ⟨τ, first, rest⟩ := exec_append.mp (exec_after complete)
  have reached : after ls = τ := by simp [after, first]
  rw [reached]
  exact rest

theorem step_after {l : Action (Fin 4)}
    (complete : (exec (step .errorsOnly) (State.initial (Fin 4)) (ls ++ [l])).isSome = true) :
    step .errorsOnly (after ls) l = some (after (ls ++ [l])) := by
  obtain ⟨τ, first, rest⟩ := exec_cons.mp (exec_after_append complete)
  rw [first]
  exact rest

/-- The cache entry of the activation expires before the switch is read. -/
def expiredEntry : List (Action (Fin 4)) :=
  [Action.expire (cacheKey .errorsOnly acme)] ++
    Action.isActive 1 acme :: [Action.next 1, Action.next 1, Action.next 1]

theorem armed_switch_is_active_expired :
    ∃ active, (after (pull 0 "ks_1" ++ [Action.next 0] ++ expiredEntry)).call 1 =
      .answered acme active ∧ active = true := by
  have inserted : (after (pull 0 "ks_1")).call 0 = .inserted acme := by decide +kernel
  have returns : step .errorsOnly (after (pull 0 "ks_1")) (.next 0) =
      some (after (pull 0 "ks_1" ++ [Action.next 0])) := step_after (by decide +kernel)
  have run : exec (step .errorsOnly) (after (pull 0 "ks_1" ++ [Action.next 0])) expiredEntry =
      some (after (pull 0 "ks_1" ++ [Action.next 0] ++ expiredEntry)) := exec_after_append
        (by decide +kernel)
  have remains : Along (step .errorsOnly) (fun σ _ => Active σ acme)
      (after (pull 0 "ks_1" ++ [Action.next 0]))
      expiredEntry := by decide +kernel
  have unhidden : Along (step .errorsOnly) (fun σ l => hides .errorsOnly σ acme l = false)
      (after (pull 0 "ks_1")) (Action.next 0 :: expiredEntry) := by
    decide +kernel
  have answered : (after (pull 0 "ks_1" ++ [Action.next 0] ++ expiredEntry)).call 1 =
      .answered acme true := by
    decide +kernel
  have returned : (after (pull 0 "ks_1" ++ [Action.next 0])).call 0 = .activated acme := by
    decide +kernel
  exact ⟨true, answered, armed_switch_is_active inserted List.mem_cons_self returns returned run
    remains (.inr unhidden) answered⟩

def bothPulled : List (Action (Fin 4)) := pull 0 "ks_1" ++ [Action.next 0] ++ pull 1 "ks_2"

def oneTakenBack : List (Action (Fin 4)) :=
  [Action.deactivate 2 "ks_1" 2, Action.next 2, Action.next 2] ++
    Action.isActive 3 acme :: [Action.next 3]

/-- With warnings switched off, two switches are pulled for a tenant and one is taken
back: the other stays active in MongoDB, and `is_active` answers `False`. -/
theorem overlapping_switch_masked :
    ∃ σ armed τ : State (Fin 4), σ.call 1 = .inserted acme ∧
      exec (step .errorsOnly) (State.initial (Fin 4)) bothPulled = some σ ∧
      step .errorsOnly σ (.next 1) = some armed ∧ armed.call 1 = .activated acme ∧
      exec (step .errorsOnly) armed oneTakenBack = some τ ∧
      Along (step .errorsOnly) (fun σ _ => Active σ acme) armed oneTakenBack ∧
      Active τ acme ∧ τ.call 3 = .answered acme false := by
  refine ⟨after bothPulled, after (bothPulled ++ [Action.next 1]),
    after (bothPulled ++ [Action.next 1] ++ oneTakenBack), ?_, ?_, ?_, ?_, ?_, ?_, ?_, ?_⟩
  · decide +kernel
  · exact exec_after (by decide +kernel)
  · exact step_after (by decide +kernel)
  · decide +kernel
  · exact exec_after_append (by decide +kernel)
  · decide +kernel
  · decide +kernel
  · decide +kernel

end AgentOE.KillSwitch
