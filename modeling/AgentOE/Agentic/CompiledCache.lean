import AgentOE.Agentic.GraphCache

/-! `_LRUCache`, under any sequence of its operations. The runtime of the graph cache
calls `get` and `put`; `invalidate` is there for a scenario that is published again. -/
namespace AgentOE.Agentic.CompiledCache
open Collection
open GraphCache (CacheKey)
open Lru (Distinct Recent)

/-- `_d`, oldest entry first. -/
abbrev Entries (V : Type) := List (CacheKey × V)

variable {V : Type}

def get (k : CacheKey) (d : Entries V) : Option V × Entries V := (Lru.get k d, Lru.touch k d)

def put (cap : Nat) (k : CacheKey) (v : V) (d : Entries V) : Entries V := Lru.put cap k v d

/-- The keys of one scenario, in any version. -/
def belongs (tenantId scenarioId : String) (k : CacheKey) : Bool :=
  k.tenantId = tenantId && k.scenarioId = scenarioId

/-- Also returns how many entries there were. -/
def invalidate (tenantId scenarioId : String) (d : Entries V) : Nat × Entries V :=
  let keys := (d.map (·.1)).filter (belongs tenantId scenarioId)
  (keys.length, keys.foldl (fun d k => Lru.without k d) d)

inductive Op (V : Type) where
  | get (k : CacheKey)
  | put (k : CacheKey) (v : V)
  | invalidate (tenantId scenarioId : String)

def apply (cap : Nat) (d : Entries V) : Op V → Entries V
  | .get k => (get k d).2
  | .put k v => put cap k v d
  | .invalidate tenantId scenarioId => (invalidate tenantId scenarioId d).2

def run (cap : Nat) (d : Entries V) (ops : List (Op V)) : Entries V := ops.foldl (apply cap) d

/-- The key that an operation puts or hits. -/
def used (d : Entries V) : Op V → Option CacheKey
  | .get k => if (Lru.get k d).isSome then some k else none
  | .put k _ => some k
  | .invalidate _ _ => none

def usedAlong (cap : Nat) (d : Entries V) : List (Op V) → List CacheKey
  | [] => []
  | op :: ops => (used d op).toList ++ usedAlong cap (apply cap d op) ops

def Op.invalidates (k : CacheKey) : Op V → Bool
  | .invalidate tenantId scenarioId => belongs tenantId scenarioId k
  | _ => false

def latestPut (k : CacheKey) (ops : List (Op V)) : Option V :=
  ops.foldl (fun latest op => match op with
    | .put name v => if name = k then some v else latest
    | _ => latest) none

variable {cap : Nat} {d : Entries V} {op : Op V} {ops : List (Op V)} {k : CacheKey}

theorem foldl_without (keys : List CacheKey) (d : Entries V) :
    keys.foldl (fun d k => Lru.without k d) d = d.filter (·.1 ∉ keys) := by
  induction keys generalizing d with
  | nil => simp
  | cons k keys ih =>
    rw [List.foldl_cons, ih, Lru.without, List.filter_filter]
    refine List.filter_congr fun entry _ => ?_
    simp only [List.mem_cons, not_or, Bool.decide_and]
    exact Bool.and_comm _ _

/-- One deletion for each key that was listed before. -/
theorem invalidate_eq (tenantId scenarioId : String) (d : Entries V) :
    invalidate tenantId scenarioId d =
    ((d.filter fun entry => belongs tenantId scenarioId entry.1).length,
      d.filter fun entry => !belongs tenantId scenarioId entry.1) := by
  rw [invalidate, foldl_without, Prod.mk.injEq]
  refine ⟨by rw [List.filter_map, List.length_map]; rfl, List.filter_congr fun entry mem => ?_⟩
  have listed : entry.1 ∈ (d.map (·.1)).filter (belongs tenantId scenarioId) ↔
      belongs tenantId scenarioId entry.1 = true := by
    rw [List.mem_filter]
    exact and_iff_right (List.mem_map_of_mem mem)
  by_cases here : belongs tenantId scenarioId entry.1 = true <;> simp [listed, here]

theorem latestPut_append (k : CacheKey) (ops : List (Op V)) (op : Op V) :
    latestPut k (ops ++ [op]) = match op with
      | .put name v => if name = k then some v else latestPut k ops
      | _ => latestPut k ops := by
  rw [latestPut, List.foldl_append]
  rfl

/-- Where a cache stands after `ops`. -/
structure Sound (cap : Nat) (ops : List (Op V)) (d : Entries V) : Prop where
  bounded : d.length ≤ cap
  distinct : Distinct d
  latest : ∀ k v, (k, v) ∈ d → latestPut k ops = some v

theorem Sound.apply (sound : Sound cap ops d) (op : Op V) :
    Sound cap (ops ++ [op]) (apply cap d op) := by
  cases op with
  | get k =>
    refine ⟨(Lru.length_touch k d).trans sound.bounded, sound.distinct.touch, fun name v mem => ?_⟩
    rw [latestPut_append]
    exact sound.latest name v (Lru.mem_of_touch mem)
  | put k v =>
    refine ⟨Lru.length_put cap, sound.distinct.put, fun name other mem => ?_⟩
    rw [latestPut_append]
    rcases Lru.mem_put_cases mem with ⟨rfl, rfl⟩ | ⟨differs, inside⟩
    · simp
    · simp only [differs.symm, if_false]
      exact sound.latest name other inside
  | invalidate tenantId scenarioId =>
    simp only [CompiledCache.apply, invalidate_eq]
    refine ⟨(List.length_filter_le ..).trans sound.bounded,
      sound.distinct.sublist List.filter_sublist,
      fun name v mem => ?_⟩
    rw [latestPut_append]
    exact sound.latest name v (List.mem_of_mem_filter mem)

theorem run_append (cap : Nat) (d : Entries V) (past later : List (Op V)) :
    run cap d (past ++ later) = run cap (run cap d past) later := List.foldl_append

theorem run_sound (cap : Nat) (ops : List (Op V)) : Sound cap ops (run cap [] ops) := by
  induction ops using List.reverseRecOn with
  | nil => exact ⟨Nat.zero_le _, List.nodup_nil, fun _ _ mem => by cases mem⟩
  | append_singleton ops op ih =>
    rw [run_append]
    exact ih.apply op

theorem apply_distinct (distinct : Distinct d) (op : Op V) : Distinct (apply cap d op) := by
  cases op with
  | get k => exact distinct.touch
  | put k v => exact distinct.put
  | invalidate tenantId scenarioId =>
    simp only [apply, invalidate_eq]
    exact distinct.sublist List.filter_sublist

/-- A key that is put or hit is the youngest. -/
theorem recent_of_used (positive : 0 < cap) (uses : used d op = some k) (names : List CacheKey) :
    Recent k names (apply cap d op) := by
  cases op with
  | get key =>
    simp only [used] at uses
    split at uses
    · cases Option.some.inj uses
      exact Lru.recent_touch ‹_› names
    · cases uses
  | put key v =>
    cases Option.some.inj uses
    exact Lru.recent_put positive names
  | invalidate tenantId scenarioId => cases uses

/-- What one operation that spares a key does to its place. -/
theorem recent_apply {names : List CacheKey} (recent : Recent k names d) (distinct : Distinct d)
    (spared : op.invalidates k = false)
    (few : ((names ++ (used d op).toList).toFinset.erase k).card < cap) :
    Recent k (names ++ (used d op).toList) (apply cap d op) := by
  have positive : 0 < cap := Nat.zero_lt_of_lt few
  by_cases again : used d op = some k
  · exact recent_of_used positive again _
  cases op with
  | get key =>
    cases hit : (Lru.get key d).isSome with
    | false =>
      have missing : Lru.get key d = none :=
        Option.isSome_eq_false_iff.mp hit |> Option.isNone_iff_eq_none.mp
      simpa [used, hit, apply, get, Lru.touch, missing] using recent
    | true =>
      simp only [used, hit, if_true, Option.some.injEq] at again
      simpa [used, hit, apply, get] using recent.touch again hit
  | put key v =>
    simp only [used, Option.some.injEq] at again
    exact recent.put distinct again few
  | invalidate tenantId scenarioId =>
    simp only [Op.invalidates] at spared
    simp only [apply, invalidate_eq, used, Option.toList_none, List.append_nil]
    exact recent.filter fun _ => by simp [spared]

theorem recent_run {names : List CacheKey} (recent : Recent k names d) (distinct : Distinct d)
    (spared : ∀ op ∈ ops, op.invalidates k = false)
    (few : ((names ++ usedAlong cap d ops).toFinset.erase k).card < cap) :
    Recent k (names ++ usedAlong cap d ops) (run cap d ops) := by
  induction ops generalizing d names with
  | nil => simpa [usedAlong, run] using recent
  | cons op ops ih =>
    obtain ⟨first, rest⟩ := List.forall_mem_cons.mp spared
    rw [usedAlong, ← List.append_assoc] at few ⊢
    have fewer : ((names ++ (used d op).toList).toFinset.erase k).card < cap := by
      have within : (names ++ (used d op).toList).toFinset ⊆
          ((names ++ (used d op).toList) ++ usedAlong cap (apply cap d op) ops).toFinset :=
        fun _ mem => List.mem_toFinset.mpr (List.mem_append_left _ (List.mem_toFinset.mp mem))
      exact lt_of_le_of_lt (Finset.card_le_card (Finset.erase_subset_erase k within)) few
    exact ih (recent_apply recent distinct first fewer) (apply_distinct distinct op) rest few

/-! The runtime's cache has only ever been used through these operations. -/

section Runtime
variable {C R X G : Type} [DecidableEq R] [DecidableEq C]
  {compile : GraphCache.Loaded X → Except String G} {call : C → VersionStore.Call X}
  {request : R → GraphCache.Request}

theorem step_uses {σ τ : GraphCache.Runtime C R X G} {l : GraphCache.Label C R}
    (stepped : GraphCache.step cap compile call request σ l = some τ) :
    ∃ ops : List (Op (GraphCache.Compiled X G)), τ.cache = run cap σ.cache ops := by
  cases l with
  | repository c =>
    obtain ⟨store, -, rfl⟩ := Option.map_eq_some_iff.mp stepped
    exact ⟨[], rfl⟩
  | load r =>
    simp only [GraphCache.step] at stepped
    split at stepped
    · split at stepped <;> cases Option.some.inj stepped <;> exact ⟨[], rfl⟩
    · cases stepped
  | lookup r =>
    simp only [GraphCache.step] at stepped
    split at stepped
    · rename_i scenario _
      split at stepped
      · cases Option.some.inj stepped
        exact ⟨[.get (GraphCache.requestKey (request r) scenario)], rfl⟩
      · split at stepped <;> cases Option.some.inj stepped
        · exact ⟨[], rfl⟩
        · exact ⟨[.put (GraphCache.requestKey (request r) scenario) _], rfl⟩
    · cases stepped

theorem runtime_cache (walked : Transition.exec (GraphCache.step cap compile call request)
    (GraphCache.Runtime.initial C R G docs assigned) labels = some σ) :
    ∃ ops : List (Op (GraphCache.Compiled X G)), σ.cache = run cap [] ops := by
  refine Transition.exec_preserves (fun σ => ∃ ops, σ.cache = run cap [] ops) ?_ walked ⟨[], rfl⟩
  rintro σ l τ ⟨past, before⟩ stepped
  obtain ⟨ops, after⟩ := step_uses stepped
  exact ⟨past ++ ops, by rw [after, before, run_append]⟩

end Runtime

/-- The bound, what a `get` returns, how long a key stays, and what `invalidate` removes. -/
theorem lru_cache (cap : Nat) (ops : List (Op V)) :
    (run cap [] ops).length ≤ cap ∧
    (∀ k v, (get k (run cap [] ops)).1 = some v → latestPut k ops = some v) ∧
    (∀ past op later k, ops = past ++ op :: later → used (run cap [] past) op = some k →
      (∀ other ∈ later, other.invalidates k = false) →
      ((usedAlong cap (run cap [] (past ++ [op])) later).toFinset.erase k).card < cap →
      (get k (run cap [] ops)).1.isSome) ∧
    ∀ tenantId scenarioId, invalidate tenantId scenarioId (run cap [] ops) =
      (((run cap [] ops).filter fun entry => belongs tenantId scenarioId entry.1).length,
        (run cap [] ops).filter fun entry => !belongs tenantId scenarioId entry.1) := by
  refine ⟨(run_sound cap ops).bounded, ?_, ?_, fun _ _ => invalidate_eq ..⟩
  · intro k v returned
    exact (run_sound cap ops).latest k v (mem_of_lookup returned)
  · rintro past op later k rfl uses spared few
    have young : Recent k [] (run cap [] (past ++ [op])) := by
      rw [run_append]
      exact recent_of_used (Nat.zero_lt_of_lt few) uses []
    have kept := recent_run young (run_sound cap _).distinct spared few
    rw [← run_append, List.append_assoc] at kept
    exact kept.found

end AgentOE.Agentic.CompiledCache
