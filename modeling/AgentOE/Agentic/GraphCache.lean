import AgentOE.Agentic.VersionStore
import AgentOE.Lru

/-! The cache of compiled scenarios beside the collection that they are loaded
from. A call of `_get_compiled` first waits for the loader and then looks the
version up without waiting again. The scenarios router never invalidates. -/
namespace AgentOE.Agentic.GraphCache
open Transition Collection VersionStore

/-- The scenario of a stored document, which has no `updated_at`. -/
structure Loaded (X : Type) where
  tenantId : String
  scenarioId : String
  version : Int
  published : Bool
  createdAt : String
  content : X
  deriving DecidableEq

structure CacheKey where
  tenantId : String
  scenarioId : String
  version : Int
  deriving DecidableEq

/-- A compiled graph keeps the scenario that it was compiled from. -/
structure Compiled (X G : Type) where
  scenario : Loaded X
  graph : G
  deriving DecidableEq

/-- Without a version the published one is asked for. -/
structure Request where
  tenantId : String
  scenarioId : String
  version : Option Int
  deriving DecidableEq

inductive Progress (X G : Type) where
  | idle
  | loaded (scenario : Loaded X)
  | raised
  | returned (scenario : Loaded X) (compiled : Compiled X G)
  deriving DecidableEq

structure Runtime (C R X G : Type) where
  store : State C X
  progress : R → Progress X G
  cache : List (CacheKey × Compiled X G)

inductive Label (C R : Type) where
  | repository (c : C)
  | load (r : R)
  | lookup (r : R)
  deriving DecidableEq

variable {C R X G : Type} [DecidableEq R]

def scenarioOf (doc : Stored X) : Loaded X where
  tenantId := doc.tenantId
  scenarioId := doc.scenarioId
  version := doc.version
  published := doc.published
  createdAt := doc.createdAt
  content := doc.content

def keyOf (doc : Stored X) : CacheKey := ⟨doc.tenantId, doc.scenarioId, doc.version⟩

/-- The injected loader, as its caller assumes it. -/
def load (request : Request) (docs : List (Stored X)) : Option (Stored X) :=
  match request.version with
  | some version => findOne (ofVersion request.tenantId request.scenarioId version) docs
  | none => findOne (isPublished request.tenantId request.scenarioId) docs

def requestKey (request : Request) (scenario : Loaded X) : CacheKey :=
  ⟨request.tenantId, request.scenarioId, scenario.version⟩

def Runtime.finish (σ : Runtime C R X G) (r : R) (cache : List (CacheKey × Compiled X G))
    (progress : Progress X G) : Runtime C R X G :=
  { σ with cache := cache, progress := Function.update σ.progress r progress }

variable (capacity : Nat) (compile : Loaded X → Except String G) (call : C → Call X)
  (request : R → Request)

def step [DecidableEq C] (σ : Runtime C R X G) : Label C R → Option (Runtime C R X G)
  | .repository c => (VersionStore.step call σ.store c).map fun store => { σ with store := store }
  | .load r => match σ.progress r with
    | .idle => match load (request r) σ.store.docs with
      | none => some (σ.finish r σ.cache .raised)
      | some doc => some (σ.finish r σ.cache (.loaded (scenarioOf doc)))
    | _ => none
  | .lookup r => match σ.progress r with
    | .loaded scenario =>
      let key := requestKey (request r) scenario
      match Lru.get key σ.cache with
      | some hit => some (σ.finish r (Lru.touch key σ.cache) (.returned scenario hit))
      | none => match compile scenario with
        | .error _ => some (σ.finish r σ.cache .raised)
        | .ok graph => some (σ.finish r (Lru.put capacity key ⟨scenario, graph⟩ σ.cache)
            (.returned scenario ⟨scenario, graph⟩))
    | _ => none

/-- A call returns what was compiled from the scenario that it has loaded. -/
def Coherent (σ : Runtime C R X G) : Prop :=
  ∀ r scenario compiled, σ.progress r = .returned scenario compiled → compiled.scenario = scenario

/-- A scenario that a lookup of the key may meet: cached, or loaded by a call that
has not looked it up yet. -/
def Known (σ : Runtime C R X G) (key : CacheKey) (scenario : Loaded X) : Prop :=
  (∃ compiled, (key, compiled) ∈ σ.cache ∧ compiled.scenario = scenario) ∨
    ∃ r, σ.progress r = .loaded scenario ∧ key = requestKey (request r) scenario

def Unknown (σ : Runtime C R X G) (key : CacheKey) : Prop :=
  ∀ scenario, ¬Known request σ key scenario

/-- A write gives no known version another scenario: a number in use is not given
out again, and its `published` flag does not change. A version is loaded only while
it is not stored twice. -/
def Stable (σ : Runtime C R X G) : Label C R → Prop
  | .repository c => match call c, σ.store.status c with
    | .save draft _, .latestRead next => Unknown request σ ⟨draft.tenantId, draft.scenarioId, next⟩
    | .publish tenantId scenarioId _ _, .targetFound =>
      ∀ doc ∈ σ.store.docs, isPublished tenantId scenarioId doc = true →
        Unknown request σ (keyOf doc)
    | .publish tenantId scenarioId version _, .othersCleared =>
      ∀ doc, findOne (ofVersion tenantId scenarioId version) σ.store.docs = some doc →
        doc.published = true ∨ Unknown request σ (keyOf doc)
    | _, _ => True
  | .load r => ∀ doc, load (request r) σ.store.docs = some doc → ∀ other ∈ σ.store.docs,
      keyOf other = keyOf doc → scenarioOf other = scenarioOf doc
  | .lookup _ => True

structure Inv (σ : Runtime C R X G) : Prop where
  agree : ∀ {key first second}, Known request σ key first → Known request σ key second →
    first = second
  fresh : ∀ doc ∈ σ.store.docs, ∀ scenario, Known request σ (keyOf doc) scenario →
    scenarioOf doc = scenario
  coherent : Coherent σ

variable {capacity compile call request}

theorem load_key {docs : List (Stored X)} (found : load asked docs = some doc) :
    doc ∈ docs ∧ requestKey asked (scenarioOf doc) = keyOf doc := by
  unfold load at found
  split at found
  · refine ⟨findOne_mem found, ?_⟩
    have matched := findOne_match found
    simp only [ofVersion, Stored.triple, decide_eq_true_eq, Prod.mk.injEq] at matched
    simp [requestKey, keyOf, scenarioOf, matched]
  · refine ⟨findOne_mem found, ?_⟩
    have matched := findOne_match found
    simp only [isPublished, ofScenario, Bool.and_eq_true, decide_eq_true_eq] at matched
    simp [requestKey, keyOf, scenarioOf, matched.1]

theorem coherent_finish {σ : Runtime C R X G} (coherent : Coherent σ) {r : R}
    {cache : List (CacheKey × Compiled X G)} {progress : Progress X G}
    (right : ∀ scenario compiled, progress = .returned scenario compiled →
      compiled.scenario = scenario) : Coherent (σ.finish r cache progress) := by
  intro d scenario compiled returned
  by_cases here : d = r
  · exact right scenario compiled (by simpa [Runtime.finish, here] using returned)
  · exact coherent d scenario compiled (by simpa [Runtime.finish, here] using returned)

namespace Inv
variable {σ : Runtime C R X G}

omit [DecidableEq R] in
/-- New documents are under unknown keys or show an old scenario. -/
theorem write (inv : Inv request σ) {store : State C X}
    (old : ∀ doc ∈ store.docs, Unknown request σ (keyOf doc) ∨
      ∃ before ∈ σ.store.docs, keyOf before = keyOf doc ∧ scenarioOf before = scenarioOf doc) :
    Inv request { σ with store := store } := by
  refine ⟨inv.agree, ?_, inv.coherent⟩
  intro doc mem scenario known
  rcases old doc mem with unknown | ⟨before, inside, key, same⟩
  · exact absurd known (unknown scenario)
  · rw [← same]
    exact inv.fresh before inside scenario (key ▸ known)

/-- A call that ends makes nothing known that was not. -/
theorem finish (inv : Inv request σ) {r : R} {cache : List (CacheKey × Compiled X G)}
    {progress : Progress X G} (ended : ∀ scenario, progress ≠ .loaded scenario)
    (cached : ∀ key compiled, (key, compiled) ∈ cache → Known request σ key compiled.scenario)
    (right : ∀ scenario compiled, progress = .returned scenario compiled →
      compiled.scenario = scenario) : Inv request (σ.finish r cache progress) := by
  have back : ∀ {key scenario}, Known request (σ.finish r cache progress) key scenario →
      Known request σ key scenario := by
    rintro key scenario (⟨compiled, mem, rfl⟩ | ⟨d, loaded, same⟩)
    · exact cached key compiled mem
    · by_cases here : d = r
      · simp [Runtime.finish, here, ended] at loaded
      · exact .inr ⟨d, by simpa [Runtime.finish, here] using loaded, same⟩
  exact ⟨fun first second => inv.agree (back first) (back second),
    fun doc mem scenario known => inv.fresh doc mem scenario (back known),
    coherent_finish inv.coherent right⟩

theorem loaded (inv : Inv request σ) {r : R} {doc : Stored X} (mem : doc ∈ σ.store.docs)
    (key : requestKey (request r) (scenarioOf doc) = keyOf doc)
    (single : ∀ other ∈ σ.store.docs, keyOf other = keyOf doc → scenarioOf other = scenarioOf doc) :
    Inv request (σ.finish r σ.cache (.loaded (scenarioOf doc))) := by
  have back : ∀ {name scenario},
      Known request (σ.finish r σ.cache (.loaded (scenarioOf doc))) name scenario →
      Known request σ name scenario ∨ name = keyOf doc ∧ scenario = scenarioOf doc := by
    rintro name scenario (cached | ⟨d, loaded, same⟩)
    · exact .inl (.inl cached)
    · by_cases here : d = r
      · have shown : scenarioOf doc = scenario := by simpa [Runtime.finish, here] using loaded
        exact .inr ⟨by rw [same, here, ← shown, key], shown.symm⟩
      · exact .inl (.inr ⟨d, by simpa [Runtime.finish, here] using loaded, same⟩)
  refine ⟨?_, ?_, coherent_finish inv.coherent (by simp)⟩
  · intro name first second knownFirst knownSecond
    rcases back knownFirst with left | ⟨rfl, rfl⟩
    · rcases back knownSecond with right | ⟨rfl, rfl⟩
      · exact inv.agree left right
      · exact (inv.fresh doc mem first left).symm
    · rcases back knownSecond with right | ⟨-, rfl⟩
      · exact inv.fresh doc mem second right
      · rfl
  · intro other inside scenario known
    rcases back known with before | ⟨same, rfl⟩
    · exact inv.fresh other inside scenario before
    · exact single other inside same

end Inv

variable [DecidableEq C]

omit [DecidableEq R] in
theorem repository_inv {σ : Runtime C R X G} {c : C} {store : State C X} (inv : Inv request σ)
    (stable : Stable call request σ (.repository c))
    (stepped : VersionStore.step call σ.store c = some store) :
    Inv request { σ with store := store } := by
  have kept : ∀ doc ∈ σ.store.docs, Unknown request σ (keyOf doc) ∨
      ∃ before ∈ σ.store.docs, keyOf before = keyOf doc ∧ scenarioOf before = scenarioOf doc :=
    fun doc mem => .inr ⟨doc, mem, rfl, rfl⟩
  cases step_cases stepped with
  | read saves idle => exact inv.write kept
  | look quiet => exact inv.write kept
  | insert saves read =>
    simp only [Stable, saves, read] at stable
    apply inv.write
    intro doc mem
    rcases List.mem_append.mp mem with mem | mem
    · exact kept doc mem
    · cases List.mem_singleton.mp mem
      exact .inl stable
  | clear publishes found =>
    simp only [Stable, publishes, found] at stable
    apply inv.write
    intro doc mem
    rcases mem_updateMany mem with old | ⟨before, inside, published, rfl⟩
    · exact kept doc old
    · exact .inl (stable before inside published)
  | publish publishes cleared =>
    simp only [Stable, publishes, cleared] at stable
    apply inv.write
    intro doc mem
    rcases mem_updateOne mem with mem | ⟨before, found, rfl⟩
    · exact kept doc mem
    · rcases stable before found with published | unknown
      · exact .inr ⟨before, findOne_mem found, rfl, by simp [scenarioOf, publishAt, published]⟩
      · exact .inl unknown
  | delete deletes checked =>
    exact inv.write fun doc mem => kept doc (List.mem_of_mem_eraseP mem)

omit [DecidableEq R] [DecidableEq C] in
theorem known_of_mem {σ : Runtime C R X G} (mem : (key, compiled) ∈ σ.cache) :
    Known request σ key compiled.scenario := .inl ⟨compiled, mem, rfl⟩

theorem step_inv {σ τ : Runtime C R X G} {l : Label C R} (inv : Inv request σ)
    (stable : Stable call request σ l) (stepped : step capacity compile call request σ l = some τ) :
    Inv request τ := by
  cases l with
  | repository c =>
    obtain ⟨store, moved, rfl⟩ := Option.map_eq_some_iff.mp stepped
    exact repository_inv inv stable moved
  | load r =>
    simp only [step] at stepped
    split at stepped
    · split at stepped
      · cases Option.some.inj stepped
        exact inv.finish (by simp) (fun _ _ => known_of_mem) (by simp)
      · rename_i doc found
        cases Option.some.inj stepped
        obtain ⟨mem, key⟩ := load_key found
        exact inv.loaded mem key (stable doc found)
    · cases stepped
  | lookup r =>
    simp only [step] at stepped
    split at stepped
    · rename_i scenario loaded
      have mine : Known request σ (requestKey (request r) scenario) scenario :=
        .inr ⟨r, loaded, rfl⟩
      split at stepped
      · rename_i hit found
        cases Option.some.inj stepped
        refine inv.finish (by simp) (fun _ _ mem => known_of_mem (Lru.mem_of_touch mem)) ?_
        intro _ _ same
        cases same
        exact inv.agree (known_of_mem (mem_of_lookup found)) mine
      · split at stepped
        · cases Option.some.inj stepped
          exact inv.finish (by simp) (fun _ _ => known_of_mem) (by simp)
        · rename_i graph compiled
          cases Option.some.inj stepped
          refine inv.finish (by simp) ?_ ?_
          · intro key entry mem
            rcases Lru.mem_of_put mem with same | mem
            · cases same
              exact mine
            · exact known_of_mem mem
          · intro _ _ same
            cases same
            rfl
    · cases stepped

/-- An empty cache beside any collection. -/
def Runtime.initial (C R G : Type) (docs : List (Stored X))
    (assigned : List (String × String × Int)) : Runtime C R X G :=
  ⟨State.initial C docs assigned, fun _ => .idle, []⟩

/-- Every compiled scenario that a call returns is that of its own load, on every
run in which no version changes while it is known. -/
theorem cache_coherent
    (stable : Along (step capacity compile call request) (Stable call request)
      (Runtime.initial C R G docs assigned) labels)
    (run : exec (step capacity compile call request) (Runtime.initial C R G docs assigned) labels =
      some σ) : Coherent σ := by
  have initial : Inv request (Runtime.initial C R G docs assigned) := by
    have unknown : ∀ {key scenario},
        ¬Known request (Runtime.initial C R G docs assigned) key scenario := by
      rintro key scenario (⟨compiled, mem, -⟩ | ⟨r, loaded, -⟩)
      · cases mem
      · cases loaded
    refine ⟨fun known => absurd known unknown, fun _ _ _ known => absurd known unknown, ?_⟩
    intro r scenario compiled returned
    cases returned
  exact (exec_invariant step_inv stable run initial).coherent

inductive Edit where
  | save (content : String)
  | publish
  | delete
  deriving DecidableEq

/-- Edits of one scenario, whose first version is published and deleted. -/
def edits : Edit → Call String
  | .save content => .save (draftOf content) "now"
  | .publish => .publish "t" "s" 1 "later"
  | .delete => .deleteVersion "t" "s" 1

/-- One call for the first version, and another one for that or the published one. -/
def asks (version : Option Int) : Bool → Request
  | false => ⟨"t", "s", some 1⟩
  | true => ⟨"t", "s", version⟩

/-- A compiler that accepts everything, as a dry run does. -/
def stepEdits (version : Option Int) :
    Runtime Edit Bool String Unit → Label Edit Bool → Option (Runtime Edit Bool String Unit) :=
  step 256 (fun _ => .ok ()) edits (asks version)

def saves (content : String) : List (Label Edit Bool) :=
  [.repository (.save content), .repository (.save content)]

def gets (r : Bool) : List (Label Edit Bool) := [.load r, .lookup r]

/-- Writes before anything is known, and loads while no number is stored twice. -/
def quiet (σ : Runtime Edit Bool String Unit) : Label Edit Bool → Bool
  | .repository _ => σ.cache = [] ∧ ∀ r, σ.progress r = .idle
  | .load _ => ∀ first ∈ σ.store.docs, ∀ second ∈ σ.store.docs, keyOf first = keyOf second →
      scenarioOf first = scenarioOf second
  | .lookup _ => true

theorem stable_of_quiet {version : Option Int} (σ : Runtime Edit Bool String Unit)
    (l : Label Edit Bool) (checked : quiet σ l = true) : Stable edits (asks version) σ l := by
  cases l with
  | repository c =>
    simp only [quiet, decide_eq_true_eq] at checked
    have unknown : ∀ key, Unknown (asks version) σ key := by
      rintro key scenario (⟨compiled, mem, -⟩ | ⟨r, loaded, -⟩)
      · rw [checked.1] at mem
        cases mem
      · rw [checked.2 r] at loaded
        cases loaded
    simp only [Stable]
    split
    · exact unknown _
    · exact fun doc _ _ => unknown (keyOf doc)
    · exact fun doc _ => .inr (unknown (keyOf doc))
    · trivial
  | load r =>
    simp only [quiet, decide_eq_true_eq] at checked
    exact fun doc found other mem same => checked other mem doc (load_key found).1 same
  | lookup r => trivial

/-- What a call returns at the end of a run. -/
def returns (version : Option Int) (labels : List (Label Edit Bool)) (r : Bool) :
    Option (Progress String Unit) :=
  (exec (stepEdits version) (Runtime.initial _ _ _ [] []) labels).map (·.progress r)

theorem cache_coherent_twice :
    ∃ σ, exec (stepEdits (some 1)) (Runtime.initial _ _ _ [] [])
        (saves "a" ++ gets false ++ gets true) = some σ ∧
      σ.progress true = .returned ⟨"t", "s", 1, false, "now", "a"⟩
        ⟨⟨"t", "s", 1, false, "now", "a"⟩, ()⟩ ∧ Coherent σ := by
  have stable : Along (stepEdits (some 1)) (Stable edits (asks (some 1)))
      (Runtime.initial _ _ _ [] []) (saves "a" ++ gets false ++ gets true) :=
    along_of_bool stable_of_quiet (by decide +kernel)
  have returned : returns (some 1) (saves "a" ++ gets false ++ gets true) true =
      some (.returned ⟨"t", "s", 1, false, "now", "a"⟩
        ⟨⟨"t", "s", 1, false, "now", "a"⟩, ()⟩) := by decide +kernel
  obtain ⟨σ, run, same⟩ := Option.map_eq_some_iff.mp returned
  exact ⟨σ, run, same, cache_coherent stable run⟩

/-- A version that is published or replaced after it was cached is returned as it
was before. -/
theorem cache_stale :
    (∃ σ, exec (stepEdits none) (Runtime.initial _ _ _ [] []) (saves "a" ++ gets false ++
        [.repository .publish, .repository .publish, .repository .publish] ++ gets true) = some σ ∧
      σ.progress true = .returned ⟨"t", "s", 1, true, "now", "a"⟩
        ⟨⟨"t", "s", 1, false, "now", "a"⟩, ()⟩ ∧ ¬Coherent σ) ∧
    ∃ σ, exec (stepEdits (some 1)) (Runtime.initial _ _ _ [] []) (saves "a" ++ gets false ++
        [.repository .delete, .repository .delete] ++ saves "b" ++ gets true) = some σ ∧
      σ.progress true = .returned ⟨"t", "s", 1, false, "now", "b"⟩
        ⟨⟨"t", "s", 1, false, "now", "a"⟩, ()⟩ ∧ ¬Coherent σ := by
  have stale : ∀ {version labels scenario compiled},
      returns version labels true = some (.returned scenario compiled) →
      compiled.scenario ≠ scenario →
      ∃ σ, exec (stepEdits version) (Runtime.initial _ _ _ [] []) labels = some σ ∧
        σ.progress true = .returned scenario compiled ∧ ¬Coherent σ := by
    intro version labels scenario compiled returned differs
    obtain ⟨σ, run, same⟩ := Option.map_eq_some_iff.mp returned
    exact ⟨σ, run, same, fun coherent => differs (coherent _ _ _ same)⟩
  exact ⟨stale (by decide +kernel) (by decide), stale (by decide +kernel) (by decide)⟩

end AgentOE.Agentic.GraphCache
