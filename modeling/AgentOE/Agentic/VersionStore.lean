import AgentOE.Transition
import AgentOE.Collection

/-! The `scenarios` collection under concurrent calls of `save`, `publish` and
`delete_version` for any tenants and scenario ids, one MongoDB operation at a
time. The collection has no unique index. -/
namespace AgentOE.Agentic.VersionStore
open Transition Collection

inductive Result where
  | ok
  | notFound
  | conflict
  deriving DecidableEq

/-- The MongoDB operation that a call has behind it. -/
inductive Status where
  | idle
  | latestRead (next : Int)
  | targetFound
  | othersCleared
  | deletable
  | returned (result : Result)
  deriving DecidableEq

structure Stored (X : Type) where
  tenantId : String
  scenarioId : String
  version : Int
  published : Bool
  createdAt : String
  updatedAt : String
  content : X
  deriving DecidableEq

/-- What the caller of `save` provides; its version and `published` are ignored. -/
structure Draft (X : Type) where
  tenantId : String
  scenarioId : String
  createdAt : Option String
  content : X
  deriving DecidableEq

/-- Calls with the time that they read from the clock. -/
inductive Call (X : Type) where
  | save (draft : Draft X) (now : String)
  | publish (tenantId scenarioId : String) (version : Int) (now : String)
  | deleteVersion (tenantId scenarioId : String) (version : Int)
  deriving DecidableEq

/-- `assigned` is a history variable: the numbers given out so far. -/
structure State (C X : Type) where
  docs : List (Stored X)
  status : C → Status
  assigned : List (String × String × Int)

variable {C X : Type} [DecidableEq C]

def Stored.triple (doc : Stored X) : String × String × Int :=
  (doc.tenantId, doc.scenarioId, doc.version)

def ofScenario (tenantId scenarioId : String) (doc : Stored X) : Bool :=
  doc.tenantId = tenantId ∧ doc.scenarioId = scenarioId

def ofVersion (tenantId scenarioId : String) (version : Int) (doc : Stored X) : Bool :=
  doc.triple = (tenantId, scenarioId, version)

def isPublished (tenantId scenarioId : String) (doc : Stored X) : Bool :=
  ofScenario tenantId scenarioId doc && doc.published

/-- `latest.version + 1`, or `1`. -/
def nextVersion (tenantId scenarioId : String) (docs : List (Stored X)) : Int :=
  (((docs.filter (ofScenario tenantId scenarioId)).map Stored.version).max?).elim 1 (· + 1)

/-- The document of a `save`. -/
def Draft.stored (draft : Draft X) (now : String) (version : Int) : Stored X where
  tenantId := draft.tenantId
  scenarioId := draft.scenarioId
  version := version
  published := false
  createdAt := (draft.createdAt.filter (· ≠ "")).getD now
  updatedAt := now
  content := draft.content

def unpublish (doc : Stored X) : Stored X := { doc with published := false }

def publishAt (now : String) (doc : Stored X) : Stored X :=
  { doc with published := true, updatedAt := now }

def State.moveTo (σ : State C X) (c : C) (docs : List (Stored X)) (status : Status) : State C X :=
  { σ with docs := docs, status := Function.update σ.status c status }

def State.insert (σ : State C X) (c : C) (doc : Stored X) : State C X where
  docs := insertOne doc σ.docs
  status := Function.update σ.status c (.returned .ok)
  assigned := σ.assigned ++ [doc.triple]

variable (call : C → Call X)

/-- The next MongoDB operation of a call. -/
def step (σ : State C X) (c : C) : Option (State C X) :=
  match call c, σ.status c with
  | .save draft _, .idle =>
    some (σ.moveTo c σ.docs
      (.latestRead (nextVersion draft.tenantId draft.scenarioId σ.docs)))
  | .save draft now, .latestRead next => some (σ.insert c (draft.stored now next))
  | .publish tenantId scenarioId version _, .idle =>
    match findOne (ofVersion tenantId scenarioId version) σ.docs with
    | none => some (σ.moveTo c σ.docs (.returned .notFound))
    | some _ => some (σ.moveTo c σ.docs .targetFound)
  | .publish tenantId scenarioId _ _, .targetFound =>
    some (σ.moveTo c (updateMany (isPublished tenantId scenarioId) unpublish σ.docs) .othersCleared)
  | .publish tenantId scenarioId version now, .othersCleared =>
    match findOne (ofVersion tenantId scenarioId version) σ.docs with
    | none => some (σ.moveTo c σ.docs (.returned .conflict))
    | some _ => some (σ.moveTo c
        (updateOne (ofVersion tenantId scenarioId version) (publishAt now) σ.docs) (.returned .ok))
  | .deleteVersion tenantId scenarioId version, .idle =>
    match findOne (ofVersion tenantId scenarioId version) σ.docs with
    | none => some (σ.moveTo c σ.docs (.returned .notFound))
    | some doc =>
      if doc.published then some (σ.moveTo c σ.docs (.returned .conflict))
      else some (σ.moveTo c σ.docs .deletable)
  | .deleteVersion tenantId scenarioId version, .deletable =>
    some (σ.moveTo c (deleteOne (ofVersion tenantId scenarioId version) σ.docs) (.returned .ok))
  | _, _ => none

/-- What one operation can do. -/
inductive Stepped (σ : State C X) (c : C) : State C X → Prop where
  | read {draft : Draft X} {now : String} (saves : call c = .save draft now)
      (idle : σ.status c = .idle) :
      Stepped σ c (σ.moveTo c σ.docs
        (.latestRead (nextVersion draft.tenantId draft.scenarioId σ.docs)))
  | insert {draft : Draft X} {now : String} {next : Int} (saves : call c = .save draft now)
      (read : σ.status c = .latestRead next) : Stepped σ c (σ.insert c (draft.stored now next))
  | look {status : Status} (quiet : ∀ next, status ≠ .latestRead next) :
      Stepped σ c (σ.moveTo c σ.docs status)
  | clear {tenantId scenarioId now : String} {version : Int}
      (publishes : call c = .publish tenantId scenarioId version now)
      (found : σ.status c = .targetFound) :
      Stepped σ c (σ.moveTo c (updateMany (isPublished tenantId scenarioId) unpublish σ.docs)
        .othersCleared)
  | publish {tenantId scenarioId now : String} {version : Int}
      (publishes : call c = .publish tenantId scenarioId version now)
      (cleared : σ.status c = .othersCleared) :
      Stepped σ c (σ.moveTo c
        (updateOne (ofVersion tenantId scenarioId version) (publishAt now) σ.docs) (.returned .ok))
  | delete {tenantId scenarioId : String} {version : Int}
      (deletes : call c = .deleteVersion tenantId scenarioId version)
      (checked : σ.status c = .deletable) :
      Stepped σ c (σ.moveTo c (deleteOne (ofVersion tenantId scenarioId version) σ.docs)
        (.returned .ok))

variable {call}

theorem step_cases {σ τ : State C X} {c : C} (stepped : step call σ c = some τ) :
    Stepped call σ c τ := by
  unfold step at stepped
  split at stepped
  · rename_i saves idle
    cases Option.some.inj stepped
    exact .read saves idle
  · rename_i saves read
    cases Option.some.inj stepped
    exact .insert saves read
  · split at stepped
    · cases Option.some.inj stepped
      exact .look (by simp)
    · cases Option.some.inj stepped
      exact .look (by simp)
  · rename_i publishes found
    cases Option.some.inj stepped
    exact .clear publishes found
  · rename_i publishes cleared
    split at stepped
    · cases Option.some.inj stepped
      exact .look (by simp)
    · cases Option.some.inj stepped
      exact .publish publishes cleared
  · split at stepped
    · cases Option.some.inj stepped
      exact .look (by simp)
    · split at stepped
      · cases Option.some.inj stepped
        exact .look (by simp)
      · cases Option.some.inj stepped
        exact .look (by simp)
  · rename_i deletes checked
    cases Option.some.inj stepped
    exact .delete deletes checked
  · cases stepped

/-- A number identifies one document, now and in the whole history. -/
structure Identified (σ : State C X) : Prop where
  distinct : (σ.docs.map Stored.triple).Nodup
  once : σ.assigned.Nodup

def ofDraft (draft : Draft X) (number : String × String × Int) : Prop :=
  number.1 = draft.tenantId ∧ number.2.1 = draft.scenarioId

def sameScenario (draft other : Draft X) : Prop :=
  draft.tenantId = other.tenantId ∧ draft.scenarioId = other.scenarioId

variable (call)

/-- A `save` reads the latest version while no other `save` of the scenario has
read it without inserting, and while no higher number than the ones in the
collection was ever given out. -/
def Serialised (σ : State C X) (c : C) : Prop :=
  match call c, σ.status c with
  | .save draft _, .idle =>
    (∀ d other now next, call d = .save other now → sameScenario draft other →
      σ.status d ≠ .latestRead next) ∧
    ∀ number ∈ σ.assigned, ofDraft draft number →
      number.2.2 < nextVersion draft.tenantId draft.scenarioId σ.docs
  | _, _ => True

structure Inv (σ : State C X) : Prop where
  identified : Identified σ
  recorded : ∀ doc ∈ σ.docs, doc.triple ∈ σ.assigned
  ahead : ∀ {c draft now next}, call c = .save draft now → σ.status c = .latestRead next →
    ∀ number ∈ σ.assigned, ofDraft draft number → number.2.2 < next
  alone : ∀ {c d draft other now later next after}, call c = .save draft now →
    call d = .save other later → sameScenario draft other → σ.status c = .latestRead next →
    σ.status d = .latestRead after → c = d

variable {call}

namespace Inv
variable {σ : State C X} {c : C}

/-- No call starts to insert, and documents are at most lost. -/
theorem move (inv : Inv call σ) {docs : List (Stored X)} {status : Status}
    (fewer : (docs.map Stored.triple).Sublist (σ.docs.map Stored.triple))
    (quiet : ∀ next, status ≠ .latestRead next) : Inv call (σ.moveTo c docs status) := by
  have back : ∀ {d next}, (σ.moveTo c docs status).status d = .latestRead next →
      σ.status d = .latestRead next := by
    intro d next pending
    by_cases here : d = c
    · simp [State.moveTo, here, quiet] at pending
    · simpa [State.moveTo, here] using pending
  refine ⟨⟨inv.identified.distinct.sublist fewer, inv.identified.once⟩, ?_, ?_, ?_⟩
  · intro doc mem
    obtain ⟨old, inside, same⟩ := List.mem_map.mp (fewer.subset (List.mem_map_of_mem mem))
    exact same ▸ inv.recorded old inside
  · exact fun saves pending => inv.ahead saves (back pending)
  · exact fun saves also same pending waiting =>
      inv.alone saves also same (back pending) (back waiting)

theorem read (inv : Inv call σ) (saves : call c = .save draft now)
    (free : ∀ d other now next, call d = .save other now → sameScenario draft other →
      σ.status d ≠ .latestRead next)
    (above : ∀ number ∈ σ.assigned, ofDraft draft number → number.2.2 < version) :
    Inv call (σ.moveTo c σ.docs (.latestRead version)) := by
  refine ⟨⟨inv.identified.distinct, inv.identified.once⟩, inv.recorded, ?_, ?_⟩
  · intro d other later next also pending
    by_cases here : d = c
    · subst here
      cases saves.symm.trans also
      have same : version = next := by simpa [State.moveTo] using pending
      exact same ▸ above
    · exact inv.ahead also (by simpa [State.moveTo, here] using pending)
  · intro d e first second later last next after savesFirst savesSecond same pending waiting
    by_cases left : d = c
    · by_cases right : e = c
      · exact left.trans right.symm
      · subst left
        cases saves.symm.trans savesFirst
        exact absurd (by simpa [State.moveTo, right] using waiting)
          (free e _ _ after savesSecond same)
    · by_cases right : e = c
      · subst right
        cases saves.symm.trans savesSecond
        exact absurd (by simpa [State.moveTo, left] using pending)
          (free d _ _ next savesFirst ⟨same.1.symm, same.2.symm⟩)
      · exact inv.alone savesFirst savesSecond same (by simpa [State.moveTo, left] using pending)
          (by simpa [State.moveTo, right] using waiting)

theorem insert (inv : Inv call σ) (saves : call c = .save draft now)
    (read : σ.status c = .latestRead next) : Inv call (σ.insert c (draft.stored now next)) := by
  have fresh : (draft.stored now next).triple ∉ σ.assigned := by
    intro mem
    exact Int.lt_irrefl next (inv.ahead saves read _ mem ⟨rfl, rfl⟩)
  have unseen : ∀ doc ∈ σ.docs, doc.triple ≠ (draft.stored now next).triple := fun doc mem same =>
    fresh (same ▸ inv.recorded doc mem)
  have back : ∀ {d after}, (σ.insert c (draft.stored now next)).status d = .latestRead after →
      d ≠ c ∧ σ.status d = .latestRead after := by
    intro d after pending
    have other : d ≠ c := by
      rintro rfl
      simp [State.insert] at pending
    exact ⟨other, by simpa [State.insert, other] using pending⟩
  refine ⟨⟨?_, ?_⟩, ?_, ?_, ?_⟩
  · simp only [State.insert, insertOne, List.map_append, List.map_singleton]
    refine List.nodup_append.mpr ⟨inv.identified.distinct, List.nodup_singleton _, ?_⟩
    intro number mem last inside same
    cases List.mem_singleton.mp inside
    obtain ⟨doc, stored, rfl⟩ := List.mem_map.mp mem
    exact unseen doc stored same
  · refine List.nodup_append.mpr ⟨inv.identified.once, List.nodup_singleton _, ?_⟩
    intro number mem last inside same
    cases List.mem_singleton.mp inside
    exact fresh (same ▸ mem)
  · intro doc mem
    rcases List.mem_append.mp mem with mem | mem
    · exact List.mem_append_left _ (inv.recorded doc mem)
    · cases List.mem_singleton.mp mem
      exact List.mem_append_right _ (List.mem_singleton.mpr rfl)
  · intro d other later after also pending number mem ours
    obtain ⟨elsewhere, waiting⟩ := back pending
    rcases List.mem_append.mp mem with mem | mem
    · exact inv.ahead also waiting number mem ours
    · cases List.mem_singleton.mp mem
      exact absurd (inv.alone also saves ⟨ours.1.symm, ours.2.symm⟩ waiting read) elsewhere
  · exact fun first second same pending waiting =>
      inv.alone first second same (back pending).2 (back waiting).2

end Inv

theorem triple_updateMany (p : Stored X → Bool) (docs : List (Stored X)) :
    (updateMany p unpublish docs).map Stored.triple = docs.map Stored.triple := by
  apply forall₂_map_eq (R := fun doc doc' => doc'.triple = doc.triple)
  · exact forall₂_updateMany (fun _ => rfl) fun _ _ => rfl
  · exact fun _ _ same => same

theorem triple_updateOne (p : Stored X → Bool) (now : String) (docs : List (Stored X)) :
    (updateOne p (publishAt now) docs).map Stored.triple = docs.map Stored.triple := by
  apply forall₂_map_eq (R := fun doc doc' => doc'.triple = doc.triple)
  · exact forall₂_updateOne (fun _ => rfl) fun _ _ => rfl
  · exact fun _ _ same => same

theorem step_inv {σ τ : State C X} {c : C} (inv : Inv call σ) (serialised : Serialised call σ c)
    (stepped : step call σ c = some τ) : Inv call τ := by
  cases step_cases stepped with
  | read saves idle =>
    simp only [Serialised, saves, idle] at serialised
    exact inv.read saves serialised.1 serialised.2
  | insert saves read => exact inv.insert saves read
  | look quiet => exact inv.move (List.Sublist.refl _) quiet
  | clear publishes found =>
    exact inv.move (by rw [triple_updateMany]) (by simp)
  | publish publishes cleared =>
    exact inv.move (by rw [triple_updateOne]) (by simp)
  | delete deletes checked =>
    exact inv.move ((List.eraseP_sublist).map _) (by simp)

/-- The collection before the calls, with the numbers given out until then. -/
def State.initial (C : Type) (docs : List (Stored X)) (assigned : List (String × String × Int)) :
    State C X := ⟨docs, fun _ => .idle, assigned⟩

/-- Version numbers identify contents on every interleaving whose saves read in turn. -/
theorem versions_identify (identified : Identified (State.initial C docs assigned))
    (recorded : ∀ doc ∈ docs, doc.triple ∈ assigned)
    (serialised : Along (step call) (Serialised call) (State.initial C docs assigned) calls)
    (run : exec (step call) (State.initial C docs assigned) calls = some σ) : Identified σ := by
  have initial : Inv call (State.initial C docs assigned) := by
    refine ⟨identified, recorded, ?_, ?_⟩
    · intro c draft now next _ pending
      cases pending
    · intro c d draft other now later next after _ _ _ pending
      cases pending
  exact (exec_invariant step_inv serialised run initial).identified

def draftOf (content : String) : Draft String := ⟨"t", "s", none, content⟩

/-- Saves of one scenario, with the content as the call's name, and the deletion of
its first version. -/
def editing : Option String → Call String
  | some content => .save (draftOf content) "now"
  | none => .deleteVersion "t" "s" 1

/-- Two versions are saved, the first is deleted and a third is saved. -/
def revising : Fin 4 → Call String
  | 0 => .save (draftOf "a") "now"
  | 1 => .save (draftOf "b") "now"
  | 2 => .deleteVersion "t" "s" 1
  | 3 => .save (draftOf "c") "now"

def Status.reading : Status → Bool
  | .latestRead _ => true
  | _ => false

/-- A call that starts does so while no other one is between its read and its insert, and with
all the numbers given out below the next one. -/
def startsAlone (σ : State (Fin 4) String) (c : Fin 4) : Bool :=
  σ.status c ≠ .idle || (decide (∀ d, (σ.status d).reading = false) &&
    σ.assigned.all fun number => number.2.2 < nextVersion "t" "s" σ.docs)

theorem startsAlone_serialised (σ : State (Fin 4) String) (c : Fin 4)
    (starts : startsAlone σ c = true) :
    Serialised revising σ c := by
  unfold Serialised
  split
  · rename_i draft now saves idle
    simp only [startsAlone, idle, ne_eq, not_true_eq_false, decide_false, Bool.false_or,
      Bool.and_eq_true, decide_eq_true_eq, List.all_eq_true] at starts
    obtain ⟨alone, below⟩ := starts
    constructor
    · intro d other later next _ _ pending
      have reading := alone d
      rw [pending] at reading
      cases reading
    · intro number mem _
      have addressed : draft.tenantId = "t" ∧ draft.scenarioId = "s" := by
        match c with
        | 0 | 1 | 3 =>
          cases saves
          exact ⟨rfl, rfl⟩
        | 2 => cases saves
      rw [addressed.1, addressed.2]
      exact below number mem
  · trivial

theorem versions_identify_save_delete :
    ∃ σ, exec (step revising) (State.initial (Fin 4) [] []) [0, 0, 1, 1, 2, 2, 3, 3] = some σ ∧
      σ.assigned = [("t", "s", 1), ("t", "s", 2), ("t", "s", 3)] ∧
      σ.docs.map (fun doc => (doc.version, doc.content)) = [(2, "b"), (3, "c")] ∧ Identified σ := by
  have serialised : Along (step revising) (Serialised revising) (State.initial (Fin 4) [] [])
      [0, 0, 1, 1, 2, 2, 3, 3] :=
    along_of_bool startsAlone_serialised (by decide +kernel)
  have empty : Identified (State.initial (Fin 4) ([] : List (Stored String)) []) :=
    ⟨List.nodup_nil, List.nodup_nil⟩
  exact ⟨_, rfl, by decide +kernel, by decide +kernel,
    versions_identify empty (by simp) serialised rfl⟩

/-- Two saves that read before either inserts store one number twice. A number is
also given out again once its document was deleted. -/
theorem version_reused :
    (∃ σ, exec (step editing) (State.initial _ [] []) [some "a", some "b", some "a", some "b"] =
        some σ ∧
      σ.docs.map (fun doc => (doc.triple, doc.content)) =
        [(("t", "s", 1), "a"), (("t", "s", 1), "b")] ∧ ¬Identified σ) ∧
    ∃ σ, exec (step editing) (State.initial _ [] [])
        [some "a", some "a", none, none, some "b", some "b"] = some σ ∧
      σ.assigned = [("t", "s", 1), ("t", "s", 1)] ∧ ¬Identified σ := by
  refine ⟨⟨_, rfl, by decide +kernel, ?_⟩, ⟨_, rfl, by decide +kernel, ?_⟩⟩
  · intro identified
    exact absurd identified.distinct (by decide +kernel)
  · intro identified
    exact absurd identified.once (by decide +kernel)

end AgentOE.Agentic.VersionStore
