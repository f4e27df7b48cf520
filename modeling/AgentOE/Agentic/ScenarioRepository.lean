import AgentOE.Agentic.VersionStore

/-! Publication: the calls of `VersionStore` for one tenant and scenario id, on a
collection that may hold any other documents as well. -/
namespace AgentOE.Agentic.ScenarioRepository
open Transition Collection VersionStore

variable {C X : Type} [DecidableEq C] (tenantId scenarioId : String) (call : C → Call X)

def address : Call X → String × String
  | .save draft _ => (draft.tenantId, draft.scenarioId)
  | .publish tenantId scenarioId _ _ => (tenantId, scenarioId)
  | .deleteVersion tenantId scenarioId _ => (tenantId, scenarioId)

/-- The version that a `publish` is to publish. -/
def publishing : Call X → Option Int
  | .publish _ _ version _ => some version
  | _ => none

def published (docs : List (Stored X)) : List (Stored X) :=
  docs.filter (isPublished tenantId scenarioId)

def Quiescent (σ : State C X) : Prop :=
  ∀ c, σ.status c = .idle ∨ ∃ result, σ.status c = .returned result

/-- Some `publish` has returned successfully. -/
def PublishedOnce (σ : State C X) : Prop :=
  ∃ c version, publishing (call c) = some version ∧ σ.status c = .returned .ok

structure Safe (σ : State C X) : Prop where
  unique : (published tenantId scenarioId σ.docs).length ≤ 1
  settled : Quiescent σ → PublishedOnce call σ →
    (published tenantId scenarioId σ.docs).length = 1

/-- The interleavings on which publication is safe: no `publish` clears the
others while another one has yet to set its version, and a version is deleted
only while it is unpublished and no `publish` of it is under way. -/
def Disciplined (σ : State C X) (c : C) : Prop :=
  match call c, σ.status c with
  | .publish .., .targetFound => ∀ d, σ.status d ≠ .othersCleared
  | .deleteVersion _ _ version, .deletable =>
    (∀ doc ∈ σ.docs, ofVersion tenantId scenarioId version doc = true → doc.published = false) ∧
    ∀ d, publishing (call d) = some version →
      σ.status d ≠ .targetFound ∧ σ.status d ≠ .othersCleared
  | _, _ => True

structure Inv (σ : State C X) : Prop where
  target : ∀ c version, publishing (call c) = some version →
    σ.status c = .targetFound ∨ σ.status c = .othersCleared →
    ∃ doc ∈ σ.docs, ofVersion tenantId scenarioId version doc = true
  single : ∀ c d, σ.status c = .othersCleared → σ.status d = .othersCleared → c = d
  cleared : ∀ c, σ.status c = .othersCleared → published tenantId scenarioId σ.docs = []
  unique : (published tenantId scenarioId σ.docs).length ≤ 1
  settled : PublishedOnce call σ → (∃ c, σ.status c = .othersCleared) ∨
    (published tenantId scenarioId σ.docs).length = 1

variable {tenantId scenarioId call}

namespace Inv
variable {σ : State C X}

omit [DecidableEq C] in
theorem initial {docs : List (Stored X)} (unique : (published tenantId scenarioId docs).length ≤ 1)
    (assigned : List (String × String × Int)) :
    Inv tenantId scenarioId call (State.initial C docs assigned) := by
  refine ⟨?_, ?_, ?_, unique, ?_⟩
  · intro c version _ busy
    rcases busy with busy | busy <;> cases busy
  · intro c d busy
    cases busy
  · intro c busy
    cases busy
  · rintro ⟨c, version, -, returned⟩
    cases returned

omit [DecidableEq C] in
theorem safe (inv : Inv tenantId scenarioId call σ) : Safe tenantId scenarioId call σ := by
  refine ⟨inv.unique, fun quiescent once => ?_⟩
  rcases inv.settled once with ⟨c, busy⟩ | one
  · rcases quiescent c with idle | ⟨result, returned⟩
    · rw [idle] at busy
      cases busy
    · rw [returned] at busy
      cases busy
  · exact one

/-- A call moves on without being a `publish` that clears or sets versions: the
published documents and the targets of the other calls stay. -/
theorem move (inv : Inv tenantId scenarioId call σ) {c : C} {docs : List (Stored X)}
    {status : Status}
    (same : published tenantId scenarioId docs = published tenantId scenarioId σ.docs)
    (before : σ.status c ≠ .othersCleared) (after : status ≠ .othersCleared)
    (targets : ∀ d version, d ≠ c → publishing (call d) = some version →
      σ.status d = .targetFound ∨ σ.status d = .othersCleared →
      ∃ doc ∈ docs, ofVersion tenantId scenarioId version doc = true)
    (own : ∀ version, publishing (call c) = some version → status = .targetFound →
      ∃ doc ∈ docs, ofVersion tenantId scenarioId version doc = true)
    (quiet : ∀ version, publishing (call c) = some version → status ≠ .returned .ok) :
    Inv tenantId scenarioId call (σ.moveTo c docs status) := by
  have back : ∀ d, (σ.moveTo c docs status).status d = .othersCleared →
      σ.status d = .othersCleared := by
    intro d busy
    by_cases here : d = c
    · simp [State.moveTo, here, after] at busy
    · simpa [State.moveTo, here] using busy
  have forth : ∀ d, σ.status d = .othersCleared →
      (σ.moveTo c docs status).status d = .othersCleared := by
    intro d busy
    have other : d ≠ c := fun here => before (here ▸ busy)
    simpa [State.moveTo, other] using busy
  constructor
  · intro d version publishes busy
    by_cases here : d = c
    · subst here
      rcases busy with busy | busy
      · exact own version publishes (by simpa [State.moveTo] using busy)
      · exact absurd (by simpa [State.moveTo] using busy) after
    · exact targets d version here publishes (by simpa [State.moveTo, here] using busy)
  · intro d e first second
    exact inv.single d e (back d first) (back e second)
  · intro d busy
    exact same.trans (inv.cleared d (back d busy))
  · exact same ▸ inv.unique
  · rintro ⟨d, version, publishes, returned⟩
    have other : d ≠ c := by
      rintro rfl
      exact quiet version publishes (by simpa [State.moveTo] using returned)
    rcases inv.settled ⟨d, version, publishes, by simpa [State.moveTo, other] using returned⟩
      with ⟨e, busy⟩ | one
    · exact .inl ⟨e, forth e busy⟩
    · exact .inr (same ▸ one)

/-- A read, with what a `publish` needs to have found. -/
theorem read (inv : Inv tenantId scenarioId call σ) {c : C} {status : Status}
    (before : σ.status c = .idle) (after : status ≠ .othersCleared)
    (own : ∀ version, publishing (call c) = some version → status = .targetFound →
      ∃ doc ∈ σ.docs, ofVersion tenantId scenarioId version doc = true)
    (quiet : status ≠ .returned .ok) :
    Inv tenantId scenarioId call (σ.moveTo c σ.docs status) :=
  inv.move rfl (by simp [before]) after (fun d version _ => inv.target d version) own
    fun _ _ => quiet

/-- The write of a `save` or a `delete_version`. -/
theorem write (inv : Inv tenantId scenarioId call σ) {c : C} {docs : List (Stored X)}
    (same : published tenantId scenarioId docs = published tenantId scenarioId σ.docs)
    (before : σ.status c ≠ .othersCleared) (other : ∀ version, publishing (call c) ≠ some version)
    (targets : ∀ d version, publishing (call d) = some version →
      σ.status d = .targetFound ∨ σ.status d = .othersCleared →
      ∃ doc ∈ docs, ofVersion tenantId scenarioId version doc = true) :
    Inv tenantId scenarioId call (σ.moveTo c docs (.returned .ok)) :=
  inv.move same before (by simp) (fun d version _ => targets d version)
    (fun version publishes => absurd publishes (other version))
    fun version publishes => absurd publishes (other version)

/-- `update_many` of a `publish`, with no other one after its own. -/
theorem clear (inv : Inv tenantId scenarioId call σ) {c : C}
    (found : σ.status c = .targetFound) (alone : ∀ d, σ.status d ≠ .othersCleared) :
    Inv tenantId scenarioId call (σ.moveTo c (updateMany (isPublished tenantId scenarioId)
      unpublish σ.docs) .othersCleared) := by
  have empty : published tenantId scenarioId (updateMany (isPublished tenantId scenarioId)
      unpublish σ.docs) = [] := by
    apply filter_updateMany_eq_nil
    · intro doc
      simp [isPublished, unpublish]
    · exact fun doc selected => selected
  have only : ∀ d, (Function.update σ.status c .othersCleared) d = .othersCleared → d = c := by
    intro d busy
    by_contra here
    rw [Function.update_of_ne here] at busy
    exact alone d busy
  refine ⟨?_, ?_, fun _ _ => empty, ?_, ?_⟩
  · intro d version publishes busy
    apply exists_updateMany
    · intro doc
      rfl
    · by_cases here : d = c
      · exact inv.target d version publishes (.inl (here ▸ found))
      · exact inv.target d version publishes (by simpa [State.moveTo, here] using busy)
  · intro d e first second
    exact (only d first).trans (only e second).symm
  · simp [State.moveTo, empty]
  · exact fun _ => .inl ⟨c, by simp [State.moveTo]⟩

/-- `find_one_and_update` of a `publish`: its target is still there. -/
theorem set (inv : Inv tenantId scenarioId call σ) {c : C} {version : Int} (now : String)
    (publishes : publishing (call c) = some version) (busy : σ.status c = .othersCleared) :
    Inv tenantId scenarioId call (σ.moveTo c (updateOne (ofVersion tenantId scenarioId version)
      (publishAt now) σ.docs) (.returned .ok)) := by
  have one : (published tenantId scenarioId (updateOne (ofVersion tenantId scenarioId version)
      (publishAt now) σ.docs)).length = 1 := by
    apply length_filter_updateOne (inv.target c version publishes (.inr busy))
      (inv.cleared c busy)
    intro doc matched
    simp only [ofVersion, decide_eq_true_eq] at matched
    obtain ⟨tenant, scenario⟩ := Prod.mk.inj matched
    simp [isPublished, ofScenario, publishAt, tenant, (Prod.mk.inj scenario).1]
  have none : ∀ d, (Function.update σ.status c (.returned .ok)) d ≠ .othersCleared := by
    intro d other
    by_cases here : d = c
    · simp [here] at other
    · rw [Function.update_of_ne here] at other
      exact here (inv.single d c other busy)
  constructor
  · intro d wanted wants waits
    apply exists_updateOne
    · intro doc
      rfl
    · by_cases here : d = c
      · simp [State.moveTo, here] at waits
      · exact inv.target d wanted wants (by simpa [State.moveTo, here] using waits)
  · intro d e first
    exact absurd first (none d)
  · intro d other
    exact absurd other (none d)
  · exact Nat.le_of_eq one
  · exact fun _ => .inr one

end Inv

theorem published_insert (docs : List (Stored X)) (draft : Draft X) (now : String) (version : Int) :
    published tenantId scenarioId (insertOne (draft.stored now version) docs) =
      published tenantId scenarioId docs := by
  simp [published, insertOne, isPublished, Draft.stored]

/-- A `save` inserts an unpublished document. -/
theorem Inv.insert {σ : State C X} {c : C} (inv : Inv tenantId scenarioId call σ) {draft : Draft X}
    {now : String} {next : Int} (saves : call c = .save draft now)
    (read : σ.status c = .latestRead next) :
    Inv tenantId scenarioId call (σ.insert c (draft.stored now next)) := by
  have kept : Inv tenantId scenarioId call
      (σ.moveTo c (insertOne (draft.stored now next) σ.docs) (.returned .ok)) := by
    refine inv.write (published_insert σ.docs draft now next) (by simp [read])
      (by simp [saves, publishing]) ?_
    intro d version publishes busy
    obtain ⟨doc, mem, matched⟩ := inv.target d version publishes busy
    exact ⟨doc, List.mem_append_left _ mem, matched⟩
  exact ⟨kept.target, kept.single, kept.cleared, kept.unique, kept.settled⟩

theorem step_inv {σ τ : State C X} {c : C} (addressed : address (call c) = (tenantId, scenarioId))
    (inv : Inv tenantId scenarioId call σ) (disciplined : Disciplined tenantId scenarioId call σ c)
    (stepped : step call σ c = some τ) : Inv tenantId scenarioId call τ := by
  unfold step at stepped
  unfold Disciplined at disciplined
  split at stepped
  · rename_i saves idle
    cases Option.some.inj stepped
    exact inv.read idle (by simp) (fun _ _ busy => by cases busy) (by simp)
  · rename_i saves read
    cases Option.some.inj stepped
    exact inv.insert saves read
  · rename_i publishes idle
    rw [publishes] at addressed
    obtain ⟨rfl, rfl⟩ := Prod.mk.inj addressed
    split at stepped
    · cases Option.some.inj stepped
      exact inv.read idle (by simp) (fun _ _ busy => by cases busy) (by simp)
    · rename_i doc found
      cases Option.some.inj stepped
      refine inv.read idle (by simp) ?_ (by simp)
      intro wanted wants _
      rw [publishes] at wants
      cases Option.some.inj wants
      exact ⟨doc, findOne_mem found, findOne_match found⟩
  · rename_i publishes found
    rw [publishes] at addressed
    obtain ⟨rfl, rfl⟩ := Prod.mk.inj addressed
    cases Option.some.inj stepped
    simp only [publishes, found] at disciplined
    exact inv.clear found disciplined
  · rename_i version now publishes busy
    rw [publishes] at addressed
    obtain ⟨rfl, rfl⟩ := Prod.mk.inj addressed
    have target : publishing (call c) = some version := by rw [publishes, publishing]
    split at stepped
    · rename_i missing
      obtain ⟨doc, mem, matched⟩ := inv.target c version target (.inr busy)
      rw [findOne_none.mp missing doc mem] at matched
      cases matched
    · cases Option.some.inj stepped
      exact inv.set now target busy
  · rename_i deletes idle
    split at stepped
    · cases Option.some.inj stepped
      exact inv.read idle (by simp) (fun _ _ busy => by cases busy) (by simp)
    · split at stepped
      · cases Option.some.inj stepped
        exact inv.read idle (by simp) (fun _ _ busy => by cases busy) (by simp)
      · cases Option.some.inj stepped
        exact inv.read idle (by simp) (fun _ _ busy => by cases busy) (by simp)
  · rename_i version deletes checked
    rw [deletes] at addressed
    obtain ⟨rfl, rfl⟩ := Prod.mk.inj addressed
    cases Option.some.inj stepped
    simp only [deletes, checked] at disciplined
    obtain ⟨unpublished, unwanted⟩ := disciplined
    refine inv.write ?_ (by simp [checked]) (by simp [deletes, publishing]) ?_
    · apply filter_deleteOne
      intro doc mem matched
      simp [isPublished, unpublished doc mem matched]
    · intro d wanted publishes busy
      obtain ⟨doc, mem, matched⟩ := inv.target d wanted publishes busy
      refine ⟨doc, (List.mem_eraseP_of_neg ?_).mpr mem, matched⟩
      -- a document of the deleted version would be the target of a `publish` under way
      intro deleted
      have same : wanted = version := by
        simp only [ofVersion, decide_eq_true_eq] at matched deleted
        exact (Prod.mk.inj (Prod.mk.inj (matched.symm.trans deleted)).2).2
      obtain ⟨notFound, notCleared⟩ := unwanted d (same ▸ publishes)
      rcases busy with busy | busy
      · exact notFound busy
      · exact notCleared busy
  · cases stepped

theorem publication_safe (docs : List (Stored X)) (assigned : List (String × String × Int))
    (calls : List C) (σ : State C X)
    (addressed : ∀ c, address (call c) = (tenantId, scenarioId))
    (unique : (published tenantId scenarioId docs).length ≤ 1)
    (disciplined : Along (step call) (Disciplined tenantId scenarioId call)
      (State.initial C docs assigned) calls)
    (reached : exec (step call) (State.initial C docs assigned) calls = some σ) :
    Safe tenantId scenarioId call σ :=
  (exec_invariant (step_inv (addressed _)) disciplined reached (Inv.initial unique assigned)).safe

def draft : Draft Unit := ⟨"t_acme", "billing", none, ()⟩

/-- Two versions are saved; calls 2 and 3 publish them, call 4 deletes the first. -/
def desk : Fin 5 → Call Unit
  | 0 => .save draft "09:00"
  | 1 => .save draft "09:01"
  | 2 => .publish "t_acme" "billing" 1 "09:02"
  | 3 => .publish "t_acme" "billing" 2 "09:03"
  | 4 => .deleteVersion "t_acme" "billing" 1

instance {n : Nat} (call : Fin n → Call X) (σ : State (Fin n) X) (c : Fin n) :
    Decidable (Disciplined tenantId scenarioId call σ c) := by
  unfold Disciplined
  split <;> infer_instance

/-- One call after the other. -/
def inTurn : List (Fin 5) := [0, 0, 1, 1, 2, 2, 2, 3, 3, 3, 4, 4]

theorem publication_safe_in_turn :
    ∃ σ, exec (step desk) (State.initial (Fin 5) [] []) inTurn = some σ ∧
      (published "t_acme" "billing" σ.docs).length = 1 ∧ Safe "t_acme" "billing" desk σ := by
  have addressed : ∀ c, address (desk c) = ("t_acme", "billing") := by decide
  refine ⟨_, rfl, by decide +kernel, publication_safe [] [] inTurn _ addressed (by decide) ?_ rfl⟩
  decide +kernel

/-- Both versions are set after both `publish` calls have cleared the others. -/
def crossed : List (Fin 5) := [0, 0, 1, 1, 2, 3, 2, 3, 2, 3]

/-- The version disappears between the check and the update of its `publish`. -/
def vanished : List (Fin 5) := [0, 0, 1, 1, 3, 3, 3, 2, 4, 4, 2, 2]

/-- The version is published between the check and the delete. -/
def deletedWhilePublished : List (Fin 5) := [0, 0, 1, 1, 4, 2, 2, 2, 4]

theorem publication_unsafe :
    (∃ σ, exec (step desk) (State.initial (Fin 5) [] []) crossed = some σ ∧
      ¬Safe "t_acme" "billing" desk σ) ∧
    (∃ σ, exec (step desk) (State.initial (Fin 5) [] []) vanished = some σ ∧
      ¬Safe "t_acme" "billing" desk σ) ∧
    ∃ σ, exec (step desk) (State.initial (Fin 5) [] []) deletedWhilePublished =
      some σ ∧ ¬Safe "t_acme" "billing" desk σ := by
  refine ⟨⟨_, rfl, ?_⟩, ⟨_, rfl, ?_⟩, ⟨_, rfl, ?_⟩⟩
  · intro safe
    exact absurd safe.unique (by decide +kernel)
  · intro safe
    have one := safe.settled ?_ ⟨3, 2, rfl, rfl⟩
    · exact absurd one (by decide +kernel)
    · intro c
      match c with
      | 0 | 1 | 2 | 3 | 4 => exact .inr ⟨_, rfl⟩
  · intro safe
    have one := safe.settled ?_ ⟨2, 1, rfl, rfl⟩
    · exact absurd one (by decide +kernel)
    · intro c
      match c with
      | 0 | 1 | 2 | 4 => exact .inr ⟨_, rfl⟩
      | 3 => exact .inl rfl

end AgentOE.Agentic.ScenarioRepository
