import AgentOE.Session.Interleaving

/-! The Redis hot state against MongoDB, for the operations on one session run
one after the other. A failed read answers like a miss and a failed write leaves
the entry as it was. An expiry inside an operation has the effect of one right
before or right after it. -/
namespace AgentOE.Session.Cache
open Transition Collection
open Interleaving (Edit hello)

/-- Which Redis commands of one operation fail. -/
structure Faults where
  getFails : Bool
  setFails : Bool

def Faults.none : Faults := ⟨false, false⟩

inductive Operation where
  | create (tenantId clientId : String) (status : SessionState) (now : Nat)
  | saveTurn (fsm : SessionFSM) (turn : Turn) (now : Nat)
  | updateState (state : SessionState) (extra : Dict) (fsm : Option SessionFSM) (now : Nat)
  | restoreHotState
  | expire

variable (cfg : Config) (s : String)

def getOrMiss (faults : Faults) (σ : Store) : Option HotState :=
  if faults.getFails then none else getSessionState cfg σ s

def setOrKeep (faults : Faults) (σ : Store) (hot : HotState) : Store :=
  if faults.setFails then σ else setSessionState cfg σ s hot

/-- The last part of a writer: read the entry, edit it, write it back. -/
def editEntry (faults : Faults) (σ : Store) (fsm : SessionFSM) (edit : Edit) : Store :=
  setOrKeep cfg s faults σ (edit.apply fsm ((getOrMiss cfg s faults σ).getD .empty))

def perform (σ : Store) (faults : Faults) : Operation → Store
  | .create tenantId clientId status now =>
    if cfg.sessionIdUnique ∧ (findOne (bySession s) σ.sessions).isSome then σ
    else
      let doc : SessionDoc := ⟨s, tenantId, clientId, status, .initial, 0, now, now, none, none, []⟩
      setOrKeep cfg s faults { σ with sessions := insertOne doc σ.sessions }
        ⟨some status, some .initial, some [], some tenantId, some clientId, []⟩
  | .saveTurn fsm turn now =>
    let before := findOne (bySession s) σ.sessions
    let sessions := updateOne (bySession s) (fun doc => { doc with
      status := fsm.state, fsmSnapshot := fsm.toSnapshot, updatedAt := now,
      historyCount := doc.historyCount + 1 }) σ.sessions
    let doc : TurnDoc := ⟨s, (before.map SessionDoc.historyCount).getD 0, turn.userText,
      turn.aiText, turn.policyLevel, turn.latency, now⟩
    editEntry cfg s faults { σ with sessions := sessions, history := insertOne doc σ.history } fsm
      (.turn turn fsm.toSnapshot)
  | .updateState state extra fsm now =>
    match findOne (bySession s) σ.sessions with
    | none => σ
    | some _ =>
      let sessions := updateOne (bySession s) (fun doc => { doc with
        status := state, updatedAt := now, extra := updateDict doc.extra extra,
        fsmSnapshot := (fsm.map SessionFSM.toSnapshot).getD doc.fsmSnapshot }) σ.sessions
      editEntry cfg s faults { σ with sessions := sessions } (fsm.getD (.new state))
        (.state state extra fsm.isSome)
  | .restoreHotState =>
    match (getOrMiss cfg s faults σ).filter (· ≠ .empty) with
    | some _ => σ
    | none =>
      match getById σ s with
      | .error _ => σ
      | .ok doc =>
        if doc.status = .ended then σ
        else setOrKeep cfg s faults σ ⟨some doc.status, some doc.fsmSnapshot,
          some (getRecentHistory σ s redisHistoryTurns), some doc.tenantId, some doc.clientId, []⟩
  | .expire => deleteSessionState cfg σ s

def step (σ : Store) : Operation × Faults → Option Store
  | (operation, faults) => some (perform cfg s σ faults operation)

/-! Without faults these are the store's own operations. -/

theorem perform_create (σ : Store) (tenantId clientId : String) (status : SessionState)
    (now : Nat) : perform cfg s σ .none (.create tenantId clientId status now) =
      (create cfg σ ⟨s, tenantId, clientId, status⟩ now).2 := by
  simp only [perform, create]
  split <;> rfl

theorem perform_saveTurn (σ : Store) (fsm : SessionFSM) (turn : Turn) (now : Nat) :
    perform cfg s σ .none (.saveTurn fsm turn now) = saveTurn cfg σ s fsm turn now := rfl

theorem perform_updateState (σ : Store) (state : SessionState) (extra : Dict)
    (fsm : Option SessionFSM) (now : Nat) :
    perform cfg s σ .none (.updateState state extra fsm now) =
      (updateState cfg σ s state extra fsm now).2 := by
  unfold perform updateState
  cases found : findOne (bySession s) σ.sessions with
  | none => rfl
  | some doc => cases fsm <;> rfl

theorem perform_restoreHotState (σ : Store) :
    perform cfg s σ .none .restoreHotState = (restoreHotState cfg σ s).2 := by
  simp only [perform, restoreHotState, getOrMiss, Faults.none, Bool.false_eq_true, if_false]
  cases (getSessionState cfg σ s).filter (· ≠ .empty) with
  | some hot => simp only; split <;> rfl
  | none =>
    cases getById σ s with
    | error e => rfl
    | ok doc => simp only; split <;> rfl

/-! The two answers of `restore_hot_state`. -/

/-- The fields that recovery uses. -/
def view (hot : HotState) : HotState := { hot with extra := [] }

def answerFromRedis (σ : Store) : Option HotState := ((restoreHotState cfg σ s).1).map view

def answerFromMongo (σ : Store) : Option HotState :=
  ((restoreHotState cfg (deleteSessionState cfg σ s) s).1).map view

def Agrees (σ : Store) : Prop :=
  (getSessionState cfg σ s).isSome = true → answerFromRedis cfg s σ = answerFromMongo cfg s σ

/-! What keeps the two in step. -/

def messages (turn : TurnDoc) : List Message := [⟨.user, turn.userText⟩, ⟨.assistant, turn.aiText⟩]

def turnsOf (σ : Store) : List TurnDoc := σ.history.filter (·.sessionId == s)

def log (σ : Store) : List Message := (turnsOf s σ).flatMap messages

/-- The turns are numbered in the order in which they were inserted. -/
def Numbered (σ : Store) : Prop :=
  (turnsOf s σ).map TurnDoc.turnIndex =
    List.range (((findOne (bySession s) σ.sessions).map SessionDoc.historyCount).getD 0)

/-- The entry is what a recovery from the document would build. -/
structure Mirrors (σ : Store) (doc : SessionDoc) (hot : HotState) : Prop where
  status : hot.status = some doc.status
  snapshot : hot.fsmSnapshot = some doc.fsmSnapshot
  tenant : hot.tenantId = some doc.tenantId
  client : hot.clientId = some doc.clientId
  history : hot.history = some (newest (redisHistoryTurns * 2) (log s σ))

structure Inv (σ : Store) : Prop where
  numbered : Numbered s σ
  mirrored : ∀ hot, getSessionState cfg σ s = some hot →
    ∃ doc, findOne (bySession s) σ.sessions = some doc ∧ Mirrors s σ doc hot

variable {cfg s}

theorem getRecentHistory_eq (ascending : (turns.map TurnDoc.turnIndex).Pairwise (· < ·))
    (perm : (turnsOf s σ).Perm turns) (limit : Nat) :
    getRecentHistory σ s limit = (newest limit turns).flatMap messages := by
  change ((((turnsOf s σ).mergeSort fun a b => decide (b.turnIndex ≤ a.turnIndex)).take
    limit).reverse).flatMap messages = _
  rw [mergeSort_descending ascending perm, List.take_reverse, List.reverse_reverse, newest]

theorem recentHistory_eq (numbered : Numbered s σ) :
    getRecentHistory σ s redisHistoryTurns = newest (redisHistoryTurns * 2) (log s σ) := by
  have ascending : ((turnsOf s σ).map TurnDoc.turnIndex).Pairwise (· < ·) := by
    rw [numbered]
    exact List.pairwise_lt_range
  rw [getRecentHistory_eq ascending (.refl _), newest_flatMap (m := 2) (fun _ => rfl), log]

theorem restoreHotState_hit (entry : getSessionState cfg σ s = some hot) (present : hot ≠ .empty) :
    (restoreHotState cfg σ s).1 = if hot.status = some .ended then none else some hot := by
  have kept : (some hot).filter (· ≠ .empty) = some hot := by simp [Option.filter_some, present]
  rw [restoreHotState, entry, kept]
  simp only
  split <;> rfl

theorem restoreHotState_miss (entry : getSessionState cfg σ s = none)
    (byId : getById σ s = .ok doc) :
    (restoreHotState cfg σ s).1 = if doc.status = .ended then none else
      some ⟨some doc.status, some doc.fsmSnapshot, some (getRecentHistory σ s redisHistoryTurns),
        some doc.tenantId, some doc.clientId, []⟩ := by
  rw [restoreHotState, entry, byId, Option.filter_none]
  simp only
  split <;> rfl

theorem Inv.agrees (inv : Inv cfg s σ) : Agrees cfg s σ := by
  intro cached
  obtain ⟨hot, entry⟩ := Option.isSome_iff_exists.mp cached
  obtain ⟨doc, found, mirrors⟩ := inv.mirrored hot entry
  have present : hot ≠ .empty := by
    intro empty
    have status := mirrors.status
    rw [empty] at status
    cases status
  have numbered : Numbered s (deleteSessionState cfg σ s) := inv.numbered
  have history : getRecentHistory (deleteSessionState cfg σ s) s redisHistoryTurns =
      newest (redisHistoryTurns * 2) (log s σ) := recentHistory_eq numbered
  have byId : getById (deleteSessionState cfg σ s) s = .ok doc := by
    simp [getById, deleteSessionState, found]
  rw [answerFromRedis, answerFromMongo, restoreHotState_hit entry present,
    restoreHotState_miss (getSessionState_delete cfg σ s) byId, mirrors.status, history]
  by_cases ended : doc.status = .ended
  · simp [ended]
  · simp [ended, view, mirrors.status, mirrors.snapshot, mirrors.tenant, mirrors.client,
      mirrors.history]

/-- A writer's two commands both run on a present entry, or there is none and its
write fails. -/
def KeepsEntry (cfg : Config) (s : String) (σ : Store) (faults : Faults) : Prop :=
  ((getSessionState cfg σ s).isSome = true → faults.getFails = false ∧ faults.setFails = false) ∧
    ((getSessionState cfg σ s).isSome = false → faults.setFails = true)

/-- The operations after which a present entry is still complete. -/
def Clean (cfg : Config) (s : String) (σ : Store) : Operation × Faults → Prop
  | (.create .., _) => cfg.sessionIdUnique = true ∨ findOne (bySession s) σ.sessions = none
  | (.saveTurn .., faults) =>
    (findOne (bySession s) σ.sessions).isSome = true ∧ KeepsEntry cfg s σ faults
  | (.updateState .., faults) =>
    (findOne (bySession s) σ.sessions).isSome = true → KeepsEntry cfg s σ faults
  | (.restoreHotState, _) | (.expire, _) => True

@[simp] theorem setOrKeep_sessions (faults : Faults) (σ : Store) (hot : HotState) :
    (setOrKeep cfg s faults σ hot).sessions = σ.sessions := by
  unfold setOrKeep
  split <;> rfl

@[simp] theorem setOrKeep_history (faults : Faults) (σ : Store) (hot : HotState) :
    (setOrKeep cfg s faults σ hot).history = σ.history := by
  unfold setOrKeep
  split <;> rfl

theorem setOrKeep_entry
    (cached : getSessionState cfg (setOrKeep cfg s faults σ written) s = some hot) :
    hot = written ∨ getSessionState cfg σ s = some hot := by
  unfold setOrKeep at cached
  split at cached
  · exact .inr cached
  · rw [getSessionState_set] at cached
    exact .inl (Option.some.inj cached).symm

theorem editEntry_entry (keeps : KeepsEntry cfg s σ faults) (fsm : SessionFSM) (edit : Edit) :
    getSessionState cfg (editEntry cfg s faults σ fsm edit) s =
      (getSessionState cfg σ s).map (edit.apply fsm) := by
  unfold editEntry getOrMiss setOrKeep
  cases entry : getSessionState cfg σ s with
  | some hot =>
    have succeeds := keeps.1 (by simp [entry])
    simp [succeeds.1, succeeds.2, getSessionState_set]
  | none =>
    have fails := keeps.2 (by simp [entry])
    simp [fails, entry]

/-- The part of the invariant that the documents decide. -/
theorem Inv.of_same (inv : Inv cfg s σ) (sessions : τ.sessions = σ.sessions)
    (history : τ.history = σ.history)
    (entry : ∀ hot, getSessionState cfg τ s = some hot →
      ∃ doc, findOne (bySession s) σ.sessions = some doc ∧ Mirrors s σ doc hot) : Inv cfg s τ := by
  have turns : turnsOf s τ = turnsOf s σ := by rw [turnsOf, turnsOf, history]
  constructor
  case numbered =>
    rw [Numbered, turns, sessions]
    exact inv.numbered
  case mirrored =>
    intro hot cached
    obtain ⟨doc, found, mirrors⟩ := entry hot cached
    refine ⟨doc, sessions ▸ found, mirrors.status, mirrors.snapshot, mirrors.tenant,
      mirrors.client, ?_⟩
    rw [mirrors.history, log, log, turns]

theorem Inv.expire (inv : Inv cfg s σ) : Inv cfg s (deleteSessionState cfg σ s) := by
  apply inv.of_same (τ := deleteSessionState cfg σ s) rfl rfl
  intro hot cached
  rw [getSessionState_delete] at cached
  cases cached

theorem Inv.restore (inv : Inv cfg s σ) (faults : Faults) :
    Inv cfg s (perform cfg s σ faults .restoreHotState) := by
  simp only [perform]
  split
  · exact inv
  split
  · exact inv
  rename_i doc byId
  split
  · exact inv
  have found : findOne (bySession s) σ.sessions = some doc := by
    unfold getById at byId
    split at byId <;> cases byId
    assumption
  apply inv.of_same (setOrKeep_sessions ..) (setOrKeep_history ..)
  intro hot cached
  rcases setOrKeep_entry cached with rfl | kept
  · exact ⟨doc, found, rfl, rfl, rfl, rfl, by rw [recentHistory_eq inv.numbered]⟩
  · exact inv.mirrored hot kept

theorem Inv.create (inv : Inv cfg s σ) (faults : Faults)
    (clean : cfg.sessionIdUnique = true ∨ findOne (bySession s) σ.sessions = none) :
    Inv cfg s (perform cfg s σ faults (.create tenantId clientId status now)) := by
  simp only [perform]
  split
  · exact inv
  rename_i inserts
  have absent : findOne (bySession s) σ.sessions = none := by
    rcases clean with unique | absent
    · simpa [unique] using inserts
    · exact absent
  have noTurns : turnsOf s σ = [] := by
    have numbered := inv.numbered
    rw [Numbered, absent] at numbered
    exact List.map_eq_nil_iff.mp numbered
  generalize doc_ : (⟨s, tenantId, clientId, status, .initial, 0, now, now, none, none,
    []⟩ : SessionDoc) = doc
  have found : findOne (bySession s) (insertOne doc σ.sessions) = some doc := by
    simp [findOne_insertOne, absent, bySession, ← doc_]
  constructor
  case numbered =>
    rw [Numbered, setOrKeep_sessions, found, turnsOf, setOrKeep_history]
    change (turnsOf s σ).map TurnDoc.turnIndex = _
    simp [noTurns, ← doc_]
  case mirrored =>
    intro hot cached
    refine ⟨doc, by rw [setOrKeep_sessions, found], ?_⟩
    rcases setOrKeep_entry cached with rfl | kept
    · subst doc_
      refine ⟨rfl, rfl, rfl, rfl, ?_⟩
      rw [log, turnsOf, setOrKeep_history]
      change _ = some (newest _ ((turnsOf s σ).flatMap messages))
      rw [noTurns]
      rfl
    · obtain ⟨old, present, -⟩ := inv.mirrored hot kept
      rw [absent] at present
      cases present

/-- Keeping the last `n` messages, as the source writes it. -/
theorem truncate_eq_newest (n : Nat) (history : List Message) :
    (if history.length > n then history.drop (history.length - n) else history) =
      newest n history := by
  unfold newest
  split
  · rfl
  · have none : history.length - n = 0 := by omega
    rw [none, List.drop_zero]

/-- A writer: the document is updated, `history` may have grown, and the entry,
if there is one, is edited. -/
theorem Inv.edit {f : SessionDoc → SessionDoc} {edit : Edit} (inv : Inv cfg s σ)
    (found : findOne (bySession s) σ.sessions = some doc)
    (keepsId : ∀ doc, (f doc).sessionId = doc.sessionId) (keeps : KeepsEntry cfg s σ faults)
    (after : τ = { σ with sessions := updateOne (bySession s) f σ.sessions, history := history })
    (numbered : (turnsOf s τ).map TurnDoc.turnIndex = List.range (f doc).historyCount)
    (mirrors : ∀ hot, Mirrors s σ doc hot → Mirrors s τ (f doc) (edit.apply fsm hot)) :
    Inv cfg s (editEntry cfg s faults τ fsm edit) := by
  have updated : findOne (bySession s) τ.sessions = some (f doc) := by
    rw [after]
    simp only
    rw [findOne_updateOne fun doc matched => by simpa only [bySession, keepsId doc] using matched,
      found, Option.map_some]
  have sessions : (editEntry cfg s faults τ fsm edit).sessions = τ.sessions := setOrKeep_sessions ..
  have sameHistory : (editEntry cfg s faults τ fsm edit).history = τ.history := setOrKeep_history ..
  have sameEntry : getSessionState cfg τ s = getSessionState cfg σ s := by rw [after]; rfl
  have turns : turnsOf s (editEntry cfg s faults τ fsm edit) = turnsOf s τ := by
    rw [turnsOf, turnsOf, sameHistory]
  constructor
  case numbered =>
    rw [Numbered, turns, sessions, updated]
    exact numbered
  case mirrored =>
    intro hot cached
    have keeps : KeepsEntry cfg s τ faults := by
      rw [KeepsEntry, sameEntry]
      exact keeps
    rw [editEntry_entry keeps, sameEntry, Option.map_eq_some_iff] at cached
    obtain ⟨old, entry, rfl⟩ := cached
    obtain ⟨doc', found', mirrored⟩ := inv.mirrored old entry
    obtain rfl : doc = doc' := Option.some.inj (found.symm.trans found')
    have mirrored := mirrors old mirrored
    refine ⟨f doc, by rw [sessions, updated], mirrored.status, mirrored.snapshot, mirrored.tenant,
      mirrored.client, ?_⟩
    rw [mirrored.history, log, log, turns]

theorem Inv.updateState (inv : Inv cfg s σ)
    (clean : (findOne (bySession s) σ.sessions).isSome = true → KeepsEntry cfg s σ faults) :
    Inv cfg s (perform cfg s σ faults (.updateState state extra fsm now)) := by
  cases found : findOne (bySession s) σ.sessions with
  | none => simpa only [perform, found] using inv
  | some doc =>
    simp only [perform, found]
    apply inv.edit found
    case after => rfl
    case keepsId => exact fun _ => rfl
    case keeps => exact clean (by simp [found])
    case numbered =>
      have numbered := inv.numbered
      rw [Numbered, found] at numbered
      exact numbered
    case mirrors =>
      intro hot mirrors
      refine ⟨rfl, ?_, mirrors.tenant, mirrors.client, mirrors.history⟩
      cases fsm with
      | none => exact mirrors.snapshot
      | some fsm => rfl

theorem Inv.saveTurn (inv : Inv cfg s σ)
    (clean : (findOne (bySession s) σ.sessions).isSome = true ∧ KeepsEntry cfg s σ faults) :
    Inv cfg s (perform cfg s σ faults (.saveTurn fsm turn now)) := by
  obtain ⟨doc, found⟩ := Option.isSome_iff_exists.mp clean.1
  have numbered := inv.numbered
  rw [Numbered, found] at numbered
  simp only [perform, found]
  have grows : ∀ (sessions : List SessionDoc) (new : TurnDoc), new.sessionId = s →
      turnsOf s { σ with sessions := sessions, history := insertOne new σ.history } =
        turnsOf s σ ++ [new] := by
    intro sessions new own
    simp [turnsOf, insertOne, own]
  apply inv.edit found
  case after => rfl
  case keepsId => exact fun _ => rfl
  case keeps => exact clean.2
  case numbered =>
    rw [grows _ _ rfl, List.map_append, numbered]
    simp [List.range_succ]
  case mirrors =>
    intro hot mirrors
    refine ⟨rfl, rfl, mirrors.tenant, mirrors.client, ?_⟩
    simp only [Edit.apply, mirrors.history, Option.getD_some]
    rw [truncate_eq_newest, newest_append_newest, log, log, grows _ _ rfl, List.flatMap_append]
    rfl

theorem step_inv (inv : Inv cfg s σ) (clean : Clean cfg s σ l) (stepped : step cfg s σ l = some τ) :
    Inv cfg s τ := by
  obtain ⟨operation, faults⟩ := l
  cases stepped
  cases operation with
  | create => exact inv.create faults clean
  | saveTurn => exact inv.saveTurn clean
  | updateState => exact inv.updateState clean
  | restoreHotState => exact inv.restore faults
  | expire => exact inv.expire

/-- Nothing is stored for the session yet. -/
structure Unknown (cfg : Config) (s : String) (σ : Store) : Prop where
  document : findOne (bySession s) σ.sessions = none
  turns : turnsOf s σ = []
  entry : getSessionState cfg σ s = none

theorem Unknown.inv (unknown : Unknown cfg s σ) : Inv cfg s σ := by
  constructor
  case numbered => simp [Numbered, unknown.document, unknown.turns]
  case mirrored =>
    intro hot cached
    rw [unknown.entry] at cached
    cases cached

/-- Recovery answers alike from the cache and from the documents, after every
clean sequence of operations. -/
theorem restore_answers_agree (unknown : Unknown cfg s σ)
    (clean : Along (step cfg s) (Clean cfg s) σ operations)
    (run : exec (step cfg s) σ operations = some τ) : Agrees cfg s τ :=
  (exec_invariant step_inv clean run unknown.inv).agrees

theorem editEntry_missed (missed : getOrMiss cfg s faults σ = none)
    (writes : faults.setFails = false) (fsm : SessionFSM) (edit : Edit) :
    getSessionState cfg (editEntry cfg s faults σ fsm edit) s = some (edit.apply fsm .empty) := by
  simp [editEntry, setOrKeep, missed, writes, getSessionState_set]

theorem nameless_entry_disagrees (entry : getSessionState cfg σ s = some hot)
    (nameless : hot.tenantId = none) (status : hot.status = some doc.status)
    (found : findOne (bySession s) σ.sessions = some doc) (live : doc.status ≠ .ended) :
    ¬ Agrees cfg s σ := by
  intro agrees
  have present : hot ≠ .empty := by
    intro empty
    rw [empty] at status
    cases status
  have byId : getById (deleteSessionState cfg σ s) s = .ok doc := by
    simp [getById, deleteSessionState, found]
  have answers := agrees (by rw [entry]; rfl)
  rw [answerFromRedis, answerFromMongo, restoreHotState_hit entry present,
    restoreHotState_miss (getSessionState_delete cfg σ s) byId, status] at answers
  simp [live, view, nameless] at answers

/-- The condition is needed: a turn saved after a miss leaves an entry that names
no tenant. -/
theorem rebuilt_entry_disagrees (found : findOne (bySession s) σ.sessions = some doc)
    (missed : getOrMiss cfg s faults σ = none) (writes : faults.setFails = false)
    (live : fsm.state ≠ .ended) :
    ¬ Agrees cfg s (perform cfg s σ faults (.saveTurn fsm turn now)) := by
  simp only [perform]
  apply nameless_entry_disagrees (editEntry_missed (by exact missed) writes fsm _) rfl
  case found =>
    rw [editEntry, setOrKeep_sessions]
    simp only
    rw [findOne_updateOne (by exact fun _ matched => matched), found, Option.map_some]
  case status => rfl
  case live => exact live

instance (cfg : Config) (s : String) (σ : Store) (faults : Faults) :
    Decidable (KeepsEntry cfg s σ faults) :=
  inferInstanceAs (Decidable (_ ∧ _))

instance (cfg : Config) (s : String) (σ : Store) :
    (l : Operation × Faults) → Decidable (Clean cfg s σ l)
  | (.create .., _) => inferInstanceAs (Decidable (_ ∨ _))
  | (.saveTurn .., _) => inferInstanceAs (Decidable (_ ∧ _))
  | (.updateState .., _) => inferInstanceAs (Decidable (_ → _))
  | (.restoreHotState, _) | (.expire, _) => isTrue trivial

/-- The entry expires, a turn is lost to the cache, and recovery rewrites it. -/
def rewarmed : List (Operation × Faults) :=
  [(.create "t_acme" "c1" .idle 1, .none), (.saveTurn (.new .listening) hello 2, .none),
    (.expire, .none), (.saveTurn (.new .listening) hello 3, ⟨false, true⟩),
    (.restoreHotState, .none),
    (.updateState .transferRequested [] (some (.new .transferRequested)) 4, .none)]

theorem restore_answers_agree_rewarmed :
    ∃ τ, exec (step .default "call-1") .empty rewarmed = some τ ∧
      (getSessionState .default τ "call-1").isSome = true ∧
      answerFromRedis .default "call-1" τ = answerFromMongo .default "call-1" τ := by
  have unknown : Unknown .default "call-1" .empty := ⟨rfl, rfl, rfl⟩
  have clean : Along (step .default "call-1") (Clean .default "call-1") .empty rewarmed := by
    decide +kernel
  have reached : (exec (step .default "call-1") .empty rewarmed).map
      (fun τ => (getSessionState .default τ "call-1").isSome) = some true := by decide +kernel
  obtain ⟨τ, run, present⟩ := Option.map_eq_some_iff.mp reached
  exact ⟨τ, run, present, restore_answers_agree unknown clean run present⟩

/-- The entry expires and a turn is saved before anyone recovers the session. -/
def rebuilt : List (Operation × Faults) :=
  [(.create "t_acme" "c1" .idle 1, .none), (.saveTurn (.new .listening) hello 2, .none),
    (.expire, .none), (.saveTurn (.new .listening) hello 3, .none)]

theorem restore_answers_differ :
    ∃ τ, exec (step .default "call-1") .empty rebuilt = some τ ∧
      (getSessionState .default τ "call-1").isSome = true ∧
      answerFromRedis .default "call-1" τ ≠ answerFromMongo .default "call-1" τ := by
  have disagrees : ¬ Agrees .default "call-1" (perform .default "call-1" _ .none
      (.saveTurn (.new .listening) hello 3)) :=
    rebuilt_entry_disagrees (σ := perform .default "call-1" (perform .default "call-1"
      (perform .default "call-1" .empty .none (.create "t_acme" "c1" .idle 1)) .none
      (.saveTurn (.new .listening) hello 2)) .none .expire) rfl rfl rfl (by decide)
  refine ⟨_, rfl, by decide +kernel, fun same => disagrees fun _ => same⟩

end AgentOE.Session.Cache
