import AgentOE.Census
import AgentOE.Transition
import Mathlib.Data.List.AList

/-! The in-memory session store of the gateway: a counter that is compared and swapped,
and two concurrent maps. A label is one atomic step of one call. -/
namespace AgentOE.Gateway.MemoryStore
open Transition Census

structure Session where
  sessionId : String
  fsUUID : String
  deriving DecidableEq, Repr

/-- No id is shared by two of the sessions. -/
def Separate (sessions : List Session) : Prop :=
  (sessions.map Session.sessionId).Nodup ∧ (sessions.map Session.fsUUID).Nodup

/-- Sessions that were brought in under one id are the same. -/
structure Apart (past : List Session) : Prop where
  sessionIds : ∀ s ∈ past, ∀ s' ∈ past, s.sessionId = s'.sessionId → s = s'
  fsUUIDs : ∀ s ∈ past, ∀ s' ∈ past, s.fsUUID = s'.fsUUID → s = s'

theorem Separate.apart {past : List Session} (separate : Separate past) : Apart past :=
  ⟨fun _ first _ second => List.inj_on_of_nodup_map separate.1 first second,
    fun _ first _ second => List.inj_on_of_nodup_map separate.2 first second⟩

theorem Separate.of_append {past more : List Session} (separate : Separate (past ++ more)) :
    Separate past := by
  rw [Separate, List.map_append, List.map_append] at separate
  exact ⟨(List.nodup_append.mp separate.1).1, (List.nodup_append.mp separate.2).1⟩

theorem Separate.notMem {past : List Session} {s : Session} (separate : Separate (past ++ [s])) :
    s ∉ past := by
  intro old
  have ids := separate.1
  rw [List.map_append] at ids
  exact (List.nodup_append.mp ids).2.2 _ (List.mem_map_of_mem old) _ List.mem_cons_self rfl

abbrev SyncMap (V : Type) := AList fun _ : String => V

/-- What a call of `AddIfUnderCapacity` or `Release` has done. -/
inductive Call where
  | idle
  | acquiring (s : Session)
  | loaded (s : Session) (current : Int)
  | acquired (s : Session)
  | stored (s : Session)
  | added (s : Session) (accepted : Bool)
  | releasing (sessionId : String)
  | removed (s : Session)
  | decremented (s : Session)
  /-- With the session that the call took out of the store. -/
  | released (took : Option Session)
  deriving DecidableEq, Repr

structure State (C : Type) where
  activeCount : Int
  sessions : SyncMap Session
  uuidIndex : SyncMap String
  call : C → Call

def State.initial (C : Type) : State C := ⟨0, ∅, ∅, fun _ => .idle⟩

inductive Label (C : Type) where
  | addIfUnderCapacity (c : C) (s : Session)
  | release (c : C) (sessionId : String)
  | next (c : C)
  deriving DecidableEq, Repr

namespace State
variable {C : Type} (σ : State C)

def get (sessionId : String) : Option Session := σ.sessions.lookup sessionId

def getByFSUUID (fsUUID : String) : Option Session := (σ.uuidIndex.lookup fsUUID).bind σ.get

variable [DecidableEq C]

def moveTo (c : C) (call : Call) : State C := { σ with call := Function.update σ.call c call }

end State

variable {C : Type} [DecidableEq C]

/-- The next atomic step of a call. A failed swap loads the counter again. -/
def advance (maxSessions : Int) (σ : State C) (c : C) : Call → Option (State C)
  | .acquiring s =>
    some (σ.moveTo c (if maxSessions ≤ σ.activeCount then .added s false
      else .loaded s σ.activeCount))
  | .loaded s current =>
    if σ.activeCount = current then
      some ({ σ with activeCount := current + 1 }.moveTo c (.acquired s))
    else some (σ.moveTo c (.acquiring s))
  | .acquired s =>
    some ({ σ with sessions := σ.sessions.insert s.sessionId s }.moveTo c (.stored s))
  | .stored s =>
    let uuidIndex := if s.fsUUID ≠ "" then σ.uuidIndex.insert s.fsUUID s.sessionId else σ.uuidIndex
    some ({ σ with uuidIndex := uuidIndex }.moveTo c (.added s true))
  | .releasing sessionId => match σ.sessions.extract sessionId with
    | (none, _) => some (σ.moveTo c (.released none))
    | (some s, sessions) => some ({ σ with sessions := sessions }.moveTo c (.removed s))
  | .removed s => some ({ σ with activeCount := σ.activeCount - 1 }.moveTo c (.decremented s))
  | .decremented s =>
    let uuidIndex := if s.fsUUID ≠ "" then σ.uuidIndex.erase s.fsUUID else σ.uuidIndex
    some ({ σ with uuidIndex := uuidIndex }.moveTo c (.released (some s)))
  | .idle | .added .. | .released _ => none

def step (maxSessions : Int) (σ : State C) : Label C → Option (State C)
  | .addIfUnderCapacity c s => if σ.call c = .idle then some (σ.moveTo c (.acquiring s)) else none
  | .release c sessionId =>
    if σ.call c = .idle then some (σ.moveTo c (.releasing sessionId)) else none
  | .next c => advance maxSessions σ c (σ.call c)

/-- The session that a label brings in. -/
def addition : Label C → Option Session
  | .addIfUnderCapacity _ s => some s
  | _ => none

/-- The sessions that are added have ids of their own. -/
def Distinct (labels : List (Label C)) : Prop := Separate (labels.filterMap addition)

namespace Call

/-- The session that the call adds. -/
def adds : Call → Option Session
  | acquiring s | loaded s _ | acquired s | stored s | added s _ => some s
  | _ => none

/-- The session that the call took out of the store. -/
def took : Call → Option Session
  | removed s | decremented s => some s
  | released took => took
  | _ => none

/-- The session that the call put into the store. -/
def put : Call → Option Session
  | stored s | added s true => some s
  | _ => none

/-- Counted, and not yet in the store. -/
def isAcquired : Call → Bool
  | acquired _ => true
  | _ => false

/-- No longer in the store, and still counted. -/
def isRemoved : Call → Bool
  | removed _ => true
  | _ => false

/-- All that the store's invariant asks of a call. -/
def profile (call : Call) : Option Session × Option Session × Option Session × Bool × Bool :=
  (call.adds, call.took, call.put, call.isAcquired, call.isRemoved)

def Finished : Call → Prop
  | idle | added .. | released _ => True
  | _ => False

instance (call : Call) : Decidable call.Finished := match call with
  | idle | added .. | released _ => .isTrue trivial
  | acquiring _ | loaded .. | acquired _ | stored _ | releasing _ | removed _ | decremented _ => .isFalse id

theorem adds_of_put {call : Call} (put : call.put = some s) : call.adds = some s := by
  cases call with
  | stored => exact put
  | added s accepted =>
    cases accepted
    · cases put
    · exact put
  | idle | acquiring | loaded | acquired | releasing | removed | decremented | released => cases put

end Call

namespace State
variable (σ : State C)

/-- The session has been put into the store. -/
def Put (s : Session) : Prop := ∃ c, (σ.call c).put = some s

/-- The session has been taken out of the store. -/
def Took (s : Session) : Prop := ∃ c, (σ.call c).took = some s

end State

/-- In every reachable state: who put and took which session, what the maps hold, and what
the counter counts. -/
structure Inv (maxSessions : Int) (past : List Session) (σ : State C) : Prop where
  known : ∀ c s, (σ.call c).adds = some s → s ∈ past
  sole : ∀ c d s, (σ.call c).adds = some s → (σ.call d).adds = some s → c = d
  once : ∀ c d s, (σ.call c).took = some s → (σ.call d).took = some s → c = d
  came : ∀ s, σ.Took s → σ.Put s
  stored : ∀ id s, σ.sessions.lookup id = some s ↔ s.sessionId = id ∧ σ.Put s ∧ ¬σ.Took s
  indexed : ∀ fsUUID id, σ.uuidIndex.lookup fsUUID = some id →
    fsUUID ≠ "" ∧ ∃ s, σ.Put s ∧ s.fsUUID = fsUUID ∧ s.sessionId = id
  findable : ∀ c s, σ.call c = .added s true → s.fsUUID ≠ "" → ¬σ.Took s →
    σ.uuidIndex.lookup s.fsUUID = some s.sessionId
  below : ∀ c s current, σ.call c = .loaded s current → current < maxSessions
  bounded : σ.activeCount ≤ maxSessions
  counted : ∃ acquired removed, Number (fun c => (σ.call c).isAcquired = true) acquired ∧
    Number (fun c => (σ.call c).isRemoved = true) removed ∧
    σ.activeCount = σ.sessions.entries.length + acquired + removed

section Steps
variable {maxSessions : Int} {past : List Session} {σ τ : State C} {c : C} {call : Call}

theorem moveTo_call (σ : State C) (c d : C) (call : Call) :
    (σ.moveTo c call).call d = if d = c then call else σ.call d := by
  simp [State.moveTo, Function.update_apply]

omit [DecidableEq C] in
theorem Inv.initial (nonneg : 0 ≤ maxSessions) : Inv maxSessions [] (State.initial C) := by
  have unput : ∀ s, ¬(State.initial C).Put s := by
    rintro s ⟨c, put⟩
    cases put
  have untaken : ∀ s, ¬(State.initial C).Took s := by
    rintro s ⟨c, took⟩
    cases took
  constructor
  case known => exact fun c s adds => nomatch adds
  case sole => exact fun c d s adds => nomatch adds
  case once => exact fun c d s took => nomatch took
  case came => exact fun s took => absurd took (untaken s)
  case stored => exact fun id s => iff_of_false (by simp [State.initial]) fun held => unput s held.2.1
  case indexed =>
    intro fsUUID id found
    simp [State.initial] at found
  case findable => exact fun c s added => nomatch added
  case below => exact fun c s current loaded => nomatch loaded
  case bounded => exact nonneg
  case counted =>
    exact ⟨0, 0, number_zero.mpr fun _ => nofun, number_zero.mpr fun _ => nofun, rfl⟩

/-- What a step does not change about the call that takes it. -/
theorem view_moveTo {V : Sort*} (f : Call → V) (same : f call = f (σ.call c)) (d : C) :
    f ((σ.moveTo c call).call d) = f (σ.call d) := by
  rw [moveTo_call]
  split
  · rename_i equal
    rw [equal, same]
  · rfl

/-- A call comes to name a session and named none before. -/
theorem exists_moveTo (f : Call → Option Session) {s : Session} (before : f (σ.call c) = none)
    (after : f call = some s) (s' : Session) :
    (∃ d, f ((σ.moveTo c call).call d) = some s') ↔ s' = s ∨ ∃ d, f (σ.call d) = some s' := by
  constructor
  · rintro ⟨d, named⟩
    rw [moveTo_call] at named
    split at named
    · exact .inl (Option.some.inj (after.symm.trans named)).symm
    · exact .inr ⟨d, named⟩
  · rintro (rfl | ⟨d, named⟩)
    · exact ⟨c, by rw [moveTo_call, if_pos rfl, after]⟩
    · refine ⟨d, ?_⟩
      rw [moveTo_call, if_neg]
      · exact named
      · rintro rfl
        cases before.symm.trans named

/-- Number of calls in a phase, after one call has moved. -/
theorem number_moveTo {f : Call → Bool} {n : Nat} (number : Number (fun c => f (σ.call c) = true) n)
    (same : f call = f (σ.call c)) : Number (fun d => f ((σ.moveTo c call).call d) = true) n :=
  number.congr fun d => by rw [view_moveTo f same]

theorem number_enter {f : Call → Bool} {n : Nat} (call : Call)
    (number : Number (fun c => f (σ.call c) = true) n) (before : f (σ.call c) = false)
    (after : f call = true) : Number (fun d => f ((σ.moveTo c call).call d) = true) (n + 1) := by
  refine number.gain (Bool.not_eq_true _ ▸ before) ?_ fun d other => ?_
  · rw [moveTo_call, if_pos rfl]
    exact after
  · rw [moveTo_call, if_neg other]

theorem number_leave {f : Call → Bool} {n : Nat} (call : Call)
    (number : Number (fun c => f (σ.call c) = true) n) (before : f (σ.call c) = true)
    (after : f call = false) :
    ∃ m, n = m + 1 ∧ Number (fun d => f ((σ.moveTo c call).call d) = true) m := by
  refine number.lose before ?_ fun d other => ?_
  · rw [moveTo_call, if_pos rfl, after]
    exact nofun
  · rw [moveTo_call, if_neg other]

theorem put_moveTo (same : call.put = (σ.call c).put) (s : Session) :
    (σ.moveTo c call).Put s ↔ σ.Put s :=
  exists_congr fun d => by rw [view_moveTo Call.put same]

theorem took_moveTo (same : call.took = (σ.call c).took) (s : Session) :
    (σ.moveTo c call).Took s ↔ σ.Took s :=
  exists_congr fun d => by rw [view_moveTo Call.took same]

/-- A step that neither puts nor takes a session. -/
theorem Inv.transfer (inv : Inv maxSessions past σ) {past' : List Session} {activeCount : Int}
    {uuidIndex : SyncMap String} (took : call.took = (σ.call c).took)
    (put : call.put = (σ.call c).put)
    (known : ∀ d s, ((σ.moveTo c call).call d).adds = some s → s ∈ past')
    (sole : ∀ d e s, ((σ.moveTo c call).call d).adds = some s →
      ((σ.moveTo c call).call e).adds = some s → d = e)
    (indexed : ∀ fsUUID id, uuidIndex.lookup fsUUID = some id →
      fsUUID ≠ "" ∧ ∃ s, σ.Put s ∧ s.fsUUID = fsUUID ∧ s.sessionId = id)
    (findable : ∀ d s, (if d = c then call else σ.call d) = .added s true → s.fsUUID ≠ "" →
      ¬σ.Took s → uuidIndex.lookup s.fsUUID = some s.sessionId)
    (below : ∀ s current, call = .loaded s current → current < maxSessions)
    (bounded : activeCount ≤ maxSessions)
    (counted : ∃ acquired removed,
      Number (fun d => ((σ.moveTo c call).call d).isAcquired = true) acquired ∧
      Number (fun d => ((σ.moveTo c call).call d).isRemoved = true) removed ∧
      activeCount = σ.sessions.entries.length + acquired + removed) :
    Inv maxSessions past' (State.moveTo ⟨activeCount, σ.sessions, uuidIndex, σ.call⟩ c call) := by
  have same := view_moveTo (σ := σ) Call.took took
  constructor
  case known => exact known
  case sole => exact sole
  case once =>
    intro d e s first second
    exact inv.once d e s ((same d).symm.trans first) ((same e).symm.trans second)
  case came =>
    intro s taken
    exact (put_moveTo put s).mpr (inv.came s ((took_moveTo took s).mp taken))
  case stored =>
    intro id s
    exact (inv.stored id s).trans
      (and_congr_right' (and_congr (put_moveTo put s).symm (not_congr (took_moveTo took s).symm)))
  case indexed =>
    intro fsUUID id found
    obtain ⟨named, s, held, ids⟩ := indexed fsUUID id found
    exact ⟨named, s, (put_moveTo put s).mpr held, ids⟩
  case findable =>
    intro d s added named untaken
    refine findable d s ?_ named (mt (took_moveTo took s).mpr untaken)
    rw [← added]
    exact (moveTo_call σ c d call).symm
  case below =>
    intro d s current loaded
    rw [moveTo_call] at loaded
    split at loaded
    · exact below s current loaded
    · exact inv.below d s current loaded
  case bounded => exact bounded
  case counted => exact counted

/-- Nothing but the call changes. -/
theorem Inv.findable_moveTo (inv : Inv maxSessions past σ) (unadded : ∀ s, call ≠ .added s true)
    (d : C) (s : Session) (added : (if d = c then call else σ.call d) = .added s true)
    (named : s.fsUUID ≠ "") (untaken : ¬σ.Took s) :
    σ.uuidIndex.lookup s.fsUUID = some s.sessionId := by
  split at added
  · exact absurd added (unadded s)
  · exact inv.findable d s added named untaken

/-- A call with a fresh session. -/
theorem Inv.begin (inv : Inv maxSessions past σ) (idle : σ.call c = .idle) {s : Session}
    (fresh : s ∉ past) : Inv maxSessions (past ++ [s]) (σ.moveTo c (.acquiring s)) := by
  have mine : ∀ d, ((σ.moveTo c (.acquiring s)).call d).adds = some s → d = c := by
    intro d adds
    rw [moveTo_call] at adds
    split at adds
    · assumption
    · exact absurd (inv.known d s adds) fresh
  have others : ∀ d s', s' ≠ s → ((σ.moveTo c (.acquiring s)).call d).adds = some s' →
      (σ.call d).adds = some s' := by
    intro d s' other adds
    rw [moveTo_call] at adds
    split at adds
    · exact absurd (Option.some.inj adds).symm other
    · exact adds
  refine inv.transfer (by rw [idle]; rfl) (by rw [idle]; rfl) ?_ ?_ inv.indexed
    (inv.findable_moveTo nofun) nofun inv.bounded ?_
  case refine_1 =>
    intro d s' adds
    by_cases same : s' = s
    · exact same ▸ List.mem_append_right _ (List.mem_singleton.mpr rfl)
    · exact List.mem_append_left _ (inv.known d s' (others d s' same adds))
  case refine_2 =>
    intro d e s' first second
    by_cases same : s' = s
    · subst same
      exact (mine d first).trans (mine e second).symm
    · exact inv.sole d e s' (others d s' same first) (others e s' same second)
  case refine_3 =>
    obtain ⟨acquired, removed, first, second, total⟩ := inv.counted
    exact ⟨acquired, removed, number_moveTo (f := Call.isAcquired) first (by rw [idle]; rfl),
      number_moveTo (f := Call.isRemoved) second (by rw [idle]; rfl), total⟩

/-- A step that brings in no session either. -/
theorem Inv.quiet (inv : Inv maxSessions past σ) {activeCount : Int} {uuidIndex : SyncMap String}
    (adds : call.adds = (σ.call c).adds) (took : call.took = (σ.call c).took)
    (put : call.put = (σ.call c).put)
    (indexed : ∀ fsUUID id, uuidIndex.lookup fsUUID = some id →
      fsUUID ≠ "" ∧ ∃ s, σ.Put s ∧ s.fsUUID = fsUUID ∧ s.sessionId = id)
    (findable : ∀ d s, (if d = c then call else σ.call d) = .added s true → s.fsUUID ≠ "" →
      ¬σ.Took s → uuidIndex.lookup s.fsUUID = some s.sessionId)
    (below : ∀ s current, call = .loaded s current → current < maxSessions)
    (bounded : activeCount ≤ maxSessions)
    (counted : ∃ acquired removed,
      Number (fun d => ((σ.moveTo c call).call d).isAcquired = true) acquired ∧
      Number (fun d => ((σ.moveTo c call).call d).isRemoved = true) removed ∧
      activeCount = σ.sessions.entries.length + acquired + removed) :
    Inv maxSessions past (State.moveTo ⟨activeCount, σ.sessions, uuidIndex, σ.call⟩ c call) := by
  have same := view_moveTo (σ := σ) Call.adds adds
  refine inv.transfer took put (fun d s adding => ?_)
    (fun d e s first second => ?_) indexed findable
    below bounded counted
  · exact inv.known d s ((same d).symm.trans adding)
  · exact inv.sole d e s ((same d).symm.trans first) ((same e).symm.trans second)

/-- A step that changes the index at most. -/
theorem Inv.reindex (inv : Inv maxSessions past σ) {uuidIndex : SyncMap String}
    (same : call.profile = (σ.call c).profile)
    (indexed : ∀ fsUUID id, uuidIndex.lookup fsUUID = some id →
      fsUUID ≠ "" ∧ ∃ s, σ.Put s ∧ s.fsUUID = fsUUID ∧ s.sessionId = id)
    (findable : ∀ d s, (if d = c then call else σ.call d) = .added s true → s.fsUUID ≠ "" →
      ¬σ.Took s → uuidIndex.lookup s.fsUUID = some s.sessionId)
    (below : ∀ s current, call = .loaded s current → current < maxSessions) :
    Inv maxSessions past (State.moveTo { σ with uuidIndex := uuidIndex } c call) := by
  obtain ⟨acquired, removed, first, second, total⟩ := inv.counted
  simp only [Call.profile, Prod.mk.injEq] at same
  obtain ⟨adds, took, put, phase, phase'⟩ := same
  exact inv.quiet adds took put indexed findable below inv.bounded
    ⟨acquired, removed, number_moveTo first phase, number_moveTo second phase', total⟩

/-- A step that changes nothing but the call. -/
theorem Inv.settle (inv : Inv maxSessions past σ) (same : call.profile = (σ.call c).profile)
    (unadded : ∀ s, call ≠ .added s true)
    (below : ∀ s current, call = .loaded s current → current < maxSessions) :
    Inv maxSessions past (σ.moveTo c call) :=
  inv.reindex same inv.indexed (inv.findable_moveTo unadded) below

omit [DecidableEq C] in
theorem Inv.known_put (inv : Inv maxSessions past σ) {s : Session} (held : σ.Put s) : s ∈ past := by
  obtain ⟨c, put⟩ := held
  exact inv.known c s (Call.adds_of_put put)

omit [DecidableEq C] in
/-- Only one call puts a session. -/
theorem Inv.unput (inv : Inv maxSessions past σ) {s : Session} (adds : (σ.call c).adds = some s)
    (early : (σ.call c).put = none) : ¬σ.Put s := by
  rintro ⟨d, put⟩
  obtain rfl := inv.sole d c s (Call.adds_of_put put) adds
  cases early.symm.trans put

/-- `sessions.Store`. -/
theorem Inv.store (inv : Inv maxSessions past σ) (apart : Apart past) {s : Session}
    (acquired : σ.call c = .acquired s) : Inv maxSessions past
      (State.moveTo { σ with sessions := σ.sessions.insert s.sessionId s } c (.stored s)) := by
  have adds : (σ.call c).adds = some s := by rw [acquired]; rfl
  have unput : ¬σ.Put s := inv.unput adds (by rw [acquired]; rfl)
  have took : (Call.stored s).took = (σ.call c).took := by rw [acquired]; rfl
  have inside : s ∈ past := inv.known c s adds
  have puts : ∀ s', (σ.moveTo c (.stored s)).Put s' ↔ s' = s ∨ σ.Put s' :=
    exists_moveTo Call.put (by rw [acquired]; rfl) rfl
  have absent : σ.sessions.lookup s.sessionId = none := by
    cases found : σ.sessions.lookup s.sessionId with
    | none => rfl
    | some s' =>
      obtain ⟨ids, held, -⟩ := (inv.stored _ _).mp found
      exact absurd (apart.sessionIds s' (inv.known_put held) s inside ids ▸ held) unput
  have named : (Call.stored s).adds = (σ.call c).adds := adds.symm
  have same := view_moveTo (σ := σ) Call.adds named
  have sameTook := view_moveTo (σ := σ) Call.took took
  constructor
  case known => exact fun d s' adding => inv.known d s' ((same d).symm.trans adding)
  case sole =>
    intro d e s' first second
    exact inv.sole d e s' ((same d).symm.trans first) ((same e).symm.trans second)
  case once =>
    intro d e s' first second
    exact inv.once d e s' ((sameTook d).symm.trans first) ((sameTook e).symm.trans second)
  case came =>
    intro s' taken
    exact (puts s').mpr (.inr (inv.came s' ((took_moveTo took s').mp taken)))
  case stored =>
    intro id s'
    have taken := took_moveTo (σ := σ) took s'
    by_cases mine : id = s.sessionId
    · subst mine
      have untaken : ¬σ.Took s := fun early => unput (inv.came s early)
      refine (Eq.congr_left (AList.lookup_insert σ.sessions)).trans ⟨?_, ?_⟩
      · intro found
        obtain rfl := Option.some.inj found
        exact ⟨rfl, (puts s).mpr (.inl rfl), mt taken.mp untaken⟩
      · rintro ⟨ids, held, -⟩
        rcases (puts s').mp held with rfl | held
        · rfl
        · exact congrArg some (apart.sessionIds s' (inv.known_put held) s inside ids).symm
    · refine (Eq.congr_left (AList.lookup_insert_ne mine)).trans ((inv.stored id s').trans ?_)
      refine and_congr_right fun ids => and_congr ?_ (not_congr taken.symm)
      refine ((puts s').trans (or_iff_right ?_)).symm
      rintro rfl
      exact mine ids.symm
  case indexed =>
    intro fsUUID id found
    obtain ⟨named, s', held, ids⟩ := inv.indexed fsUUID id found
    exact ⟨named, s', (puts s').mpr (.inr held), ids⟩
  case findable =>
    intro d s' added named untaken
    rw [moveTo_call] at added
    have unadded : ∀ other, Call.stored s ≠ .added other true := nofun
    exact inv.findable_moveTo unadded d s' added named (mt (took_moveTo took s').mpr untaken)
  case below =>
    intro d s' current loaded
    rw [moveTo_call] at loaded
    split at loaded
    · cases loaded
    · exact inv.below d s' current loaded
  case bounded => exact inv.bounded
  case counted =>
    obtain ⟨n, removed, first, second, total⟩ := inv.counted
    obtain ⟨m, rfl, fewer⟩ := number_leave (f := Call.isAcquired) (.stored s) first
      (by rw [acquired]; rfl) rfl
    refine ⟨m, removed, fewer, number_moveTo (f := Call.isRemoved) second
      (by rw [acquired]; rfl), ?_⟩
    have longer := AList.entries_insert_of_notMem (b := s) (AList.lookup_eq_none.mp absent)
    simp only [State.moveTo, longer, List.length_cons]
    omega

/-- `LoadAndDelete` of a stored session. -/
theorem Inv.take (inv : Inv maxSessions past σ) {s : Session} {sessionId : String}
    (releasing : σ.call c = .releasing sessionId) (found : σ.sessions.lookup sessionId = some s) :
    Inv maxSessions past
      (State.moveTo { σ with sessions := σ.sessions.erase sessionId } c (.removed s)) := by
  obtain ⟨ids, held, untaken⟩ := (inv.stored _ _).mp found
  have put : (Call.removed s).put = (σ.call c).put := by rw [releasing]; rfl
  have takes : ∀ s', (σ.moveTo c (.removed s)).Took s' ↔ s' = s ∨ σ.Took s' :=
    exists_moveTo Call.took (by rw [releasing]; rfl) rfl
  have adds : (Call.removed s).adds = (σ.call c).adds := by rw [releasing]; rfl
  have same := view_moveTo (σ := σ) Call.adds adds
  constructor
  case known => exact fun d s' adding => inv.known d s' ((same d).symm.trans adding)
  case sole =>
    intro d e s' first second
    exact inv.sole d e s' ((same d).symm.trans first) ((same e).symm.trans second)
  case once =>
    intro d e s' first second
    rw [moveTo_call] at first second
    split at first <;> split at second
    · rename_i left right
      exact left.trans right.symm
    · obtain rfl : s = s' := Option.some.inj first
      exact absurd ⟨e, second⟩ untaken
    · obtain rfl : s = s' := Option.some.inj second
      exact absurd ⟨d, first⟩ untaken
    · exact inv.once d e s' first second
  case came =>
    intro s' taken
    refine (put_moveTo put s').mpr ?_
    rcases (takes s').mp taken with rfl | taken
    · exact held
    · exact inv.came s' taken
  case stored =>
    intro id s'
    have puts := put_moveTo (σ := σ) put s'
    by_cases mine : id = sessionId
    · subst mine
      refine iff_of_false ?_ fun ⟨equal, there, left⟩ => ?_
      · change AList.lookup id (σ.sessions.erase id) ≠ some s'
        rw [AList.lookup_erase]
        exact nofun
      · have before : σ.sessions.lookup id = some s' := (inv.stored id s').mpr
          ⟨equal, puts.mp there, fun taken => left ((takes s').mpr (.inr taken))⟩
        exact left ((takes s').mpr (.inl (Option.some.inj (before.symm.trans found))))
    · refine (Eq.congr_left (AList.lookup_erase_ne mine)).trans ((inv.stored id s').trans ?_)
      refine and_congr_right fun equal => and_congr puts.symm (not_congr ?_)
      refine ((takes s').trans (or_iff_right ?_)).symm
      rintro rfl
      exact mine (equal.symm.trans ids)
  case indexed =>
    intro fsUUID id there
    obtain ⟨named, s', put', ids'⟩ := inv.indexed fsUUID id there
    exact ⟨named, s', (put_moveTo put s').mpr put', ids'⟩
  case findable =>
    intro d s' added named left
    rw [moveTo_call] at added
    have unadded : ∀ other, Call.removed s ≠ .added other true := nofun
    exact inv.findable_moveTo unadded d s' added named fun taken =>
      left ((takes s').mpr (.inr taken))
  case below =>
    intro d s' current loaded
    rw [moveTo_call] at loaded
    split at loaded
    · cases loaded
    · exact inv.below d s' current loaded
  case bounded => exact inv.bounded
  case counted =>
    obtain ⟨n, removed, first, second, total⟩ := inv.counted
    refine ⟨n, removed + 1, number_moveTo (f := Call.isAcquired) first (by rw [releasing]; rfl),
      number_enter (f := Call.isRemoved) (.removed s) second (by rw [releasing]; rfl) rfl, ?_⟩
    have shorter : (σ.sessions.erase sessionId).entries.length + 1 = σ.sessions.entries.length := by
      have present : sessionId ∈ σ.sessions.keys :=
        AList.mem_keys.mp (AList.lookup_isSome.mp (by rw [found]; rfl))
      have keys := List.length_erase_add_one present
      rw [← AList.keys_erase] at keys
      simpa [AList.keys, List.keys] using keys
    simp only [State.moveTo]
    omega

/-- `uuidIndex.Store`. -/
theorem Inv.index (inv : Inv maxSessions past σ) (apart : Apart past) {s : Session}
    (stored : σ.call c = .stored s) (named : s.fsUUID ≠ "") : Inv maxSessions past
      (State.moveTo { σ with uuidIndex := σ.uuidIndex.insert s.fsUUID s.sessionId } c
        (.added s true)) := by
  have held : σ.Put s := ⟨c, by rw [stored]; rfl⟩
  have inside := inv.known_put held
  refine inv.reindex (by rw [stored]; rfl) ?_ ?_ nofun
  case refine_1 =>
    intro fsUUID id found
    by_cases mine : fsUUID = s.fsUUID
    · subst mine
      rw [AList.lookup_insert] at found
      exact ⟨named, s, held, rfl, Option.some.inj found⟩
    · rw [AList.lookup_insert_ne mine] at found
      exact inv.indexed fsUUID id found
  case refine_2 =>
    intro d s' added named' untaken
    by_cases mine : s' = s
    · rw [mine, AList.lookup_insert]
    · split at added
      · cases added
        exact absurd rfl mine
      · have known := inv.known d s' (by rw [added]; rfl)
        rw [AList.lookup_insert_ne fun equal => mine (apart.fsUUIDs s' known s inside equal)]
        exact inv.findable d s' added named' untaken

/-- `uuidIndex.Delete`. -/
theorem Inv.unindex (inv : Inv maxSessions past σ) (apart : Apart past) {s : Session}
    (decremented : σ.call c = .decremented s) : Inv maxSessions past
      (State.moveTo { σ with uuidIndex := σ.uuidIndex.erase s.fsUUID } c (.released (some s))) := by
  have taken : σ.Took s := ⟨c, by rw [decremented]; rfl⟩
  have inside := inv.known_put (inv.came s taken)
  -- the index loses an entry of the taken session alone
  have others : ∀ s' ∈ past, s' ≠ s → s'.fsUUID ≠ s.fsUUID :=
    fun s' known other equal => other (apart.fsUUIDs s' known s inside equal)
  refine inv.reindex (by rw [decremented]; rfl) ?_ ?_ nofun
  case refine_1 =>
    intro fsUUID id found
    by_cases mine : fsUUID = s.fsUUID
    · rw [mine, AList.lookup_erase] at found
      cases found
    · rw [AList.lookup_erase_ne mine] at found
      exact inv.indexed fsUUID id found
  case refine_2 =>
    intro d s' added named untaken
    split at added
    · cases added
    · have known := inv.known d s' (by rw [added]; rfl)
      rw [AList.lookup_erase_ne (others s' known fun same => untaken (same ▸ taken))]
      exact inv.findable d s' added named untaken

theorem advance_inv (inv : Inv maxSessions past σ) (apart : Apart past)
    (stepped : advance maxSessions σ c (σ.call c) = some τ) : Inv maxSessions past τ := by
  obtain ⟨acquired, removed, first, second, total⟩ := inv.counted
  have bounded := inv.bounded
  cases call : σ.call c with
  | idle | added | released =>
    rw [call] at stepped
    cases stepped
  | acquiring s =>
    rw [call] at stepped
    cases stepped
    split
    · exact inv.settle (by rw [call]; rfl) nofun nofun
    · rename_i room
      refine inv.settle (by rw [call]; rfl) nofun ?_
      rintro s' current loaded
      cases loaded
      exact not_le.mp room
  | loaded s current =>
    have room := inv.below c s current call
    rw [call] at stepped
    simp only [advance] at stepped
    split at stepped <;> cases stepped
    · exact inv.quiet (by rw [call]; rfl) (by rw [call]; rfl) (by rw [call]; rfl) inv.indexed
        (inv.findable_moveTo nofun) nofun (by omega) ⟨acquired + 1, removed,
          number_enter (f := Call.isAcquired) _ first (by rw [call]; rfl) rfl,
          number_moveTo (f := Call.isRemoved) second (by rw [call]; rfl), by push_cast; omega⟩
    · exact inv.settle (by rw [call]; rfl) nofun nofun
  | acquired s =>
    rw [call] at stepped
    cases stepped
    exact inv.store apart call
  | stored s =>
    rw [call] at stepped
    cases stepped
    split
    · exact inv.index apart call ‹_›
    · rename_i unnamed
      refine inv.reindex (by rw [call]; rfl) inv.indexed (fun d s' added named untaken => ?_) nofun
      split at added
      · cases added
        exact absurd named unnamed
      · exact inv.findable d s' added named untaken
  | releasing sessionId =>
    rw [call] at stepped
    simp only [advance, AList.extract_eq_lookup_erase] at stepped
    cases found : σ.sessions.lookup sessionId with
    | none =>
      rw [found] at stepped
      cases stepped
      exact inv.settle (by rw [call]; rfl) nofun nofun
    | some s =>
      rw [found] at stepped
      cases stepped
      exact inv.take call found
  | removed s =>
    rw [call] at stepped
    cases stepped
    obtain ⟨fewer, rfl, left⟩ := number_leave (f := Call.isRemoved) (.decremented s) second
      (by rw [call]; rfl) rfl
    exact inv.quiet (by rw [call]; rfl) (by rw [call]; rfl) (by rw [call]; rfl) inv.indexed
      (inv.findable_moveTo nofun) nofun (by omega) ⟨acquired, fewer,
        number_moveTo (f := Call.isAcquired) first (by rw [call]; rfl), left, by
          push_cast at total; omega⟩
  | decremented s =>
    rw [call] at stepped
    cases stepped
    split
    · exact inv.unindex apart call
    · exact inv.settle (by rw [call]; rfl) nofun nofun

theorem step_inv {labels : List (Label C)} {l : Label C} (distinct : Distinct (labels ++ [l]))
    (inv : Inv maxSessions (labels.filterMap addition) σ)
    (stepped : step maxSessions σ l = some τ) :
    Inv maxSessions ((labels ++ [l]).filterMap addition) τ := by
  rw [List.filterMap_append]
  cases l with
  | addIfUnderCapacity c s =>
    simp only [step, Option.ite_none_right_eq_some, Option.some.injEq] at stepped
    obtain ⟨idle, rfl⟩ := stepped
    rw [Distinct, List.filterMap_append] at distinct
    exact inv.begin idle (Separate.notMem distinct)
  | release c sessionId =>
    simp only [step, Option.ite_none_right_eq_some, Option.some.injEq] at stepped
    obtain ⟨idle, rfl⟩ := stepped
    rw [show [Label.release c sessionId].filterMap addition = [] from rfl, List.append_nil]
    exact inv.settle (by rw [idle]; rfl) nofun nofun
  | next c =>
    rw [show [Label.next c].filterMap addition = [] from rfl, List.append_nil]
    have apart := distinct.apart
    rw [List.filterMap_append, show [Label.next c].filterMap addition = [] from rfl,
      List.append_nil] at apart
    exact advance_inv inv apart stepped

omit [DecidableEq C] in
theorem Distinct.of_append {labels more : List (Label C)} (distinct : Distinct (labels ++ more)) :
    Distinct labels := by
  rw [Distinct, List.filterMap_append] at distinct
  exact Separate.of_append distinct

theorem run_inv {labels : List (Label C)} (nonneg : 0 ≤ maxSessions) (distinct : Distinct labels)
    (run : exec (step maxSessions) (State.initial C) labels = some σ) :
    Inv maxSessions (labels.filterMap addition) σ := by
  refine exec_history (fun past σ => Distinct past → Inv maxSessions (past.filterMap addition) σ)
    (fun past σ l τ before stepped distinct => ?_) run (fun _ => Inv.initial nonneg) distinct
  exact step_inv distinct (before distinct.of_append) stepped

omit [DecidableEq C] in
/-- Nothing is between two steps when every call has finished. -/
theorem Inv.balanced (inv : Inv maxSessions past σ) (finished : ∀ c, (σ.call c).Finished) :
    σ.activeCount = σ.sessions.entries.length := by
  obtain ⟨acquired, removed, first, second, total⟩ := inv.counted
  have settled : Number (fun c => (σ.call c).isAcquired = true) 0 := by
    refine number_zero.mpr fun c phase => ?_
    have done := finished c
    cases call : σ.call c <;> simp_all [Call.isAcquired, Call.Finished]
  have settled' : Number (fun c => (σ.call c).isRemoved = true) 0 := by
    refine number_zero.mpr fun c phase => ?_
    have done := finished c
    cases call : σ.call c <;> simp_all [Call.isRemoved, Call.Finished]
  obtain rfl := first.unique settled
  obtain rfl := second.unique settled'
  simpa using total

omit [DecidableEq C] in
theorem put_finished (finished : ∀ c, (σ.call c).Finished) (s : Session) :
    σ.Put s ↔ ∃ c, σ.call c = .added s true := by
  refine exists_congr fun c => ⟨fun put => ?_, fun added => by rw [added]; rfl⟩
  have done := finished c
  cases call : σ.call c with
  | added s' accepted =>
    rw [call] at put
    cases accepted with
    | true => rw [Option.some.inj put]
    | false => cases put
  | stored =>
    rw [call] at done
    exact False.elim done
  | idle | acquiring | loaded | acquired | releasing | removed | decremented | released =>
    rw [call] at put
    cases put

omit [DecidableEq C] in
theorem took_finished (finished : ∀ c, (σ.call c).Finished) (s : Session) :
    σ.Took s ↔ ∃ c, σ.call c = .released (some s) := by
  refine exists_congr fun c => ⟨fun took => ?_, fun released => by rw [released]; rfl⟩
  have done := finished c
  cases call : σ.call c with
  | released took' =>
    rw [call] at took
    exact congrArg _ took
  | removed | decremented =>
    rw [call] at done
    exact False.elim done
  | idle | acquiring | loaded | acquired | stored | added | releasing =>
    rw [call] at took
    cases took

omit [DecidableEq C] in
theorem Inv.getByFSUUID (inv : Inv maxSessions past σ) (apart : Apart past)
    (finished : ∀ c, (σ.call c).Finished) (fsUUID : String) (s : Session) :
    σ.getByFSUUID fsUUID = some s ↔ fsUUID ≠ "" ∧ s.fsUUID = fsUUID ∧ σ.Put s ∧ ¬σ.Took s := by
  simp only [State.getByFSUUID, State.get, Option.bind_eq_some_iff, inv.stored]
  constructor
  · rintro ⟨id, found, ids, held, untaken⟩
    obtain ⟨named, s', held', fsUUIDs, ids'⟩ := inv.indexed fsUUID id found
    have same : s = s' :=
      apart.sessionIds s (inv.known_put held) s' (inv.known_put held') (ids.trans ids'.symm)
    exact ⟨named, same ▸ fsUUIDs, held, untaken⟩
  · rintro ⟨named, rfl, held, untaken⟩
    obtain ⟨c, added⟩ := (put_finished finished s).mp held
    exact ⟨s.sessionId, inv.findable c s added named untaken, rfl, held, untaken⟩

/-- A Release of a session that has been taken finds nothing. -/
theorem Inv.again (inv : Inv maxSessions past σ) (apart : Apart past) {s : Session}
    (releasing : σ.call c = .releasing s.sessionId) (taken : σ.Took s) :
    step maxSessions σ (.next c) = some (σ.moveTo c (.released none)) := by
  have absent : σ.sessions.lookup s.sessionId = none := by
    cases found : σ.sessions.lookup s.sessionId with
    | none => rfl
    | some s' =>
      obtain ⟨ids, held, untaken⟩ := (inv.stored _ _).mp found
      have same := apart.sessionIds s' (inv.known_put held) s (inv.known_put (inv.came s taken)) ids
      exact absurd taken (same ▸ untaken)
  simp only [step, releasing, advance, AList.extract_eq_lookup_erase, absent]

/-- What a step that leaves call `c` in phase `call` does about puts and takes. -/
structure Move (σ : State C) (l : Label C) (c : C) (call : Call) : Prop where
  keepsPut : ∀ s, (σ.call c).put = some s → call.put = some s
  keepsTook : ∀ s, (σ.call c).took = some s → call.took = some s
  begins : ∀ id, call = .releasing id → l = .release c id
  takes : ∀ s, call.took = some s → (σ.call c).took = some s ∨
    ∃ id, σ.call c = .releasing id ∧ σ.sessions.lookup id = some s
  finds : ∀ id s, σ.call c = .releasing id → σ.sessions.lookup id = some s → call.took = some s

theorem step_move {l : Label C} (stepped : step maxSessions σ l = some τ) :
    ∃ c call, τ.call = Function.update σ.call c call ∧ Move σ l c call := by
  cases l with
  | addIfUnderCapacity c s =>
    simp only [step, Option.ite_none_right_eq_some, Option.some.injEq] at stepped
    obtain ⟨idle, rfl⟩ := stepped
    refine ⟨c, .acquiring s, rfl, ?_⟩
    constructor <;> simp [idle, Call.put, Call.took]
  | release c sessionId =>
    simp only [step, Option.ite_none_right_eq_some, Option.some.injEq] at stepped
    obtain ⟨idle, rfl⟩ := stepped
    refine ⟨c, .releasing sessionId, rfl, ?_⟩
    constructor <;> simp [idle, Call.put, Call.took]
  | next c =>
    refine ⟨c, τ.call c, ?_⟩
    simp only [step] at stepped
    cases call : σ.call c with
    | idle | added | released =>
      rw [call] at stepped
      cases stepped
    | acquired s | stored s | removed s | decremented s =>
      rw [call] at stepped
      cases stepped
      refine ⟨by simp [State.moveTo], ?_⟩
      constructor <;> simp [State.moveTo, call, Call.put, Call.took]
    | acquiring s =>
      rw [call] at stepped
      simp only [advance, Option.some.injEq] at stepped
      subst stepped
      refine ⟨by simp [State.moveTo], ?_⟩
      split <;> constructor <;> simp_all [State.moveTo, Call.put, Call.took]
    | loaded s current =>
      rw [call] at stepped
      simp only [advance] at stepped
      split at stepped <;> cases stepped <;> refine ⟨by simp [State.moveTo], ?_⟩ <;>
        constructor <;> simp [State.moveTo, call, Call.put, Call.took]
    | releasing sessionId =>
      rw [call] at stepped
      simp only [advance, AList.extract_eq_lookup_erase] at stepped
      cases found : σ.sessions.lookup sessionId <;> rw [found] at stepped <;> cases stepped <;>
        refine ⟨by simp [State.moveTo], ?_⟩ <;>
        constructor <;> simp [State.moveTo, call, ← found, Call.put, Call.took]
      all_goals exact fun _ _ same found' => same ▸ found'

theorem call_update (moved : τ.call = Function.update σ.call c call) (d : C) :
    τ.call d = if d = c then call else σ.call d := by
  rw [moved, Function.update_apply]

theorem step_keeps_put {l : Label C} (stepped : step maxSessions σ l = some τ) {s : Session}
    (held : σ.Put s) : τ.Put s := by
  obtain ⟨c, call, moved, move⟩ := step_move stepped
  obtain ⟨d, put⟩ := held
  refine ⟨d, ?_⟩
  rw [call_update moved]
  split
  · rename_i same
    exact move.keepsPut s (same ▸ put)
  · exact put

theorem step_keeps_took {l : Label C} (stepped : step maxSessions σ l = some τ) {s : Session}
    (taken : σ.Took s) : τ.Took s := by
  obtain ⟨c, call, moved, move⟩ := step_move stepped
  obtain ⟨d, took⟩ := taken
  refine ⟨d, ?_⟩
  rw [call_update moved]
  split
  · rename_i same
    exact move.keepsTook s (same ▸ took)
  · exact took

/-- A session is only taken by a Release of its id. -/
theorem took_requested {labels : List (Label C)} (nonneg : 0 ≤ maxSessions)
    (distinct : Distinct labels) (run : exec (step maxSessions) (State.initial C) labels = some σ)
    {s : Session} (taken : σ.Took s) : ∃ c, .release c s.sessionId ∈ labels := by
  have requests := exec_history (fun past σ => Distinct past →
    Inv maxSessions (past.filterMap addition) σ ∧
      ∀ c, (∀ id, σ.call c = .releasing id → .release c id ∈ past) ∧
        ∀ s, (σ.call c).took = some s → .release c s.sessionId ∈ past)
    (fun past σ l τ before stepped distinct => ?_) run
    (fun _ => ⟨Inv.initial nonneg, fun c => ⟨nofun, nofun⟩⟩) distinct
  · obtain ⟨c, took⟩ := taken
    exact ⟨c, (requests.2 c).2 s took⟩
  obtain ⟨inv, requested⟩ := before (distinct.of_append)
  refine ⟨step_inv distinct inv stepped, fun d => ?_⟩
  obtain ⟨c, call, moved, move⟩ := step_move stepped
  have old := requested d
  rw [call_update moved]
  split
  · rename_i same
    subst same
    refine ⟨fun id releasing => ?_, fun s took => ?_⟩
    · rw [move.begins id releasing]
      exact List.mem_append_right past (List.mem_singleton_self _)
    · rcases move.takes s took with took | ⟨id, releasing, found⟩
      · exact List.mem_append_left _ (old.2 s took)
      · rw [((inv.stored id s).mp found).1]
        exact List.mem_append_left _ (old.1 id releasing)
  · exact ⟨fun id releasing => List.mem_append_left _ (old.1 id releasing),
      fun s took => List.mem_append_left _ (old.2 s took)⟩

/-- A Release that begins after the session has been put into the store sees to it that the
session has been taken when it returns. -/
theorem later_release_takes {before later : List (Label C)} {ρ : State C} {s : Session}
    (nonneg : 0 ≤ maxSessions) (distinct : Distinct (before ++ .release c s.sessionId :: later))
    (start : exec (step maxSessions) (State.initial C) before = some ρ) (held : ρ.Put s)
    (run : exec (step maxSessions) ρ (.release c s.sessionId :: later) = some σ) :
    σ.Took s ∨ σ.call c = .releasing s.sessionId := by
  obtain ⟨υ, begun, rest⟩ := exec_cons.mp run
  rw [List.append_cons] at distinct
  have inv := step_inv distinct.of_append (run_inv nonneg distinct.of_append.of_append start) begun
  have heldNow := step_keeps_put begun held
  have releasing : υ.call c = .releasing s.sessionId := by
    simp only [step, Option.ite_none_right_eq_some, Option.some.injEq] at begun
    rw [← begun.2, moveTo_call, if_pos rfl]
  refine (exec_history (fun past σ => Distinct (before ++ [Label.release c s.sessionId] ++ past) →
      Inv maxSessions ((before ++ [Label.release c s.sessionId] ++ past).filterMap addition) σ ∧
        σ.Put s ∧ (σ.Took s ∨ σ.call c = .releasing s.sessionId))
    (fun past σ l τ kept stepped distinct => ?_) rest (fun distinct => ?_) distinct).2.2
  · rw [← List.append_assoc] at distinct ⊢
    obtain ⟨inv, held, waiting⟩ := kept distinct.of_append
    refine ⟨step_inv distinct inv stepped, step_keeps_put stepped held, ?_⟩
    rcases waiting with taken | releasing
    · exact .inl (step_keeps_took stepped taken)
    obtain ⟨d, call, moved, move⟩ := step_move stepped
    by_cases mine : c = d
    · subst mine
      cases found : σ.sessions.lookup s.sessionId with
      | some s' =>
        obtain ⟨ids, held', -⟩ := (inv.stored _ _).mp found
        have same : s' = s := distinct.of_append.apart.sessionIds s' (inv.known_put held') s
          (inv.known_put held) ids
        refine .inl ⟨c, ?_⟩
        rw [call_update moved, if_pos rfl]
        exact move.finds s.sessionId s releasing (same ▸ found)
      | none =>
        by_cases taken : σ.Took s
        · exact .inl (step_keeps_took stepped taken)
        · exact absurd ((inv.stored _ s).mpr ⟨rfl, held, taken⟩) (by rw [found]; nofun)
    · rw [call_update moved, if_neg mine]
      exact .inr releasing
  · rw [List.append_nil]
    exact ⟨inv, heldNow, .inr releasing⟩

/-- What the store counts and finds in every reachable state. -/
theorem store_accounts {labels : List (Label C)} (nonneg : 0 ≤ maxSessions)
    (distinct : Distinct labels) (run : exec (step maxSessions) (State.initial C) labels = some σ) :
    (0 ≤ σ.activeCount ∧ σ.activeCount ≤ maxSessions ∧
      ∃ acquired removed, Number (fun c => (σ.call c).isAcquired = true) acquired ∧
        Number (fun c => (σ.call c).isRemoved = true) removed ∧
        σ.activeCount = σ.sessions.entries.length + acquired + removed) ∧
    ((∀ c, (σ.call c).Finished) → σ.activeCount = σ.sessions.entries.length ∧
      (∀ sessionId s, σ.get sessionId = some s ↔ s.sessionId = sessionId ∧
        (∃ c, σ.call c = .added s true) ∧ ¬∃ c, σ.call c = .released (some s)) ∧
      ∀ fsUUID s, σ.getByFSUUID fsUUID = some s ↔ fsUUID ≠ "" ∧ s.fsUUID = fsUUID ∧
        (∃ c, σ.call c = .added s true) ∧ ¬∃ c, σ.call c = .released (some s)) ∧
    (∀ c s, σ.Took s → σ.call c = .releasing s.sessionId →
      step maxSessions σ (.next c) = some (σ.moveTo c (.released none))) ∧
    (∀ s, σ.Took s → ∃ c, Label.release c s.sessionId ∈ labels) ∧
    ∀ before later c s ρ, labels = before ++ .release c s.sessionId :: later →
      exec (step maxSessions) (State.initial C) before = some ρ → (∃ d, ρ.call d = .added s true) →
      (σ.call c).Finished → σ.Took s := by
  have inv := run_inv nonneg distinct run
  obtain ⟨acquired, removed, first, second, total⟩ := inv.counted
  refine ⟨⟨by omega, inv.bounded, acquired, removed, first, second, total⟩,
    fun finished => ⟨?_, ?_, ?_⟩,
    fun c s taken releasing => inv.again distinct.apart releasing taken,
    fun s taken => took_requested nonneg distinct run taken, ?_⟩
  · exact inv.balanced finished
  · intro sessionId s
    rw [← put_finished finished s, ← took_finished finished s]
    exact inv.stored sessionId s
  · intro fsUUID s
    rw [← put_finished finished s, ← took_finished finished s]
    exact inv.getByFSUUID distinct.apart finished fsUUID s
  · rintro before later c s ρ rfl start ⟨d, added⟩ finished
    obtain ⟨ρ', start', rest⟩ := exec_append.mp run
    obtain rfl := Option.some.inj (start.symm.trans start')
    have held : ρ.Put s := ⟨d, by rw [added]; rfl⟩
    rcases later_release_takes nonneg distinct start held rest with taken | releasing
    · exact taken
    · rw [releasing] at finished
      exact False.elim finished

/-- Two calls are added, a third finds the store full, and the first is released twice. -/
def busyLabels : List (Label (Fin 5)) :=
  [.addIfUnderCapacity 0 ⟨"s-1", "fs-1"⟩, .addIfUnderCapacity 1 ⟨"s-2", "fs-2"⟩, .next 0, .next 1,
    .next 0, .next 1, .next 1, .next 1, .next 0, .addIfUnderCapacity 2 ⟨"s-3", "fs-3"⟩, .next 2,
    .next 0, .next 1, .release 3 "s-1", .release 4 "s-1", .next 3, .next 1, .next 3, .next 4,
    .next 3]

theorem busy_store_accounts : ∃ σ, exec (step 2) (State.initial (Fin 5)) busyLabels = some σ ∧
    σ.activeCount = σ.sessions.entries.length ∧ σ.get "s-1" ≠ some ⟨"s-1", "fs-1"⟩ ∧
    σ.getByFSUUID "fs-2" = some ⟨"s-2", "fs-2"⟩ := by
  have ends : (exec (step 2) (State.initial (Fin 5)) busyLabels).map (fun σ =>
      decide ((∀ c, (σ.call c).Finished) ∧ σ.call 3 = .released (some ⟨"s-1", "fs-1"⟩) ∧
        σ.call 1 = .added ⟨"s-2", "fs-2"⟩ true ∧
          ∀ c, σ.call c ≠ .released (some ⟨"s-2", "fs-2"⟩))) =
      some true := by
    decide +kernel
  obtain ⟨σ, run, checked⟩ := Option.map_eq_some_iff.mp ends
  obtain ⟨finished, released, added, kept⟩ := of_decide_eq_true checked
  obtain ⟨-, quiet, -⟩ := store_accounts (by decide) ⟨by decide, by decide⟩ run
  obtain ⟨balanced, finds, findsByFSUUID⟩ := quiet finished
  refine ⟨σ, run, balanced, fun found => ((finds _ _).mp found).2.2 ⟨3, released⟩, ?_⟩
  exact (findsByFSUUID _ _).mpr ⟨by decide, rfl, ⟨1, added⟩, fun ⟨c, other⟩ => kept c other⟩

end Steps

end AgentOE.Gateway.MemoryStore
