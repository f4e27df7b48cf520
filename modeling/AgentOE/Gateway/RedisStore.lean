import AgentOE.Gateway.MemoryStore

/-! The session store that gateway nodes share through Redis: one counter and two keys a session
in Redis, two maps on each node. A label is one Redis command, or one locked section, of one
call. -/
namespace AgentOE.Gateway.RedisStore
open Transition Census
open MemoryStore (Session Apart Separate)

/-- What becomes of a Redis command. One that fails may have taken effect. -/
inductive Fate where
  | answered
  | lost
  | unanswered
  deriving DecidableEq, Repr

/-- A call of `AddIfUnderCapacity` (to `added`), `Release` (from `releasing`) or `onChannelHangup`
(from `hanging`). `failed` is the error of the pipeline so far. -/
inductive Call where
  | idle
  | acquiring (s : Session)
  | setting (s : Session)
  | indexing (s : Session) (failed : Bool)
  | undoing (s : Session)
  | storing (s : Session)
  | added (s : Session) (accepted : Bool)
  | hanging (fsUUID : String)
  | seeking (fsUUID : String)
  | finding (sessionId : String)
  | fetching (sessionId : String)
  | releasing (sessionId : String)
  | removed (s : Session)
  | unkeyed (s : Session)
  | unindexed (s : Session)
  /-- With the session that the call took out of the local map. -/
  | released (took : Option Session)
  /-- Its node was restarted. -/
  | dead
  deriving DecidableEq, Repr

/-- `vbgw:active_calls`, the keys `vbgw:session:` and `vbgw:fsuuid:`, and the maps of each node. -/
structure State (N C : Type) where
  activeCalls : Int
  sessionKeys : String → Option Session
  fsuuidKeys : String → Option String
  localMap : N → String → Option Session
  localByUUID : N → String → Option String
  call : C → Call

def State.initial (N C : Type) : State N C :=
  ⟨0, fun _ => none, fun _ => none, fun _ _ => none, fun _ _ => none, fun _ => .idle⟩

inductive Label (N C : Type) where
  | addIfUnderCapacity (c : C) (s : Session)
  | release (c : C) (sessionId : String)
  | hangup (c : C) (fsUUID : String)
  | next (c : C) (fate : Fate)
  | restart (n : N)
  /-- The day that the keys live is over. -/
  | expireSession (sessionId : String)
  | expireFsuuid (fsUUID : String)
  deriving DecidableEq, Repr

def Call.Finished : Call → Prop
  | .idle | .added .. | .released _ | .dead => True
  | _ => False

instance (call : Call) : Decidable call.Finished := match call with
  | .idle | .added .. | .released _ | .dead => .isTrue trivial
  | .acquiring _ | .setting _ | .indexing .. | .undoing _ | .storing _ | .hanging _ | .seeking _
  | .finding _ | .fetching _ | .releasing _ | .removed _ | .unkeyed _ | .unindexed _ =>
    .isFalse id

section Machine
variable {N C : Type} [DecidableEq N] [DecidableEq C]

def State.moveTo (σ : State N C) (c : C) (call : Call) : State N C :=
  { σ with call := Function.update σ.call c call }

/-- An assignment in the map of one node. -/
def assign {V : Type} (maps : N → String → Option V) (n : N) (key : String) (value : Option V) :
    N → String → Option V :=
  Function.update maps n (Function.update (maps n) key value)

/-- `rs.localMap[s.SessionID] = s` and the index, under the lock. -/
def State.enter (σ : State N C) (n : N) (s : Session) : State N C := { σ with
  localMap := assign σ.localMap n s.sessionId (some s)
  localByUUID := if s.fsUUID ≠ "" then assign σ.localByUUID n s.fsUUID
    (some s.sessionId) else σ.localByUUID }

/-- Both deletions of `Release`, under the lock. -/
def State.drop (σ : State N C) (n : N) (sessionId : String) (s : Session) : State N C := { σ with
  localMap := assign σ.localMap n sessionId none
  localByUUID := if s.fsUUID ≠ "" then assign σ.localByUUID n s.fsUUID none else σ.localByUUID }

def State.setSession (σ : State N C) (sessionId : String) (value : Option Session) (fate : Fate) :
    State N C :=
  if fate = .lost then σ
  else { σ with sessionKeys := Function.update σ.sessionKeys sessionId value }

def State.setFsuuid (σ : State N C) (fsUUID : String) (value : Option String) (fate : Fate) :
    State N C :=
  if fate = .lost ∨ fsUUID = "" then σ
  else { σ with fsuuidKeys := Function.update σ.fsuuidKeys fsUUID value }

def State.decr (σ : State N C) (fate : Fate) : State N C :=
  if fate = .lost then σ else { σ with activeCalls := σ.activeCalls - 1 }

/-- The next step of a call on node `n`. The fate is that of its Redis command, if it is one. -/
def advance (maxCalls : Int) (n : N) (σ : State N C) (c : C) (fate : Fate) : Call → State N C
  | .acquiring s =>
    if σ.activeCalls < maxCalls ∧ fate ≠ .lost then
      State.moveTo { σ with activeCalls := σ.activeCalls + 1 } c
        (if fate = .answered then .setting s else .added s false)
    else σ.moveTo c (.added s false)
  | .setting s => (σ.setSession s.sessionId (some s) fate).moveTo c (.indexing s (fate ≠ .answered))
  | .indexing s failed =>
    (σ.setFsuuid s.fsUUID (some s.sessionId) fate).moveTo c
      (if failed ∨ (s.fsUUID ≠ "" ∧ fate ≠ .answered) then .undoing s else .storing s)
  | .undoing s => (σ.decr fate).moveTo c (.added s false)
  | .storing s => (σ.enter n s).moveTo c (.added s true)
  -- `GetByFSUUID`
  | .hanging fsUUID => match σ.localByUUID n fsUUID with
    | some sessionId => σ.moveTo c (.finding sessionId)
    | none => σ.moveTo c (.seeking fsUUID)
  | .seeking fsUUID => match fate, σ.fsuuidKeys fsUUID with
    | .answered, some sessionId => σ.moveTo c (.finding sessionId)
    | _, _ => σ.moveTo c (.released none)
  -- `Get`
  | .finding sessionId => match σ.localMap n sessionId with
    | some s => σ.moveTo c (.releasing s.sessionId)
    | none => σ.moveTo c (.fetching sessionId)
  | .fetching sessionId => match fate, σ.sessionKeys sessionId with
    | .answered, some s => σ.moveTo c (.releasing s.sessionId)
    | _, _ => σ.moveTo c (.released none)
  | .releasing sessionId => match σ.localMap n sessionId with
    | some s => (σ.drop n sessionId s).moveTo c (.removed s)
    | none => σ.moveTo c (.released none)
  -- the session was found under its own id
  | .removed s => (σ.setSession s.sessionId none fate).moveTo c (.unkeyed s)
  | .unkeyed s => (σ.setFsuuid s.fsUUID none fate).moveTo c (.unindexed s)
  | .unindexed s => (σ.decr fate).moveTo c (.released (some s))
  | .idle | .added .. | .released _ | .dead => σ

def step (maxCalls : Int) (node : C → N) (σ : State N C) : Label N C → Option (State N C)
  | .addIfUnderCapacity c s => if σ.call c = .idle then some (σ.moveTo c (.acquiring s)) else none
  | .release c sessionId =>
    if σ.call c = .idle then some (σ.moveTo c (.releasing sessionId)) else none
  | .hangup c fsUUID => if σ.call c = .idle then some (σ.moveTo c (.hanging fsUUID)) else none
  | .next c fate =>
    if (σ.call c).Finished then none else some (advance maxCalls (node c) σ c fate (σ.call c))
  | .restart n => some { σ with
      localMap := Function.update σ.localMap n fun _ => none
      localByUUID := Function.update σ.localByUUID n fun _ => none
      call := fun c => if node c = n ∧ ¬(σ.call c).Finished then .dead else σ.call c }
  | .expireSession sessionId =>
    some { σ with sessionKeys := Function.update σ.sessionKeys sessionId none }
  | .expireFsuuid fsUUID => some { σ with fsuuidKeys := Function.update σ.fsuuidKeys fsUUID none }

/-- The call has a place counted for it, which only it can give back. -/
def Call.holds : Call → Bool
  | .setting _ | .indexing .. | .undoing _ | .storing _ | .removed _ | .unkeyed _ | .unindexed _ =>
    true
  | _ => false

/-- What can lead to a decrement: a call, or a session in a node's map. -/
inductive Holder (N C : Type) where
  | call (c : C)
  | entry (n : N) (sessionId : String)
  deriving DecidableEq

def State.Holds (σ : State N C) : Holder N C → Prop
  | .call c => (σ.call c).holds = true
  | .entry n sessionId => (σ.localMap n sessionId).isSome = true

variable {maxCalls : Int} {node : C → N} {σ τ : State N C} {c : C} {call : Call} {k : Nat}
    {l : Label N C}

omit [DecidableEq N] in
@[simp] theorem moveTo_call (σ : State N C) (c d : C) (call : Call) :
    (σ.moveTo c call).call d = if d = c then call else σ.call d := by
  simp [State.moveTo, Function.update_apply]

theorem number_moveTo (number : Number σ.Holds k) {base : State N C} (call : Call)
    (calls : base.call = σ.call) (maps : base.localMap = σ.localMap) :
    ∃ m, Number (base.moveTo c call).Holds m ∧
      m + (σ.call c).holds.toNat = k + call.holds.toNat := by
  refine number.change (i := .call c) Iff.rfl ?_ fun h other => ?_
  · simp [State.Holds]
  · cases h with
    | call d =>
      have apart : d ≠ c := fun same => other (same ▸ rfl)
      simp [State.Holds, apart, calls]
    | entry n id =>
      change (base.localMap n id).isSome = true ↔ _
      rw [maps]
      rfl

omit [DecidableEq C] in
theorem assign_apply {V : Type} (maps : N → String → Option V) (n n' : N) (key key' : String)
    (value : Option V) :
    assign maps n key value n' key' = if n' = n ∧ key' = key then value else maps n' key' := by
  simp only [assign, Function.update_apply]
  by_cases here : n' = n
  · subst here
    simp [Function.update_apply]
  · simp [here]

/-- A session enters or leaves a node's map. -/
theorem number_entry (number : Number σ.Holds k) (base : State N C) {n : N} {id : String}
    {value : Option Session} (calls : base.call = σ.call)
    (maps : base.localMap = assign σ.localMap n id value) :
    ∃ m, Number base.Holds m ∧ m + (σ.localMap n id).isSome.toNat = k + value.isSome.toNat := by
  refine number.change (i := .entry n id) Iff.rfl ?_ fun h other => ?_
  · simp [State.Holds, maps, assign_apply]
  · cases h with
    | call d => simp [State.Holds, calls]
    | entry n' id' =>
      have apart : ¬(n' = n ∧ id' = id) := fun same => other (same.1 ▸ same.2 ▸ rfl)
      rw [State.Holds, State.Holds, maps, assign_apply, if_neg apart]

/-- No place is lost: no script takes effect unanswered, no giving back is lost, and no node
restarts with sessions or with calls that have a place. -/
def Sound (maxCalls : Int) (node : C → N) (σ : State N C) : Label N C → Prop
  | .next c fate => match σ.call c with
    | .acquiring _ => fate = .unanswered → maxCalls ≤ σ.activeCalls
    | .undoing _ | .removed _ | .unkeyed _ | .unindexed _ => fate ≠ .lost
    | _ => True
  | .restart n => (∀ id, σ.localMap n id = none) ∧ ∀ c, node c = n → (σ.call c).holds = false
  | _ => True

/-- The counter covers the places that can be given back as well as before, and where none is lost
the difference is the same. -/
def Covers (σ τ : State N C) (k : Nat) (P : Prop) : Prop := ∃ m, Number τ.Holds m ∧
  (m : Int) + σ.activeCalls ≤ k + τ.activeCalls ∧
    (P → (m : Int) + σ.activeCalls = k + τ.activeCalls)

theorem covers_moveTo {P : Prop} (number : Number σ.Holds k) {base : State N C}
    (calls : base.call = σ.call) (maps : base.localMap = σ.localMap) {d : Int}
    (count : base.activeCalls = σ.activeCalls + d)
    (fewer : (call.holds.toNat : Int) ≤ (σ.call c).holds.toNat + d)
    (same : P → (call.holds.toNat : Int) = (σ.call c).holds.toNat + d) :
    Covers σ (base.moveTo c call) k P := by
  obtain ⟨m, moved, total⟩ := number_moveTo (c := c) number call calls maps
  have counted : (base.moveTo c call).activeCalls = σ.activeCalls + d := count
  refine ⟨m, moved, by omega, fun holds => ?_⟩
  have := same holds
  omega

/-- A step that counts nothing. -/
theorem covers_same {P : Prop} (number : Number σ.Holds k) {base : State N C}
    (calls : base.call = σ.call) (maps : base.localMap = σ.localMap)
    (count : base.activeCalls = σ.activeCalls) (places : call.holds = (σ.call c).holds) :
    Covers σ (base.moveTo c call) k P := by
  refine covers_moveTo number calls maps (count.trans (Int.add_zero _).symm)
    (by rw [places]; omega) fun _ => ?_
  rw [places]
  omega

omit [DecidableEq N] [DecidableEq C] in
@[simp] theorem setSession_fields (σ : State N C) (id : String) (value : Option Session)
    (fate : Fate) : (σ.setSession id value fate).call = σ.call ∧
      (σ.setSession id value fate).localMap = σ.localMap ∧
      (σ.setSession id value fate).localByUUID = σ.localByUUID ∧
      (σ.setSession id value fate).activeCalls = σ.activeCalls ∧
      (σ.setSession id value fate).fsuuidKeys = σ.fsuuidKeys := by
  unfold State.setSession
  split <;> exact ⟨rfl, rfl, rfl, rfl, rfl⟩

omit [DecidableEq N] [DecidableEq C] in
@[simp] theorem setFsuuid_fields (σ : State N C) (fsUUID : String) (value : Option String)
    (fate : Fate) : (σ.setFsuuid fsUUID value fate).call = σ.call ∧
      (σ.setFsuuid fsUUID value fate).localMap = σ.localMap ∧
      (σ.setFsuuid fsUUID value fate).localByUUID = σ.localByUUID ∧
      (σ.setFsuuid fsUUID value fate).activeCalls = σ.activeCalls ∧
      (σ.setFsuuid fsUUID value fate).sessionKeys = σ.sessionKeys := by
  unfold State.setFsuuid
  split <;> exact ⟨rfl, rfl, rfl, rfl, rfl⟩

omit [DecidableEq N] [DecidableEq C] in
@[simp] theorem decr_fields (σ : State N C) (fate : Fate) : (σ.decr fate).call = σ.call ∧
    (σ.decr fate).localMap = σ.localMap ∧ (σ.decr fate).localByUUID = σ.localByUUID ∧
    (σ.decr fate).sessionKeys = σ.sessionKeys ∧ (σ.decr fate).fsuuidKeys = σ.fsuuidKeys := by
  unfold State.decr
  split <;> exact ⟨rfl, rfl, rfl, rfl, rfl⟩

omit [DecidableEq N] [DecidableEq C] in
theorem decr_activeCalls (σ : State N C) (fate : Fate) : (σ.decr fate).activeCalls =
    if fate = .lost then σ.activeCalls else σ.activeCalls - 1 := by
  unfold State.decr
  split <;> rfl

/-- The decrement of a call that has a place. -/
theorem covers_decr {P : Prop} (number : Number σ.Holds k) {fate : Fate}
    (placed : (σ.call c).holds = true) (done : call.holds = false) (executed : P → fate ≠ .lost) :
    Covers σ ((σ.decr fate).moveTo c call) k P := by
  obtain ⟨calls, maps, -⟩ := decr_fields σ fate
  refine covers_moveTo (d := if fate = .lost then 0 else -1) number calls maps ?_ ?_ fun holds => ?_
  · rw [decr_activeCalls]
    split
    · exact (Int.add_zero _).symm
    · rfl
  · rw [placed, done]
    split <;> decide
  · rw [placed, done, if_neg (executed holds)]
    rfl

theorem covers_storing {P : Prop} {s : Session} {n : N} (number : Number σ.Holds k)
    (storing : σ.call c = .storing s) (fresh : P → σ.localMap n s.sessionId = none) :
    Covers σ ((σ.enter n s).moveTo c (.added s true)) k P := by
  obtain ⟨m, entered, total⟩ := number_entry number (σ.enter n s) rfl rfl
  obtain ⟨m', moved, total'⟩ := number_moveTo (c := c) entered (.added s true) rfl rfl
  have placed : ((σ.enter n s).call c).holds = true := by
    change (σ.call c).holds = true
    rw [storing]
    rfl
  have counted : ((σ.enter n s).moveTo c (.added s true)).activeCalls = σ.activeCalls := rfl
  rw [placed] at total'
  simp only [Call.holds, Bool.toNat_true, Bool.toNat_false, Option.isSome_some] at total total'
  refine ⟨m', moved, by omega, fun holds => ?_⟩
  rw [fresh holds] at total
  simp only [Option.isSome_none, Bool.toNat_false] at total
  omega

theorem covers_releasing {P : Prop} {s : Session} {n : N} {id : String} (number : Number σ.Holds k)
    (unplaced : (σ.call c).holds = false) (found : σ.localMap n id = some s) :
    Covers σ ((σ.drop n id s).moveTo c (.removed s)) k P := by
  obtain ⟨m, left, total⟩ := number_entry number (σ.drop n id s) rfl rfl
  obtain ⟨m', moved, total'⟩ := number_moveTo (c := c) left (.removed s) rfl rfl
  have before : ((σ.drop n id s).call c).holds = false := unplaced
  have counted : ((σ.drop n id s).moveTo c (.removed s)).activeCalls = σ.activeCalls := rfl
  rw [before] at total'
  rw [found] at total
  simp only [Call.holds, Bool.toNat_true, Bool.toNat_false, Option.isSome_some, Option.isSome_none]
    at total total'
  exact ⟨m', moved, by omega, fun _ => by omega⟩

theorem advance_covers {P : Prop} (number : Number σ.Holds k) {fate : Fate}
    (busy : ¬(σ.call c).Finished) (safe : P → Sound maxCalls node σ (.next c fate))
    (fresh : P → ∀ s, σ.call c = .storing s → σ.localMap (node c) s.sessionId = none) :
    Covers σ (advance maxCalls (node c) σ c fate (σ.call c)) k P := by
  cases phase : σ.call c with
  | idle | added _ _ | released _ | dead =>
    rw [phase] at busy
    exact absurd trivial busy
  | acquiring s =>
    simp only [Sound, phase] at safe
    simp only [advance]
    split
    · rename_i executed
      refine covers_moveTo (d := 1) number rfl rfl rfl ?_ fun holds => ?_
      · rw [phase]
        split <;> simp [Call.holds]
      · have answered : fate = .answered := by
          cases fate with
          | answered => rfl
          | lost => exact absurd rfl executed.2
          | unanswered => exact absurd executed.1 (Int.not_lt.mpr (safe holds rfl))
        rw [phase, if_pos answered]
        rfl
    · exact covers_same number rfl rfl rfl (by rw [phase]; rfl)
  | setting s =>
    obtain ⟨calls, maps, -, count, -⟩ := setSession_fields σ s.sessionId (some s) fate
    exact covers_same number calls maps count (by rw [phase]; rfl)
  | indexing s failed =>
    obtain ⟨calls, maps, -, count, -⟩ := setFsuuid_fields σ s.fsUUID (some s.sessionId) fate
    refine covers_same number calls maps count ?_
    rw [phase]
    split <;> rfl
  | undoing s =>
    simp only [Sound, phase] at safe
    exact covers_decr number (by rw [phase]; rfl) rfl safe
  | storing s => exact covers_storing number phase fun holds => fresh holds s phase
  | hanging f | seeking f | finding id | fetching id =>
    simp only [advance]
    split <;> exact covers_same number rfl rfl rfl (by rw [phase]; rfl)
  | releasing id =>
    simp only [advance]
    split
    · rename_i s found
      exact covers_releasing number (by rw [phase]; rfl) found
    · exact covers_same number rfl rfl rfl (by rw [phase]; rfl)
  | removed s =>
    obtain ⟨calls, maps, -, count, -⟩ := setSession_fields σ s.sessionId none fate
    exact covers_same number calls maps count (by rw [phase]; rfl)
  | unkeyed s =>
    obtain ⟨calls, maps, -, count, -⟩ := setFsuuid_fields σ s.fsUUID none fate
    exact covers_same number calls maps count (by rw [phase]; rfl)
  | unindexed s =>
    simp only [Sound, phase] at safe
    exact covers_decr number (by rw [phase]; rfl) rfl safe

/-- What a restart takes away, and nothing where no place is lost. -/
theorem covers_restart {P : Prop} {n : N} (number : Number σ.Holds k)
    (stepped : step maxCalls node σ (.restart n) = some τ)
    (safe : P → Sound maxCalls node σ (.restart n)) :
    Covers σ τ k P := by
  have fewer : ∀ h, τ.Holds h → σ.Holds h := by
    cases stepped
    intro h held
    cases h with
    | call d =>
      simp only [State.Holds] at held ⊢
      split at held
      · cases held
      · exact held
    | entry n' id =>
      simp only [State.Holds, Function.update_apply] at held ⊢
      split at held
      · cases held
      · exact held
  have count : τ.activeCalls = σ.activeCalls := by
    cases stepped
    rfl
  obtain ⟨m, less, left⟩ := number.subset fewer
  refine ⟨m, left, by omega, fun holds => ?_⟩
  obtain ⟨empty, free⟩ := safe holds
  have same : m = k := left.unique (number.congr fun h => ⟨fewer h, fun held => ?_⟩)
  · rw [same, count]
  · cases stepped
    cases h with
    | call d =>
      simp only [State.Holds] at held ⊢
      split
      · rename_i here
        cases (free d here.1).symm.trans held
      · exact held
    | entry n' id =>
      simp only [State.Holds, Function.update_apply] at held ⊢
      split
      · rename_i here
        rw [here, empty id] at held
        cases held
      · exact held

theorem step_covers {P : Prop} (number : Number σ.Holds k)
    (stepped : step maxCalls node σ l = some τ) (safe : P → Sound maxCalls node σ l)
    (fresh : P → ∀ c s, σ.call c = .storing s → σ.localMap (node c) s.sessionId = none) :
    Covers σ τ k P := by
  cases l with
  | addIfUnderCapacity c s | release c sessionId | hangup c fsUUID =>
    obtain ⟨idle, ⟨⟩⟩ := Option.ite_none_right_eq_some.mp stepped
    exact covers_same number rfl rfl rfl (by rw [idle]; rfl)
  | next c fate =>
    obtain ⟨busy, ⟨⟩⟩ := Option.ite_none_left_eq_some.mp stepped
    exact advance_covers number busy safe fun holds => fresh holds c
  | restart n => exact covers_restart number stepped safe
  | expireSession sessionId | expireFsuuid fsUUID =>
    cases stepped
    exact ⟨k, number.congr fun h => by cases h <;> rfl, le_refl _, fun _ => rfl⟩

omit [DecidableEq N] [DecidableEq C] in
theorem decr_le (σ : State N C) (fate : Fate) : (σ.decr fate).activeCalls ≤ σ.activeCalls := by
  rw [decr_activeCalls]
  split <;> omega

theorem step_below (bounded : σ.activeCalls ≤ maxCalls)
    (stepped : step maxCalls node σ l = some τ) :
    τ.activeCalls ≤ maxCalls := by
  cases l with
  | addIfUnderCapacity c s | release c sessionId | hangup c fsUUID =>
    obtain ⟨_, ⟨⟩⟩ := Option.ite_none_right_eq_some.mp stepped
    exact bounded
  | restart n | expireSession sessionId | expireFsuuid fsUUID =>
    cases stepped
    exact bounded
  | next c fate =>
    obtain ⟨_, ⟨⟩⟩ := Option.ite_none_left_eq_some.mp stepped
    cases phase : σ.call c with
    | acquiring s =>
      simp only [advance]
      split
      · rename_i executed
        exact executed.1
      · exact bounded
    | setting s => exact ((setSession_fields σ s.sessionId (some s) fate).2.2.2.1).trans_le bounded
    | removed s => exact ((setSession_fields σ s.sessionId none fate).2.2.2.1).trans_le bounded
    | indexing s failed =>
      exact ((setFsuuid_fields σ s.fsUUID (some s.sessionId) fate).2.2.2.1).trans_le bounded
    | unkeyed s => exact ((setFsuuid_fields σ s.fsUUID none fate).2.2.2.1).trans_le bounded
    | undoing s | unindexed s => exact (decr_le σ fate).trans bounded
    | hanging f | seeking f | finding id | fetching id | releasing id =>
      simp only [advance]
      split <;> exact bounded
    | idle | added _ _ | released _ | storing _ | dead => exact bounded

omit [DecidableEq N] [DecidableEq C] in
theorem number_initial : Number (State.initial N C).Holds 0 := by
  refine number_zero.mpr fun h => ?_
  cases h <;> exact Bool.false_ne_true

/-- The counter is within its bounds in every reachable state. -/
theorem run_within {labels : List (Label N C)} (nonneg : 0 ≤ maxCalls)
    (run : exec (step maxCalls node) (State.initial N C) labels = some σ) :
    0 ≤ σ.activeCalls ∧ σ.activeCalls ≤ maxCalls := by
  have kept : ∀ (σ : State N C) l τ,
      ((∃ k : Nat, Number σ.Holds k ∧ (k : Int) ≤ σ.activeCalls) ∧ σ.activeCalls ≤ maxCalls) →
      step maxCalls node σ l = some τ →
      (∃ k : Nat, Number τ.Holds k ∧ (k : Int) ≤ τ.activeCalls) ∧ τ.activeCalls ≤ maxCalls := by
    rintro σ l τ ⟨⟨k, number, covered⟩, below⟩ stepped
    obtain ⟨m, left, covers, -⟩ := step_covers (P := False) number stepped nofun nofun
    exact ⟨⟨m, left, by omega⟩, step_below below stepped⟩
  obtain ⟨⟨k, number, covered⟩, below⟩ :=
    exec_preserves _ kept run ⟨⟨0, number_initial, le_refl _⟩, nonneg⟩
  exact ⟨(Int.natCast_nonneg k).trans covered, below⟩

end Machine

namespace Call

/-- The session that the call adds. -/
def adds : Call → Option Session
  | acquiring s | setting s | indexing s _ | undoing s | storing s | added s _ => some s
  | _ => none

/-- The session that the call put into its node's maps. -/
def put : Call → Option Session
  | added s true => some s
  | _ => none

/-- The session that the call took out of its node's maps. -/
def took : Call → Option Session
  | removed s | unkeyed s | unindexed s => some s
  | released took => took
  | _ => none

/-- The session whose own key the call has deleted. -/
def unkeys : Call → Option Session
  | unkeyed s | unindexed s => some s
  | released took => took
  | _ => none

/-- The session whose keys the call has both deleted. -/
def unindexes : Call → Option Session
  | unindexed s => some s
  | released took => took
  | _ => none

theorem adds_of_put {call : Call} {s : Session} (put : call.put = some s) : call.adds = some s := by
  cases call with
  | added s accepted =>
    cases accepted
    · cases put
    · exact put
  | _ => cases put

theorem took_of_unkeys {call : Call} {s : Session} (gone : call.unkeys = some s) :
    call.took = some s := by
  cases call with
  | unkeyed | unindexed | released => exact gone
  | _ => cases gone

theorem unkeys_of_unindexes {call : Call} {s : Session} (gone : call.unindexes = some s) :
    call.unkeys = some s := by
  cases call with
  | unindexed | released => exact gone
  | _ => cases gone

end Call

section Keys
variable {N C : Type} [DecidableEq C] {node : C → N} {past : List Session} {σ τ : State N C} {c : C}
    {call : Call}

namespace State

/-- Some call has put the session into its node's maps. -/
def Put (σ : State N C) (s : Session) : Prop := ∃ c, (σ.call c).put = some s

/-- Some call has taken the session out again. -/
def Took (σ : State N C) (s : Session) : Prop := ∃ c, (σ.call c).took = some s

end State

/-- What the node's maps and the keys hold, in runs that lose no place. -/
structure Inv (node : C → N) (past : List Session) (σ : State N C) : Prop where
  known : ∀ c s, (σ.call c).adds = some s → s ∈ past
  sole : ∀ c d s, (σ.call c).adds = some s → (σ.call d).adds = some s → c = d
  came : ∀ s, σ.Took s → σ.Put s
  held : ∀ n id s, σ.localMap n id = some s →
    s.sessionId = id ∧ (∃ c, node c = n ∧ (σ.call c).put = some s) ∧ ¬σ.Took s
  present : ∀ c s, (σ.call c).put = some s → ¬σ.Took s → σ.localMap (node c) s.sessionId = some s
  indexed : ∀ c s, (σ.call c).put = some s → ¬σ.Took s → s.fsUUID ≠ "" →
    σ.localByUUID (node c) s.fsUUID = some s.sessionId
  keyed : ∀ id s, σ.sessionKeys id = some s →
    s ∈ past ∧ s.sessionId = id ∧ ∀ c, (σ.call c).unkeys ≠ some s
  fsKeyed : ∀ f id, σ.fsuuidKeys f = some id →
    f ≠ "" ∧ ∃ s ∈ past, s.fsUUID = f ∧ ∀ c, (σ.call c).unindexes ≠ some s
  counted : ∃ k : Nat, Number σ.Holds k ∧ (k : Int) = σ.activeCalls

omit [DecidableEq C] in
theorem Inv.initial : Inv node [] (State.initial N C) := by
  have untaken : ∀ s, ¬(State.initial N C).Took s := fun s ⟨c, took⟩ => nomatch took
  constructor
  case known => exact fun c s adds => nomatch adds
  case sole => exact fun c d s adds => nomatch adds
  case came => exact fun s took => absurd took (untaken s)
  case held => exact fun n id s found => nomatch found
  case present => exact fun c s put => nomatch put
  case indexed => exact fun c s put => nomatch put
  case keyed => exact fun id s found => nomatch found
  case fsKeyed => exact fun f id found => nomatch found
  case counted => exact ⟨0, number_initial, rfl⟩

omit [DecidableEq C] in
/-- Steps that neither put a session into the local maps nor take one out. -/
theorem Inv.keep (inv : Inv node past σ)
    (adds : ∀ c s, (τ.call c).adds = some s → (σ.call c).adds = some s)
    (put : ∀ c, (τ.call c).put = (σ.call c).put) (took : ∀ c, (τ.call c).took = (σ.call c).took)
    (maps : τ.localMap = σ.localMap)
    (index : ∀ n, τ.localByUUID n = σ.localByUUID n ∨ ∀ id, σ.localMap n id = none)
    (keyed : ∀ id s, τ.sessionKeys id = some s →
      s ∈ past ∧ s.sessionId = id ∧ ∀ c, (τ.call c).unkeys ≠ some s)
    (fsKeyed : ∀ f id, τ.fsuuidKeys f = some id →
      f ≠ "" ∧ ∃ s ∈ past, s.fsUUID = f ∧ ∀ c, (τ.call c).unindexes ≠ some s)
    (counted : ∃ k : Nat, Number τ.Holds k ∧ (k : Int) = τ.activeCalls) : Inv node past τ := by
  have putSame : ∀ s, τ.Put s ↔ σ.Put s := fun s => exists_congr fun c => by rw [put]
  have tookSame : ∀ s, τ.Took s ↔ σ.Took s := fun s => exists_congr fun c => by rw [took]
  constructor
  case known => exact fun c s adding => inv.known c s (adds c s adding)
  case sole => exact fun c d s first second => inv.sole c d s (adds c s first) (adds d s second)
  case came => exact fun s taken => (putSame s).mpr (inv.came s ((tookSame s).mp taken))
  case held =>
    intro n id s found
    rw [maps] at found
    obtain ⟨ids, ⟨c, here, held⟩, untaken⟩ := inv.held n id s found
    exact ⟨ids, ⟨c, here, (put c).trans held⟩, mt (tookSame s).mp untaken⟩
  case present =>
    intro c s held untaken
    rw [maps]
    exact inv.present c s ((put c).symm.trans held) (mt (tookSame s).mpr untaken)
  case indexed =>
    intro c s held untaken named
    have before := (put c).symm.trans held
    have still := mt (tookSame s).mpr untaken
    rcases index (node c) with same | empty
    · rw [same]
      exact inv.indexed c s before still named
    · cases (empty s.sessionId).symm.trans (inv.present c s before still)
  case keyed => exact keyed
  case fsKeyed => exact fsKeyed
  case counted => exact counted

omit [DecidableEq C] in
/-- A call that is still adding its session. -/
theorem Inv.untaken (inv : Inv node past σ) {s : Session} (adds : (σ.call c).adds = some s)
    (early : (σ.call c).put = none) : ¬σ.Took s := by
  intro taken
  obtain ⟨d, held⟩ := inv.came s taken
  obtain rfl := inv.sole d c s (Call.adds_of_put held) adds
  cases early.symm.trans held

theorem view_moveTo {α : Type} (f : Call → α) {base : State N C} (calls : base.call = σ.call)
    (same : f call = f (σ.call c)) (d : C) : f ((base.moveTo c call).call d) = f (σ.call d) := by
  rw [moveTo_call, calls]
  split
  · rename_i here
    rw [here]
    exact same
  · rfl

/-- The counter agrees with the places. -/
def Counted (σ : State N C) : Prop := ∃ k : Nat, Number σ.Holds k ∧ (k : Int) = σ.activeCalls

/-- All that the maps and the keys ask of a call. -/
def Call.profile (call : Call) :
    Option Session × Option Session × Option Session × Option Session × Option Session :=
  (call.adds, call.put, call.took, call.unkeys, call.unindexes)

/-- A step that changes the keys at most. -/
theorem Inv.rekey (inv : Inv node past σ) {base : State N C} (calls : base.call = σ.call)
    (maps : base.localMap = σ.localMap) (index : base.localByUUID = σ.localByUUID)
    (adds : call.adds = (σ.call c).adds) (put : call.put = (σ.call c).put)
    (took : call.took = (σ.call c).took) (keyed : ∀ id s, base.sessionKeys id = some s →
      s ∈ past ∧ s.sessionId = id ∧ ∀ d, ((base.moveTo c call).call d).unkeys ≠ some s)
    (fsKeyed : ∀ f id, base.fsuuidKeys f = some id →
      f ≠ "" ∧ ∃ s ∈ past, s.fsUUID = f ∧ ∀ d, ((base.moveTo c call).call d).unindexes ≠ some s)
    (counted : Counted (base.moveTo c call)) : Inv node past (base.moveTo c call) := by
  refine inv.keep (fun d s adding => ?_) (view_moveTo Call.put calls put)
    (view_moveTo Call.took calls took) maps
    (fun n => .inl (congrFun index n)) keyed fsKeyed counted
  rw [← view_moveTo Call.adds calls adds d]
  exact adding

/-- A step that changes neither maps nor keys. -/
theorem Inv.quiet (inv : Inv node past σ) {base : State N C} (calls : base.call = σ.call)
    (maps : base.localMap = σ.localMap) (index : base.localByUUID = σ.localByUUID)
    (keys : base.sessionKeys = σ.sessionKeys) (fsKeys : base.fsuuidKeys = σ.fsuuidKeys)
    (same : call.profile = (σ.call c).profile) (counted : Counted (base.moveTo c call)) :
    Inv node past (base.moveTo c call) := by
  simp only [Call.profile, Prod.mk.injEq] at same
  obtain ⟨adds, put, took, unkeys, unindexes⟩ := same
  refine inv.rekey calls maps index adds put took (fun id s found => ?_)
    (fun f id found => ?_) counted
  · rw [keys] at found
    obtain ⟨known, ids, alive⟩ := inv.keyed id s found
    exact ⟨known, ids,
      fun d gone => alive d ((view_moveTo Call.unkeys calls unkeys d).symm.trans gone)⟩
  · rw [fsKeys] at found
    obtain ⟨named, s, known, ids, alive⟩ := inv.fsKeyed f id found
    exact ⟨named, s, known, ids,
      fun d gone => alive d ((view_moveTo Call.unindexes calls unindexes d).symm.trans gone)⟩

omit [DecidableEq C] in
theorem setSession_get {σ : State N C} {id id' : String} {value : Option Session} {fate : Fate}
    {s : Session} (found : (σ.setSession id value fate).sessionKeys id' = some s) :
    (id' = id ∧ value = some s ∧ fate ≠ .lost) ∨
      ((id' = id → fate = .lost) ∧ σ.sessionKeys id' = some s) := by
  unfold State.setSession at found
  split at found
  · rename_i lost
    exact .inr ⟨fun _ => lost, found⟩
  · rename_i done
    simp only [Function.update_apply] at found
    split at found
    · rename_i same
      exact .inl ⟨same, found, done⟩
    · rename_i other
      exact .inr ⟨fun same => absurd same other, found⟩

omit [DecidableEq C] in
theorem setFsuuid_get {σ : State N C} {f f' : String} {value : Option String} {fate : Fate}
    {id : String} (found : (σ.setFsuuid f value fate).fsuuidKeys f' = some id) :
    (f' = f ∧ f ≠ "" ∧ value = some id) ∨
      ((f' = f → fate = .lost ∨ f = "") ∧ σ.fsuuidKeys f' = some id) := by
  unfold State.setFsuuid at found
  split at found
  · rename_i unset
    exact .inr ⟨fun _ => unset, found⟩
  · rename_i done
    simp only [Function.update_apply] at found
    split at found
    · rename_i same
      exact .inl ⟨same, fun empty => done (.inr empty), found⟩
    · rename_i other
      exact .inr ⟨fun same => absurd same other, found⟩

theorem none_moveTo (f : Call → Option Session) {base : State N C} {s : Session}
    (calls : base.call = σ.call) (before : ∀ d, f (σ.call d) ≠ some s) (here : f call ≠ some s)
    (d : C) :
    f ((base.moveTo c call).call d) ≠ some s := by
  rw [moveTo_call, calls]
  split
  · exact here
  · exact before d

/-- `pipe.Set` of the session. -/
theorem Inv.set_session (inv : Inv node past σ) {s : Session} {fate : Fate} {failed : Bool}
    (setting : σ.call c = .setting s)
    (counted : Counted ((σ.setSession s.sessionId (some s) fate).moveTo c (.indexing s failed))) :
    Inv node past ((σ.setSession s.sessionId (some s) fate).moveTo c (.indexing s failed)) := by
  obtain ⟨calls, maps, index, -, fsKeys⟩ := setSession_fields σ s.sessionId (some s) fate
  have adds : (σ.call c).adds = some s := by rw [setting]; rfl
  have untaken : ¬σ.Took s := inv.untaken adds (by rw [setting]; rfl)
  refine inv.rekey calls maps index (by rw [setting]; rfl) (by rw [setting]; rfl)
    (by rw [setting]; rfl)
    (fun id s' found => ?_) (fun f id found => ?_) counted
  · rcases setSession_get found with ⟨rfl, ⟨⟩, -⟩ | ⟨-, before⟩
    · exact ⟨inv.known c s adds, rfl, none_moveTo Call.unkeys calls
        (fun d gone => untaken ⟨d, Call.took_of_unkeys gone⟩) nofun⟩
    · obtain ⟨known, ids, kept⟩ := inv.keyed id s' before
      exact ⟨known, ids, none_moveTo Call.unkeys calls kept nofun⟩
  · rw [fsKeys] at found
    obtain ⟨named, s', known, ids, kept⟩ := inv.fsKeyed f id found
    exact ⟨named, s', known, ids, none_moveTo Call.unindexes calls kept nofun⟩

/-- `pipe.Set` of the channel's key. -/
theorem Inv.set_fsuuid (inv : Inv node past σ) {s : Session} {fate : Fate} {failed : Bool}
    (indexing : σ.call c = .indexing s failed) (next : call = .undoing s ∨ call = .storing s)
    (counted : Counted ((σ.setFsuuid s.fsUUID (some s.sessionId) fate).moveTo c call)) :
    Inv node past ((σ.setFsuuid s.fsUUID (some s.sessionId) fate).moveTo c call) := by
  obtain ⟨calls, maps, index, -, keys⟩ := setFsuuid_fields σ s.fsUUID (some s.sessionId) fate
  have adds : (σ.call c).adds = some s := by rw [indexing]; rfl
  have untaken : ¬σ.Took s := inv.untaken adds (by rw [indexing]; rfl)
  have views : call.adds = (σ.call c).adds ∧ call.put = (σ.call c).put ∧
      call.took = (σ.call c).took ∧ call.unkeys = none ∧ call.unindexes = none := by
    rw [indexing]
    rcases next with rfl | rfl <;> exact ⟨rfl, rfl, rfl, rfl, rfl⟩
  obtain ⟨sameAdds, put, took, unkeys, unindexes⟩ := views
  refine inv.rekey calls maps index sameAdds put took (fun id s' found => ?_)
    (fun f id found => ?_) counted
  · rw [keys] at found
    obtain ⟨known, ids, kept⟩ := inv.keyed id s' found
    exact ⟨known, ids, none_moveTo Call.unkeys calls kept (by rw [unkeys]; nofun)⟩
  · have here : ∀ {s' : Session}, call.unindexes ≠ some s' := by
      rw [unindexes]
      nofun
    rcases setFsuuid_get found with ⟨rfl, named, -⟩ | ⟨-, before⟩
    · refine ⟨named, s, inv.known c s adds, rfl,
        none_moveTo Call.unindexes calls (fun d gone => ?_) here⟩
      exact untaken ⟨d, Call.took_of_unkeys (Call.unkeys_of_unindexes gone)⟩
    · obtain ⟨named, s', known, ids, kept⟩ := inv.fsKeyed f id before
      exact ⟨named, s', known, ids, none_moveTo Call.unindexes calls kept here⟩

/-- `pipe.Del` of the session. -/
theorem Inv.del_session (inv : Inv node past σ) {s : Session} {fate : Fate}
    (removed : σ.call c = .removed s) (executed : fate ≠ .lost)
    (counted : Counted ((σ.setSession s.sessionId none fate).moveTo c (.unkeyed s))) :
    Inv node past ((σ.setSession s.sessionId none fate).moveTo c (.unkeyed s)) := by
  obtain ⟨calls, maps, index, -, fsKeys⟩ := setSession_fields σ s.sessionId none fate
  refine inv.rekey calls maps index (by rw [removed]; rfl) (by rw [removed]; rfl)
    (by rw [removed]; rfl)
    (fun id s' found => ?_) (fun f id found => ?_) counted
  · rcases setSession_get found with ⟨-, ⟨⟩, -⟩ | ⟨other, before⟩
    obtain ⟨known, ids, kept⟩ := inv.keyed id s' before
    refine ⟨known, ids, none_moveTo Call.unkeys calls kept fun same => executed (other ?_)⟩
    rw [← ids, ← Option.some.inj same]
  · rw [fsKeys] at found
    obtain ⟨named, s', known, ids, kept⟩ := inv.fsKeyed f id found
    exact ⟨named, s', known, ids, none_moveTo Call.unindexes calls kept nofun⟩

/-- `pipe.Del` of the channel's key. -/
theorem Inv.del_fsuuid (inv : Inv node past σ) {s : Session} {fate : Fate}
    (unkeyed : σ.call c = .unkeyed s) (executed : fate ≠ .lost)
    (counted : Counted ((σ.setFsuuid s.fsUUID none fate).moveTo c (.unindexed s))) :
    Inv node past ((σ.setFsuuid s.fsUUID none fate).moveTo c (.unindexed s)) := by
  obtain ⟨calls, maps, index, -, keys⟩ := setFsuuid_fields σ s.fsUUID none fate
  refine inv.rekey calls maps index (by rw [unkeyed]; rfl) (by rw [unkeyed]; rfl)
    (by rw [unkeyed]; rfl)
    (fun id s' found => ?_) (fun f id found => ?_) counted
  · rw [keys] at found
    obtain ⟨known, ids, kept⟩ := inv.keyed id s' found
    refine ⟨known, ids, none_moveTo Call.unkeys calls kept ?_⟩
    exact fun same => kept c (by rw [unkeyed]; exact same)
  · rcases setFsuuid_get found with ⟨-, -, ⟨⟩⟩ | ⟨other, before⟩
    obtain ⟨named, s', known, ids, kept⟩ := inv.fsKeyed f id before
    refine ⟨named, s', known, ids, none_moveTo Call.unindexes calls kept fun same => ?_⟩
    have equal : f = s.fsUUID := by rw [← ids, ← Option.some.inj same]
    rcases other equal with lost | empty
    · exact executed lost
    · exact named (equal.trans empty)

end Keys

section Runs
variable {N C : Type} [DecidableEq N] [DecidableEq C] {maxCalls : Int} {node : C → N}
    {past : List Session}
  {σ τ : State N C} {c : C} {call : Call} {l : Label N C}

/-- The local maps take the session in. -/
theorem Inv.enter (inv : Inv node past σ) (apart : Apart past) {s : Session}
    (storing : σ.call c = .storing s)
    (counted : Counted ((σ.enter (node c) s).moveTo c (.added s true))) :
    Inv node past ((σ.enter (node c) s).moveTo c (.added s true)) := by
  have adds : (σ.call c).adds = some s := by rw [storing]; rfl
  have inside := inv.known c s adds
  have untaken : ¬σ.Took s := inv.untaken adds (by rw [storing]; rfl)
  have calls : (σ.enter (node c) s).call = σ.call := rfl
  have tookSame : ∀ s', State.Took ((σ.enter (node c) s).moveTo c (.added s true)) s' ↔ σ.Took s' :=
    fun s' => exists_congr fun d => by rw [view_moveTo Call.took calls (by rw [storing]; rfl) d]
  have puts : ∀ d s', (((σ.enter (node c) s).moveTo c (.added s true)).call d).put = some s' ↔
      (d = c ∧ s' = s) ∨ (σ.call d).put = some s' := by
    intro d s'
    rw [moveTo_call, calls]
    split
    · rename_i same
      subst same
      simp [Call.put, storing, eq_comm]
    · rename_i other
      simp [other]
  have addsSame : ∀ d, (((σ.enter (node c) s).moveTo c (.added s true)).call d).adds =
      (σ.call d).adds := view_moveTo Call.adds calls (by rw [storing]; rfl)
  constructor
  case known => exact fun d s' adding => inv.known d s' ((addsSame d).symm.trans adding)
  case sole =>
    exact fun d e s' first second =>
      inv.sole d e s' ((addsSame d).symm.trans first) ((addsSame e).symm.trans second)
  case came =>
    intro s' taken
    obtain ⟨d, held⟩ := inv.came s' ((tookSame s').mp taken)
    exact ⟨d, (puts d s').mpr (.inr held)⟩
  case held =>
    intro n id s' found
    change assign σ.localMap (node c) s.sessionId (some s) n id = some s' at found
    rw [assign_apply] at found
    split at found
    · rename_i here
      cases found
      exact ⟨here.2.symm, ⟨c, here.1.symm, (puts c s).mpr (.inl ⟨rfl, rfl⟩)⟩,
        mt (tookSame s).mp untaken⟩
    · obtain ⟨ids, ⟨d, there, held⟩, kept⟩ := inv.held n id s' found
      exact ⟨ids, ⟨d, there, (puts d s').mpr (.inr held)⟩, mt (tookSame s').mp kept⟩
  case present =>
    intro d s' held kept
    change assign σ.localMap (node c) s.sessionId (some s) (node d) s'.sessionId = some s'
    rw [assign_apply]
    rcases (puts d s').mp held with ⟨rfl, rfl⟩ | held
    · rw [if_pos ⟨rfl, rfl⟩]
    · split
      · rename_i here
        rw [apart.sessionIds s' (inv.known d s' (Call.adds_of_put held)) s inside here.2]
      · exact inv.present d s' held (mt (tookSame s').mpr kept)
  case indexed =>
    intro d s' held kept named
    change (if s.fsUUID ≠ "" then assign σ.localByUUID (node c) s.fsUUID (some s.sessionId)
      else σ.localByUUID)
      (node d) s'.fsUUID = some s'.sessionId
    rcases (puts d s').mp held with ⟨rfl, rfl⟩ | held
    · rw [if_pos named, assign_apply, if_pos ⟨rfl, rfl⟩]
    · have before := inv.indexed d s' held (mt (tookSame s').mpr kept) named
      split
      · rw [assign_apply]
        split
        · rename_i here
          rw [apart.fsUUIDs s' (inv.known d s' (Call.adds_of_put held)) s inside here.2]
        · exact before
      · exact before
  case keyed =>
    intro id s' found
    obtain ⟨known, ids, kept⟩ := inv.keyed id s' found
    exact ⟨known, ids, none_moveTo Call.unkeys calls kept nofun⟩
  case fsKeyed =>
    intro f id found
    obtain ⟨named, s', known, ids, kept⟩ := inv.fsKeyed f id found
    exact ⟨named, s', known, ids, none_moveTo Call.unindexes calls kept nofun⟩
  case counted => exact counted

/-- The local maps let the session go. -/
theorem Inv.drop (inv : Inv node past σ) (apart : Apart past) {s : Session} {id : String}
    (releasing : σ.call c = .releasing id) (found : σ.localMap (node c) id = some s)
    (counted : Counted ((σ.drop (node c) id s).moveTo c (.removed s))) :
    Inv node past ((σ.drop (node c) id s).moveTo c (.removed s)) := by
  obtain ⟨rfl, ⟨e, here, put⟩, untaken⟩ := inv.held (node c) id s found
  have inside := inv.known e s (Call.adds_of_put put)
  have calls : (σ.drop (node c) s.sessionId s).call = σ.call := rfl
  have took : ∀ s', State.Took ((σ.drop (node c) s.sessionId s).moveTo c (.removed s)) s' ↔
      s' = s ∨ σ.Took s' := by
    intro s'
    constructor
    · rintro ⟨d, taken⟩
      rw [moveTo_call, calls] at taken
      split at taken
      · exact .inl (Option.some.inj taken).symm
      · exact .inr ⟨d, taken⟩
    · rintro (rfl | ⟨d, taken⟩)
      · exact ⟨c, by rw [moveTo_call, if_pos rfl]; rfl⟩
      · refine ⟨d, ?_⟩
        rw [moveTo_call, if_neg, calls]
        · exact taken
        · rintro rfl
          rw [releasing] at taken
          cases taken
  have putSame : ∀ d, (((σ.drop (node c) s.sessionId s).moveTo c (.removed s)).call d).put =
      (σ.call d).put := view_moveTo Call.put calls (by rw [releasing]; rfl)
  have addsSame : ∀ d, (((σ.drop (node c) s.sessionId s).moveTo c (.removed s)).call d).adds =
      (σ.call d).adds := view_moveTo Call.adds calls (by rw [releasing]; rfl)
  constructor
  case known => exact fun d s' adding => inv.known d s' ((addsSame d).symm.trans adding)
  case sole =>
    exact fun d e s' first second =>
      inv.sole d e s' ((addsSame d).symm.trans first) ((addsSame e).symm.trans second)
  case came =>
    intro s' taken
    rcases (took s').mp taken with rfl | before
    · exact ⟨e, (putSame e).trans put⟩
    · obtain ⟨d, held⟩ := inv.came s' before
      exact ⟨d, (putSame d).trans held⟩
  case held =>
    intro n id s' there
    change assign σ.localMap (node c) s.sessionId none n id = some s' at there
    rw [assign_apply] at there
    split at there
    · cases there
    · rename_i other
      obtain ⟨rfl, ⟨d, on, held⟩, kept⟩ := inv.held n id s' there
      refine ⟨rfl, ⟨d, on, (putSame d).trans held⟩, fun taken => ?_⟩
      rcases (took s').mp taken with rfl | before
      · have same := inv.sole d e s' (Call.adds_of_put held) (Call.adds_of_put put)
        exact other ⟨by rw [← on, ← here, same], rfl⟩
      · exact kept before
  case present =>
    intro d s' held kept
    change assign σ.localMap (node c) s.sessionId none (node d) s'.sessionId = some s'
    have before := (putSame d).symm.trans held
    rw [assign_apply, if_neg]
    · exact inv.present d s' before fun taken => kept ((took s').mpr (.inr taken))
    · rintro ⟨-, ids⟩
      have same := apart.sessionIds s' (inv.known d s' (Call.adds_of_put before)) s inside ids
      exact kept ((took s').mpr (.inl same))
  case indexed =>
    intro d s' held kept named
    change (if s.fsUUID ≠ "" then assign σ.localByUUID (node c) s.fsUUID none else σ.localByUUID)
      (node d) s'.fsUUID = some s'.sessionId
    have held := (putSame d).symm.trans held
    have before := inv.indexed d s' held (fun taken => kept ((took s').mpr (.inr taken))) named
    split
    · rw [assign_apply, if_neg]
      · exact before
      · rintro ⟨-, ids⟩
        have same := apart.fsUUIDs s' (inv.known d s' (Call.adds_of_put held)) s inside ids
        exact kept ((took s').mpr (.inl same))
    · exact before
  case keyed =>
    intro id s' there
    obtain ⟨known, ids, kept⟩ := inv.keyed id s' there
    exact ⟨known, ids, none_moveTo Call.unkeys calls kept nofun⟩
  case fsKeyed =>
    intro f id there
    obtain ⟨named, s', known, ids, kept⟩ := inv.fsKeyed f id there
    exact ⟨named, s', known, ids, none_moveTo Call.unindexes calls kept nofun⟩
  case counted => exact counted

omit [DecidableEq N] [DecidableEq C] in
/-- The place that a session would take is free while it is added. -/
theorem Inv.fresh (inv : Inv node past σ) (apart : Apart past) {s : Session}
    (storing : σ.call c = .storing s) :
    σ.localMap (node c) s.sessionId = none := by
  have adds : (σ.call c).adds = some s := by rw [storing]; rfl
  by_contra taken
  obtain ⟨s', found⟩ := Option.ne_none_iff_exists'.mp taken
  obtain ⟨ids, ⟨d, -, put⟩, -⟩ := inv.held (node c) s.sessionId s' found
  have same := apart.sessionIds s' (inv.known d s' (Call.adds_of_put put)) s
    (inv.known c s adds) ids
  obtain rfl := inv.sole d c s (same ▸ Call.adds_of_put put) adds
  rw [storing] at put
  cases put

theorem advance_inv (inv : Inv node past σ) (apart : Apart past) {fate : Fate}
    (sound : Sound maxCalls node σ (.next c fate)) (busy : ¬(σ.call c).Finished)
    (counted : Counted (advance maxCalls (node c) σ c fate (σ.call c))) :
    Inv node past (advance maxCalls (node c) σ c fate (σ.call c)) := by
  cases phase : σ.call c with
  | idle | added _ _ | released _ | dead =>
    rw [phase] at busy
    exact absurd trivial busy
  | acquiring s =>
    rw [phase] at counted
    simp only [advance] at counted ⊢
    split at counted
    · rename_i executed
      rw [if_pos executed]
      exact inv.quiet rfl rfl rfl rfl rfl (by rw [phase]; split <;> rfl) counted
    · rename_i refused
      rw [if_neg refused]
      exact inv.quiet rfl rfl rfl rfl rfl (by rw [phase]; rfl) counted
  | setting s =>
    rw [phase] at counted
    exact inv.set_session phase counted
  | indexing s failed =>
    rw [phase] at counted
    exact inv.set_fsuuid phase (by split <;> simp) counted
  | undoing s =>
    rw [phase] at counted
    obtain ⟨calls, maps, index, keys, fsKeys⟩ := decr_fields σ fate
    exact inv.quiet calls maps index keys fsKeys (by rw [phase]; rfl) counted
  | storing s =>
    rw [phase] at counted
    exact inv.enter apart phase counted
  | hanging f | seeking f | finding id | fetching id =>
    rw [phase] at counted
    simp only [advance] at counted ⊢
    split at counted <;> exact inv.quiet rfl rfl rfl rfl rfl (by rw [phase]; rfl) counted
  | releasing id =>
    rw [phase] at counted
    simp only [advance] at counted ⊢
    split at counted
    · rename_i s found
      exact inv.drop apart phase found counted
    · exact inv.quiet rfl rfl rfl rfl rfl (by rw [phase]; rfl) counted
  | removed s =>
    simp only [Sound, phase] at sound
    rw [phase] at counted
    exact inv.del_session phase sound counted
  | unkeyed s =>
    simp only [Sound, phase] at sound
    rw [phase] at counted
    exact inv.del_fsuuid phase sound counted
  | unindexed s =>
    rw [phase] at counted
    obtain ⟨calls, maps, index, keys, fsKeys⟩ := decr_fields σ fate
    exact inv.quiet calls maps index keys fsKeys (by rw [phase]; rfl) counted

omit [DecidableEq N] in
theorem Inv.begin (inv : Inv node past σ) (idle : σ.call c = .idle) {s : Session} (fresh : s ∉ past)
    (counted : Counted (σ.moveTo c (.acquiring s))) :
    Inv node (past ++ [s]) (σ.moveTo c (.acquiring s)) := by
  have put : ∀ d, ((σ.moveTo c (.acquiring s)).call d).put = (σ.call d).put :=
    view_moveTo Call.put rfl (by rw [idle]; rfl)
  have took : ∀ d, ((σ.moveTo c (.acquiring s)).call d).took = (σ.call d).took :=
    view_moveTo Call.took rfl (by rw [idle]; rfl)
  have tookSame : ∀ s', (σ.moveTo c (.acquiring s)).Took s' ↔ σ.Took s' :=
    fun s' => exists_congr fun d => by rw [took]
  have adds : ∀ d s', ((σ.moveTo c (.acquiring s)).call d).adds = some s' →
      (d = c ∧ s' = s) ∨ (s' ≠ s ∧ (σ.call d).adds = some s') := by
    intro d s' adding
    rw [moveTo_call] at adding
    split at adding
    · rename_i here
      exact .inl ⟨here, (Option.some.inj adding).symm⟩
    · exact .inr ⟨fun same => fresh (same ▸ inv.known d s' adding), adding⟩
  constructor
  case known =>
    intro d s' adding
    rcases adds d s' adding with ⟨-, rfl⟩ | ⟨-, before⟩
    · exact List.mem_append_right _ List.mem_cons_self
    · exact List.mem_append_left _ (inv.known d s' before)
  case sole =>
    intro d e s' first second
    rcases adds d s' first with ⟨rfl, rfl⟩ | ⟨other, before⟩
    · rcases adds e s' second with ⟨rfl, -⟩ | ⟨other, -⟩
      · rfl
      · exact absurd rfl other
    · rcases adds e s' second with ⟨-, same⟩ | ⟨-, before'⟩
      · exact absurd same other
      · exact inv.sole d e s' before before'
  case came =>
    intro s' taken
    obtain ⟨d, held⟩ := inv.came s' ((tookSame s').mp taken)
    exact ⟨d, (put d).trans held⟩
  case held =>
    intro n id s' found
    obtain ⟨ids, ⟨d, there, held⟩, kept⟩ := inv.held n id s' found
    exact ⟨ids, ⟨d, there, (put d).trans held⟩, mt (tookSame s').mp kept⟩
  case present =>
    intro d s' held kept
    exact inv.present d s' ((put d).symm.trans held) (mt (tookSame s').mpr kept)
  case indexed =>
    intro d s' held kept named
    exact inv.indexed d s' ((put d).symm.trans held) (mt (tookSame s').mpr kept) named
  case keyed =>
    intro id s' found
    obtain ⟨known, ids, kept⟩ := inv.keyed id s' found
    exact ⟨List.mem_append_left _ known, ids, none_moveTo Call.unkeys rfl kept nofun⟩
  case fsKeyed =>
    intro f id found
    obtain ⟨named, s', known, ids, kept⟩ := inv.fsKeyed f id found
    exact ⟨named, s', List.mem_append_left _ known, ids, none_moveTo Call.unindexes rfl kept nofun⟩
  case counted => exact counted

/-- What a killed call has held is nothing that the maps or the keys ask of it. -/
theorem dead_views {call : Call} (busy : ¬call.Finished) (free : call.holds = false) :
    call.put = none ∧ call.took = none ∧ call.unkeys = none ∧ call.unindexes = none := by
  cases call with
  | idle | added | released | dead => exact absurd trivial busy
  | acquiring | hanging | seeking | finding | fetching | releasing => exact ⟨rfl, rfl, rfl, rfl⟩
  | setting | indexing | undoing | storing | removed | unkeyed | unindexed => cases free

theorem Inv.restart (inv : Inv node past σ) {n : N} (sound : Sound maxCalls node σ (.restart n))
    (stepped : step maxCalls node σ (.restart n) = some τ) (counted : Counted τ) :
    Inv node past τ := by
  cases stepped
  obtain ⟨empty, free⟩ := sound
  have kill : ∀ {V : Type} (f : Call → Option V), f .dead = none →
      (∀ call : Call, ¬call.Finished → call.holds = false → f call = none) → ∀ d,
      f (if node d = n ∧ ¬(σ.call d).Finished then .dead else σ.call d) = f (σ.call d) := by
    intro V f dead none d
    split
    · rename_i killed
      exact dead.trans (none _ killed.2 (free d killed.1)).symm
    · rfl
  refine inv.keep (fun d s adding => ?_) (kill Call.put rfl fun _ busy free =>
    (dead_views busy free).1)
    (kill Call.took rfl fun _ busy free => (dead_views busy free).2.1) ?_ (fun n' => ?_)
      (fun id s found => ?_)
    (fun f id found => ?_) counted
  · simp only at adding
    split at adding
    · cases adding
    · exact adding
  · funext n' id
    simp only [Function.update_apply]
    split
    · rename_i here
      rw [here, empty id]
    · rfl
  · by_cases here : n' = n
    · exact .inr (here ▸ empty)
    · exact .inl (Function.update_of_ne here ..)
  · obtain ⟨known, ids, kept⟩ := inv.keyed id s found
    refine ⟨known, ids, fun d gone => kept d ?_⟩
    exact (kill Call.unkeys rfl (fun _ busy free => (dead_views busy free).2.2.1) d).symm.trans gone
  · obtain ⟨named, s, known, ids, kept⟩ := inv.fsKeyed f id found
    refine ⟨named, s, known, ids, fun d gone => kept d ?_⟩
    exact (kill Call.unindexes rfl (fun _ busy free =>
      (dead_views busy free).2.2.2) d).symm.trans gone

/-- The session that a label brings in. -/
def addition : Label N C → Option Session
  | .addIfUnderCapacity _ s => some s
  | _ => none

/-- The sessions that are added have ids and channels of their own. -/
def Distinct (labels : List (Label N C)) : Prop := Separate (labels.filterMap addition)

omit [DecidableEq N] [DecidableEq C] in
theorem Distinct.of_append {labels more : List (Label N C)} (distinct : Distinct (labels ++ more)) :
    Distinct labels := by
  rw [Distinct, List.filterMap_append] at distinct
  exact Separate.of_append distinct

theorem step_counted (inv : Inv node past σ) (apart : Apart past) (sound : Sound maxCalls node σ l)
    (stepped : step maxCalls node σ l = some τ) : Counted τ := by
  obtain ⟨k, number, total⟩ := inv.counted
  obtain ⟨m, left, -, same⟩ := step_covers (P := True) number stepped (fun _ => sound)
    fun _ d s storing => inv.fresh apart storing
  exact ⟨m, left, by have := same trivial; omega⟩

theorem step_inv {labels : List (Label N C)} (distinct : Distinct (labels ++ [l]))
    (inv : Inv node (labels.filterMap addition) σ) (sound : Sound maxCalls node σ l)
    (stepped : step maxCalls node σ l = some τ) :
    Inv node ((labels ++ [l]).filterMap addition) τ := by
  have apart := distinct.of_append.apart
  have counted := step_counted inv apart sound stepped
  rw [List.filterMap_append]
  cases l with
  | addIfUnderCapacity c s =>
    obtain ⟨idle, ⟨⟩⟩ := Option.ite_none_right_eq_some.mp stepped
    rw [Distinct, List.filterMap_append] at distinct
    exact inv.begin idle (Separate.notMem distinct) counted
  | release c id | hangup c f =>
    rw [List.filterMap_cons_none rfl, List.filterMap_nil, List.append_nil]
    obtain ⟨idle, ⟨⟩⟩ := Option.ite_none_right_eq_some.mp stepped
    exact inv.quiet rfl rfl rfl rfl rfl (by rw [idle]; rfl) counted
  | next c fate =>
    rw [List.filterMap_cons_none rfl, List.filterMap_nil, List.append_nil]
    obtain ⟨busy, ⟨⟩⟩ := Option.ite_none_left_eq_some.mp stepped
    exact advance_inv inv apart sound busy counted
  | restart n =>
    rw [List.filterMap_cons_none rfl, List.filterMap_nil, List.append_nil]
    exact inv.restart sound stepped counted
  | expireSession id =>
    rw [List.filterMap_cons_none rfl, List.filterMap_nil, List.append_nil]
    cases stepped
    refine inv.keep (fun _ _ adds => adds) (fun _ => rfl) (fun _ => rfl) rfl (fun _ => .inl rfl)
      (fun id' s found => ?_)
      inv.fsKeyed counted
    simp only [Function.update_apply] at found
    split at found
    · cases found
    · exact inv.keyed id' s found
  | expireFsuuid f =>
    rw [List.filterMap_cons_none rfl, List.filterMap_nil, List.append_nil]
    cases stepped
    refine inv.keep (fun _ _ adds => adds) (fun _ => rfl) (fun _ => rfl) rfl
      (fun _ => .inl rfl) inv.keyed
      (fun f' id found => ?_) counted
    simp only [Function.update_apply] at found
    split at found
    · cases found
    · exact inv.fsKeyed f' id found

theorem run_inv {labels : List (Label N C)} (distinct : Distinct labels)
    (sound : Along (step maxCalls node) (Sound maxCalls node) (State.initial N C) labels)
    (run : exec (step maxCalls node) (State.initial N C) labels = some σ) :
    Inv node (labels.filterMap addition) σ := by
  refine exec_history_along (fun past σ => Distinct past →
    Inv node (past.filterMap addition) σ) ?_ sound run
    (fun _ => Inv.initial) distinct
  intro past σ l τ before sound stepped distinct
  exact step_inv distinct (before distinct.of_append) sound stepped

theorem advance_others {d : C} (other : d ≠ c) (n : N) (fate : Fate) (phase : Call) :
    (advance maxCalls n σ c fate phase).call d = σ.call d := by
  have elsewhere : ∀ {base : State N C} {call : Call}, base.call = σ.call →
      (base.moveTo c call).call d = σ.call d := by
    intro base call calls
    rw [moveTo_call, if_neg other, calls]
  cases phase with
  | idle | added _ _ | released _ | dead => rfl
  | acquiring s | hanging f | seeking f | finding id | fetching id | releasing id =>
    simp only [advance]
    split <;> exact elsewhere rfl
  | setting s => exact elsewhere (setSession_fields σ s.sessionId (some s) fate).1
  | removed s => exact elsewhere (setSession_fields σ s.sessionId none fate).1
  | indexing s failed => exact elsewhere (setFsuuid_fields σ s.fsUUID (some s.sessionId) fate).1
  | unkeyed s => exact elsewhere (setFsuuid_fields σ s.fsUUID none fate).1
  | undoing s | unindexed s => exact elsewhere (decr_fields σ fate).1
  | storing s => exact elsewhere rfl

/-- The calls that a step leaves alone: those on their way that it does not move, and those that
have returned. -/
theorem step_others {d : C} (stepped : step maxCalls node σ l = some τ) (begun : σ.call d ≠ .idle)
    (unmoved : ∀ fate, l = .next d fate → (σ.call d).Finished)
    (unkilled : l = .restart (node d) → (σ.call d).Finished) : τ.call d = σ.call d := by
  cases l with
  | addIfUnderCapacity c s | release c id | hangup c f =>
    obtain ⟨idle, ⟨⟩⟩ := Option.ite_none_right_eq_some.mp stepped
    rw [moveTo_call, if_neg]
    rintro rfl
    exact begun idle
  | next c fate =>
    obtain ⟨busy, ⟨⟩⟩ := Option.ite_none_left_eq_some.mp stepped
    refine advance_others ?_ (node c) fate (σ.call c)
    rintro rfl
    exact busy (unmoved fate rfl)
  | restart n =>
    cases stepped
    exact if_neg fun killed => killed.2 (unkilled (killed.1 ▸ rfl))
  | expireSession id | expireFsuuid f =>
    cases stepped
    rfl

theorem step_keeps_put {d : C} {s : Session} (stepped : step maxCalls node σ l = some τ)
    (put : (σ.call d).put = some s) : (τ.call d).put = some s := by
  cases phase : σ.call d with
  | added s' accepted =>
    rw [step_others stepped (by rw [phase]; nofun) (fun _ _ => by rw [phase]; trivial) fun _ =>
      by rw [phase]; trivial]
    exact put
  | _ =>
    rw [phase] at put
    cases put

/-- A session that is out stays out. -/
theorem step_keeps_took {s : Session} (sound : Sound maxCalls node σ l)
    (stepped : step maxCalls node σ l = some τ) (taken : σ.Took s) : τ.Took s := by
  obtain ⟨d, took⟩ := taken
  refine ⟨d, ?_⟩
  by_cases moved : ∃ fate, l = .next d fate ∧ ¬(σ.call d).Finished
  · obtain ⟨fate, rfl, busy⟩ := moved
    obtain ⟨_, ⟨⟩⟩ := Option.ite_none_left_eq_some.mp stepped
    cases phase : σ.call d with
    | removed s' | unkeyed s' | unindexed s' =>
      rw [phase] at took
      simp only [advance, moveTo_call, ↓reduceIte]
      exact took
    | _ =>
      rw [phase] at took busy
      first | exact absurd trivial busy | cases took
  · simp only [not_exists, not_and, not_not] at moved
    rw [step_others stepped _ moved]
    · exact took
    · rintro rfl
      by_contra busy
      have free := sound.2 d rfl
      rw [(dead_views busy free).2.1] at took
      cases took
    · intro idle
      rw [idle] at took
      cases took

/-- A hangup of the session's channel is on its way on the node that has the session. -/
def Underway (node : C → N) (σ : State N C) (s : Session) : Prop :=
  s.fsUUID ≠ "" ∧ ∃ d c, node d = node c ∧
  (σ.call d).put = some s ∧
  (σ.call c = .hanging s.fsUUID ∨ σ.call c = .finding s.sessionId ∨
    σ.call c = .releasing s.sessionId)

theorem step_underway {s : Session} (inv : Inv node past σ) (sound : Sound maxCalls node σ l)
    (stepped : step maxCalls node σ l = some τ) (reached : σ.Took s ∨ Underway node σ s) :
    τ.Took s ∨ Underway node τ s := by
  by_cases taken : σ.Took s
  · exact .inl (step_keeps_took sound stepped taken)
  obtain ⟨named, d, c, here, put, onWay⟩ := reached.resolve_left taken
  have stays := step_keeps_put stepped put
  have present := inv.present d s put taken
  have indexed := inv.indexed d s put taken named
  by_cases moved : ∃ fate, l = .next c fate
  · obtain ⟨fate, rfl⟩ := moved
    obtain ⟨_, ⟨⟩⟩ := Option.ite_none_left_eq_some.mp stepped
    rw [here] at present indexed
    rcases onWay with hanging | finding | releasing
    · refine .inr ⟨named, d, c, here, stays, .inr (.inl ?_)⟩
      simp [hanging, advance, indexed]
    · refine .inr ⟨named, d, c, here, stays, .inr (.inr ?_)⟩
      simp [finding, advance, present]
    · refine .inl ⟨c, ?_⟩
      simp [releasing, advance, present, Call.took]
  · have same : τ.call c = σ.call c := by
      refine step_others stepped ?_ (fun fate next => absurd ⟨fate, next⟩ moved) fun restarted => ?_
      · rcases onWay with phase | phase | phase <;> rw [phase] <;> nofun
      · subst restarted
        rw [here] at present
        cases (sound.1 s.sessionId).symm.trans present
    rw [← same] at onWay
    exact .inr ⟨named, d, c, here, stays, onWay⟩

/-- The node of the call has the session, or it is out already. -/
def State.Finds (node : C → N) (σ : State N C) (c : C) (s : Session) : Prop :=
  σ.Took s ∨ s.fsUUID ≠ "" ∧ ∃ d, node d = node c ∧ (σ.call d).put = some s

/-- The session's channel has delivered its hangup to some node. -/
def HungUp (labels : List (Label N C)) (s : Session) : Prop := ∃ before c later d,
  labels = before ++ .hangup c s.fsUUID :: later ∧ Label.addIfUnderCapacity d s ∈ before

/-- It has delivered one to a node that has the session, unless the session was out. -/
def HungUpAtHome (maxCalls : Int) (node : C → N) (labels : List (Label N C)) (s : Session) : Prop :=
  ∃ before c later ρ, labels = before ++ .hangup c s.fsUUID :: later ∧
    exec (step maxCalls node) (State.initial N C) before = some ρ ∧ ρ.Finds node c s

/-- Every session whose channel has delivered a hangup has delivered one there. -/
def Homing (maxCalls : Int) (node : C → N) (labels : List (Label N C)) : Prop :=
  ∀ s, HungUp labels s → HungUpAtHome maxCalls node labels s

theorem hungUp_reached {labels : List (Label N C)} {s : Session} (distinct : Distinct labels)
    (sound : Along (step maxCalls node) (Sound maxCalls node) (State.initial N C) labels)
    (run : exec (step maxCalls node) (State.initial N C) labels = some σ)
    (hungUp : HungUpAtHome maxCalls node labels s) : σ.Took s ∨ Underway node σ s := by
  obtain ⟨before, c, later, ρ, rfl, start, finds⟩ := hungUp
  obtain ⟨ρ', start', rest⟩ := exec_append.mp run
  obtain rfl := Option.some.inj (start.symm.trans start')
  obtain ⟨υ, begun, rest⟩ := exec_cons.mp rest
  have soundLater := along_append_right sound start
  have walked : exec (step maxCalls node) (State.initial N C) (before ++ [.hangup c s.fsUUID]) =
      some υ := exec_append.mpr ⟨ρ, start, exec_cons.mpr ⟨υ, begun, rfl⟩⟩
  rw [List.append_cons] at distinct sound
  have inv := run_inv distinct.of_append (along_append_left sound) walked
  have reached : υ.Took s ∨ Underway node υ s := by
    rcases finds with taken | ⟨named, d, here, put⟩
    · exact .inl (step_keeps_took soundLater.1 begun taken)
    · refine .inr ⟨named, d, c, here, step_keeps_put begun put, .inl ?_⟩
      obtain ⟨_, ⟨⟩⟩ := Option.ite_none_right_eq_some.mp begun
      rw [moveTo_call, if_pos rfl]
  refine (exec_history_along (fun past σ => Distinct (before ++ [Label.hangup c s.fsUUID] ++ past) →
    Inv node ((before ++ [Label.hangup c s.fsUUID] ++ past).filterMap addition) σ ∧
      (σ.Took s ∨ Underway node σ s))
    (fun {past σ l τ} kept sound stepped distinct => ?_) (soundLater.2 υ begun) rest
      (fun _ => ?_) distinct).2
  · rw [← List.append_assoc] at distinct ⊢
    obtain ⟨inv, reached⟩ := kept distinct.of_append
    exact ⟨step_inv distinct inv sound stepped, step_underway inv sound stepped reached⟩
  · rw [List.append_nil]
    exact ⟨inv, reached⟩

omit [DecidableEq N] [DecidableEq C] in
/-- When all is done and every session is out, no place is counted and no key is left. -/
theorem Inv.drained (inv : Inv node past σ) (apart : Apart past)
    (finished : ∀ c, (σ.call c).Finished) (out : ∀ c s, σ.call c = .added s true → σ.Took s) :
    σ.activeCalls = 0 ∧ ∀ c s, σ.call c = .added s true →
      σ.sessionKeys s.sessionId = none ∧ σ.fsuuidKeys s.fsUUID = none := by
  have put : ∀ c s, (σ.call c).put = some s → σ.Took s := by
    intro c s put
    cases phase : σ.call c with
    | added s' accepted =>
      rw [phase] at put
      cases accepted <;> cases put
      exact out c s phase
    | _ =>
      rw [phase] at put
      cases put
  have gone : ∀ s, σ.Took s → ∃ d, (σ.call d).unkeys = some s ∧ (σ.call d).unindexes = some s := by
    rintro s ⟨d, took⟩
    have done := finished d
    refine ⟨d, ?_⟩
    cases phase : σ.call d with
    | released took' =>
      rw [phase] at took
      exact ⟨took, took⟩
    | _ =>
      rw [phase] at took done
      first | exact False.elim done | cases took
  constructor
  · obtain ⟨k, number, total⟩ := inv.counted
    have none : ∀ h, ¬σ.Holds h := by
      rintro (c | ⟨n, id⟩) held
      · have done := finished c
        cases phase : σ.call c <;> rw [State.Holds, phase] at held <;> rw [phase] at done <;>
          first | exact done | cases held
      · obtain ⟨s, found⟩ := Option.isSome_iff_exists.mp held
        obtain ⟨-, ⟨c, -, here⟩, untaken⟩ := inv.held n id s found
        exact untaken (put c s here)
    rw [← total, number.unique (number_zero.mpr none)]
    rfl
  · intro c s added
    have mine : (σ.call c).put = some s := by rw [added]; rfl
    have known := inv.known c s (Call.adds_of_put mine)
    obtain ⟨d, unkeyed, unindexed⟩ := gone s (put c s mine)
    constructor
    · by_contra left
      obtain ⟨s', found⟩ := Option.ne_none_iff_exists'.mp left
      obtain ⟨known', ids, kept⟩ := inv.keyed s.sessionId s' found
      exact kept d ((apart.sessionIds s' known' s known ids).symm ▸ unkeyed)
    · by_contra left
      obtain ⟨id, found⟩ := Option.ne_none_iff_exists'.mp left
      obtain ⟨-, s', known', ids, kept⟩ := inv.fsKeyed s.fsUUID id found
      exact kept d ((apart.fsUUIDs s' known' s known ids).symm ▸ unindexed)

/-- The counter is within its bounds in every run. When no place is lost and the hangups come to the
nodes that have the sessions, the cluster drains. -/
theorem cluster_drains {labels : List (Label N C)} (nonneg : 0 ≤ maxCalls)
    (run : exec (step maxCalls node) (State.initial N C) labels = some σ) :
    (0 ≤ σ.activeCalls ∧ σ.activeCalls ≤ maxCalls) ∧
    (Distinct labels → Along (step maxCalls node) (Sound maxCalls node) (State.initial N C) labels →
      Homing maxCalls node labels → (∀ c, (σ.call c).Finished) →
      (∀ c s, σ.call c = .added s true → HungUp labels s) →
      σ.activeCalls = 0 ∧ ∀ c s, σ.call c = .added s true →
        σ.sessionKeys s.sessionId = none ∧ σ.fsuuidKeys s.fsUUID = none) := by
  refine ⟨run_within nonneg run, fun distinct sound homing finished hungUp => ?_⟩
  refine (run_inv distinct sound run).drained distinct.apart finished fun c s added => ?_
  refine (hungUp_reached distinct sound run (homing s (hungUp c s added))).resolve_right ?_
  rintro ⟨-, -, e, -, -, onWay⟩
  have done := finished e
  rcases onWay with phase | phase | phase <;> rw [phase] at done <;> exact done

/-- A session is added on one node, and its hangup comes to another node and then to its own. -/
def broadcast : List (Label (Fin 2) (Fin 3)) :=
  [.addIfUnderCapacity 0 ⟨"s-1", "fs-1"⟩, .next 0 .answered, .next 0 .answered, .next 0 .answered,
    .next 0 .answered, .hangup 1 "fs-1", .next 1 .answered, .next 1 .answered, .next 1 .answered,
    .next 1 .answered, .next 1 .answered, .hangup 2 "fs-1", .next 2 .answered, .next 2 .answered,
    .next 2 .answered, .next 2 .answered, .next 2 .answered, .next 2 .answered]

theorem broadcast_drains : ∃ σ,
      exec (step 2 fun c => if c = 1 then 1 else 0) (State.initial (Fin 2) (Fin 3)) broadcast =
        some σ ∧
      σ.call 0 = .added ⟨"s-1", "fs-1"⟩ true ∧ σ.activeCalls = 0 ∧ σ.sessionKeys "s-1" = none := by
  have reached : (exec (step 2 fun c => if c = 1 then 1 else 0)
      (State.initial (Fin 2) (Fin 3)) broadcast).map
      (fun σ => decide ((∀ c, (σ.call c).Finished) ∧ σ.call 0 = .added ⟨"s-1", "fs-1"⟩ true ∧
        σ.call 1 = .released none ∧ σ.call 2 = .released (some ⟨"s-1", "fs-1"⟩))) =
          some true := by decide +kernel
  have before : (exec (step 2 fun c => if c = 1 then 1 else 0) (State.initial (Fin 2) (Fin 3))
      (broadcast.take 11)).map (fun σ => decide ((σ.call 0).put = some ⟨"s-1", "fs-1"⟩)) =
          some true := by
    decide +kernel
  obtain ⟨σ, run, checked⟩ := Option.map_eq_some_iff.mp reached
  obtain ⟨finished, added, lost, released⟩ := of_decide_eq_true checked
  obtain ⟨ρ, start, put⟩ := Option.map_eq_some_iff.mp before
  have mine : ∀ d s, Label.addIfUnderCapacity d s ∈ broadcast → s = ⟨"s-1", "fs-1"⟩ := by
    intro d s inside
    simp [broadcast] at inside
    exact inside.2
  have sound : Along (step 2 fun c => if c = 1 then 1 else 0)
      (Sound 2 fun c => if c = 1 then 1 else 0) (State.initial (Fin 2) (Fin 3)) broadcast := by
    iterate 18 refine along_cons (by first | exact trivial | exact nofun) rfl ?_
    trivial
  have homing : Homing 2 (fun c => if c = 1 then 1 else 0) broadcast := by
    rintro s ⟨past, c, later, d, split, inside⟩
    obtain rfl := mine d s (split ▸ List.mem_append_left _ inside)
    exact ⟨broadcast.take 11, 2, broadcast.drop 12, ρ, rfl, start,
      .inr ⟨by decide, 0, rfl, of_decide_eq_true put⟩⟩
  have hungUp : ∀ c s, σ.call c = .added s true → HungUp broadcast s := by
    intro c s other
    match c with
    | 0 =>
      cases added.symm.trans other
      exact ⟨broadcast.take 5, 1, broadcast.drop 6, 0, rfl, by decide⟩
    | 1 => cases lost.symm.trans other
    | 2 => cases released.symm.trans other
  obtain ⟨-, drains⟩ := cluster_drains (by decide) run
  obtain ⟨count, keys⟩ := drains ⟨by decide, by decide⟩ sound homing finished hungUp
  exact ⟨σ, run, added, count, (keys 0 _ added).1⟩

/-- The hangup comes to another node only. -/
def astray : List (Label (Fin 2) (Fin 2)) :=
  [.addIfUnderCapacity 0 ⟨"s-1", "fs-1"⟩, .next 0 .answered, .next 0 .answered, .next 0 .answered,
    .next 0 .answered, .hangup 1 "fs-1", .next 1 .answered, .next 1 .answered, .next 1 .answered,
    .next 1 .answered, .next 1 .answered]

theorem astray_hangup_leaks : ∃ σ, exec (step 2 id) (State.initial (Fin 2) (Fin 2)) astray =
    some σ ∧ (∀ c, (σ.call c).Finished) ∧ (∀ c s, σ.call c = .added s true → HungUp astray s) ∧
    σ.call 0 = .added ⟨"s-1", "fs-1"⟩ true ∧ σ.activeCalls = 1 ∧
    σ.sessionKeys "s-1" = some ⟨"s-1", "fs-1"⟩ ∧ σ.fsuuidKeys "fs-1" = some "s-1" := by
  have reached : (exec (step 2 id) (State.initial (Fin 2) (Fin 2)) astray).map (fun σ => decide
      ((∀ c, (σ.call c).Finished) ∧ σ.call 0 = .added ⟨"s-1", "fs-1"⟩ true ∧
        σ.call 1 = .released none ∧ σ.activeCalls = 1 ∧ σ.sessionKeys "s-1" = some ⟨"s-1", "fs-1"⟩ ∧
          σ.fsuuidKeys "fs-1" = some "s-1")) =
      some true := by decide +kernel
  obtain ⟨σ, run, checked⟩ := Option.map_eq_some_iff.mp reached
  obtain ⟨finished, added, released, count, key, fsKey⟩ := of_decide_eq_true checked
  refine ⟨σ, run, finished, fun c s other => ?_, added, count, key, fsKey⟩
  have mine : s = ⟨"s-1", "fs-1"⟩ := by
    match c with
    | 0 =>
      cases added.symm.trans other
      rfl
    | 1 => cases released.symm.trans other
  subst mine
  exact ⟨astray.take 5, 1, astray.drop 6, 0, rfl, by decide⟩

end Runs

end AgentOE.Gateway.RedisStore
