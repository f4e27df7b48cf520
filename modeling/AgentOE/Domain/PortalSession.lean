import AgentOE.Transition
import AgentOE.Collection
import Mathlib.Data.Fintype.Basic

/-! Refresh tokens of the portal. A rotation is a search, an update of the
session it found and a new session, each a MongoDB operation of its own. -/
namespace AgentOE.PortalSession
open Transition Collection

/-- The hash functions. An error in `checkpw` counts as no match. -/
structure Hashing where
  Digest : Type
  sha256 : String → Digest
  hashpw : Digest → String → String
  checkpw : Digest → String → Bool

structure Config where
  hashing : Hashing
  portalRefreshExpireHours : Nat

structure SessionDoc where
  id : Nat
  userId : String
  portalRoles : List String
  tokenHash : String
  createdAt : Nat
  expiresAt : Nat
  revoked : Bool
  revokedAt : Option Nat
  deriving DecidableEq, Repr

/-- The arguments of `create_session`. -/
structure Grant where
  userId : String
  portalRoles : List String
  maxConcurrent : Nat := 3
  expireHours : Nat := 8
  deriving DecidableEq, Repr

inductive Origin where
  | login
  | rotation (token : String)
  deriving DecidableEq, Repr

/-- The next operation of `create_session`. -/
inductive Stage where
  | count
  | oldest (limit : Nat)
  | evict (ids : List Nat)
  | insert
  deriving DecidableEq, Repr

inductive Call where
  | idle
  | rotating (token userId : String)
  | matched (token userId : String) (doc : SessionDoc)
  | creating (origin : Origin) (grant : Grant) (stage : Stage)
  | returned (origin : Origin) (answer : Option String)
  | revoking (userId : String)
  | revoked (modified : Nat)
  deriving DecidableEq, Repr

structure State (C : Type) where
  docs : List SessionDoc
  call : C → Call

def State.initial (C : Type) : State C := ⟨[], fun _ => .idle⟩

inductive Action (C : Type) where
  | login (c : C) (grant : Grant)
  | rotate (c : C) (token userId : String)
  | revokeAll (c : C) (userId : String)
  /-- The call's next operation, unless that is an insert. -/
  | next (c : C) (now : Nat)
  /-- The insert, with the token and salt drawn just before it. -/
  | insert (c : C) (now : Nat) (token salt : String)

variable {C : Type} [DecidableEq C]

def State.moveTo (σ : State C) (c : C) (call : Call) : State C :=
  { σ with call := Function.update σ.call c call }

def unrevoked (userId : String) (doc : SessionDoc) : Bool := doc.userId == userId && !doc.revoked

def usable (userId : String) (now : Nat) (doc : SessionDoc) : Bool :=
  unrevoked userId doc && decide (now < doc.expiresAt)

def revoke (now : Nat) (doc : SessionDoc) : SessionDoc :=
  { doc with revoked := true, revokedAt := some now }

def checks (cfg : Config) (token : String) (doc : SessionDoc) : Bool :=
  cfg.hashing.checkpw (cfg.hashing.sha256 token) doc.tokenHash

/-- The session that `rotate` finds for the token. -/
def findMatch (cfg : Config) (docs : List SessionDoc) (token userId : String) (now : Nat) :
    Option SessionDoc :=
  (docs.filter (usable userId now)).find? (checks cfg token)

def advance (cfg : Config) (σ : State C) (c : C) (now : Nat) : Call → Option (State C)
  | .rotating token userId => match findMatch cfg σ.docs token userId now with
    | some doc => some (σ.moveTo c (.matched token userId doc))
    | none => some (σ.moveTo c (.returned (.rotation token) none))
  -- by `_id` alone: whether the session is still unrevoked is not asked again
  | .matched token userId doc =>
    some ({ σ with docs := updateOne (·.id == doc.id) (revoke now) σ.docs }.moveTo c
      (.creating (.rotation token) { userId := userId, portalRoles := doc.portalRoles } .count))
  | .creating origin grant .count =>
    let count := (σ.docs.filter (unrevoked grant.userId)).length
    let stage := if grant.maxConcurrent ≤ count then .oldest (count - grant.maxConcurrent + 1)
      else .insert
    some (σ.moveTo c (.creating origin grant stage))
  | .creating origin grant (.oldest limit) =>
    let sorted := (σ.docs.filter (unrevoked grant.userId)).mergeSort (·.createdAt ≤ ·.createdAt)
    let ids := (sorted.take limit).map (·.id)
    some (σ.moveTo c (.creating origin grant (if ids = [] then .insert else .evict ids)))
  | .creating origin grant (.evict ids) =>
    some ({ σ with docs := updateMany (fun doc => ids.contains doc.id) (revoke now) σ.docs }.moveTo
      c (.creating origin grant .insert))
  | .revoking userId =>
    some ({ σ with docs := updateMany (unrevoked userId) (revoke now) σ.docs }.moveTo c
      (.revoked (σ.docs.filter (unrevoked userId)).length))
  | .idle | .creating _ _ .insert | .returned .. | .revoked _ => none

/-- `_id` is the position at which the document was inserted. -/
def newSession (cfg : Config) (docs : List SessionDoc) (grant : Grant) (now : Nat)
    (token salt : String) : SessionDoc :=
  let expireHours :=
    if grant.expireHours = 0 then cfg.portalRefreshExpireHours else grant.expireHours
  { id := docs.length
    userId := grant.userId
    portalRoles := grant.portalRoles
    tokenHash := cfg.hashing.hashpw (cfg.hashing.sha256 token) salt
    createdAt := now
    expiresAt := now + expireHours * 3600
    revoked := false
    revokedAt := none }

def step (cfg : Config) (σ : State C) : Action C → Option (State C)
  | .login c grant =>
    if σ.call c = .idle then some (σ.moveTo c (.creating .login grant .count)) else none
  | .rotate c token userId =>
    if σ.call c = .idle then some (σ.moveTo c (.rotating token userId)) else none
  | .revokeAll c userId => if σ.call c = .idle then some (σ.moveTo c (.revoking userId)) else none
  | .next c now => advance cfg σ c now (σ.call c)
  | .insert c now token salt => match σ.call c with
    | .creating origin grant .insert =>
      some ({ σ with docs := insertOne (newSession cfg σ.docs grant now token salt) σ.docs }.moveTo
        c (.returned origin (some token)))
    | _ => none

/-- What no update after the insert changes: a session is never unrevoked. -/
def Kept (doc doc' : SessionDoc) : Prop :=
  doc'.id = doc.id ∧ doc'.tokenHash = doc.tokenHash ∧ (doc.revoked = true → doc'.revoked = true)

theorem Kept.refl (doc : SessionDoc) : Kept doc doc := ⟨rfl, rfl, id⟩

theorem Kept.revoke (now : Nat) (doc : SessionDoc) : Kept doc (revoke now doc) :=
  ⟨rfl, rfl, fun _ => rfl⟩

/-- The rotation of `token` has revoked the session it found. -/
def Spent (token : String) : Call → Prop
  | .creating origin _ _ => origin = .rotation token
  | .returned origin answer => origin = .rotation token ∧ answer.isSome
  | _ => False

/-- The rotation of `token` has found its session. -/
def Accepted (token : String) (call : Call) : Prop :=
  (∃ userId doc, call = .matched token userId doc) ∨ Spent token call

/-- Every step, as far as rotations are concerned. -/
inductive Takes (cfg : Config) (σ : State C) : Action C → State C → Prop where
  | quiet : List.Forall₂ Kept σ.docs docs → (∀ token, Spent token call → Spent token (σ.call c)) →
      (∀ token userId doc, call ≠ .matched token userId doc) →
      (∀ c now token salt, l ≠ .insert c now token salt) →
      Takes cfg σ l (State.moveTo { σ with docs := docs } c call)
  | find : σ.call c = .rotating token userId →
      findMatch cfg σ.docs token userId now = some doc →
      Takes cfg σ (.next c now) (σ.moveTo c (.matched token userId doc))
  | revoke : σ.call c = .matched token userId doc →
      Takes cfg σ (.next c now)
        (State.moveTo { σ with docs := updateOne (·.id == doc.id) (revoke now) σ.docs } c
          (.creating (.rotation token) grant stage))
  | insert : σ.call c = .creating origin grant .insert →
      Takes cfg σ (.insert c now token salt)
        (State.moveTo
          { σ with docs := insertOne (newSession cfg σ.docs grant now token salt) σ.docs } c
          (.returned origin (some token)))

theorem forall₂_kept_refl (docs : List SessionDoc) : List.Forall₂ Kept docs docs :=
  List.forall₂_same.mpr fun doc _ => Kept.refl doc

theorem quiet_start {cfg : Config} {σ : State C} {c : C} (unspent : ∀ token, ¬ Spent token call)
    (unmatched : ∀ token userId doc, call ≠ .matched token userId doc)
    (noInsert : ∀ c now token salt, l ≠ .insert c now token salt) :
    Takes cfg σ l (σ.moveTo c call) :=
  .quiet (forall₂_kept_refl _) (fun token spent => absurd spent (unspent token)) unmatched noInsert

theorem advance_takes {cfg : Config} {σ τ : State C} {c : C}
    (stepped : advance cfg σ c now (σ.call c) = some τ) : Takes cfg σ (.next c now) τ := by
  cases call : σ.call c with
  | idle | returned | revoked =>
    rw [call] at stepped
    cases stepped
  | rotating token userId =>
    rw [call] at stepped
    simp only [advance] at stepped
    split at stepped <;> cases stepped
    · rename_i doc found
      exact .find call found
    · exact quiet_start (by simp [Spent]) (by simp) (by simp)
  | matched token userId doc =>
    rw [call] at stepped
    cases stepped
    exact .revoke call
  | creating origin grant stage =>
    rw [call] at stepped
    have same : ∀ token stage', Spent token (.creating origin grant stage') →
        Spent token (σ.call c) := fun token stage' spent => by rwa [call]
    cases stage with
    | count =>
      cases stepped
      exact .quiet (forall₂_kept_refl _) (fun token => same token _) (by simp) (by simp)
    | oldest limit =>
      cases stepped
      exact .quiet (forall₂_kept_refl _) (fun token => same token _) (by simp) (by simp)
    | evict ids =>
      cases stepped
      exact .quiet (forall₂_updateMany Kept.refl fun doc _ => .revoke now doc)
        (fun token => same token _) (by simp) (by simp)
    | insert => cases stepped
  | revoking userId =>
    rw [call] at stepped
    cases stepped
    exact .quiet (forall₂_updateMany Kept.refl fun doc _ => .revoke now doc)
      (fun token spent => absurd spent (by simp [Spent])) (by simp) (by simp)

theorem step_takes {cfg : Config} {σ τ : State C} (stepped : step cfg σ l = some τ) :
    Takes cfg σ l τ := by
  cases l with
  | login c grant =>
    simp only [step, Option.ite_none_right_eq_some, Option.some.injEq] at stepped
    obtain ⟨-, rfl⟩ := stepped
    exact quiet_start (by simp [Spent]) (by simp) (by simp)
  | rotate c token userId =>
    simp only [step, Option.ite_none_right_eq_some, Option.some.injEq] at stepped
    obtain ⟨-, rfl⟩ := stepped
    exact quiet_start (by simp [Spent]) (by simp) (by simp)
  | revokeAll c userId =>
    simp only [step, Option.ite_none_right_eq_some, Option.some.injEq] at stepped
    obtain ⟨-, rfl⟩ := stepped
    exact quiet_start (by simp [Spent]) (by simp) (by simp)
  | next c now => exact advance_takes stepped
  | insert c now token salt =>
    simp only [step] at stepped
    split at stepped <;> cases stepped
    rename_i call
    exact .insert call

/-- The token a step hands out. -/
def issued : Action C → Option String
  | .insert _ _ token _ => some token
  | _ => none

/-- A hash verifies no token but the one it was made from. -/
def Verifies (cfg : Config) : Prop := ∀ token other salt,
  cfg.hashing.checkpw (cfg.hashing.sha256 token)
    (cfg.hashing.hashpw (cfg.hashing.sha256 other) salt) = true →
    other = token

def Call.isMatched (token : String) : Call → Bool
  | .matched found _ _ => found == token
  | _ => false

/-- A search that finds the token's session runs while no rotation of the token
stands between its search and its update. -/
def SearchesAlone (cfg : Config) (token : String) (σ : State C) (now : Nat) : Call → Prop
  | .rotating presented userId => presented = token →
    (findMatch cfg σ.docs token userId now).isSome = true → ∀ d, (σ.call d).isMatched token = false
  | _ => True

def Serial (cfg : Config) (token : String) (σ : State C) : Action C → Prop
  | .next c now => SearchesAlone cfg token σ now (σ.call c)
  | _ => True

structure Inv (cfg : Config) (token : String) (past : List (Action C)) (σ : State C) : Prop where
  ids : σ.docs.map (·.id) = List.range σ.docs.length
  source : ∀ doc ∈ σ.docs, checks cfg token doc = true → token ∈ past.filterMap issued
  unique : ∀ doc ∈ σ.docs, ∀ doc' ∈ σ.docs, checks cfg token doc = true →
    checks cfg token doc' = true → doc.id = doc'.id
  present : ∀ c, Accepted token (σ.call c) → ∃ doc ∈ σ.docs, checks cfg token doc = true
  points : ∀ c userId found, σ.call c = .matched token userId found →
    ∃ doc ∈ σ.docs, doc.id = found.id ∧ checks cfg token doc = true
  single : ∀ c d, Accepted token (σ.call c) → Accepted token (σ.call d) → c = d
  spent : ∀ c, Spent token (σ.call c) → ∀ doc ∈ σ.docs, checks cfg token doc = true →
    doc.revoked = true

omit [DecidableEq C] in
theorem Inv.initial (cfg : Config) (token : String) : Inv cfg token [] (State.initial C) := by
  constructor
  case ids => rfl
  case source => intro doc mem; cases mem
  case unique => intro doc mem; cases mem
  case present => intro c accepted; simp [State.initial, Accepted, Spent] at accepted
  case points => intro c userId found call; cases call
  case single => intro c d accepted; simp [State.initial, Accepted, Spent] at accepted
  case spent => intro c spent; cases spent

/-- A call other than the one that moves keeps its phase. -/
theorem moveTo_call (σ : State C) (c d : C) (call : Call) :
    (σ.moveTo c call).call d = if d = c then call else σ.call d := by
  simp [State.moveTo, Function.update_apply]

theorem Kept.checks (kept : Kept doc doc') : checks cfg token doc' = checks cfg token doc := by
  simp only [PortalSession.checks, kept.2.1]

/-- A step that finds nothing and unrevokes nothing. -/
theorem Inv.update {cfg : Config} {σ : State C} {c : C} (inv : Inv cfg token past σ)
    (kept : List.Forall₂ Kept σ.docs docs) (same : past'.filterMap issued = past.filterMap issued)
    (accepted : Spent token call → Accepted token (σ.call c))
    (revoked : Spent token call → ∀ doc ∈ docs, checks cfg token doc = true → doc.revoked = true)
    (unmatched : ∀ userId doc, call ≠ .matched token userId doc) :
    Inv cfg token past' (State.moveTo { σ with docs := docs } c call) := by
  have back : ∀ doc' ∈ docs, checks cfg token doc' = true →
      ∃ doc ∈ σ.docs, Kept doc doc' ∧ checks cfg token doc = true := by
    intro doc' mem checked
    obtain ⟨doc, inside, kept⟩ := forall₂_mem_right kept mem
    exact ⟨doc, inside, kept, kept.checks ▸ checked⟩
  have forth : ∀ doc ∈ σ.docs, checks cfg token doc = true →
      ∃ doc' ∈ docs, doc'.id = doc.id ∧ checks cfg token doc' = true := by
    intro doc mem checked
    obtain ⟨doc', inside, kept⟩ := forall₂_mem_left kept mem
    exact ⟨doc', inside, kept.1, kept.checks.trans checked⟩
  have matchedBefore : ∀ d userId found,
      (State.moveTo { σ with docs := docs } c call).call d = .matched token userId found →
      σ.call d = .matched token userId found := by
    intro d userId found matched
    rw [moveTo_call] at matched
    split at matched
    · exact absurd matched (unmatched userId found)
    · exact matched
  have acceptedBefore : ∀ d, Accepted token ((State.moveTo { σ with docs := docs } c call).call d) →
      Accepted token (σ.call d) := by
    rintro d (⟨userId, found, matched⟩ | spent)
    · exact .inl ⟨userId, found, matchedBefore d userId found matched⟩
    · rw [moveTo_call] at spent
      split at spent
      · rename_i same
        exact same ▸ accepted spent
      · exact .inr spent
  constructor
  case ids =>
    have ids : docs.map (·.id) = σ.docs.map (·.id) := forall₂_map_eq kept fun _ _ kept => kept.1
    change docs.map (·.id) = List.range docs.length
    rw [ids, inv.ids, kept.length_eq]
  case source =>
    intro doc' mem checked
    obtain ⟨doc, inside, -, before⟩ := back doc' mem checked
    exact same ▸ inv.source doc inside before
  case unique =>
    intro first memFirst second memSecond checkedFirst checkedSecond
    obtain ⟨doc, inside, kept, before⟩ := back first memFirst checkedFirst
    obtain ⟨doc', inside', kept', before'⟩ := back second memSecond checkedSecond
    rw [kept.1, kept'.1]
    exact inv.unique doc inside doc' inside' before before'
  case present =>
    intro d accepted
    obtain ⟨doc, mem, checked⟩ := inv.present d (acceptedBefore d accepted)
    obtain ⟨doc', inside, -, still⟩ := forth doc mem checked
    exact ⟨doc', inside, still⟩
  case points =>
    intro d userId found matched
    obtain ⟨doc, mem, same, checked⟩ :=
      inv.points d userId found (matchedBefore d userId found matched)
    obtain ⟨doc', inside, ids, still⟩ := forth doc mem checked
    exact ⟨doc', inside, ids.trans same, still⟩
  case single =>
    intro first second accepted accepted'
    exact inv.single first second (acceptedBefore first accepted) (acceptedBefore second accepted')
  case spent =>
    intro d spent doc' mem checked
    rw [moveTo_call] at spent
    split at spent
    · exact revoked spent doc' mem checked
    · obtain ⟨doc, inside, kept, before⟩ := back doc' mem checked
      exact kept.2.2 (inv.spent d spent doc inside before)

theorem Inv.quiet {cfg : Config} {σ : State C} {c : C} (inv : Inv cfg token past σ)
    (kept : List.Forall₂ Kept σ.docs docs) (same : past'.filterMap issued = past.filterMap issued)
    (unspent : Spent token call → Spent token (σ.call c))
    (unmatched : ∀ userId doc, call ≠ .matched token userId doc) :
    Inv cfg token past' (State.moveTo { σ with docs := docs } c call) := by
  apply inv.update kept same (fun spent => .inr (unspent spent)) _ unmatched
  intro spent doc' mem checked
  obtain ⟨doc, inside, kept⟩ := forall₂_mem_right kept mem
  exact kept.2.2 (inv.spent c (unspent spent) doc inside (kept.checks ▸ checked))

/-- What a search returns: an unrevoked session that the token verifies. -/
theorem findMatch_spec {cfg : Config} (found : findMatch cfg docs token userId now = some doc) :
    doc ∈ docs ∧ checks cfg token doc = true ∧ doc.revoked = false := by
  have mem := List.mem_filter.mp (List.mem_of_find?_eq_some found)
  refine ⟨mem.1, List.find?_some found, ?_⟩
  have open_ := mem.2
  simp only [usable, unrevoked, Bool.and_eq_true, Bool.not_eq_true'] at open_
  exact open_.1.2

/-- A search that succeeds: the call becomes the only accepted one. -/
theorem Inv.find {cfg : Config} {σ : State C} {c : C} (inv : Inv cfg token past σ)
    (same : past'.filterMap issued = past.filterMap issued)
    (found : findMatch cfg σ.docs presented userId now = some doc)
    (alone : presented = token → ∀ d, (σ.call d).isMatched token = false) :
    Inv cfg token past' (σ.moveTo c (.matched presented userId doc)) := by
  by_cases ours : presented = token
  case neg =>
    have unspent : Spent token (.matched presented userId doc) → Spent token (σ.call c) := nofun
    apply inv.quiet (forall₂_kept_refl _) same unspent
    intro userId doc equal
    exact ours (Call.matched.inj equal).1
  case pos =>
    subst ours
    obtain ⟨mem, checked, usable⟩ := findMatch_spec found
    have unaccepted : ∀ d, ¬ Accepted presented (σ.call d) := by
      rintro d (⟨userId', other, matched⟩ | spent)
      · have unmatched := alone rfl d
        simp [matched, Call.isMatched] at unmatched
      · rw [inv.spent d spent doc mem checked] at usable
        cases usable
    have only : ∀ d, Accepted presented ((σ.moveTo c (.matched presented userId doc)).call d) →
        d = c := by
      intro d accepted
      rw [moveTo_call] at accepted
      split at accepted
      · assumption
      · exact absurd accepted (unaccepted d)
    constructor
    case ids => exact inv.ids
    case source => exact same ▸ inv.source
    case unique => exact inv.unique
    case present => exact fun _ _ => ⟨doc, mem, checked⟩
    case points =>
      intro d userId' found' matched
      obtain rfl := only d (.inl ⟨userId', found', matched⟩)
      rw [moveTo_call, if_pos rfl] at matched
      obtain ⟨-, -, rfl⟩ := Call.matched.inj matched
      exact ⟨doc, mem, rfl, checked⟩
    case single =>
      intro d e accepted accepted'
      exact (only d accepted).trans (only e accepted').symm
    case spent =>
      intro d spent
      obtain rfl := only d (.inr spent)
      rw [moveTo_call, if_pos rfl] at spent
      cases spent

/-- The update by `_id` reaches every session the token verifies, because there
is only one. -/
theorem Inv.revoke {cfg : Config} {σ : State C} {c : C} (inv : Inv cfg token past σ)
    (same : past'.filterMap issued = past.filterMap issued)
    (matched : σ.call c = .matched presented userId found) :
    Inv cfg token past' (State.moveTo
      { σ with docs := updateOne (·.id == found.id) (revoke now) σ.docs } c
      (.creating (.rotation presented) grant stage)) := by
  have kept : List.Forall₂ Kept σ.docs (updateOne (·.id == found.id)
      (PortalSession.revoke now) σ.docs) :=
    forall₂_updateOne Kept.refl fun doc _ => .revoke now doc
  apply inv.update kept same
  case unmatched => intro userId doc equal; cases equal
  case accepted =>
    intro spent
    obtain rfl : presented = token := Origin.rotation.inj spent
    exact .inl ⟨userId, found, matched⟩
  case revoked =>
    intro spent doc' mem checked
    obtain rfl : presented = token := Origin.rotation.inj spent
    have distinct : (σ.docs.map (·.id)).Nodup := inv.ids ▸ List.nodup_range
    have single : ∀ doc ∈ σ.docs, ∀ other ∈ σ.docs, (doc.id == found.id) = true →
        (other.id == found.id) = true → doc = other := by
      intro doc mem other mem' first second
      exact List.inj_on_of_nodup_map distinct mem mem'
        ((beq_iff_eq.mp first).trans (beq_iff_eq.mp second).symm)
    rw [updateOne_eq_updateMany single (List.Nodup.of_map _ distinct)] at mem
    obtain ⟨doc, inside, rfl⟩ := List.mem_map.mp mem
    obtain ⟨pointed, inside', ids, verified⟩ := inv.points c userId found matched
    by_cases hit : (doc.id == found.id) = true
    · simp [hit, PortalSession.revoke]
    · rw [if_neg hit] at checked
      have equal := inv.unique doc inside pointed inside' checked verified
      simp [equal, ids] at hit

/-- A fresh token verifies its own session only. -/
theorem Inv.insert {cfg : Config} {σ : State C} {c : C} (inv : Inv cfg token past σ)
    (verifies : Verifies cfg) (fresh : (past.filterMap issued ++ [new]).Nodup)
    (creating : σ.call c = .creating origin grant .insert)
    (same : past'.filterMap issued = past.filterMap issued ++ [new]) :
    Inv cfg token past' (State.moveTo
      { σ with docs := insertOne (newSession cfg σ.docs grant now new salt) σ.docs } c
      (.returned origin (some new))) := by
  have unissued : new ∉ past.filterMap issued := by
    intro old
    exact (List.nodup_append.mp fresh).2.2 new old new (List.mem_singleton.mpr rfl) rfl
  have ownToken : checks cfg token (newSession cfg σ.docs grant now new salt) = true →
      new = token := verifies token new salt
  -- where the new session verifies the token, no session verified it before
  have unverified : new = token → ∀ doc ∈ σ.docs, ¬ checks cfg token doc = true := by
    rintro rfl doc mem checked
    exact unissued (inv.source doc mem checked)
  have acceptedBefore : ∀ d, Accepted token ((State.moveTo
      { σ with docs := insertOne (newSession cfg σ.docs grant now new salt) σ.docs } c
      (.returned origin (some new))).call d) → Accepted token (σ.call d) := by
    intro d accepted
    rw [moveTo_call] at accepted
    split at accepted
    · rename_i same
      rcases accepted with ⟨_, _, matched⟩ | spent
      · cases matched
      · exact .inr (by rw [same, creating]; exact spent.1)
    · exact accepted
  have differs : ∀ d, Accepted token (σ.call d) → new ≠ token := by
    intro d accepted equal
    obtain ⟨doc, mem, checked⟩ := inv.present d accepted
    exact unverified equal doc mem checked
  have members : ∀ doc, doc ∈ insertOne (newSession cfg σ.docs grant now new salt) σ.docs ↔
      doc ∈ σ.docs ∨ doc = newSession cfg σ.docs grant now new salt := by
    intro doc
    simp [insertOne]
  constructor
  case ids =>
    simp only [State.moveTo, insertOne, List.map_append, List.length_append, inv.ids]
    simp [newSession, List.range_succ]
  case source =>
    intro doc mem checked
    rw [same]
    rcases (members doc).mp mem with inside | rfl
    · exact List.mem_append_left _ (inv.source doc inside checked)
    · exact List.mem_append_right _ (List.mem_singleton.mpr (ownToken checked).symm)
  case unique =>
    intro first memFirst second memSecond checkedFirst checkedSecond
    rcases (members first).mp memFirst with inside | rfl <;>
      rcases (members second).mp memSecond with inside' | rfl
    · exact inv.unique first inside second inside' checkedFirst checkedSecond
    · exact absurd checkedFirst (unverified (ownToken checkedSecond) first inside)
    · exact absurd checkedSecond (unverified (ownToken checkedFirst) second inside')
    · rfl
  case present =>
    intro d accepted
    obtain ⟨doc, mem, checked⟩ := inv.present d (acceptedBefore d accepted)
    exact ⟨doc, (members doc).mpr (.inl mem), checked⟩
  case points =>
    intro d userId found matched
    rw [moveTo_call] at matched
    split at matched
    · cases matched
    · obtain ⟨doc, mem, ids, checked⟩ := inv.points d userId found matched
      exact ⟨doc, (members doc).mpr (.inl mem), ids, checked⟩
  case single =>
    intro d e accepted accepted'
    exact inv.single d e (acceptedBefore d accepted) (acceptedBefore e accepted')
  case spent =>
    intro d spent doc mem checked
    have accepted := acceptedBefore d (.inr spent)
    rcases (members doc).mp mem with inside | rfl
    · have before : Spent token (σ.call d) := by
        rw [moveTo_call] at spent
        split at spent
        · rename_i same
          rw [same, creating]
          exact spent.1
        · exact spent
      exact inv.spent d before doc inside checked
    · exact absurd (ownToken checked) (differs d accepted)

theorem step_inv {cfg : Config} {σ τ : State C} (verifies : Verifies cfg)
    (fresh : ((past ++ [l]).filterMap issued).Nodup) (inv : Inv cfg token past σ)
    (serial : Serial cfg token σ l) (stepped : step cfg σ l = some τ) :
    Inv cfg token (past ++ [l]) τ := by
  cases step_takes stepped with
  | @quiet _ _ _ _ kept unspent unmatched noInsert =>
    have unissued : issued l = none := by
      cases l with
      | insert c now token salt => exact absurd rfl (noInsert c now token salt)
      | login | rotate | revokeAll | next => rfl
    exact inv.quiet kept (by simp [unissued]) (unspent token) (unmatched token)
  | @find c presented userId now doc rotating found =>
    apply inv.find (by simp [issued]) found
    rintro rfl
    simp only [Serial, SearchesAlone, rotating] at serial
    exact serial trivial (by simp [found])
  | revoke matched => exact inv.revoke (by simp [issued]) matched
  | @insert c origin grant now new salt creating =>
    have grows : (past ++ [Action.insert c now new salt]).filterMap issued =
        past.filterMap issued ++ [new] := by simp [issued]
    exact inv.insert verifies (grows ▸ fresh) creating grows

theorem run_inv {cfg : Config} {σ : State C} (verifies : Verifies cfg)
    (fresh : (labels.filterMap issued).Nodup)
    (serial : Along (step cfg) (Serial cfg token) (State.initial C) labels)
    (run : exec (step cfg) (State.initial C) labels = some σ) : Inv cfg token labels σ := by
  have history : (labels.filterMap issued).Nodup → Inv cfg token labels σ := by
    apply exec_history_along (fun past σ => (past.filterMap issued).Nodup → Inv cfg token past σ)
      _ serial run fun _ => Inv.initial cfg token
    intro past σ l τ before serial stepped fresh
    have shorter : (past.filterMap issued).Nodup := by
      rw [List.filterMap_append] at fresh
      exact (List.nodup_append.mp fresh).1
    exact step_inv verifies fresh (before shorter) serial stepped
  exact history fresh

/-- The call is a rotation of the token. -/
def Presents (token : String) : Call → Prop
  | .rotating presented _ | .matched presented _ _ => presented = token
  | .creating origin _ _ | .returned origin _ => origin = .rotation token
  | _ => False

/-- The call has been answered with `None`, or its search will find nothing. -/
def Fails (cfg : Config) (token : String) (σ : State C) (c : C) : Prop :=
  σ.call c = .returned (.rotation token) none ∨
    ∃ userId, σ.call c = .rotating token userId ∧
      ∀ now, step cfg σ (.next c now) = some (σ.moveTo c (.returned (.rotation token) none))

theorem Inv.others_fail {cfg : Config} {σ : State C} {c d : C} (inv : Inv cfg token past σ)
    (spent : Spent token (σ.call c)) (other : d ≠ c) (presents : Presents token (σ.call d)) :
    Fails cfg token σ d := by
  have unaccepted : ¬ Accepted token (σ.call d) :=
    fun accepted => other (inv.single d c accepted (.inr spent))
  cases call : σ.call d with
  | idle | revoking | revoked =>
    rw [call] at presents
    cases presents
  | matched presented userId doc =>
    rw [call] at presents
    obtain rfl : presented = token := presents
    exact absurd (.inl ⟨userId, doc, call⟩) unaccepted
  | creating origin grant stage =>
    rw [call] at presents
    exact absurd (.inr (by rw [call]; exact presents)) unaccepted
  | returned origin answer =>
    rw [call] at presents
    obtain rfl : origin = .rotation token := presents
    cases answer with
    | none => exact .inl call
    | some new => exact absurd (.inr (by rw [call]; exact ⟨rfl, rfl⟩)) unaccepted
  | rotating presented userId =>
    rw [call] at presents
    obtain rfl : presented = token := presents
    refine .inr ⟨userId, call, fun now => ?_⟩
    have nothing : findMatch cfg σ.docs presented userId now = none := by
      cases found : findMatch cfg σ.docs presented userId now with
      | none => rfl
      | some doc =>
        obtain ⟨mem, checked, usable⟩ := findMatch_spec found
        rw [inv.spent c spent doc mem checked] at usable
        cases usable
    simp only [step, call, advance, nothing]

/-- One rotation of a token succeeds at most, and once it has, every other one
fails. -/
theorem rotation_single_use {cfg : Config} {σ : State C} (verifies : Verifies cfg)
    (fresh : (labels.filterMap issued).Nodup)
    (serial : Along (step cfg) (Serial cfg token) (State.initial C) labels)
    (run : exec (step cfg) (State.initial C) labels = some σ) :
    (∀ c d new new', σ.call c = .returned (.rotation token) (some new) →
      σ.call d = .returned (.rotation token) (some new') → c = d) ∧
    (∀ c d new, σ.call c = .returned (.rotation token) (some new) → d ≠ c →
      Presents token (σ.call d) → Fails cfg token σ d) := by
  have inv := run_inv verifies fresh serial run
  have succeeded : ∀ c new, σ.call c = .returned (.rotation token) (some new) →
      Spent token (σ.call c) := by
    intro c new returned
    rw [returned]
    exact ⟨rfl, rfl⟩
  constructor
  · intro c d new new' first second
    exact inv.single c d (.inr (succeeded c new first)) (.inr (succeeded d new' second))
  · intro c d new returned other presents
    exact inv.others_fail (succeeded c new returned) other presents

instance [Fintype C] (cfg : Config) (token : String) (σ : State C) (now : Nat) :
    (call : Call) → Decidable (SearchesAlone cfg token σ now call)
  | .rotating .. => inferInstanceAs (Decidable (_ → _ → _))
  | .idle | .matched .. | .creating .. | .returned .. | .revoking _ | .revoked _ => isTrue trivial

instance [Fintype C] (cfg : Config) (token : String) (σ : State C) :
    (l : Action C) → Decidable (Serial cfg token σ l)
  | .next .. => inferInstanceAs (Decidable (SearchesAlone ..))
  | .login .. | .rotate .. | .revokeAll .. | .insert .. => isTrue trivial

/-- Hash functions that keep their input, so that only the token itself verifies. -/
def plainHashing : Hashing :=
  ⟨String, id, fun digest _ => digest, fun digest hash => digest == hash⟩

def plainConfig : Config := ⟨plainHashing, 8⟩

theorem plain_verifies : Verifies plainConfig := by
  intro token other salt checked
  exact (beq_iff_eq.mp checked).symm

def portalLogin : List (Action (Fin 3)) :=
  [.login 0 { userId := "u1", portalRoles := ["portal:viewer"] }, .next 0 1, .insert 0 1 "r1" "s1"]

/-- The second presentation of the token searches after the first has revoked it. -/
def serialRotations : List (Action (Fin 3)) :=
  portalLogin ++ ([.rotate 1 "r1" "u1", .rotate 2 "r1" "u1", .next 1 2, .next 1 2, .next 2 3,
    .next 1 3, .insert 1 3 "r2" "s2"] : List (Action (Fin 3)))

theorem rotation_single_use_serial :
    ∃ σ, exec (step plainConfig) (State.initial (Fin 3)) serialRotations = some σ ∧
      σ.call 1 = .returned (.rotation "r1") (some "r2") ∧ Fails plainConfig "r1" σ 2 := by
  have reached : (exec (step plainConfig) (State.initial (Fin 3)) serialRotations).map
      (fun σ => (σ.call 1, σ.call 2)) =
      some (.returned (.rotation "r1") (some "r2"), .returned (.rotation "r1") none) := by
    decide +kernel
  obtain ⟨σ, run, calls⟩ := Option.map_eq_some_iff.mp reached
  obtain ⟨first, second⟩ := Prod.mk.inj calls
  have serial : Along (step plainConfig) (Serial plainConfig "r1") (State.initial (Fin 3))
      serialRotations := by decide +kernel
  have single := rotation_single_use plain_verifies (by decide +kernel) serial run
  exact ⟨σ, run, first, single.2 1 2 "r2" first (by decide) (by rw [second]; rfl)⟩

/-- Both searches run before either update. -/
def racingRotations : List (Action (Fin 3)) :=
  portalLogin ++ ([.rotate 1 "r1" "u1", .rotate 2 "r1" "u1", .next 1 2, .next 2 2, .next 1 3,
    .next 2 3, .next 1 3, .insert 1 3 "r2" "s2", .next 2 3, .insert 2 3 "r3" "s3"] :
      List (Action (Fin 3)))

theorem rotation_used_twice :
    Verifies plainConfig ∧ (racingRotations.filterMap issued).Nodup ∧
    ∃ σ, exec (step plainConfig) (State.initial (Fin 3)) racingRotations = some σ ∧
      σ.call 1 = .returned (.rotation "r1") (some "r2") ∧
      σ.call 2 = .returned (.rotation "r1") (some "r3") := by
  have reached : (exec (step plainConfig) (State.initial (Fin 3)) racingRotations).map
      (fun σ => (σ.call 1, σ.call 2)) =
      some (.returned (.rotation "r1") (some "r2"), .returned (.rotation "r1") (some "r3")) := by
    decide +kernel
  obtain ⟨σ, run, calls⟩ := Option.map_eq_some_iff.mp reached
  obtain ⟨first, second⟩ := Prod.mk.inj calls
  exact ⟨plain_verifies, by decide +kernel, σ, run, first, second⟩

end AgentOE.PortalSession
