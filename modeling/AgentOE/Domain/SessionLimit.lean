import AgentOE.Domain.PortalSession
import Mathlib.Data.Finset.Card

/-! How many sessions of one user are unrevoked when logins and rotations overlap. The
limit is counted, made room for and used up in separate operations. -/
namespace AgentOE.PortalSession
open Transition Collection

variable {C : Type} [DecidableEq C]

/-- Unrevoked sessions of a user outside `ids`. -/
def remaining (userId : String) (ids : List Nat) (docs : List SessionDoc) : Nat :=
  (docs.filter fun doc => unrevoked userId doc && !ids.contains doc.id).length

def active (userId : String) (docs : List SessionDoc) : Nat :=
  (docs.filter (unrevoked userId)).length

/-- A `create_session` of the user that has counted and has not inserted. -/
def UnderWay (userId : String) : Call → Prop
  | .creating _ grant stage => grant.userId = userId ∧ stage ≠ .count
  | _ => False

/-- Every `create_session` of the user has the same limit. A rotation has the default. -/
def SameLimit (userId : String) (maxConcurrent : Nat) : Action C → Prop
  | .login _ grant => grant.userId = userId → grant.maxConcurrent = maxConcurrent
  | .rotate _ _ user => user = userId → maxConcurrent = 3
  | _ => True

/-- A `create_session` of the user counts while no other one is between its count and its
insert, or while there is room for all of these and for itself. -/
def CountsRoom (userId : String) (maxConcurrent : Nat) (σ : State C) : Action C → Prop
  | .next c _ => match σ.call c with
    | .creating _ grant .count => grant.userId = userId →
      (∀ d, ¬UnderWay userId (σ.call d)) ∨
        ∃ others : List C, (∀ d, UnderWay userId (σ.call d) → d ∈ others) ∧
          active userId σ.docs + others.length < maxConcurrent
    | _ => True
  | _ => True

def Call.Finished : Call → Prop
  | .idle | .returned .. | .revoked _ => True
  | _ => False

def Quiescent (σ : State C) : Prop := ∀ c, (σ.call c).Finished

/-! What the operations do to the number of sessions. -/

def Revokes (doc doc' : SessionDoc) : Prop := doc' = doc ∨ ∃ now, doc' = revoke now doc

theorem length_filter_le_of_forall₂ {α : Type} {R : α → α → Prop} {docs docs' : List α}
    {q : α → Bool} (related : List.Forall₂ R docs docs')
    (back : ∀ doc doc', R doc doc' → q doc' = true → q doc = true) :
    (docs'.filter q).length ≤ (docs.filter q).length := by
  induction related with
  | nil => rfl
  | @cons doc doc' _ _ first _ ih =>
    by_cases selected : q doc' = true
    · rw [List.filter_cons_of_pos selected, List.filter_cons_of_pos (back doc doc' first selected)]
      exact Nat.succ_le_succ ih
    · rw [List.filter_cons_of_neg selected, List.filter_cons]
      split
      · exact Nat.le_succ_of_le ih
      · exact ih

section Counts
variable {userId : String} {ids : List Nat} {docs docs' : List SessionDoc}

theorem active_eq_remaining : active userId docs = remaining userId [] docs := by
  simp [active, remaining]

theorem remaining_revokes (revokes : List.Forall₂ Revokes docs docs') :
    remaining userId ids docs' ≤ remaining userId ids docs := by
  refine length_filter_le_of_forall₂ revokes fun doc doc' related selected => ?_
  rcases related with rfl | ⟨now, rfl⟩
  · exact selected
  · simp [unrevoked, revoke] at selected

theorem remaining_insertOne (doc : SessionDoc) (foreign : doc.userId ≠ userId) :
    remaining userId ids (insertOne doc docs) = remaining userId ids docs := by
  simp [remaining, insertOne, unrevoked, foreign]

theorem active_evict (now : Nat) :
    active userId (updateMany (fun doc => ids.contains doc.id) (revoke now) docs) =
      remaining userId ids docs := by
  rw [active, remaining, updateMany, List.filter_map, List.length_map]
  congr 1
  refine List.filter_congr fun doc _ => ?_
  rw [Function.comp_apply]
  cases ids.contains doc.id
  · simp
  · simp [unrevoked, revoke]

/-- Selecting the oldest of a user's sessions leaves the others. -/
theorem remaining_oldest (limit : Nat) :
    remaining userId ((((docs.filter (unrevoked userId)).mergeSort (·.createdAt ≤ ·.createdAt)).take
      limit).map (·.id)) docs ≤ active userId docs - limit := by
  set sorted := (docs.filter (unrevoked userId)).mergeSort (·.createdAt ≤ ·.createdAt) with sorting
  have perm : sorted.Perm (docs.filter (unrevoked userId)) := List.mergeSort_perm _ _
  have split : remaining userId ((sorted.take limit).map (·.id)) docs =
      (sorted.filter fun doc => !((sorted.take limit).map (·.id)).contains doc.id).length := by
    rw [remaining, (perm.filter _).length_eq, List.filter_filter]
    simp only [Bool.and_comm]
  have taken : (sorted.take limit).filter
      (fun doc => !((sorted.take limit).map (·.id)).contains doc.id) = [] := by
    refine List.filter_eq_nil_iff.mpr fun doc mem => ?_
    simp only [Bool.not_eq_true', Bool.not_eq_false, List.contains_iff_mem]
    exact List.mem_map_of_mem mem
  have whole : sorted.filter (fun doc => !((sorted.take limit).map (·.id)).contains doc.id) =
      (sorted.drop limit).filter
          (fun doc => !((sorted.take limit).map (·.id)).contains doc.id) := by
    conv_lhs => rw [← List.take_append_drop limit sorted]
    rw [List.filter_append, List.take_append_drop, taken, List.nil_append]
  rw [split, whole]
  refine (List.length_filter_le _ _).trans ?_
  rw [List.length_drop, perm.length_eq, active]

theorem active_insertOne (doc : SessionDoc) :
    active userId (insertOne doc docs) = active userId docs + (unrevoked userId doc).toNat := by
  simp only [active, insertOne, List.filter_append, List.length_append, List.filter_cons,
    List.filter_nil]
  cases unrevoked userId doc <;> rfl

/-- The user's sessions have not become more, whichever of them are left out. -/
def NoMore (userId : String) (docs docs' : List SessionDoc) : Prop :=
  ∀ ids, remaining userId ids docs' ≤ remaining userId ids docs

theorem NoMore.refl (docs : List SessionDoc) : NoMore userId docs docs := fun _ => le_rfl

theorem NoMore.active (fewer : NoMore userId docs docs') :
    active userId docs' ≤ active userId docs := by
  rw [active_eq_remaining, active_eq_remaining]
  exact fewer []

theorem noMore_updateOne (p : SessionDoc → Bool) (now : Nat) :
    NoMore userId docs (updateOne p (revoke now) docs) :=
  fun _ => remaining_revokes (forall₂_updateOne (fun _ => .inl rfl) fun _ _ => .inr ⟨now, rfl⟩)

theorem noMore_updateMany (p : SessionDoc → Bool) (now : Nat) :
    NoMore userId docs (updateMany p (revoke now) docs) :=
  fun _ => remaining_revokes (forall₂_updateMany (fun _ => .inl rfl) fun _ _ => .inr ⟨now, rfl⟩)

end Counts

/-! The invariant. -/

def HasLimit (userId : String) (maxConcurrent : Nat) : Call → Prop
  | .rotating _ user | .matched _ user _ => user = userId → maxConcurrent = 3
  | .creating _ grant _ => grant.userId = userId → grant.maxConcurrent = maxConcurrent
  | _ => True

/-- What the call is about to revoke leaves room for its own session. -/
def MakesRoom (userId : String) (maxConcurrent : Nat) (docs : List SessionDoc) : Call → Prop
  | .creating _ grant (.oldest limit) =>
    grant.userId = userId ∧ active userId docs + 1 ≤ limit + maxConcurrent
  | .creating _ grant (.evict ids) =>
    grant.userId = userId ∧ remaining userId ids docs + 1 ≤ maxConcurrent
  | _ => False

structure Limited (userId : String) (maxConcurrent : Nat) (σ : State C) (pending : Finset C) :
    Prop where
  covers : ∀ d, UnderWay userId (σ.call d) → d ∈ pending
  limits : ∀ d, HasLimit userId maxConcurrent (σ.call d)
  room : active userId σ.docs + pending.card ≤ maxConcurrent ∨
    ∃ c, pending = {c} ∧ MakesRoom userId maxConcurrent σ.docs (σ.call c)

section Steps
variable {userId : String} {maxConcurrent : Nat} {σ τ : State C} {pending : Finset C} {c : C}
  {docs docs' : List SessionDoc} {call : Call}

theorem MakesRoom.noMore (makes : MakesRoom userId maxConcurrent docs call)
    (fewer : NoMore userId docs docs') : MakesRoom userId maxConcurrent docs' call := by
  cases call with
  | creating origin grant stage =>
    cases stage with
    | oldest limit => exact ⟨makes.1, (Nat.add_le_add_right fewer.active 1).trans makes.2⟩
    | evict ids => exact ⟨makes.1, (Nat.add_le_add_right (fewer ids) 1).trans makes.2⟩
    | count | insert => exact makes
  | idle | rotating | matched | returned | revoking | revoked => exact makes

theorem MakesRoom.underWay (makes : MakesRoom userId maxConcurrent docs call) :
    UnderWay userId call := by
  cases call with
  | creating origin grant stage =>
    cases stage with
    | oldest | evict => exact ⟨makes.1, nofun⟩
    | count | insert => exact makes.elim
  | idle | rotating | matched | returned | revoking | revoked => exact makes.elim

/-- A step of a call that is under way neither before nor after it. -/
theorem Limited.pass (limited : Limited userId maxConcurrent σ pending)
    (fewer : NoMore userId σ.docs docs) (before : ¬UnderWay userId (σ.call c))
    (after : ¬UnderWay userId call) (limit : HasLimit userId maxConcurrent call) :
    Limited userId maxConcurrent (State.moveTo { σ with docs := docs } c call) pending := by
  constructor
  case covers =>
    intro d underWay
    rw [moveTo_call] at underWay
    split at underWay
    · exact absurd underWay after
    · exact limited.covers d underWay
  case limits =>
    intro d
    rw [moveTo_call]
    split
    · exact limit
    · exact limited.limits d
  case room =>
    refine limited.room.imp (fun room => ?_) fun ⟨e, only, makes⟩ => ⟨e, only, ?_⟩
    · exact (Nat.add_le_add_right fewer.active _).trans room
    · have other : e ≠ c := by
        rintro rfl
        exact before makes.underWay
      rw [moveTo_call, if_neg other]
      exact makes.noMore fewer

/-- A step of a call that stays under way. -/
theorem Limited.proceed (limited : Limited userId maxConcurrent σ pending)
    (fewer : NoMore userId σ.docs docs) (before : UnderWay userId (σ.call c))
    (limit : HasLimit userId maxConcurrent call)
    (makes : MakesRoom userId maxConcurrent σ.docs (σ.call c) →
      active userId docs + 1 ≤ maxConcurrent ∨ MakesRoom userId maxConcurrent docs call) :
    Limited userId maxConcurrent (State.moveTo { σ with docs := docs } c call) pending := by
  constructor
  case covers =>
    intro d underWay
    rw [moveTo_call] at underWay
    split at underWay
    · rename_i same
      exact limited.covers d (same ▸ before)
    · exact limited.covers d underWay
  case limits =>
    intro d
    rw [moveTo_call]
    split
    · exact limit
    · exact limited.limits d
  case room =>
    rcases limited.room with room | ⟨e, rfl, room⟩
    · exact .inl ((Nat.add_le_add_right fewer.active _).trans room)
    · obtain rfl : c = e := Finset.mem_singleton.mp (limited.covers c before)
      refine (makes room).imp (fun room => room) fun room => ⟨c, rfl, ?_⟩
      rw [moveTo_call, if_pos rfl]
      exact room

/-- The call counts and finds room, or has to make it. -/
theorem Limited.count (limited : Limited userId maxConcurrent σ pending) (now : Nat)
    (counts : CountsRoom userId maxConcurrent σ (.next c now))
    (creating : σ.call c = .creating origin grant .count) (mine : grant.userId = userId) :
    ∃ pending', Limited userId maxConcurrent (σ.moveTo c (.creating origin grant
      (if grant.maxConcurrent ≤ active userId σ.docs then
        .oldest (active userId σ.docs - grant.maxConcurrent + 1) else .insert))) pending' := by
  have limit : grant.maxConcurrent = maxConcurrent := by
    have known := limited.limits c
    rw [creating] at known
    exact known mine
  simp only [CountsRoom, creating] at counts
  have limits : ∀ stage d, HasLimit userId maxConcurrent
      ((σ.moveTo c (.creating origin grant stage)).call d) := by
    intro stage d
    rw [moveTo_call]
    split
    · exact fun _ => limit
    · exact limited.limits d
  rcases counts mine with alone | ⟨others, covers, room⟩
  · refine ⟨{c}, ?_, limits _, ?_⟩
    · intro d underWay
      rw [moveTo_call] at underWay
      split at underWay
      · rename_i same
        exact Finset.mem_singleton.mpr same
      · exact absurd underWay (alone d)
    · rw [limit]
      split
      · refine .inr ⟨c, rfl, ?_⟩
        rw [moveTo_call, if_pos rfl]
        refine ⟨mine, ?_⟩
        simp only [State.moveTo]
        omega
      · left
        simp only [State.moveTo, Finset.card_singleton]
        omega
  · refine ⟨insert c others.toFinset, ?_, limits _, .inl ?_⟩
    · intro d underWay
      rw [moveTo_call] at underWay
      split at underWay
      · rename_i same
        exact same ▸ Finset.mem_insert_self _ _
      · exact Finset.mem_insert_of_mem (List.mem_toFinset.mpr (covers d underWay))
    · have size := (Finset.card_insert_le c others.toFinset).trans
        (Nat.add_le_add_right others.toFinset_card_le 1)
      simp only [State.moveTo]
      omega

theorem Limited.insert (limited : Limited userId maxConcurrent σ pending)
    (creating : σ.call c = .creating origin grant .insert) (mine : grant.userId = userId)
    {doc : SessionDoc} (one : unrevoked userId doc = true) (answer : Call)
    (done : answer.Finished) :
    Limited userId maxConcurrent (State.moveTo { σ with docs := insertOne doc σ.docs } c answer)
      (pending.erase c) := by
  have ends : ¬UnderWay userId answer := by
    cases answer <;> simp_all [UnderWay, Call.Finished]
  have underWay : UnderWay userId (σ.call c) := by
    rw [creating]
    exact ⟨mine, nofun⟩
  have counted := limited.covers c underWay
  constructor
  case covers =>
    intro d still
    rw [moveTo_call] at still
    split at still
    · exact absurd still ends
    · exact Finset.mem_erase.mpr ⟨‹_›, limited.covers d still⟩
  case limits =>
    intro d
    rw [moveTo_call]
    split
    · cases answer <;> simp_all [HasLimit, Call.Finished]
    · exact limited.limits d
  case room =>
    rcases limited.room with room | ⟨e, rfl, makes⟩
    · left
      have size := Finset.card_erase_add_one counted
      simp only [State.moveTo, active_insertOne, one, Bool.toNat_true]
      omega
    · obtain rfl := Finset.mem_singleton.mp counted
      rw [creating] at makes
      exact makes.elim

theorem advance_limited {cfg : Config} (limited : Limited userId maxConcurrent σ pending)
    (now : Nat) (one : 1 ≤ maxConcurrent) (counts : CountsRoom userId maxConcurrent σ (.next c now))
    (stepped : advance cfg σ c now (σ.call c) = some τ) :
    ∃ pending', Limited userId maxConcurrent τ pending' := by
  have limit := limited.limits c
  cases calls : σ.call c with
  | idle | returned | revoked =>
    rw [calls] at stepped
    cases stepped
  | rotating token user =>
    rw [calls] at stepped limit
    have before : ¬UnderWay userId (σ.call c) := by rw [calls]; exact id
    simp only [advance] at stepped
    split at stepped <;> cases stepped
    · exact ⟨pending, limited.pass (.refl _) before id limit⟩
    · exact ⟨pending, limited.pass (.refl _) before id trivial⟩
  | matched token user doc =>
    rw [calls] at stepped limit
    have before : ¬UnderWay userId (σ.call c) := by rw [calls]; exact id
    cases stepped
    exact ⟨pending, limited.pass (noMore_updateOne _ now) before (fun underWay => underWay.2 rfl)
      fun mine => (limit mine).symm⟩
  | revoking user =>
    rw [calls] at stepped
    have before : ¬UnderWay userId (σ.call c) := by rw [calls]; exact id
    cases stepped
    exact ⟨pending, limited.pass (noMore_updateMany _ now) before id trivial⟩
  | creating origin grant stage =>
    rw [calls] at stepped limit
    by_cases mine : grant.userId = userId
    case neg =>
      have foreign : ∀ stage, ¬UnderWay userId (.creating origin grant stage) :=
        fun stage underWay => mine underWay.1
      have before : ¬UnderWay userId (σ.call c) := by rw [calls]; exact foreign stage
      cases stage with
      | count =>
        cases stepped
        exact ⟨pending, limited.pass (.refl _) before (foreign _) limit⟩
      | oldest bound =>
        cases stepped
        exact ⟨pending, limited.pass (.refl _) before (foreign _) limit⟩
      | evict ids =>
        cases stepped
        exact ⟨pending, limited.pass (noMore_updateMany _ now) before (foreign _) limit⟩
      | insert => cases stepped
    case pos =>
      cases stage with
      | count =>
        cases stepped
        subst mine
        exact limited.count now counts calls rfl
      | oldest bound =>
        cases stepped
        have before : UnderWay userId (σ.call c) := by rw [calls]; exact ⟨mine, by simp⟩
        refine ⟨pending, limited.proceed (.refl _) before limit fun makes => ?_⟩
        rw [calls] at makes
        subst mine
        -- what is selected is evicted, and nothing is selected only where nothing is left
        have left : _ ≤ active grant.userId σ.docs - bound := remaining_oldest bound
        have room := makes.2
        split
        · rename_i none
          rw [none, ← active_eq_remaining] at left
          exact .inl (by omega)
        · exact .inr ⟨rfl, by omega⟩
      | evict ids =>
        cases stepped
        have before : UnderWay userId (σ.call c) := by rw [calls]; exact ⟨mine, by simp⟩
        refine ⟨pending, limited.proceed (noMore_updateMany _ now) before limit fun makes =>
          .inl ?_⟩
        rw [calls] at makes
        rw [active_evict]
        exact makes.2
      | insert => cases stepped

theorem step_limited {cfg : Config} {l : Action C}
    (limited : ∃ pending, Limited userId maxConcurrent σ pending) (one : 1 ≤ maxConcurrent)
    (same : SameLimit userId maxConcurrent l) (counts : CountsRoom userId maxConcurrent σ l)
    (stepped : step cfg σ l = some τ) : ∃ pending, Limited userId maxConcurrent τ pending := by
  obtain ⟨pending, limited⟩ := limited
  have start : ∀ c call, σ.call c = .idle → ¬UnderWay userId call →
      HasLimit userId maxConcurrent call →
      Limited userId maxConcurrent (σ.moveTo c call) pending := by
    intro c call idle after limit
    have before : ¬UnderWay userId (σ.call c) := by rw [idle]; exact id
    exact limited.pass (.refl _) before after limit
  cases l with
  | login c grant =>
    simp only [step, Option.ite_none_right_eq_some, Option.some.injEq] at stepped
    obtain ⟨idle, rfl⟩ := stepped
    exact ⟨pending, start c _ idle (fun underWay => underWay.2 rfl) same⟩
  | rotate c token user =>
    simp only [step, Option.ite_none_right_eq_some, Option.some.injEq] at stepped
    obtain ⟨idle, rfl⟩ := stepped
    exact ⟨pending, start c _ idle id same⟩
  | revokeAll c user =>
    simp only [step, Option.ite_none_right_eq_some, Option.some.injEq] at stepped
    obtain ⟨idle, rfl⟩ := stepped
    exact ⟨pending, start c _ idle id trivial⟩
  | next c now => exact advance_limited limited now one counts stepped
  | insert c now token salt =>
    simp only [step] at stepped
    split at stepped <;> cases stepped
    rename_i origin grant creating
    by_cases mine : grant.userId = userId
    · have counted : unrevoked userId (newSession cfg σ.docs grant now token salt) = true := by
        simp [unrevoked, newSession, mine]
      exact ⟨_, limited.insert creating mine counted _ trivial⟩
    · have before : ¬UnderWay userId (σ.call c) := by
        rw [creating]
        exact fun underWay => mine underWay.1
      have same : NoMore userId σ.docs (insertOne
          (newSession cfg σ.docs grant now token salt) σ.docs) :=
        fun _ => (remaining_insertOne _ mine).le
      exact ⟨pending, limited.pass same before id trivial⟩

end Steps

/-- The call that takes the step. -/
def Action.caller : Action C → C
  | .login c _ | .rotate c _ _ | .revokeAll c _ | .next c _ | .insert c _ _ _ => c

theorem step_returned {cfg : Config} {τ : State C} {l : Action C}
    (returned : τ.call l.caller = .returned origin answer) : step cfg τ l = none := by
  cases l with
  | login c | rotate c | revokeAll c =>
    exact if_neg fun idle => by cases returned.symm.trans idle
  | next c now =>
    simp only [Action.caller] at returned
    rw [step, returned]
    rfl
  | insert c now token salt =>
    simp only [Action.caller] at returned
    simp only [step, returned]

/-- A step changes the sessions and the call that takes it. -/
theorem step_moves {cfg : Config} {σ τ : State C} {l : Action C} (stepped : step cfg σ l = some τ) :
    ∃ docs call, τ = State.moveTo { σ with docs := docs } l.caller call := by
  cases l with
  | login | rotate | revokeAll =>
    simp only [step, Option.ite_none_right_eq_some, Option.some.injEq] at stepped
    exact ⟨σ.docs, _, stepped.2.symm⟩
  | next c now =>
    simp only [step] at stepped
    cases call : σ.call c with
    | idle | returned | revoked =>
      rw [call] at stepped
      cases stepped
    | rotating token userId =>
      rw [call] at stepped
      simp only [advance] at stepped
      split at stepped <;> cases stepped <;> exact ⟨σ.docs, _, rfl⟩
    | matched | revoking =>
      rw [call] at stepped
      cases stepped
      exact ⟨_, _, rfl⟩
    | creating origin grant stage =>
      rw [call] at stepped
      cases stage <;> cases stepped <;> exact ⟨_, _, rfl⟩
  | insert c now token salt =>
    simp only [step] at stepped
    split at stepped <;> cases stepped
    exact ⟨_, _, rfl⟩

theorem step_others {cfg : Config} {σ τ : State C} {l : Action C} (stepped : step cfg σ l = some τ)
    {d : C} (other : d ≠ l.caller) : τ.call d = σ.call d := by
  obtain ⟨docs, call, rfl⟩ := step_moves stepped
  rw [moveTo_call, if_neg other]

/-- A session that a call has just handed out is unrevoked, and the call takes no further
step. -/
theorem insert_returns {cfg : Config} {σ τ : State C} {c : C}
    (stepped : step cfg σ (.insert c now token salt) = some τ) :
    (∃ doc, τ.docs = σ.docs ++ [doc] ∧ doc.revoked = false) ∧
      (∃ origin, τ.call c = .returned origin (some token)) ∧
      ∀ l : Action C, l.caller = c → step cfg τ l = none := by
  simp only [step] at stepped
  split at stepped <;> cases stepped
  rename_i origin grant creating
  have returned : (State.moveTo { σ with
      docs := insertOne (newSession cfg σ.docs grant now token salt) σ.docs } c
      (.returned origin (some token))).call c = .returned origin (some token) := by
    rw [moveTo_call, if_pos rfl]
  refine ⟨⟨_, rfl, rfl⟩, ⟨origin, returned⟩, ?_⟩
  rintro l rfl
  exact step_returned returned

/-- Where every `create_session` counts alone or with room for all, no more sessions than
the limit are left when the calls are done. -/
theorem sessions_limited {cfg : Config} {start σ : State C} (one : 1 ≤ maxConcurrent)
    (idle : ∀ c, start.call c = .idle) (within : active userId start.docs ≤ maxConcurrent)
    (same : ∀ l ∈ labels, SameLimit userId maxConcurrent l)
    (room : Along (step cfg) (CountsRoom userId maxConcurrent) start labels)
    (run : exec (step cfg) start labels = some σ) :
    (Quiescent σ → active userId σ.docs ≤ maxConcurrent) ∧
    ∀ c now token salt τ, step cfg σ (.insert c now token salt) = some τ →
      (∃ doc, τ.docs = σ.docs ++ [doc] ∧ doc.revoked = false) ∧
        (∃ origin, τ.call c = .returned origin (some token)) ∧
        ∀ l : Action C, l.caller = c → step cfg τ l = none := by
  refine ⟨fun quiet => ?_, fun c now token salt τ => insert_returns⟩
  have fresh : Limited userId maxConcurrent start ∅ := by
    refine ⟨fun d underWay => ?_, fun d => ?_, .inl within⟩
    · rw [idle d] at underWay
      exact underWay.elim
    · rw [idle d]
      trivial
  obtain ⟨pending, limited⟩ : ∃ pending, Limited userId maxConcurrent σ pending :=
    exec_history_along (fun _ σ => ∃ pending, Limited userId maxConcurrent σ pending)
      (fun before both stepped => step_limited before one both.2 both.1 stepped)
      (along_and room (along_of_forall (fun l mem _ => same l mem) start)) run ⟨∅, fresh⟩
  rcases limited.room with room | ⟨c, -, makes⟩
  · omega
  · have finished := quiet c
    cases call : σ.call c <;> rw [call] at makes finished
    case creating => exact finished.elim
    all_goals exact makes.elim

instance : (call : Call) → Decidable call.Finished
  | .idle | .returned .. | .revoked _ => isTrue trivial
  | .rotating .. | .matched .. | .creating .. | .revoking _ => isFalse id

instance [Fintype C] (σ : State C) : Decidable (Quiescent σ) :=
  inferInstanceAs (Decidable (∀ c, (σ.call c).Finished))

instance (userId : String) : (call : Call) → Decidable (UnderWay userId call)
  | .creating .. => inferInstanceAs (Decidable (_ ∧ _))
  | .idle | .rotating .. | .matched .. | .returned .. | .revoking _ | .revoked _ => isFalse id

/-- Each `create_session` counts alone. -/
def countsAlone [Fintype C] (userId : String) (σ : State C) : Action C → Bool
  | .next c _ => match σ.call c with
    | .creating _ _ .count => decide (∀ d, ¬UnderWay userId (σ.call d))
    | _ => true
  | _ => true

omit [DecidableEq C] in
theorem countsRoom_of_alone [Fintype C] (σ : State C) (l : Action C)
    (alone : countsAlone userId σ l = true) : CountsRoom userId maxConcurrent σ l := by
  cases l with
  | next c now =>
    simp only [countsAlone, CountsRoom] at alone ⊢
    split at alone
    · exact fun _ => .inl (of_decide_eq_true alone)
    · trivial
  | login | rotate | revokeAll | insert => trivial

def operatorLogin (c : Fin 4) : List (Action (Fin 4)) :=
  [.login c { userId := "u1", portalRoles := ["portal:viewer"] }, .next c 1]

def sessionToken (c : Fin 4) : String := "r" ++ toString c.val

def insertSession (c : Fin 4) (now : Nat) : Action (Fin 4) := .insert c now (sessionToken c) "salt"

/-- Two logins, and a rotation of the first one's token. -/
def serialLogins : List (Action (Fin 4)) :=
  operatorLogin 0 ++ [insertSession 0 1] ++ (operatorLogin 1 ++ [insertSession 1 2]) ++
    [.rotate 2 (sessionToken 0) "u1", .next 2 3, .next 2 3, .next 2 3, insertSession 2 3]

theorem serial_logins_limited : ∃ σ,
    exec (step plainConfig) (State.initial (Fin 4)) serialLogins = some σ ∧ Quiescent σ ∧
      active "u1" σ.docs ≤ 3 := by
  have reached : ((exec (step plainConfig) (State.initial (Fin 4)) serialLogins).map fun σ =>
      decide (Quiescent σ)) = some true := by decide +kernel
  obtain ⟨σ, run, checked⟩ := Option.map_eq_some_iff.mp reached
  have quiet : Quiescent σ := of_decide_eq_true checked
  have alone : Along (step plainConfig) (CountsRoom "u1" 3) (State.initial (Fin 4)) serialLogins :=
    along_of_bool countsRoom_of_alone (by decide +kernel)
  refine ⟨σ, run, quiet, (sessions_limited (by decide) (fun _ => rfl)
    (by decide) ?_ alone run).1 quiet⟩
  simp [serialLogins, operatorLogin, insertSession, SameLimit]

/-- All four logins count before any of them inserts. -/
def overlappingLogins : List (Action (Fin 4)) :=
  [0, 1, 2, 3].flatMap operatorLogin ++ [0, 1, 2, 3].map (insertSession · 1)

theorem overlapping_logins_exceed :
    (∀ l ∈ overlappingLogins, SameLimit "u1" 3 l) ∧
    ∃ σ, exec (step plainConfig) (State.initial (Fin 4)) overlappingLogins = some σ ∧ Quiescent σ ∧
      active "u1" σ.docs = 4 := by
  have reached : ((exec (step plainConfig) (State.initial (Fin 4)) overlappingLogins).map fun σ =>
      decide (Quiescent σ ∧ active "u1" σ.docs = 4)) = some true := by decide +kernel
  obtain ⟨σ, run, checked⟩ := Option.map_eq_some_iff.mp reached
  refine ⟨?_, σ, run, of_decide_eq_true checked⟩
  simp [overlappingLogins, operatorLogin, insertSession, SameLimit]

end AgentOE.PortalSession
