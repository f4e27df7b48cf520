import AgentOE.Session.Restore

/-! Tenant isolation of session recovery. Neither the Redis key nor the MongoDB
query of a session carries the tenant, so isolation rests on the session id:
recovery depends on exactly the actions made under that id. -/
namespace AgentOE.Session
open Collection

/-- Everything recovery and the session's own writers read of a store. -/
structure SameSession (cfg : Config) (s : String) (σ τ : Store) : Prop where
  doc : findOne (bySession s) σ.sessions = findOne (bySession s) τ.sessions
  turns : σ.history.filter (·.sessionId == s) = τ.history.filter (·.sessionId == s)
  hot : getSessionState cfg σ s = getSessionState cfg τ s

namespace SameSession

theorem refl (cfg : Config) (s : String) (σ : Store) : SameSession cfg s σ σ := ⟨rfl, rfl, rfl⟩

theorem symm (same : SameSession cfg s σ τ) : SameSession cfg s τ σ :=
  ⟨same.doc.symm, same.turns.symm, same.hot.symm⟩

theorem trans (first : SameSession cfg s σ τ) (second : SameSession cfg s τ ρ) :
    SameSession cfg s σ ρ :=
  ⟨first.doc.trans second.doc, first.turns.trans second.turns, first.hot.trans second.hot⟩

end SameSession

theorem sessionKey_injective (cfg : Config) : Function.Injective (sessionKey cfg) := by
  intro s t same
  have tails : cfg.redisKeyNamespace ++ ":" ++ "session" ++ ":" ++ s =
      cfg.redisKeyNamespace ++ ":" ++ "session" ++ ":" ++ t := same
  exact (String.append_right_inj _).mp tails

theorem getSessionState_set (cfg : Config) (σ : Store) (s : String) (hot : HotState) :
    getSessionState cfg (setSessionState cfg σ s hot) s = some hot := by
  simp [getSessionState, setSessionState]

theorem getSessionState_set_of_ne (cfg : Config) (σ : Store) (hot : HotState) (other : u ≠ s) :
    getSessionState cfg (setSessionState cfg σ u hot) s = getSessionState cfg σ s := by
  have keys : sessionKey cfg s ≠ sessionKey cfg u :=
    fun same => other (sessionKey_injective cfg same).symm
  simp [getSessionState, setSessionState, keys]

theorem getSessionState_delete (cfg : Config) (σ : Store) (s : String) :
    getSessionState cfg (deleteSessionState cfg σ s) s = none := by
  simp [getSessionState, deleteSessionState]

theorem getSessionState_delete_of_ne (cfg : Config) (σ : Store) (other : u ≠ s) :
    getSessionState cfg (deleteSessionState cfg σ u) s = getSessionState cfg σ s := by
  have keys : sessionKey cfg s ≠ sessionKey cfg u :=
    fun same => other (sessionKey_injective cfg same).symm
  simp [getSessionState, deleteSessionState, keys]

/-! Frame: an action under one session id is invisible under every other. -/

section Frame
variable {cfg : Config} {s u : String} (other : u ≠ s)
include other

theorem set_frame (σ : Store) (hot : HotState) :
    SameSession cfg s (setSessionState cfg σ u hot) σ :=
  ⟨rfl, rfl, getSessionState_set_of_ne cfg σ hot other⟩

theorem delete_frame (σ : Store) : SameSession cfg s (deleteSessionState cfg σ u) σ :=
  ⟨rfl, rfl, getSessionState_delete_of_ne cfg σ other⟩

/-- Updates of another session's document keep its session id. -/
theorem update_frame (σ : Store) (f : SessionDoc → SessionDoc)
    (keeps : ∀ doc, (f doc).sessionId = doc.sessionId) :
    SameSession cfg s { σ with sessions := updateOne (bySession u) f σ.sessions } σ := by
  refine ⟨findOne_updateOne_of_disjoint ?_ ?_, rfl, rfl⟩
  · intro doc matched
    simp only [bySession, beq_iff_eq] at matched
    simp [bySession, matched, other]
  · intro doc matched
    simp only [bySession, beq_iff_eq] at matched
    simp [bySession, keeps, matched, other]

theorem create_frame (σ : Store) (tenant client : String) (status : SessionState) (now : Nat) :
    SameSession cfg s (create cfg σ ⟨u, tenant, client, status⟩ now).2 σ := by
  unfold create
  split
  · exact .refl _ _ _
  · refine (set_frame other _ _).trans ⟨?_, rfl, rfl⟩
    rw [findOne_insertOne]
    simp [bySession, other]

theorem restoreHotState_frame (σ : Store) :
    SameSession cfg s (restoreHotState cfg σ u).2 σ := by
  unfold restoreHotState
  split
  · split <;> exact .refl _ _ _
  · split
    · exact .refl _ _ _
    · split
      · exact .refl _ _ _
      · exact set_frame other _ _

theorem restoreOrCreate_frame (σ : Store) (tenant client : String) (policy : PolicyLevel)
    (now : Nat) :
    SameSession cfg s (restoreOrCreateOrchestrator cfg σ u tenant client policy now).2 σ := by
  have restored : SameSession cfg s (restoreHotState cfg σ u).2 σ := restoreHotState_frame other σ
  unfold restoreOrCreateOrchestrator
  split
  · rename_i τ result
    rw [result] at restored
    have created : SameSession cfg s (create cfg τ ⟨u, tenant, client, .idle⟩ now).2 τ :=
      create_frame other τ tenant client .idle now
    split
    · rename_i e ρ failed
      rw [failed] at created
      exact created.trans restored
    · rename_i ρ succeeded
      rw [succeeded] at created
      exact created.trans restored
  · rename_i hot τ result
    rw [result] at restored
    split <;> exact restored

theorem saveTurn_frame (σ : Store) (fsm : SessionFSM) (turn : Turn) (now : Nat) :
    SameSession cfg s (saveTurn cfg σ u fsm turn now) σ := by
  refine (set_frame other _ _).trans ?_
  have updated : SameSession cfg s _ σ := update_frame other σ (fun doc => { doc with
    status := fsm.state, fsmSnapshot := fsm.toSnapshot, updatedAt := now,
    historyCount := doc.historyCount + 1 }) (fun _ => rfl)
  refine ⟨updated.doc, ?_, rfl⟩
  simp [insertOne, List.filter_append, other]

theorem updateState_frame (σ : Store) (state : SessionState) (extra : Dict)
    (fsm : Option SessionFSM) (now : Nat) :
    SameSession cfg s (updateState cfg σ u state extra fsm now).2 σ := by
  unfold updateState
  split
  · exact .refl _ _ _
  · exact (set_frame other _ _).trans (update_frame other σ _ fun _ => rfl)

theorem endSession_frame (σ : Store) (reason : String) (fsm : Option SessionFSM) (now : Nat) :
    SameSession cfg s (endSession cfg σ u reason fsm now) σ :=
  (delete_frame other _).trans (update_frame other σ _ fun _ => rfl)

end Frame

theorem perform_frame (σ : Store) (action : Action) (other : action.sessionId ≠ s) :
    SameSession cfg s (perform cfg σ action) σ := by
  cases action with
  | connect tenant client u policy now =>
    exact restoreOrCreate_frame other σ tenant client policy now
  | saveTurn tenant u fsm turn now => exact saveTurn_frame other σ fsm turn now
  | updateState tenant u state extra fsm now => exact updateState_frame other σ state extra fsm now
  | endSession tenant u reason fsm now => exact endSession_frame other σ reason fsm now
  | expire u => exact delete_frame other σ

/-! Congruence: under its own id an action cannot tell two such stores apart. -/

section Congruence
variable {cfg : Config} {s : String} {σ τ : Store} (same : SameSession cfg s σ τ)
include same

theorem set_congr (hot : HotState) :
    SameSession cfg s (setSessionState cfg σ s hot) (setSessionState cfg τ s hot) :=
  ⟨same.doc, same.turns, by rw [getSessionState_set, getSessionState_set]⟩

theorem delete_congr :
    SameSession cfg s (deleteSessionState cfg σ s) (deleteSessionState cfg τ s) :=
  ⟨same.doc, same.turns, by rw [getSessionState_delete, getSessionState_delete]⟩

theorem update_congr (f : SessionDoc → SessionDoc)
    (keeps : ∀ doc, (f doc).sessionId = doc.sessionId) :
    SameSession cfg s { σ with sessions := updateOne (bySession s) f σ.sessions }
      { τ with sessions := updateOne (bySession s) f τ.sessions } := by
  have matches' : ∀ doc, bySession s doc = true → bySession s (f doc) = true := by
    intro doc matched
    simpa only [bySession, keeps] using matched
  refine ⟨?_, same.turns, same.hot⟩
  rw [findOne_updateOne matches', findOne_updateOne matches', same.doc]

theorem create_congr (tenant client : String) (status : SessionState) (now : Nat) :
    (create cfg σ ⟨s, tenant, client, status⟩ now).1 =
        (create cfg τ ⟨s, tenant, client, status⟩ now).1 ∧
      SameSession cfg s (create cfg σ ⟨s, tenant, client, status⟩ now).2
        (create cfg τ ⟨s, tenant, client, status⟩ now).2 := by
  have docs := same.doc
  simp only [create, docs]
  split
  · exact ⟨rfl, same⟩
  · refine ⟨rfl, ?_⟩
    apply set_congr
    refine ⟨?_, same.turns, same.hot⟩
    rw [findOne_insertOne, findOne_insertOne, docs]

theorem getRecentHistory_congr (limit : Nat) :
    getRecentHistory σ s limit = getRecentHistory τ s limit := by
  simp only [getRecentHistory, same.turns]

theorem restoreHotState_congr :
    (restoreHotState cfg σ s).1 = (restoreHotState cfg τ s).1 ∧
      SameSession cfg s (restoreHotState cfg σ s).2 (restoreHotState cfg τ s).2 := by
  simp only [restoreHotState, same.hot, getById, same.doc, getRecentHistory_congr same]
  split
  · split <;> exact ⟨rfl, same⟩
  · split
    · exact ⟨rfl, same⟩
    · split
      · exact ⟨rfl, same⟩
      · exact ⟨rfl, set_congr same _⟩

theorem restoreOrCreate_congr (tenant client : String) (policy : PolicyLevel) (now : Nat) :
    (restoreOrCreateOrchestrator cfg σ s tenant client policy now).1 =
        (restoreOrCreateOrchestrator cfg τ s tenant client policy now).1 ∧
      SameSession cfg s (restoreOrCreateOrchestrator cfg σ s tenant client policy now).2
        (restoreOrCreateOrchestrator cfg τ s tenant client policy now).2 := by
  obtain ⟨result, stores⟩ := restoreHotState_congr same
  cases first : restoreHotState cfg σ s with
  | mk hot σ' =>
    cases second : restoreHotState cfg τ s with
    | mk hot' τ' =>
      rw [first, second] at result stores
      cases result
      cases hot with
      | some hot =>
        simp only [restoreOrCreateOrchestrator, first, second]
        split <;> exact ⟨rfl, stores⟩
      | none =>
        obtain ⟨outcome, created⟩ := create_congr stores tenant client .idle now
        cases third : create cfg σ' ⟨s, tenant, client, .idle⟩ now with
        | mk answer σ'' =>
          cases fourth : create cfg τ' ⟨s, tenant, client, .idle⟩ now with
          | mk answer' τ'' =>
            rw [third, fourth] at outcome created
            cases outcome
            cases answer <;>
              simpa only [restoreOrCreateOrchestrator, first, second, third, fourth, true_and]
                using created

theorem saveTurn_congr (fsm : SessionFSM) (turn : Turn) (now : Nat) :
    SameSession cfg s (saveTurn cfg σ s fsm turn now) (saveTurn cfg τ s fsm turn now) := by
  obtain ⟨docs, _, _⟩ := update_congr same (fun doc => { doc with
    status := fsm.state, fsmSnapshot := fsm.toSnapshot, updatedAt := now,
    historyCount := doc.historyCount + 1 }) (fun _ => rfl)
  simp only [saveTurn, same.hot, same.doc]
  apply set_congr
  refine ⟨docs, ?_, same.hot⟩
  simp only [insertOne, List.filter_append, same.turns]

theorem updateState_congr (state : SessionState) (extra : Dict) (fsm : Option SessionFSM)
    (now : Nat) :
    SameSession cfg s (updateState cfg σ s state extra fsm now).2
      (updateState cfg τ s state extra fsm now).2 := by
  simp only [updateState, same.hot, same.doc]
  split
  · exact same
  · apply set_congr
    exact update_congr same _ fun _ => rfl

theorem endSession_congr (reason : String) (fsm : Option SessionFSM) (now : Nat) :
    SameSession cfg s (endSession cfg σ s reason fsm now) (endSession cfg τ s reason fsm now) :=
  delete_congr (update_congr same _ fun _ => rfl)

end Congruence

theorem perform_congr (same : SameSession cfg action.sessionId σ τ) :
    SameSession cfg action.sessionId (perform cfg σ action) (perform cfg τ action) := by
  cases action with
  | connect tenant client u policy now =>
    exact (restoreOrCreate_congr same tenant client policy now).2
  | saveTurn tenant u fsm turn now => exact saveTurn_congr same fsm turn now
  | updateState tenant u state extra fsm now => exact updateState_congr same state extra fsm now
  | endSession tenant u reason fsm now => exact endSession_congr same reason fsm now
  | expire u => exact delete_congr same

/-! Runs with and without the other tenants. -/

/-- Cache expiry belongs to no tenant and stays in every tenant's view. -/
def Action.visibleTo (tenant : String) (action : Action) : Bool :=
  match action.tenantId with
  | some t => t == tenant
  | none => true

/-- No connection of another tenant has used the session id. -/
def UsedOnlyBy (tenant s : String) (actions : List Action) : Prop :=
  ∀ action ∈ actions, action.sessionId = s → action.visibleTo tenant = true

instance (tenant s : String) (actions : List Action) : Decidable (UsedOnlyBy tenant s actions) :=
  inferInstanceAs (Decidable (∀ action ∈ actions, _))

theorem performAll_own_view (only : UsedOnlyBy tenant s actions) (same : SameSession cfg s σ τ) :
    SameSession cfg s (performAll cfg σ actions)
      (performAll cfg τ (actions.filter (Action.visibleTo tenant))) := by
  induction actions generalizing σ τ with
  | nil => exact same
  | cons action rest ih =>
    have onlyRest : UsedOnlyBy tenant s rest := fun a member =>
      only a (List.mem_cons_of_mem _ member)
    by_cases own : action.sessionId = s
    · have visible := only action List.mem_cons_self own
      rw [List.filter_cons_of_pos visible]
      refine ih onlyRest ?_
      subst own
      exact perform_congr same
    · have left : SameSession cfg s (perform cfg σ action) τ :=
        (perform_frame σ action own).trans same
      by_cases visible : action.visibleTo tenant = true
      · rw [List.filter_cons_of_pos visible]
        exact ih onlyRest (left.trans (perform_frame τ action own).symm)
      · rw [List.filter_cons_of_neg visible]
        exact ih onlyRest left

/-- Two runs that differ only in what other tenants did connect tenant `tenant`
to session `s` alike. -/
def ConnectsAlike (cfg : Config) (tenant s : String) (first second : List Action) : Prop :=
  ∀ client policy now,
    (restoreOrCreateOrchestrator cfg (performAll cfg .empty first) s tenant client policy now).1 =
      (restoreOrCreateOrchestrator cfg (performAll cfg .empty second) s tenant client policy now).1

/-- The code isolates tenants as long as session ids are not shared between
them. Taking `second` to be `first` without the other tenants' actions, the
orchestrator holds nothing that they wrote. -/
theorem restore_isolated (cfg : Config) (tenant s : String) (first second : List Action)
    (firstOnly : UsedOnlyBy tenant s first) (secondOnly : UsedOnlyBy tenant s second)
    (view : first.filter (Action.visibleTo tenant) = second.filter (Action.visibleTo tenant)) :
    ConnectsAlike cfg tenant s first second := by
  intro client policy now
  have left := performAll_own_view firstOnly (SameSession.refl cfg s .empty)
  have right := performAll_own_view secondOnly (SameSession.refl cfg s .empty)
  rw [view] at left
  exact (restoreOrCreate_congr (left.trans right.symm) tenant client policy now).1

/-- Two tenants, two sessions; the other tenant's actions differ between runs. -/
def acmeCall : List Action :=
  [.connect "t_acme" "c1" "call-1" .g1 0,
   .saveTurn "t_acme" "call-1" (.new .listening) ⟨"balance?", "42", [], "G1"⟩ 1]

def rivalCall (s : String) : List Action :=
  [.connect "t_rival" "c9" s .g1 2,
   .saveTurn "t_rival" s (.new .listening) ⟨"my pin is 1234", "noted", [], "G1"⟩ 3]

theorem restore_isolated_calls :
    (UsedOnlyBy "t_acme" "call-1" (acmeCall ++ rivalCall "call-2") ∧
      UsedOnlyBy "t_acme" "call-1" acmeCall) ∧
    ConnectsAlike .default "t_acme" "call-1" (acmeCall ++ rivalCall "call-2") acmeCall :=
  ⟨⟨by decide, by decide⟩, restore_isolated _ _ _ _ _ (by decide) (by decide) rfl⟩

/-- A session id that another tenant uses hands over that tenant's history. -/
theorem restore_leaks_history :
    ¬ ∀ (cfg : Config) (tenant s : String) (first second : List Action),
      first.filter (Action.visibleTo tenant) = second.filter (Action.visibleTo tenant) →
      ConnectsAlike cfg tenant s first second := by
  intro isolated
  have alike := isolated .default "t_acme" "call-1" (rivalCall "call-1") [] rfl "c1" .g1 4
  have histories := congrArg
    (fun connection => connection.toOption.bind fun answer =>
      answer.1.map Orchestrator.history) alike
  revert histories
  decide

end AgentOE.Session
