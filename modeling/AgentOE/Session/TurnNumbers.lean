import AgentOE.Session.Cache

/-! The numbers that the turns of a session get, whatever its writers do between their
operations. -/
namespace AgentOE.Session.Interleaving
open Transition Collection
open Cache (messages turnsOf)

variable {C : Type} {cfg : Config} {s : String}

/-- What was said in a turn. -/
def said (turn : TurnDoc) : String × String := (turn.userText, turn.aiText)

/-- What was said in the turn that `save_turn` has not numbered yet. -/
def unnumbered : Call → Option (String × String)
  | .saving turn _ _ => some (turn.userText, turn.aiText)
  | _ => none

/-- The turn that `save_turn` has numbered and not inserted. -/
def uninserted : Call → Option TurnDoc
  | .inserting doc _ => some doc
  | _ => none

def Unsaved (call : Call) : Prop :=
  (unnumbered call).isSome = true ∨ (uninserted call).isSome = true

instance : DecidablePred Unsaved := fun _ => inferInstanceAs (Decidable (_ ∨ _))

/-- The turns that the labels ask to save. -/
def asked (labels : List (Action C)) : List (String × String) :=
  labels.filterMap fun
    | .saveTurn _ turn _ _ => some (turn.userText, turn.aiText)
    | _ => none

def historyCount (s : String) (store : Store) : Option Nat :=
  (findOne (bySession s) store.sessions).map SessionDoc.historyCount

theorem historyCount_updateOne {f : SessionDoc → SessionDoc} {g : Nat → Nat} {store : Store}
    (keeps : ∀ doc, (f doc).sessionId = doc.sessionId)
    (counts : ∀ doc, (f doc).historyCount = g doc.historyCount) :
    historyCount s { store with sessions := updateOne (bySession s) f store.sessions } =
      (historyCount s store).map g := by
  simp only [historyCount]
  rw [findOne_updateOne fun doc matched => by simpa only [bySession, keeps doc] using matched]
  simp only [Option.map_map]
  congr 1
  funext doc
  exact counts doc

theorem historyCount_kept {f : SessionDoc → SessionDoc} {store : Store}
    (keeps : ∀ doc, (f doc).sessionId = doc.sessionId)
    (same : ∀ doc, (f doc).historyCount = doc.historyCount) :
    historyCount s { store with sessions := updateOne (bySession s) f store.sessions } =
      historyCount s store := by
  rw [historyCount_updateOne (g := id) keeps same, Option.map_id]
  rfl

/-- The turns in the order of their numbers, those of them that are in the history, and the
calls that wait for a number. -/
structure Numbered (s : String) (initial : List TurnDoc) (past : List (Action C)) (σ : State C)
    (turns saved : List TurnDoc) (waiting : List C) : Prop where
  counted : historyCount s σ.store = some turns.length
  indices : turns.map TurnDoc.turnIndex = List.range turns.length
  session : ∀ t ∈ turns, t.sessionId = s
  history : σ.store.history = initial ++ saved
  taken : ∀ t ∈ saved, t ∈ turns
  distinct : saved.Nodup
  placed : ∀ t ∈ turns, t ∈ saved ∨ ∃ c, uninserted (σ.call c) = some t
  pending : ∀ c t, uninserted (σ.call c) = some t → t ∈ turns ∧ t ∉ saved
  sole : ∀ c d t, uninserted (σ.call c) = some t → uninserted (σ.call d) = some t → c = d
  waits : ∀ c, c ∈ waiting ↔ (unnumbered (σ.call c)).isSome = true
  once : waiting.Nodup
  all : (turns.map said ++ waiting.filterMap fun c => unnumbered (σ.call c)).Perm (asked past)

theorem Numbered.lt_length {σ : State C} (numbered : Numbered s initial past σ turns saved waiting)
    (mem : t ∈ turns) : t.turnIndex < turns.length := by
  have inside := List.mem_map_of_mem (f := TurnDoc.turnIndex) mem
  rwa [numbered.indices, List.mem_range] at inside

theorem Numbered.eq_of_turnIndex {σ : State C}
    (numbered : Numbered s initial past σ turns saved waiting) (mem : t ∈ turns) (mem' : t' ∈ turns)
    (same : t.turnIndex = t'.turnIndex) : t = t' := by
  have nodup : (turns.map TurnDoc.turnIndex).Nodup := by
    rw [numbered.indices]
    exact List.nodup_range
  exact List.inj_on_of_nodup_map nodup mem mem' same

theorem asked_append (past : List (Action C)) (l : Action C) :
    asked (past ++ [l]) = asked past ++ asked [l] :=
  List.filterMap_append

theorem Numbered.other {σ τ : State C} (numbered : Numbered s initial past σ turns saved waiting)
    (unsaid : asked [l] = []) (unnumbered_eq : ∀ c, unnumbered (τ.call c) = unnumbered (σ.call c))
    (uninserted_eq : ∀ c, uninserted (τ.call c) = uninserted (σ.call c))
    (history : τ.store.history = σ.store.history)
    (count : historyCount s τ.store = historyCount s σ.store) :
    Numbered s initial (past ++ [l]) τ turns saved waiting := by
  constructor
  case counted => exact count.trans numbered.counted
  case indices => exact numbered.indices
  case session => exact numbered.session
  case history => exact history.trans numbered.history
  case taken => exact numbered.taken
  case distinct => exact numbered.distinct
  case placed => simpa only [uninserted_eq] using numbered.placed
  case pending => simpa only [uninserted_eq] using numbered.pending
  case sole => simpa only [uninserted_eq] using numbered.sole
  case waits => simpa only [unnumbered_eq] using numbered.waits
  case once => exact numbered.once
  case all => simpa only [unnumbered_eq, asked_append, unsaid, List.append_nil] using numbered.all

theorem numbered_initially (s : String) {store : Store} (fresh : historyCount s store = some 0) :
    Numbered s store.history [] (C := C) ⟨store, fun _ => .idle⟩ [] [] [] := by
  constructor <;> simp [fresh, unnumbered, uninserted, asked]

section Steps
variable [DecidableEq C]

/-- Every step, as far as the numbers go. -/
inductive Numbers (s : String) (σ : State C) : Action C → State C → Prop where
  | ask : σ.call c = .idle → Numbers s σ (.saveTurn c turn fsm now)
    (σ.moveTo σ.store c (.saving turn fsm now))
  | number : σ.call c = .saving turn saved now →
      (∀ n, historyCount s σ.store = some n →
        doc = ⟨s, n, turn.userText, turn.aiText, turn.policyLevel, turn.latency, now⟩) →
      store.history = σ.store.history →
      historyCount s store = (historyCount s σ.store).map (· + 1) →
      Numbers s σ (.next c fsm) (σ.moveTo store c (.inserting doc edit))
  | insert : σ.call c = .inserting doc edit →
      Numbers s σ (.next c fsm) (σ.moveTo
        { σ.store with history := insertOne doc σ.store.history } c (.reading edit))
  | other : asked [l] = [] → (∀ c, unnumbered (τ.call c) = unnumbered (σ.call c)) →
      (∀ c, uninserted (τ.call c) = uninserted (σ.call c)) → τ.store.history = σ.store.history →
      historyCount s τ.store = historyCount s σ.store → Numbers s σ l τ

theorem other_moveTo {σ : State C} (unsaid : asked [l] = []) (was : ¬Unsaved (σ.call c))
    (next : ¬Unsaved call) (history : store.history = σ.store.history)
    (count : historyCount s store = historyCount s σ.store) :
    Numbers s σ l (σ.moveTo store c call) := by
  simp only [Unsaved, not_or, Bool.not_eq_true, Option.isSome_eq_false_iff,
    Option.isNone_iff_eq_none] at was next
  apply Numbers.other unsaid _ _ history count
  · intro d
    rw [moveTo_call]
    split
    · rename_i same
      rw [same, was.1, next.1]
    · rfl
  · intro d
    rw [moveTo_call]
    split
    · rename_i same
      rw [same, was.2, next.2]
    · rfl

theorem advance_numbers {σ τ : State C} (stepped : advance cfg s σ c fsm (σ.call c) = some τ) :
    Numbers s σ (.next c fsm) τ := by
  have saved : ∀ {call : Call}, σ.call c = call → ¬Unsaved call → ¬Unsaved (σ.call c) := by
    intro call at_ unsaved
    rwa [at_]
  cases call : σ.call c with
  | idle | ended | returned | raised =>
    rw [call] at stepped
    cases stepped
  | saving turn fsm' now =>
    rw [call] at stepped
    cases stepped
    refine .number call ?_ rfl (historyCount_updateOne (fun _ => rfl) fun _ => rfl)
    intro n count
    have before :
        ((findOne (bySession s) σ.store.sessions).map SessionDoc.historyCount).getD 0 = n := by
      rw [show (findOne (bySession s) σ.store.sessions).map SessionDoc.historyCount = some n
        from count]
      rfl
    rw [before]
  | inserting doc edit =>
    rw [call] at stepped
    cases stepped
    exact .insert call
  | updating state extra fsm' now =>
    have unsaved := saved call (by simp [Unsaved, unnumbered, uninserted])
    rw [call] at stepped
    simp only [advance] at stepped
    split at stepped <;> cases stepped
    · exact other_moveTo rfl unsaved (by simp [Unsaved, unnumbered, uninserted]) rfl rfl
    · exact other_moveTo rfl unsaved (by simp [Unsaved, unnumbered, uninserted]) rfl
        (historyCount_kept (fun _ => rfl) fun _ => rfl)
  | reading edit =>
    have unsaved := saved call (by simp [Unsaved, unnumbered, uninserted])
    rw [call] at stepped
    cases stepped
    exact other_moveTo rfl unsaved (by simp [Unsaved, unnumbered, uninserted]) rfl rfl
  | writing hot =>
    have unsaved := saved call (by simp [Unsaved, unnumbered, uninserted])
    rw [call] at stepped
    cases stepped
    exact other_moveTo rfl unsaved (by simp [Unsaved, unnumbered, uninserted]) rfl rfl
  | ending reason fsm' now =>
    have unsaved := saved call (by simp [Unsaved, unnumbered, uninserted])
    rw [call] at stepped
    cases stepped
    exact other_moveTo rfl unsaved (by simp [Unsaved, unnumbered, uninserted]) rfl
      (historyCount_kept (fun _ => rfl) fun _ => rfl)
  | deleting =>
    have unsaved := saved call (by simp [Unsaved, unnumbered, uninserted])
    rw [call] at stepped
    cases stepped
    exact other_moveTo rfl unsaved (by simp [Unsaved, unnumbered, uninserted]) rfl rfl

theorem start_idle {σ τ : State C} (stepped : start σ c call = some τ) :
    σ.call c = .idle ∧ τ = σ.moveTo σ.store c call := by
  unfold start at stepped
  split at stepped
  · rename_i idle
    exact ⟨idle, (Option.some.inj stepped).symm⟩
  · cases stepped

theorem step_numbers {σ τ : State C} (stepped : step cfg s σ l = some τ) : Numbers s σ l τ := by
  cases l with
  | saveTurn c turn fsm now =>
    obtain ⟨idle, rfl⟩ := start_idle stepped
    exact .ask idle
  | updateState c state extra fsm now =>
    obtain ⟨idle, rfl⟩ := start_idle stepped
    refine other_moveTo rfl ?_ (by simp [Unsaved, unnumbered, uninserted]) rfl rfl
    rw [idle]
    simp [Unsaved, unnumbered, uninserted]
  | endSession c reason fsm now =>
    obtain ⟨idle, rfl⟩ := start_idle stepped
    refine other_moveTo rfl ?_ (by simp [Unsaved, unnumbered, uninserted]) rfl rfl
    rw [idle]
    simp [Unsaved, unnumbered, uninserted]
  | next c fsm => exact advance_numbers stepped
  | expire =>
    cases stepped
    exact .other rfl (fun _ => rfl) (fun _ => rfl) rfl rfl

theorem Numbered.ask {σ : State C} (numbered : Numbered s initial past σ turns saved waiting)
    (idle : σ.call c = .idle) : Numbered s initial (past ++ [.saveTurn c turn fsm now])
      (σ.moveTo σ.store c (.saving turn fsm now)) turns saved (waiting ++ [c]) := by
  have uninserted_moveTo : ∀ d, uninserted ((σ.moveTo σ.store c (.saving turn fsm now)).call d) =
      uninserted (σ.call d) := by
    intro d
    rw [moveTo_call]
    split
    · rename_i same
      rw [same, idle]
      rfl
    · rfl
  have new : c ∉ waiting := by
    intro mem
    have waits := (numbered.waits c).mp mem
    rw [idle] at waits
    cases waits
  have others : waiting.filterMap (fun d => unnumbered
      ((σ.moveTo σ.store c (.saving turn fsm now)).call d)) =
      waiting.filterMap fun d => unnumbered (σ.call d) := by
    apply List.filterMap_congr
    intro d mem
    have other : d ≠ c := by
      rintro rfl
      exact new mem
    rw [moveTo_call, if_neg other]
  constructor
  case counted => exact numbered.counted
  case indices => exact numbered.indices
  case session => exact numbered.session
  case history => exact numbered.history
  case taken => exact numbered.taken
  case distinct => exact numbered.distinct
  case placed => simpa only [uninserted_moveTo] using numbered.placed
  case pending => simpa only [uninserted_moveTo] using numbered.pending
  case sole => simpa only [uninserted_moveTo] using numbered.sole
  case waits =>
    intro d
    rw [List.mem_append, List.mem_singleton, moveTo_call, numbered.waits]
    split
    · simp [*, unnumbered]
    · simp [*]
  case once =>
    rw [List.nodup_append_comm]
    exact List.nodup_cons.mpr ⟨new, numbered.once⟩
  case all =>
    rw [asked_append, List.filterMap_append, others, ← List.append_assoc]
    apply List.Perm.append numbered.all
    simp [moveTo_call, unnumbered, asked]

theorem Numbered.number {σ : State C} (numbered : Numbered s initial past σ turns saved waiting)
    (saving : σ.call c = .saving turn saved' now)
    (numbers : ∀ n, historyCount s σ.store = some n →
      doc = ⟨s, n, turn.userText, turn.aiText, turn.policyLevel,
      turn.latency, now⟩)
    (history : store.history = σ.store.history)
    (count : historyCount s store = (historyCount s σ.store).map (· + 1)) :
    Numbered s initial (past ++ [.next c fsm]) (σ.moveTo store c (.inserting doc edit))
      (turns ++ [doc]) saved
      (waiting.erase c) := by
  have doc_eq := numbers _ numbered.counted
  have index : doc.turnIndex = turns.length := by rw [doc_eq]
  have new : doc ∉ turns := by
    intro mem
    have bound := numbered.lt_length mem
    omega
  have waited : c ∈ waiting := by
    rw [numbered.waits, saving]
    rfl
  have others : ∀ d, d ≠ c → (σ.moveTo store c (.inserting doc edit)).call d = σ.call d := by
    intro d other
    rw [moveTo_call, if_neg other]
  have own : uninserted ((σ.moveTo store c (.inserting doc edit)).call c) = some doc := by
    rw [moveTo_call, if_pos rfl]
    rfl
  have was : uninserted (σ.call c) = none := by
    rw [saving]
    rfl
  constructor
  case counted =>
    rw [moveTo_store, count, numbered.counted, List.length_append]
    rfl
  case indices =>
    rw [List.map_append, numbered.indices, List.length_append, List.map_singleton, index,
      List.length_singleton, List.range_succ]
  case session =>
    intro t mem
    rcases List.mem_append.mp mem with mem | mem
    · exact numbered.session t mem
    · rw [List.mem_singleton.mp mem, doc_eq]
  case history => exact history.trans numbered.history
  case taken => exact fun t mem => List.mem_append_left _ (numbered.taken t mem)
  case distinct => exact numbered.distinct
  case placed =>
    intro t mem
    rcases List.mem_append.mp mem with mem | mem
    · refine (numbered.placed t mem).imp_right ?_
      rintro ⟨d, holds⟩
      refine ⟨d, ?_⟩
      rw [others d]
      · exact holds
      · rintro rfl
        rw [was] at holds
        cases holds
    · exact .inr ⟨c, by rw [own, List.mem_singleton.mp mem]⟩
  case pending =>
    intro d t holds
    by_cases same : d = c
    · rw [same, own] at holds
      cases Option.some.inj holds
      exact ⟨List.mem_append_right _ List.mem_cons_self, fun mem => new (numbered.taken _ mem)⟩
    · rw [others d same] at holds
      obtain ⟨mem, unsaved⟩ := numbered.pending d t holds
      exact ⟨List.mem_append_left _ mem, unsaved⟩
  case sole =>
    have apart : ∀ d, d ≠ c → uninserted (σ.call d) ≠ some doc :=
      fun d _ holds => new (numbered.pending d doc holds).1
    intro d e t holds also
    by_cases first : d = c <;> by_cases second : e = c
    · rw [first, second]
    · rw [first, own] at holds
      cases Option.some.inj holds
      rw [others e second] at also
      exact absurd also (apart e second)
    · rw [second, own] at also
      cases Option.some.inj also
      rw [others d first] at holds
      exact absurd holds (apart d first)
    · rw [others d first] at holds
      rw [others e second] at also
      exact numbered.sole d e t holds also
  case waits =>
    intro d
    rw [numbered.once.mem_erase_iff, numbered.waits]
    by_cases same : d = c
    · simp [same, moveTo_call, unnumbered]
    · simp [same, others d same]
  case once => exact numbered.once.erase c
  case all =>
    have rest : (waiting.erase c).filterMap (fun d =>
        unnumbered ((σ.moveTo store c (.inserting doc edit)).call d)) =
        (waiting.erase c).filterMap fun d => unnumbered (σ.call d) := by
      apply List.filterMap_congr
      intro d mem
      rw [others d (numbered.once.mem_erase_iff.mp mem).1]
    have moved : (waiting.filterMap fun d => unnumbered (σ.call d)).Perm
        (said doc :: (waiting.erase c).filterMap fun d => unnumbered (σ.call d)) := by
      apply ((List.perm_cons_erase waited).filterMap _).trans
      rw [List.filterMap_cons, saving, doc_eq]
      rfl
    rw [asked_append, rest, List.map_append, List.append_assoc]
    refine .trans ?_ (numbered.all.trans ?_)
    · exact moved.symm.append_left _
    · simp [asked]

theorem Numbered.insert {σ : State C} (numbered : Numbered s initial past σ turns saved waiting)
    (inserting : σ.call c = .inserting doc edit) : Numbered s initial (past ++ [.next c fsm])
      (σ.moveTo { σ.store with history := insertOne doc σ.store.history } c (.reading edit)) turns
      (saved ++ [doc]) waiting := by
  have holds : uninserted (σ.call c) = some doc := by
    rw [inserting]
    rfl
  obtain ⟨mem, unsaved⟩ := numbered.pending c doc holds
  have others : ∀ d, d ≠ c → (σ.moveTo { σ.store with history := insertOne doc σ.store.history } c
      (.reading edit)).call d = σ.call d := by
    intro d other
    rw [moveTo_call, if_neg other]
  have own : uninserted ((σ.moveTo { σ.store with history := insertOne doc σ.store.history } c
      (.reading edit)).call c) = none := by
    rw [moveTo_call, if_pos rfl]
    rfl
  have unnumbered_moveTo : ∀ d,
    unnumbered ((σ.moveTo { σ.store with history := insertOne doc σ.store.history } c
      (.reading edit)).call d) = unnumbered (σ.call d) := by
    intro d
    rw [moveTo_call]
    split
    · rename_i same
      rw [same, inserting]
      rfl
    · rfl
  have before : ∀ d t,
    uninserted ((σ.moveTo { σ.store with history := insertOne doc σ.store.history } c
      (.reading edit)).call d) = some t → d ≠ c ∧ uninserted (σ.call d) = some t := by
    intro d t still
    by_cases same : d = c
    · rw [same, own] at still
      cases still
    · exact ⟨same, by rwa [others d same] at still⟩
  constructor
  case counted => exact numbered.counted
  case indices => exact numbered.indices
  case session => exact numbered.session
  case history => simp [insertOne, numbered.history]
  case taken =>
    intro t inside
    rcases List.mem_append.mp inside with inside | inside
    · exact numbered.taken t inside
    · rwa [List.mem_singleton.mp inside]
  case distinct =>
    rw [List.nodup_append_comm]
    exact List.nodup_cons.mpr ⟨unsaved, numbered.distinct⟩
  case placed =>
    intro t inside
    rcases numbered.placed t inside with there | ⟨d, pending⟩
    · exact .inl (List.mem_append_left _ there)
    · by_cases same : d = c
      · rw [same, holds] at pending
        cases Option.some.inj pending
        exact .inl (List.mem_append_right _ List.mem_cons_self)
      · exact .inr ⟨d, by rwa [others d same]⟩
  case pending =>
    intro d t still
    obtain ⟨other, pending⟩ := before d t still
    obtain ⟨inside, out⟩ := numbered.pending d t pending
    refine ⟨inside, fun there => ?_⟩
    rcases List.mem_append.mp there with there | there
    · exact out there
    · rw [List.mem_singleton.mp there] at pending
      exact other (numbered.sole d c doc pending holds)
  case sole => exact fun d e t first second =>
    numbered.sole d e t (before d t first).2 (before e t second).2
  case waits => simpa only [unnumbered_moveTo] using numbered.waits
  case once => exact numbered.once
  case all =>
    have silent : asked [Action.next c fsm] = [] := rfl
    simpa only [unnumbered_moveTo, asked_append, silent, List.append_nil] using numbered.all

theorem step_numbered {σ τ : State C} (numbered : Numbered s initial past σ turns saved waiting)
    (stepped : step cfg s σ l = some τ) :
    ∃ turns saved waiting, Numbered s initial (past ++ [l]) τ turns saved waiting := by
  cases step_numbers stepped with
  | ask idle => exact ⟨_, _, _, numbered.ask idle⟩
  | number saving numbers history count =>
    exact ⟨_, _, _, numbered.number saving numbers history count⟩
  | insert inserting => exact ⟨_, _, _, numbered.insert inserting⟩
  | other unsaid waits inserts history count =>
    exact ⟨_, _, _, numbered.other unsaid waits inserts history count⟩

theorem numbered_reached {store : Store} {σ : State C} (fresh : historyCount s store = some 0)
    (run : exec (step cfg s) ⟨store, fun _ => .idle⟩ labels = some σ) :
    ∃ turns saved waiting, Numbered s store.history labels σ turns saved waiting :=
  exec_history (fun past σ => ∃ turns saved waiting,
    Numbered s store.history past σ turns saved waiting)
    (fun _ _ _ _ ⟨_, _, _, numbered⟩ stepped => step_numbered numbered stepped) run
    ⟨[], [], [], numbered_initially s fresh⟩

end Steps

/-- Once no turn is left to number or insert, the history has them all. -/
theorem Numbered.settled {σ : State C} (numbered : Numbered s initial past σ turns saved waiting)
    (settled : ∀ c, ¬Unsaved (σ.call c)) : turns.Perm saved ∧
      (turns.map said).Perm (asked past) := by
  constructor
  · have distinct : turns.Nodup := by
      apply List.Nodup.of_map TurnDoc.turnIndex
      rw [numbered.indices]
      exact List.nodup_range
    apply (List.perm_ext_iff_of_nodup distinct numbered.distinct).mpr
    refine fun t => ⟨fun mem => ?_, numbered.taken t⟩
    refine (numbered.placed t mem).resolve_right ?_
    rintro ⟨c, pending⟩
    exact settled c (.inr (by rw [pending]; rfl))
  · have none : waiting.filterMap (fun c => unnumbered (σ.call c)) = [] := by
      rw [List.filterMap_eq_nil_iff]
      intro c _
      have quiet := settled c
      simp only [Unsaved, not_or, Bool.not_eq_true, Option.isSome_eq_false_iff,
        Option.isNone_iff_eq_none] at quiet
      exact quiet.1
    simpa only [none, List.append_nil] using numbered.all

/-- The turns that are saved on a session without any get distinct numbers, which are those from
zero on when no turn is left to insert; the history then read has the newest of them, by number. -/
theorem turns_numbered [DecidableEq C] {store : Store} {σ : State C}
    (fresh : historyCount s store = some 0)
    (run : exec (step cfg s) ⟨store, fun _ => .idle⟩ labels = some σ) :
    ∃ saved, σ.store.history = store.history ++ saved ∧ (∀ t ∈ saved, t.sessionId = s) ∧
      (saved.map TurnDoc.turnIndex).Nodup ∧ (∀ t ∈ saved, t.turnIndex < (asked labels).length) ∧
      ((∀ c, ¬Unsaved (σ.call c)) → ∃ turns, turns.Perm saved ∧
        turns.map TurnDoc.turnIndex = List.range (asked labels).length ∧
          (turns.map said).Perm (asked labels) ∧
        (turnsOf s store = [] →
          ∀ limit, getRecentHistory σ.store s limit = (newest limit turns).flatMap messages)) := by
  obtain ⟨turns, saved, waiting, numbered⟩ := numbered_reached fresh run
  have fewer : turns.length ≤ (asked labels).length := by
    have counted := numbered.all.length_eq
    simp only [List.length_append, List.length_map] at counted
    omega
  refine ⟨saved, numbered.history, fun t mem => numbered.session t (numbered.taken t mem),
    ?_, ?_, ?_⟩
  · exact numbered.distinct.map_on fun t mem t' mem' =>
      numbered.eq_of_turnIndex (numbered.taken t mem)
      (numbered.taken t' mem')
  · exact fun t mem => (numbered.lt_length (numbered.taken t mem)).trans_le fewer
  · intro settled
    obtain ⟨perm, all⟩ := numbered.settled settled
    have count : turns.length = (asked labels).length := by
      rw [← all.length_eq, List.length_map]
    refine ⟨turns, perm, by rw [numbered.indices, count], all, fun unsaid limit => ?_⟩
    have ascending : (turns.map TurnDoc.turnIndex).Pairwise (· < ·) := by
      rw [numbered.indices]
      exact List.pairwise_lt_range
    apply Cache.getRecentHistory_eq ascending _ limit
    have own : saved.filter (·.sessionId == s) = saved :=
      List.filter_eq_self.mpr fun t mem => beq_iff_eq.mpr
        (numbered.session t (numbered.taken t mem))
    rw [turnsOf, numbered.history, List.filter_append, own,
      show store.history.filter (·.sessionId == s) = [] from unsaid]
    exact perm.symm

def bye : Turn := ⟨"bye", "goodbye", [], "G1"⟩

/-- Two turns at once: the first one to be numbered is the last one to be inserted. -/
def overlapping : List (Action (Fin 2)) :=
  [.saveTurn 0 hello listening 2, .saveTurn 1 bye listening 3, .next 0 listening, .next 1 listening,
    .next 1 listening, .next 0 listening]

theorem overlapping_numbered : ∃ σ, exec (step .default "call-1")
    ⟨callStore, fun _ => .idle⟩ overlapping = some σ ∧
    σ.store.history.map TurnDoc.turnIndex = [1, 0] ∧
      ∃ turns, turns.map TurnDoc.turnIndex = List.range 2 ∧
      getRecentHistory σ.store "call-1" 1 = (newest 1 turns).flatMap messages := by
  have reached : (exec (step .default "call-1") ⟨callStore, fun _ => .idle⟩ overlapping).map
      (fun σ => (decide (∀ c, ¬Unsaved (σ.call c)), σ.store.history.map TurnDoc.turnIndex)) =
        some (true, [1, 0]) := by decide +kernel
  obtain ⟨σ, run, seen⟩ := Option.map_eq_some_iff.mp reached
  obtain ⟨settled, stored⟩ := Prod.mk.inj seen
  obtain ⟨saved, -, -, -, -, complete⟩ := turns_numbered (by decide +kernel) run
  obtain ⟨turns, -, indices, -, read⟩ := complete (of_decide_eq_true settled)
  exact ⟨σ, run, stored, turns, indices, read rfl 1⟩

end AgentOE.Session.Interleaving
