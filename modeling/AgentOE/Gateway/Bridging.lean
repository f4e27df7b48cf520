import AgentOE.Pairing
import AgentOE.Transition

/-! The calls of one gateway node, as hold events and bridge requests change them: the
orchestrator's sessions, the bridge process's sessions, and what FreeSWITCH has on hold and
bridged. Events and requests are handled one after the other. -/
namespace AgentOE.Gateway.Bridging
open Transition Pairing

structure Session where
  fsUUID : String
  aiPaused : Bool
  bridgedWith : String
  deriving DecidableEq, Repr

/-- `held` and `legs` are FreeSWITCH's: the channels on hold, and the active bridges, each
under the channel of the call whose AI it silences. -/
structure State where
  sessions : String → Option Session
  uuidIndex : String → Option String
  bridge : String → Option Bool
  held : String → Bool
  legs : String → Option String

def State.initial : State :=
  ⟨fun _ => none, fun _ => none, fun _ => none, fun _ => false, fun _ => none⟩

/-- How an ESL command ends. `SendAPI` does not look into the reply, so to the caller a
refusal by FreeSWITCH is no error. -/
inductive Outcome where
  | done
  | refused
  | error
  deriving DecidableEq, Repr

inductive Label where
  | create (sessionId fsUUID : String)
  /-- The bridge's WebSocket session of the channel starts. -/
  | connect (fsUUID : String)
  | hold (fsUUID : String)
  | unhold (fsUUID : String)
  | bridge (callId1 callId2 : String) (outcome : Outcome)
  | unbridge (callId1 callId2 : String) (outcome : Outcome)
  | release (sessionId : String)
  deriving DecidableEq, Repr

/-! FreeSWITCH. -/

/-- `uuid_bridge a b`. The two leave the bridges that they were in. -/
def joined (legs : String → Option String) (a b u : String) : Option String :=
  if u = a then some b else if u = b ∨ legs u = some a ∨ legs u = some b then none else legs u

/-- `uuid_transfer a -both park`. -/
def parted (legs : String → Option String) (a u : String) : Option String :=
  if u = a ∨ legs u = some a then none else legs u

namespace State
variable (σ : State)

def modify (sessionId : String) (f : Session → Session) : State :=
  { σ with sessions := Function.update σ.sessions sessionId ((σ.sessions sessionId).map f) }

def setAIPaused (sessionId : String) (v : Bool) : State :=
  σ.modify sessionId fun s => { s with aiPaused := v }

def setBridgedWith (sessionId v : String) : State :=
  σ.modify sessionId fun s => { s with bridgedWith := v }

/-- `PauseAI` and `ResumeAI` of the bridge process, as `notifyBridge` calls them. -/
def notifyBridge (paused : Bool) (fsUUID : String) : State :=
  { σ with bridge := Function.update σ.bridge fsUUID ((σ.bridge fsUUID).map fun _ => paused) }

def getByFSUUID (fsUUID : String) : Option String :=
  (σ.uuidIndex fsUUID).filter fun sessionId => (σ.sessions sessionId).isSome

/-- `onChannelHold` and `onChannelUnhold`. -/
def onHold (held : Bool) (fsUUID : String) : State :=
  let σ := { σ with held := Function.update σ.held fsUUID held }
  match σ.getByFSUUID fsUUID with
  | some sessionId => (σ.setAIPaused sessionId held).notifyBridge held fsUUID
  | none => σ

def bridgeCalls (callId1 callId2 : String) (outcome : Outcome) : State :=
  match σ.sessions callId1, σ.sessions callId2 with
  | some sA, some sB =>
    let σ := (σ.setAIPaused callId1 true).notifyBridge true sA.fsUUID
    match outcome with
    | .error => σ.setAIPaused callId1 false
    | .done => (State.setBridgedWith { σ with legs := joined σ.legs sA.fsUUID sB.fsUUID } callId1
        callId2).setBridgedWith callId2 callId1
    | .refused => (σ.setBridgedWith callId1 callId2).setBridgedWith callId2 callId1
  | _, _ => σ

def unbridgeCalls (callId1 callId2 : String) (outcome : Outcome) : State :=
  match σ.sessions callId1, σ.sessions callId2 with
  | some sA, some _ =>
    let resume (σ : State) :=
      (((σ.setAIPaused callId1 false).setBridgedWith callId1 "").setBridgedWith
      callId2 "").notifyBridge false sA.fsUUID
    match outcome with
    | .error => σ
    | .done => resume { σ with legs := parted σ.legs sA.fsUUID }
    | .refused => resume σ
  | _, _ => σ

/-- The channel is gone too. -/
def release (sessionId : String) : State :=
  match σ.sessions sessionId with
  | some s => { σ with
      sessions := Function.update σ.sessions sessionId none
      uuidIndex := if s.fsUUID ≠ "" then Function.update σ.uuidIndex s.fsUUID none else σ.uuidIndex
      held := Function.update σ.held s.fsUUID false
      legs := parted σ.legs s.fsUUID }
  | none => σ

end State

def step (σ : State) : Label → Option State
  | .create sessionId fsUUID =>
    if sessionId ≠ "" ∧ σ.sessions sessionId = none then some { σ with
      sessions := Function.update σ.sessions sessionId (some ⟨fsUUID, false, ""⟩)
      uuidIndex :=
        if fsUUID ≠ "" then Function.update σ.uuidIndex fsUUID (some sessionId) else σ.uuidIndex }
    else none
  | .connect fsUUID => some { σ with bridge := Function.update σ.bridge fsUUID (some false) }
  | .hold fsUUID => some (σ.onHold true fsUUID)
  | .unhold fsUUID => some (σ.onHold false fsUUID)
  | .bridge callId1 callId2 outcome => some (σ.bridgeCalls callId1 callId2 outcome)
  | .unbridge callId1 callId2 outcome => some (σ.unbridgeCalls callId1 callId2 outcome)
  | .release sessionId => some (σ.release sessionId)

variable {σ τ : State} {l : Label} {id : String} {s : Session}

theorem modify_sessions (σ : State) (id x : String) (f : Session → Session) :
    (σ.modify id f).sessions x = if x = id then (σ.sessions x).map f else σ.sessions x := by
  simp only [State.modify, Function.update_apply]
  split
  · rename_i same
    rw [same]
  · rfl

/-! Who is bridged with whom. -/

/-- What the fields `bridgedWith` say. -/
def links (σ : State) : Links String := fun id =>
  (σ.sessions id).map fun s => if s.bridgedWith = "" then none else some s.bridgedWith

structure Symmetric (σ : State) : Prop where
  symmetric : ∀ a b sA sB, σ.sessions a = some sA → σ.sessions b = some sB →
    (sA.bridgedWith = b ↔ sB.bridgedWith = a)
  irreflexive : ∀ a s, σ.sessions a = some s → s.bridgedWith ≠ a
  live : ∀ a s, σ.sessions a = some s → s.bridgedWith ≠ "" →
    (σ.sessions s.bridgedWith).isSome = true

/-- The empty text is no session's id. -/
def Named (σ : State) : Prop := ∀ id s, σ.sessions id = some s → id ≠ ""

theorem links_eq_some (found : σ.sessions id = some s) (linked : s.bridgedWith ≠ "") :
    links σ id = some (some s.bridgedWith) := by
  simp [links, found, linked]

theorem of_links_eq_some {b : String} (linked : links σ id = some (some b)) :
    ∃ s, σ.sessions id = some s ∧ s.bridgedWith = b ∧ b ≠ "" := by
  obtain ⟨s, found, named⟩ := Option.map_eq_some_iff.mp linked
  split at named
  · cases named
  · rename_i some
    cases Option.some.inj named
    exact ⟨s, found, rfl, some⟩

theorem symmetric_iff (named : Named σ) : Symmetric σ ↔ Matched (links σ) := by
  constructor
  · intro symmetric a b linked
    obtain ⟨sA, found, rfl, some⟩ := of_links_eq_some linked
    obtain ⟨sB, present⟩ := Option.isSome_iff_exists.mp (symmetric.live a sA found some)
    have back := (symmetric.symmetric a _ sA sB found present).mp rfl
    refine ⟨(symmetric.irreflexive a sA found).symm, ?_⟩
    rw [links_eq_some present (back ▸ named a sA found), back]
  · intro matched
    have answered : ∀ a b sA sB, σ.sessions a = some sA → σ.sessions b = some sB →
        sA.bridgedWith = b → sB.bridgedWith = a := by
      rintro a _ sA sB found present rfl
      have linked := links_eq_some found (named _ sB present)
      obtain ⟨sB', present', back, -⟩ := of_links_eq_some (matched _ _ linked).2
      cases Option.some.inj (present.symm.trans present')
      exact back
    constructor
    case symmetric =>
      exact fun a b sA sB found present => ⟨answered a b sA sB found present,
        answered b a sB sA present found⟩
    case irreflexive =>
      intro a s found same
      have linked := links_eq_some found (same ▸ named a s found)
      exact (matched _ _ linked).1 same.symm
    case live =>
      intro a s found some
      obtain ⟨sB, present, -⟩ := of_links_eq_some (matched _ _ (links_eq_some found some)).2
      rw [present]
      rfl

/-- A request joins calls that are in no bridge with a third, and no call to itself; it parts
such calls; and a call that ends is in no bridge. -/
def Paired (σ : State) : Label → Prop
  | .bridge a b outcome =>
    outcome ≠ .error → ∀ sA sB, σ.sessions a = some sA → σ.sessions b = some sB →
    a ≠ b ∧ (sA.bridgedWith = "" ∨ sA.bridgedWith = b) ∧ (sB.bridgedWith = "" ∨ sB.bridgedWith = a)
  | .unbridge a b outcome =>
    outcome ≠ .error → ∀ sA sB, σ.sessions a = some sA → σ.sessions b = some sB →
    (sA.bridgedWith = "" ∨ sA.bridgedWith = b) ∧ (sB.bridgedWith = "" ∨ sB.bridgedWith = a)
  | .release a => ∀ s, σ.sessions a = some s → s.bridgedWith = ""
  | .create .. | .connect _ | .hold _ | .unhold _ => True

theorem links_modify (f : Session → Session) (same : ∀ s, (f s).bridgedWith = s.bridgedWith) :
    links (σ.modify id f) = links σ := by
  funext x
  simp only [links, modify_sessions]
  split
  · cases σ.sessions x <;> simp [same]
  · rfl

theorem links_setBridgedWith (v : String) (present : (σ.sessions id).isSome = true) :
    links (σ.setBridgedWith id v) =
      Function.update (links σ) id (some (if v = "" then none else some v)) := by
  obtain ⟨s, found⟩ := Option.isSome_iff_exists.mp present
  funext x
  simp only [links, State.setBridgedWith, modify_sessions, Function.update_apply]
  split
  · rename_i same
    rw [same, found]
    rfl
  · rfl

theorem links_notifyBridge (paused : Bool) (u : String) :
    links (σ.notifyBridge paused u) = links σ := rfl

theorem links_setAIPaused (v : Bool) : links (σ.setAIPaused id v) = links σ :=
  links_modify _ fun _ => rfl

theorem isSome_modify (f : Session → Session) (x : String) :
    ((σ.modify id f).sessions x).isSome = (σ.sessions x).isSome := by
  rw [modify_sessions]
  split
  · cases σ.sessions x <;> rfl
  · rfl

/-- Both writes of a request that was carried out. -/
theorem links_both {a b : String} (v w : String) (first : (σ.sessions a).isSome = true)
    (second : (σ.sessions b).isSome = true) :
    links ((σ.setBridgedWith a v).setBridgedWith b w) = Function.update
      (Function.update (links σ) a (some (if v = "" then none else some v))) b
      (some (if w = "" then none else some w)) := by
  have still : ((σ.setBridgedWith a v).sessions b).isSome = true := by
    rwa [State.setBridgedWith, isSome_modify]
  rw [links_setBridgedWith w still, links_setBridgedWith v first]

theorem links_bridgeCalls {a b : String} {sA sB : Session} {outcome : Outcome} (named : Named σ)
    (first : σ.sessions a = some sA) (second : σ.sessions b = some sB) :
    links (σ.bridgeCalls a b outcome) = if outcome =
      .error then links σ else join (links σ) a b := by
  have someA : ((σ.setAIPaused a true).sessions a).isSome = true := by
    rw [State.setAIPaused, isSome_modify, first]
    rfl
  have someB : ((σ.setAIPaused a true).sessions b).isSome = true := by
    rw [State.setAIPaused, isSome_modify, second]
    rfl
  have joins : ∀ legs,
      links ((State.setBridgedWith { (σ.setAIPaused a true).notifyBridge true sA.fsUUID with
      legs := legs } a b).setBridgedWith b a) = join (links σ) a b := by
    intro legs
    refine (links_both b a someA someB).trans ?_
    rw [if_neg (named a sA first), if_neg (named b sB second), join]
    exact congrArg (fun links => Function.update (Function.update links a _) b _)
      (links_setAIPaused true)
  unfold State.bridgeCalls
  rw [first, second]
  cases outcome with
  | done => exact joins _
  | refused => exact joins _
  | error =>
    refine (links_setAIPaused false).trans ((links_notifyBridge true _).trans ?_)
    rw [links_setAIPaused, if_pos rfl]

theorem links_unbridgeCalls {a b : String} {sA sB : Session} {outcome : Outcome}
    (first : σ.sessions a = some sA) (second : σ.sessions b = some sB) :
    links (σ.unbridgeCalls a b outcome) = if outcome =
      .error then links σ else part (links σ) a b := by
  have someA : ((σ.setAIPaused a false).sessions a).isSome = true := by
    rw [State.setAIPaused, isSome_modify, first]
    rfl
  have someB : ((σ.setAIPaused a false).sessions b).isSome = true := by
    rw [State.setAIPaused, isSome_modify, second]
    rfl
  have parts : ∀ legs,
    links ((State.setBridgedWith { σ.setAIPaused a false with legs := legs } a "").setBridgedWith
      b "") = part (links σ) a b := by
    intro legs
    refine (links_both "" "" someA someB).trans ?_
    rw [if_pos rfl, part]
    exact congrArg (fun links => Function.update (Function.update links a _) b _)
      (links_setAIPaused false)
  unfold State.unbridgeCalls
  rw [first, second]
  cases outcome with
  | done => exact parts _
  | refused => exact parts _
  | error => exact (if_pos rfl).symm

theorem bridgeCalls_absent {a b : String} (outcome : Outcome)
    (absent : ¬∃ sA sB, σ.sessions a = some sA ∧ σ.sessions b = some sB) :
    σ.bridgeCalls a b outcome = σ := by
  unfold State.bridgeCalls
  split
  · exact absurd ⟨_, _, ‹_›, ‹_›⟩ absent
  · rfl

theorem unbridgeCalls_absent {a b : String} (outcome : Outcome)
    (absent : ¬∃ sA sB, σ.sessions a = some sA ∧ σ.sessions b = some sB) :
    σ.unbridgeCalls a b outcome = σ := by
  unfold State.unbridgeCalls
  split
  · exact absurd ⟨_, _, ‹_›, ‹_›⟩ absent
  · rfl

theorem links_onHold (held : Bool) (u : String) : links (σ.onHold held u) = links σ := by
  simp only [State.onHold]
  split
  · exact links_setAIPaused held
  · rfl

theorem links_release (found : σ.sessions id = some s) :
    links (σ.release id) = Function.update (links σ) id none := by
  funext x
  simp only [links, State.release, found, Function.update_apply]
  split <;> rfl

theorem step_named (named : Named σ) (stepped : step σ l = some τ) : Named τ := by
  have kept : (∀ x, (τ.sessions x).isSome = true → (σ.sessions x).isSome = true) → Named τ := by
    intro known id s found
    obtain ⟨s', before⟩ := Option.isSome_iff_exists.mp (known id (by rw [found]; rfl))
    exact named id s' before
  cases l with
  | create id u =>
    obtain ⟨fresh, ⟨⟩⟩ := Option.ite_none_right_eq_some.mp stepped
    intro x s found
    simp only [Function.update_apply] at found
    split at found
    · rename_i same
      exact same ▸ fresh.1
    · exact named x s found
  | connect u =>
    cases stepped
    exact named
  | hold u | unhold u =>
    cases stepped
    refine kept fun x => ?_
    simp only [State.onHold]
    split
    · exact (isSome_modify _ x).symm ▸ id
    · exact id
  | bridge a b outcome =>
    cases stepped
    refine kept fun x => ?_
    unfold State.bridgeCalls
    split
    · cases outcome <;> simp [State.setAIPaused, State.setBridgedWith, State.notifyBridge,
        isSome_modify]
    · exact id
  | unbridge a b outcome =>
    cases stepped
    refine kept fun x => ?_
    unfold State.unbridgeCalls
    split
    · cases outcome <;> simp [State.setAIPaused, State.setBridgedWith, State.notifyBridge,
        isSome_modify]
    · exact id
  | release id =>
    cases stepped
    refine kept fun x => ?_
    unfold State.release
    split
    · simp only [Function.update_apply]
      split
      · nofun
      · exact fun some => some
    · exact fun some => some

theorem link_of (found : σ.sessions id = some s) :
    links σ id = some (if s.bridgedWith = "" then none else some s.bridgedWith) := by
  rw [links, found]
  rfl

theorem free_link {v b : String} : Free (if v = "" then none else some v) b ↔ v = "" ∨ v = b := by
  unfold Free
  by_cases none : v = "" <;> simp [none]

theorem matched_join {a b : String} {sA sB : Session} (matched : Matched (links σ))
    (first : σ.sessions a = some sA) (second : σ.sessions b = some sB) :
    Matched (join (links σ) a b) ↔
      a ≠ b ∧ (sA.bridgedWith = "" ∨ sA.bridgedWith = b) ∧
        (sB.bridgedWith = "" ∨ sB.bridgedWith = a) := by
  rw [matched.join_iff (link_of first) (link_of second), free_link, free_link]

theorem matched_part {a b : String} {sA sB : Session} (matched : Matched (links σ))
    (first : σ.sessions a = some sA) (second : σ.sessions b = some sB) :
    Matched (part (links σ) a b) ↔
      (sA.bridgedWith = "" ∨ sA.bridgedWith = b) ∧ (sB.bridgedWith = "" ∨ sB.bridgedWith = a) := by
  rw [matched.part_iff (link_of first) (link_of second), free_link, free_link]

/-- A request finds these two sessions and no others. -/
theorem forall_found {a b : String} {sA sB : Session} {P : Session → Session → Prop}
    (first : σ.sessions a = some sA) (second : σ.sessions b = some sB) (here : P sA sB) :
    ∀ sA sB, σ.sessions a = some sA → σ.sessions b = some sB → P sA sB := by
  intro sA' sB' first' second'
  cases first.symm.trans first'
  cases second.symm.trans second'
  exact here

/-- A step keeps the links matched just when it is one of paired calls. -/
theorem step_matched (named : Named σ) (matched : Matched (links σ)) (stepped : step σ l = some τ) :
    Matched (links τ) ↔ Paired σ l := by
  cases l with
  | create id u =>
    obtain ⟨⟨-, absent⟩, ⟨⟩⟩ := Option.ite_none_right_eq_some.mp stepped
    refine iff_of_true ?_ trivial
    have empty : links σ id = none := by rw [links, absent]; rfl
    have inserted := matched.insert empty
    refine (congrArg Matched (funext fun x => ?_)).mp inserted
    simp only [links, Function.update_apply]
    split <;> rfl
  | connect u =>
    cases stepped
    exact iff_of_true matched trivial
  | hold u | unhold u =>
    cases stepped
    exact iff_of_true (by rwa [links_onHold]) trivial
  | bridge a b outcome =>
    cases stepped
    by_cases present : ∃ sA sB, σ.sessions a = some sA ∧ σ.sessions b = some sB
    · obtain ⟨sA, sB, first, second⟩ := present
      rw [links_bridgeCalls named first second]
      split
      · rename_i failed
        exact iff_of_true matched fun worked => absurd failed worked
      · rename_i worked
        rw [matched_join matched first second]
        constructor
        · exact fun paired _ => forall_found first second paired
        · exact fun paired => paired worked sA sB first second
    · rw [bridgeCalls_absent outcome present]
      exact iff_of_true matched fun _ sA sB first second => absurd ⟨sA, sB, first, second⟩ present
  | unbridge a b outcome =>
    cases stepped
    by_cases present : ∃ sA sB, σ.sessions a = some sA ∧ σ.sessions b = some sB
    · obtain ⟨sA, sB, first, second⟩ := present
      rw [links_unbridgeCalls first second]
      split
      · rename_i failed
        exact iff_of_true matched fun worked => absurd failed worked
      · rename_i worked
        rw [matched_part matched first second]
        constructor
        · exact fun paired _ => forall_found first second paired
        · exact fun paired => paired worked sA sB first second
    · rw [unbridgeCalls_absent outcome present]
      exact iff_of_true matched fun _ sA sB first second => absurd ⟨sA, sB, first, second⟩ present
  | release id =>
    cases stepped
    cases found : σ.sessions id with
    | none =>
      have same : σ.release id = σ := by rw [State.release, found]
      rw [same]
      exact iff_of_true matched fun s live => nomatch found.symm.trans live
    | some s =>
      rw [links_release found, matched.remove_iff (link_of found)]
      constructor
      · intro free s' live
        cases found.symm.trans live
        by_contra linked
        rw [if_neg linked] at free
        cases free
      · exact fun free => if_pos (free s found)

/-- What every run begins with. -/
theorem initial_matched : Named .initial ∧ Matched (links .initial) :=
  ⟨fun _ _ found => (nomatch found), matched_none⟩

/-- Bridging is symmetric in every state of a run just when each of its steps is one of paired
calls. -/
theorem bridging_symmetric_iff {labels : List Label} (run : exec step .initial labels = some σ) :
    (∀ past τ, past <+: labels → exec step .initial past = some τ → Symmetric τ) ↔
      Along step Paired .initial labels := by
  refine reached_iff_along (fun σ => Named σ ∧ Matched (links σ)) ?_ ?_
    (fun both => (symmetric_iff both.1).mpr both.2) initial_matched (along_true _) run
  · rintro σ l τ ⟨named, matched⟩ - stepped after
    have matched' := (symmetric_iff (step_named named stepped)).mp after
    exact (step_matched named matched stepped).mp matched'
  · rintro σ l τ ⟨named, matched⟩ - stepped paired
    exact ⟨step_named named stepped, (step_matched named matched stepped).mpr paired⟩

instance (σ : State) : (l : Label) → Decidable (Paired σ l)
  | .bridge a b outcome =>
    decidable_of_iff (outcome ≠ .error → ∀ sA ∈ σ.sessions a, ∀ sB ∈ σ.sessions b,
      a ≠ b ∧ (sA.bridgedWith = "" ∨ sA.bridgedWith = b) ∧
        (sB.bridgedWith = "" ∨ sB.bridgedWith = a))
    (imp_congr_right fun _ => ⟨fun all sA sB first second => all sA first sB second,
      fun all sA first sB second => all sA sB first second⟩)
  | .unbridge a b outcome =>
    decidable_of_iff (outcome ≠ .error → ∀ sA ∈ σ.sessions a, ∀ sB ∈ σ.sessions b,
      (sA.bridgedWith = "" ∨ sA.bridgedWith = b) ∧ (sB.bridgedWith = "" ∨ sB.bridgedWith = a))
    (imp_congr_right fun _ => ⟨fun all sA sB first second => all sA first sB second,
      fun all sA first sB second => all sA sB first second⟩)
  | .release a => inferInstanceAs (Decidable (∀ s ∈ σ.sessions a, s.bridgedWith = ""))
  | .create .. | .connect _ | .hold _ | .unhold _ => .isTrue trivial

/-- Two calls are bridged, parted and bridged again. -/
def orderly : List Label :=
  [.create "s-1" "fs-1", .create "s-2" "fs-2", .bridge "s-1" "s-2" .done,
    .unbridge "s-2" "s-1" .done, .bridge "s-2" "s-1" .done]

theorem orderly_symmetric : ∃ σ, exec step .initial orderly = some σ ∧
    links σ "s-1" = some (some "s-2") ∧
    Symmetric σ := by
  have reached : (exec step .initial orderly).map (fun σ => links σ "s-1") =
      some (some (some "s-2")) := by
    decide +kernel
  obtain ⟨σ, run, linked⟩ := Option.map_eq_some_iff.mp reached
  have paired : Along step Paired .initial orderly := by decide +kernel
  exact ⟨σ, run, linked, (bridging_symmetric_iff run).mpr paired orderly σ List.prefix_rfl run⟩

/-- The first call is bridged again, with a third. -/
def rebridged : List Label :=
  [.create "s-1" "fs-1", .create "s-2" "fs-2", .create "s-3" "fs-3", .bridge "s-1" "s-2" .done,
    .bridge "s-1" "s-3" .done]

theorem rebridged_lopsided : ∃ σ, exec step .initial rebridged = some σ ∧
    links σ "s-1" = some (some "s-3") ∧ links σ "s-2" = some (some "s-1") ∧ ¬Symmetric σ := by
  have reached : (exec step .initial rebridged).map
      (fun σ => (σ.sessions "s-1", σ.sessions "s-2")) =
      some (some ⟨"fs-1", true, "s-3"⟩, some ⟨"fs-2", false, "s-1"⟩) := by decide +kernel
  obtain ⟨σ, run, found⟩ := Option.map_eq_some_iff.mp reached
  obtain ⟨first, second⟩ := Prod.mk.inj found
  refine ⟨σ, run, by simp [links, first], by simp [links, second], fun symmetric => ?_⟩
  have back := (symmetric.symmetric _ _ _ _ second first).mp rfl
  exact absurd back (by decide)

/-! When the AI is paused. -/

/-- The orchestrator's flag and the bridge session's are equal, and set just when the call is on
hold or is the AI leg of an active bridge. -/
def Follows (id : String) (σ : State) : Prop := ∀ s, σ.sessions id = some s →
  σ.bridge s.fsUUID = some s.aiPaused ∧
    (s.aiPaused = true ↔ σ.held s.fsUUID = true ∨ (σ.legs s.fsUUID).isSome = true)

/-- The call `id` is alone on its channel `u`, for which the bridge process has a session. -/
structure Wired (id u : String) (σ : State) : Prop where
  stored : ∃ s, σ.sessions id = some s ∧ s.fsUUID = u
  indexed : ∀ v, σ.uuidIndex v = some id ↔ v = u
  sole : ∀ a s, σ.sessions a = some s → s.fsUUID = u → a = id
  heard : (σ.bridge u).isSome = true

def Label.isControl : Label → Bool
  | .hold _ | .unhold _ | .bridge .. | .unbridge .. => true
  | .create .. | .connect _ | .release _ => false

/-- No bridge request for the call's AI fails, one that FreeSWITCH refuses finds the AI stopped,
and one for another leg ends no bridge that stops the AI, unless the call is on hold. -/
def KeepsBridge (id u : String) (σ : State) (a : String) (outcome : Outcome) (sA sB : Session) :
    Prop :=
  match outcome with
  | .error => a ≠ id
  | .refused => a = id → σ.held u = true ∨ (σ.legs u).isSome = true
  | .done =>
    a ≠ id → (σ.legs u).isSome = true → joined σ.legs sA.fsUUID sB.fsUUID u = none → σ.held u = true

/-- The call is released from a bridge while it is not on hold (and FreeSWITCH does release it);
a request for another leg ends no bridge that stops the AI, unless the call is on hold. -/
def KeepsUnbridge (id u : String) (σ : State) (a : String) (outcome : Outcome) (sA : Session) :
    Prop :=
  match outcome with
  | .error => True
  | .refused => a = id → σ.held u = false ∧ σ.legs u = none
  | .done => if a = id then σ.held u = false else σ.legs u = some sA.fsUUID → σ.held u = true

/-- Nor is the call taken off hold while it is the AI leg of a bridge. -/
def Keeps (id u : String) (σ : State) : Label → Prop
  | .unhold v => v = u → σ.legs u = none
  | .bridge a b outcome => ∀ sA sB, σ.sessions a = some sA → σ.sessions b = some sB →
    KeepsBridge id u σ a outcome sA sB
  | .unbridge a b outcome => ∀ sA sB, σ.sessions a = some sA → σ.sessions b = some sB →
    KeepsUnbridge id u σ a outcome sA
  | .create .. | .connect _ | .hold _ | .release _ => True

/-- The session, by its channel and its flag. -/
def Seen (σ : State) (id u : String) (paused : Bool) : Prop :=
  ∃ s, σ.sessions id = some s ∧ s.fsUUID = u ∧ s.aiPaused = paused

section Pause
variable {u : String} {paused : Bool}

theorem Seen.setAIPaused (seen : Seen σ id u paused) (a : String) (v : Bool) :
    Seen (σ.setAIPaused a v) id u (if a = id then v else paused) := by
  obtain ⟨s, found, rfl, rfl⟩ := seen
  rw [State.setAIPaused, Seen, modify_sessions, found]
  by_cases mine : a = id
  · rw [if_pos mine.symm, if_pos mine]
    exact ⟨_, rfl, rfl, rfl⟩
  · rw [if_neg (Ne.symm mine), if_neg mine]
    exact ⟨s, rfl, rfl, rfl⟩

theorem Seen.setBridgedWith (seen : Seen σ id u paused) (a v : String) :
    Seen (σ.setBridgedWith a v) id u paused := by
  obtain ⟨s, found, rfl, rfl⟩ := seen
  rw [State.setBridgedWith, Seen, modify_sessions, found]
  split
  · exact ⟨_, rfl, rfl, rfl⟩
  · exact ⟨s, rfl, rfl, rfl⟩

theorem follows_iff (seen : Seen σ id u paused) : Follows id σ ↔
    σ.bridge u = some paused ∧ (paused = true ↔ σ.held u = true ∨ (σ.legs u).isSome = true) := by
  obtain ⟨s, found, rfl, rfl⟩ := seen
  constructor
  · exact fun follows => follows s found
  · intro here s' found'
    cases found.symm.trans found'
    exact here

theorem notifyBridge_bridge (p : Bool) (v : String) :
    (σ.notifyBridge p v).bridge u = if u = v then (σ.bridge u).map fun _ => p else σ.bridge u := by
  simp only [State.notifyBridge, Function.update_apply]
  split
  · rename_i same
    rw [same]
  · rfl

theorem map_heard (wired : Wired id u σ) (p : Bool) : ((σ.bridge u).map fun _ => p) = some p := by
  obtain ⟨q, heard⟩ := Option.isSome_iff_exists.mp wired.heard
  rw [heard]
  rfl

theorem Wired.seen (wired : Wired id u σ) : ∃ paused, Seen σ id u paused := by
  obtain ⟨s, found, channel⟩ := wired.stored
  exact ⟨s.aiPaused, s, found, channel, rfl⟩

theorem Wired.channel {id' : String} {s : Session} (wired : Wired id u σ)
    (found : σ.sessions id' = some s) :
    s.fsUUID = u ↔ id' = id := by
  constructor
  · exact wired.sole id' s found
  · rintro rfl
    obtain ⟨s', found', channel⟩ := wired.stored
    cases found.symm.trans found'
    exact channel

theorem onHold_follows (wired : Wired id u σ) (follows : Follows id σ) (held : Bool) (v : String) :
    Follows id (σ.onHold held v) ↔ (held = false → v = u → σ.legs u = none) := by
  obtain ⟨paused, seen⟩ := wired.seen
  obtain ⟨agrees, true_⟩ := (follows_iff seen).mp follows
  by_cases mine : v = u
  · subst mine
    have found :
        State.getByFSUUID { σ with held := Function.update σ.held v held } v = some id := by
      obtain ⟨s, stored, -⟩ := wired.stored
      simp [State.getByFSUUID, (wired.indexed v).mpr rfl, stored]
    have after : Seen (σ.onHold held v) id v held := by
      have set : Seen (State.setAIPaused { σ with held := Function.update σ.held v held } id held)
          id v (if id = id then held else paused) := Seen.setAIPaused seen id held
      rw [if_pos rfl] at set
      simp only [State.onHold, found]
      exact set
    rw [follows_iff after]
    simp only [State.onHold, found, State.notifyBridge, State.setAIPaused, State.modify,
      map_heard wired, Function.update_self]
    cases held <;> simp
  · have others : Seen (σ.onHold held v) id u paused ∧ (σ.onHold held v).bridge u = σ.bridge u ∧
        (σ.onHold held v).held u = σ.held u ∧ (σ.onHold held v).legs u = σ.legs u := by
      simp only [State.onHold]
      split
      · rename_i a found
        have other : a ≠ id := by
          rintro rfl
          exact mine ((wired.indexed v).mp (Option.eq_some_of_filter_eq_some found))
        have set : Seen (State.setAIPaused { σ with held := Function.update σ.held v held } a held)
            id u (if a = id then held else paused) := Seen.setAIPaused seen a held
        rw [if_neg other] at set
        refine ⟨set, ?_, Function.update_of_ne (Ne.symm mine) .., rfl⟩
        rw [notifyBridge_bridge, if_neg (Ne.symm mine)]
        rfl
      · exact ⟨seen, rfl, Function.update_of_ne (Ne.symm mine) .., rfl⟩
    obtain ⟨after, heard, onHold, leg⟩ := others
    rw [follows_iff after, heard, onHold, leg]
    exact iff_of_true ⟨agrees, true_⟩ fun _ same => absurd same mine

theorem bridgeCalls_seen {a b : String} {sA sB : Session} (wired : Wired id u σ)
    (seen : Seen σ id u paused) (first : σ.sessions a = some sA) (second : σ.sessions b = some sB)
    (outcome : Outcome) :
    Seen (σ.bridgeCalls a b outcome) id u (if a = id then outcome ≠ .error else paused) ∧
      (σ.bridgeCalls a b outcome).bridge u = (if a = id then some true else σ.bridge u) ∧
      (σ.bridgeCalls a b outcome).held = σ.held ∧
      (σ.bridgeCalls a b outcome).legs =
        if outcome = .done then joined σ.legs sA.fsUUID sB.fsUUID else σ.legs := by
  have told : ((σ.setAIPaused a true).notifyBridge true sA.fsUUID).bridge u =
      if a = id then some true else σ.bridge u := by
    rw [notifyBridge_bridge]
    by_cases mine : a = id
    · rw [if_pos mine, if_pos ((wired.channel first).mpr mine).symm]
      exact map_heard wired true
    · rw [if_neg mine, if_neg (Ne.symm (mt (wired.channel first).mp mine))]
      rfl
  have set : ∀ legs,
    Seen { (σ.setAIPaused a true).notifyBridge true sA.fsUUID with legs := legs } id u
      (if a = id then true else paused) := fun _ => seen.setAIPaused a true
  unfold State.bridgeCalls
  rw [first, second]
  cases outcome with
  | done => exact ⟨((set _).setBridgedWith a b).setBridgedWith b a, told, rfl, rfl⟩
  | refused => exact ⟨((set _).setBridgedWith a b).setBridgedWith b a, told, rfl, rfl⟩
  | error =>
    refine ⟨?_, told, rfl, rfl⟩
    have reset := (set σ.legs).setAIPaused a false
    by_cases mine : a = id
    · simp only [if_pos mine] at reset ⊢
      exact reset
    · simp only [if_neg mine] at reset ⊢
      exact reset

theorem bridgeCalls_follows {a b : String} {sA sB : Session} (wired : Wired id u σ)
    (follows : Follows id σ) (first : σ.sessions a = some sA) (second : σ.sessions b = some sB)
    (outcome : Outcome) :
    Follows id (σ.bridgeCalls a b outcome) ↔ KeepsBridge id u σ a outcome sA sB := by
  obtain ⟨paused, seen⟩ := wired.seen
  obtain ⟨agrees, true_⟩ := (follows_iff seen).mp follows
  obtain ⟨after, heard, held, legs⟩ := bridgeCalls_seen wired seen first second outcome
  rw [follows_iff after, heard, held, legs]
  by_cases mine : a = id
  · have channel := (wired.channel first).mpr mine
    cases outcome with
    | done => simp [KeepsBridge, mine, channel, joined]
    | refused => simp [KeepsBridge, mine]
    | error => simp [KeepsBridge, mine]
  · cases outcome with
    | error | refused => simpa [KeepsBridge, mine] using ⟨agrees, true_⟩
    | done =>
      have elsewhere : u ≠ sA.fsUUID := Ne.symm (mt (wired.channel first).mp mine)
      have bridged : joined σ.legs sA.fsUUID sB.fsUUID u = none ∨
          joined σ.legs sA.fsUUID sB.fsUUID u = σ.legs u := by
        rw [joined, if_neg elsewhere]
        split
        · exact .inl rfl
        · exact .inr rfl
      simp only [KeepsBridge, mine, if_false, if_true, agrees, true_and, true_, ne_eq,
        not_false_eq_true, forall_true_left]
      rcases bridged with gone | kept
      · rw [gone]
        cases σ.held u <;> cases σ.legs u <;> simp
      · rw [kept]
        cases σ.held u <;> cases σ.legs u <;> simp

theorem unbridgeCalls_seen {a b : String} {sA sB : Session} (wired : Wired id u σ)
    (seen : Seen σ id u paused) (first : σ.sessions a = some sA) (second : σ.sessions b = some sB)
    {outcome : Outcome} (worked : outcome ≠ .error) :
    Seen (σ.unbridgeCalls a b outcome) id u (if a = id then false else paused) ∧
      (σ.unbridgeCalls a b outcome).bridge u = (if a = id then some false else σ.bridge u) ∧
      (σ.unbridgeCalls a b outcome).held = σ.held ∧
      (σ.unbridgeCalls a b outcome).legs = if outcome =
        .done then parted σ.legs sA.fsUUID else σ.legs := by
  have told : (σ.notifyBridge false sA.fsUUID).bridge u = if a =
      id then some false else σ.bridge u := by
    rw [notifyBridge_bridge]
    by_cases mine : a = id
    · rw [if_pos mine, if_pos ((wired.channel first).mpr mine).symm]
      exact map_heard wired false
    · rw [if_neg mine, if_neg (Ne.symm (mt (wired.channel first).mp mine))]
  have set : ∀ legs, Seen (State.setAIPaused { σ with legs := legs } a false) id u
      (if a = id then false else paused) := fun _ => Seen.setAIPaused seen a false
  unfold State.unbridgeCalls
  rw [first, second]
  cases outcome with
  | done => exact ⟨((set _).setBridgedWith a "").setBridgedWith b "", told, rfl, rfl⟩
  | refused => exact ⟨((set _).setBridgedWith a "").setBridgedWith b "", told, rfl, rfl⟩
  | error => exact absurd rfl worked

theorem unbridgeCalls_error (a b : String) : σ.unbridgeCalls a b .error = σ := by
  unfold State.unbridgeCalls
  split <;> rfl

theorem unbridgeCalls_follows {a b : String} {sA sB : Session} (wired : Wired id u σ)
    (follows : Follows id σ) (first : σ.sessions a = some sA) (second : σ.sessions b = some sB)
    (outcome : Outcome) :
    Follows id (σ.unbridgeCalls a b outcome) ↔ KeepsUnbridge id u σ a outcome sA := by
  by_cases failed : outcome = .error
  · rw [failed, unbridgeCalls_error]
    exact iff_of_true follows trivial
  · obtain ⟨paused, seen⟩ := wired.seen
    obtain ⟨agrees, true_⟩ := (follows_iff seen).mp follows
    obtain ⟨after, heard, held, legs⟩ := unbridgeCalls_seen wired seen first second failed
    rw [follows_iff after, heard, held, legs]
    by_cases mine : a = id
    · have channel := (wired.channel first).mpr mine
      cases outcome with
      | done => simp [KeepsUnbridge, mine, channel, parted]
      | refused => simp [KeepsUnbridge, mine]
      | error => exact absurd rfl failed
    · cases outcome with
      | error => exact absurd rfl failed
      | refused => simpa [KeepsUnbridge, mine] using ⟨agrees, true_⟩
      | done =>
        have elsewhere : u ≠ sA.fsUUID := Ne.symm (mt (wired.channel first).mp mine)
        simp only [KeepsUnbridge, mine, if_false, if_true, agrees, true_and, true_, parted,
          elsewhere, false_or]
        by_cases parts : σ.legs u = some sA.fsUUID
        · simp [parts]
        · simp [parts]

/-- Control steps move no call to another channel, and no bridge session comes or goes. -/
theorem step_wired (wired : Wired id u σ) (control : l.isControl = true)
    (stepped : step σ l = some τ) : Wired id u τ := by
  have kept : τ.uuidIndex = σ.uuidIndex ∧
      (∀ x, (τ.sessions x).map Session.fsUUID = (σ.sessions x).map Session.fsUUID) ∧
      ∀ v, (τ.bridge v).isSome = (σ.bridge v).isSome := by
    have modified : ∀ (σ : State) (a : String) (f : Session → Session) (x : String),
        (∀ s, (f s).fsUUID = s.fsUUID) →
        ((σ.modify a f).sessions x).map Session.fsUUID = (σ.sessions x).map Session.fsUUID := by
      intro σ a f x same
      rw [modify_sessions]
      split
      · cases σ.sessions x <;> simp [same]
      · rfl
    have notified : ∀ (σ : State) (p : Bool) (w v : String),
        ((σ.notifyBridge p w).bridge v).isSome = (σ.bridge v).isSome := by
      intro σ p w v
      rw [notifyBridge_bridge]
      split <;> simp
    cases l with
    | hold v | unhold v =>
      cases stepped
      simp only [State.onHold]
      split
      · exact ⟨rfl, fun x => modified _ _ _ x fun _ => rfl, fun v => notified _ _ _ v⟩
      · exact ⟨rfl, fun _ => rfl, fun _ => rfl⟩
    | bridge a b outcome =>
      cases stepped
      unfold State.bridgeCalls
      split
      · cases outcome <;> refine ⟨rfl, fun x => ?_, fun v => notified _ _ _ v⟩ <;>
          simp [State.setAIPaused, State.setBridgedWith, State.notifyBridge, modified]
      · exact ⟨rfl, fun _ => rfl, fun _ => rfl⟩
    | unbridge a b outcome =>
      cases stepped
      unfold State.unbridgeCalls
      split
      · cases outcome
        case error => exact ⟨rfl, fun _ => rfl, fun _ => rfl⟩
        all_goals
          refine ⟨rfl, fun x => ?_, fun v => notified _ _ _ v⟩
          simp [State.setAIPaused, State.setBridgedWith, State.notifyBridge, modified]
      · exact ⟨rfl, fun _ => rfl, fun _ => rfl⟩
    | create | connect | release => cases control
  obtain ⟨index, channels, sessions⟩ := kept
  constructor
  case stored =>
    obtain ⟨s, found, channel⟩ := wired.stored
    have same := channels id
    rw [found] at same
    obtain ⟨s', found', channel'⟩ := Option.map_eq_some_iff.mp same
    exact ⟨s', found', channel'.trans channel⟩
  case indexed => exact index.symm ▸ wired.indexed
  case sole =>
    intro a s found channel
    have same := channels a
    rw [found] at same
    obtain ⟨s', found', channel'⟩ := Option.map_eq_some_iff.mp same.symm
    exact wired.sole a s' found' (channel'.trans channel)
  case heard => exact (sessions u).trans wired.heard

theorem step_follows (wired : Wired id u σ) (follows : Follows id σ) (control : l.isControl = true)
    (stepped : step σ l = some τ) : Follows id τ ↔ Keeps id u σ l := by
  cases l with
  | hold v =>
    cases stepped
    exact (onHold_follows wired follows true v).trans (iff_of_true nofun trivial)
  | unhold v =>
    cases stepped
    refine (onHold_follows wired follows false v).trans ⟨fun all same => ?_, fun free _ same => ?_⟩
    · exact same.symm ▸ all rfl same
    · exact same ▸ free same
  | bridge a b outcome =>
    cases stepped
    by_cases present : ∃ sA sB, σ.sessions a = some sA ∧ σ.sessions b = some sB
    · obtain ⟨sA, sB, first, second⟩ := present
      rw [bridgeCalls_follows wired follows first second outcome]
      exact ⟨forall_found (P := KeepsBridge id u σ a outcome) first second,
        fun keeps => keeps sA sB first second⟩
    · rw [bridgeCalls_absent outcome present]
      exact iff_of_true follows fun sA sB first second => absurd ⟨sA, sB, first, second⟩ present
  | unbridge a b outcome =>
    cases stepped
    by_cases present : ∃ sA sB, σ.sessions a = some sA ∧ σ.sessions b = some sB
    · obtain ⟨sA, sB, first, second⟩ := present
      rw [unbridgeCalls_follows wired follows first second outcome]
      exact ⟨forall_found (P := fun sA _ => KeepsUnbridge id u σ a outcome sA) first second,
        fun keeps => keeps sA sB first second⟩
    · rw [unbridgeCalls_absent outcome present]
      exact iff_of_true follows fun sA sB first second => absurd ⟨sA, sB, first, second⟩ present
  | create | connect | release => cases control

/-- From a state in which they do, the flags follow the call in every state of a run of events and
requests just when each of them keeps to the condition. -/
theorem pauses_follow_iff {start : State} {labels : List Label} (wired : Wired id u start)
    (follows : Follows id start) (control : ∀ l ∈ labels, l.isControl = true)
    (run : exec step start labels = some σ) :
    (∀ past τ, past <+: labels → exec step start past = some τ → Follows id τ) ↔
      Along step (Keeps id u) start labels := by
  have controls : Along step (fun _ l => l.isControl = true) start labels :=
    along_of_forall (fun l mem _ => control l mem) start
  refine reached_iff_along (fun σ => Wired id u σ ∧ Follows id σ) ?_ ?_ And.right
    ⟨wired, follows⟩ controls run
  · rintro σ l τ ⟨wired, follows⟩ control stepped after
    exact (step_follows wired follows control stepped).mp after
  · rintro σ l τ ⟨wired, follows⟩ control stepped keeps
    exact ⟨step_wired wired control stepped, (step_follows wired follows control stepped).mpr keeps⟩

end Pause

instance (id u : String) (σ : State) (a : String) (sA sB : Session) :
    (outcome : Outcome) → Decidable (KeepsBridge id u σ a outcome sA sB)
  | .error | .refused | .done => by
    unfold KeepsBridge
    infer_instance

instance (id u : String) (σ : State) (a : String) (sA : Session) :
    (outcome : Outcome) → Decidable (KeepsUnbridge id u σ a outcome sA)
  | .error | .refused | .done => by
    unfold KeepsUnbridge
    infer_instance

instance (id u : String) (σ : State) : (l : Label) → Decidable (Keeps id u σ l)
  | .unhold v => inferInstanceAs (Decidable (v = u → σ.legs u = none))
  | .bridge a b outcome => decidable_of_iff
      (∀ sA ∈ σ.sessions a, ∀ sB ∈ σ.sessions b, KeepsBridge id u σ a outcome sA sB)
      ⟨fun all sA sB first second => all sA first sB second,
        fun all sA first sB second => all sA sB first second⟩
  | .unbridge a b outcome => decidable_of_iff
      (∀ sA ∈ σ.sessions a, ∀ sB ∈ σ.sessions b, KeepsUnbridge id u σ a outcome sA)
      ⟨fun all sA sB first second => all sA first sB second,
        fun all sA first sB second => all sA sB first second⟩
  | .create .. | .connect _ | .hold _ | .release _ => .isTrue trivial

def twoCalls : State where
  sessions id := if id = "s-1" then some ⟨"fs-1", false, ""⟩ else
    if id = "s-2" then some ⟨"fs-2", false, ""⟩ else none
  uuidIndex u := if u = "fs-1" then some "s-1" else if u = "fs-2" then some "s-2" else none
  bridge u := if u = "fs-1" ∨ u = "fs-2" then some false else none
  held _ := false
  legs _ := none

theorem twoCalls_wired : Wired "s-1" "fs-1" twoCalls := by
  constructor
  case stored => exact ⟨⟨"fs-1", false, ""⟩, rfl, rfl⟩
  case indexed =>
    intro v
    by_cases first : v = "fs-1"
    · simp [twoCalls, first]
    · simp [twoCalls, first]
  case sole =>
    intro a s found channel
    by_contra other
    simp only [twoCalls, if_neg other, Option.ite_none_right_eq_some, Option.some.injEq] at found
    obtain ⟨-, rfl⟩ := found
    exact absurd channel (by decide)
  case heard => rfl

theorem twoCalls_follows : Follows "s-1" twoCalls := by
  intro s found
  cases Option.some.inj found
  exact ⟨rfl, by simp [twoCalls]⟩

/-- The call is held and taken back, bridged and parted. -/
def served : List Label :=
  [.hold "fs-1", .unhold "fs-1", .bridge "s-1" "s-2" .done, .hold "fs-2", .unhold "fs-2",
    .unbridge "s-1" "s-2" .done]

theorem served_follows : ∃ σ, exec step twoCalls served = some σ ∧ Follows "s-1" σ := by
  have complete : (exec step twoCalls served).isSome = true := by decide +kernel
  obtain ⟨σ, run⟩ := Option.isSome_iff_exists.mp complete
  have keeps : Along step (Keeps "s-1" "fs-1") twoCalls served := by decide +kernel
  exact ⟨σ, run, (pauses_follow_iff twoCalls_wired twoCalls_follows
    (by decide) run).mpr keeps served σ
    List.prefix_rfl run⟩

/-- A bridge request that fails leaves the bridge process paused, and one that is ended resumes a
call on hold. -/
theorem failed_bridge_stays_paused : (∃ σ, Wired "s-1" "fs-1" twoCalls ∧ Follows "s-1" twoCalls ∧
    exec step twoCalls [.bridge "s-1" "s-2" .error] = some σ ∧
      σ.sessions "s-1" = some ⟨"fs-1", false, ""⟩ ∧ σ.bridge "fs-1" = some true ∧
        ¬Follows "s-1" σ) ∧
    ∃ σ, exec step twoCalls
      [.bridge "s-1" "s-2" .done, .hold "fs-1", .unbridge "s-1" "s-2" .done] = some σ ∧
      σ.sessions "s-1" = some ⟨"fs-1", false, ""⟩ ∧ σ.held "fs-1" = true ∧ ¬Follows "s-1" σ := by
  constructor
  · have reached : (exec step twoCalls [.bridge "s-1" "s-2" .error]).map
        (fun σ => (σ.sessions "s-1", σ.bridge "fs-1")) =
            some (some ⟨"fs-1", false, ""⟩, some true) := by
      decide +kernel
    obtain ⟨σ, run, seen⟩ := Option.map_eq_some_iff.mp reached
    obtain ⟨found, heard⟩ := Prod.mk.inj seen
    refine ⟨σ, twoCalls_wired, twoCalls_follows, run, found, heard, fun follows => ?_⟩
    cases heard.symm.trans (follows _ found).1
  · have reached : (exec step twoCalls [.bridge "s-1" "s-2" .done, .hold "fs-1",
        .unbridge "s-1" "s-2" .done]).map (fun σ => (σ.sessions "s-1", σ.held "fs-1")) =
        some (some ⟨"fs-1", false, ""⟩, true) := by decide +kernel
    obtain ⟨σ, run, seen⟩ := Option.map_eq_some_iff.mp reached
    obtain ⟨found, held⟩ := Prod.mk.inj seen
    refine ⟨σ, run, found, held, fun follows => ?_⟩
    cases (follows _ found).2.mpr (.inl held)

end AgentOE.Gateway.Bridging
