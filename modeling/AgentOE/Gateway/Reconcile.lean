import AgentOE.Esl.Commands
import AgentOE.Transition
import Mathlib.Data.Finset.Filter
import Mathlib.Data.Fintype.Basic

/-! What a gateway node does after a reconnect: it releases the sessions whose channel is not in the
answer to `show channels`, while calls are created and hang up. -/
namespace AgentOE.Gateway.Reconcile
open Transition Text
open Esl (Bytes ascii newline comma trimSpace)

structure Session where
  sessionId : Bytes
  fsUUID : Bytes
  deriving DecidableEq

def uuidShaped (uuid : Bytes) : Bool := uuid.length = 36 && contains (ascii "-") uuid

def firstField (line : Bytes) : Bytes := trimSpace ((line.splitOn comma).headD [])

def firstFields (resp : Bytes) : List Bytes := (resp.splitOn newline).map firstField

def getActiveChannelUUIDs (resp : Bytes) : List Bytes := (firstFields resp).filter uuidShaped

/-- A call of `CreateCall`: in `AddIfUnderCapacity`, before `Originate`, waiting for its reply. -/
inductive Call where
  | idle
  | adding (sessionId : Bytes)
  | originating (sessionId : Bytes)
  | answering (sessionId : Bytes)
  | failed (sessionId : Bytes)
  | finished
  deriving DecidableEq

/-- A call of the callback. `existing` are the channels there were when `show channels` was
executed, `uuids` those that were read from its reply. -/
inductive Round where
  | waiting
  | listed (existing : Finset Bytes) (uuids : List Bytes)
  | releasing (uuids : List Bytes) (remaining : Finset Session)

/-- `handling` is the session that the handler of `CHANNEL_CREATE` is adding. In FreeSWITCH there
are channels, originate commands that have not arrived and such that are being executed.
`created` (every channel so far) and `made` (the channel that a session was made with) are history
variables. -/
structure State (C R : Type) where
  localMap : Finset Session
  call : C → Call
  handling : Option Session
  round : R → Round
  channels : Finset Bytes
  inFlight : Finset Bytes
  jobs : Finset Bytes
  created : Finset Bytes
  made : Bytes → Option Bytes

def State.initial (C R : Type) : State C R :=
  ⟨∅, fun _ => .idle, none, fun _ => .waiting, ∅, ∅, ∅, ∅, fun _ => none⟩

inductive Label (C R : Type) where
  | createCall (c : C) (sessionId : Bytes)
  | added (c : C) (admitted : Bool)
  /-- Whether the command could be written. -/
  | originate (c : C) (sent : Bool)
  | answered (c : C) (ok : Bool)
  | release (c : C)
  /-- The handler finds no session of the channel. -/
  | channelCreate (fsUUID sessionId : Bytes)
  | admitted (ok : Bool)
  | channelHangup (s : Session)
  /-- A channel that comes from outside. -/
  | inbound (fsUUID : Bytes)
  | execute (fsUUID : Bytes)
  /-- The command is lost with the connection. -/
  | lose (fsUUID : Bytes)
  /-- A job makes its channel, perhaps not for the first time. -/
  | dial (fsUUID : Bytes)
  | settle (fsUUID : Bytes)
  | gone (fsUUID : Bytes)
  | showChannels (r : R) (resp : Bytes)
  /-- `ForEachLocal` copies the local map. -/
  | snapshot (r : R)
  | turn (r : R) (s : Session)

variable {C R : Type} [DecidableEq C] [DecidableEq R]

namespace State
variable (σ : State C R)

def moveTo (c : C) (call : Call) : State C R := { σ with call := Function.update σ.call c call }

def enter (s : Session) : State C R := { σ with localMap := insert s σ.localMap }

/-- `Release`, which does nothing unless the session is in the local map. -/
def release (sessionId : Bytes) : State C R :=
  { σ with localMap := σ.localMap.filter (·.sessionId ≠ sessionId) }

/-- `NewSession` -/
def newSession (s : Session) : State C R :=
  { σ with made := Function.update σ.made s.sessionId (some s.fsUUID) }

def setRound (r : R) (round : Round) : State C R :=
  { σ with round := Function.update σ.round r round }

end State

/-- The mutex of the ESL client is left out: there are more orders than it allows. -/
def step (σ : State C R) : Label C R → Option (State C R)
  | .createCall c sessionId =>
    if σ.call c = .idle ∧ σ.made sessionId = none ∧ sessionId ∉ σ.created then
      some ((σ.newSession ⟨sessionId, sessionId⟩).moveTo c (.adding sessionId))
    else none
  | .added c admitted =>
    match σ.call c with
    | .adding sessionId =>
      if admitted then some ((σ.enter ⟨sessionId, sessionId⟩).moveTo c (.originating sessionId))
      else some (σ.moveTo c .finished)
    | _ => none
  | .originate c sent =>
    match σ.call c with
    | .originating sessionId =>
      if sent then some { σ.moveTo c (.answering sessionId) with inFlight := insert sessionId σ.inFlight }
      else some (σ.moveTo c (.failed sessionId))
    | _ => none
  | .answered c ok =>
    match σ.call c with
    | .answering sessionId => some (σ.moveTo c (if ok then .finished else .failed sessionId))
    | _ => none
  | .release c =>
    match σ.call c with
    | .failed sessionId => some ((σ.release sessionId).moveTo c .finished)
    | _ => none
  | .channelCreate fsUUID sessionId =>
    if σ.handling = none ∧ fsUUID ∈ σ.created ∧ (∀ s ∈ σ.localMap, s.fsUUID ≠ fsUUID) ∧
      σ.made sessionId = none then
      some { σ.newSession ⟨sessionId, fsUUID⟩ with handling := some ⟨sessionId, fsUUID⟩ }
    else none
  | .admitted ok =>
    match σ.handling with
    | some s => some { if ok then σ.enter s else σ with handling := none }
    | none => none
  | .channelHangup s =>
    if σ.handling = none ∧ s ∈ σ.localMap ∧ s.fsUUID ∈ σ.created then some (σ.release s.sessionId)
    else none
  | .inbound fsUUID =>
    if fsUUID ∉ σ.created ∧ σ.made fsUUID = none then
      some { σ with channels := insert fsUUID σ.channels, created := insert fsUUID σ.created }
    else none
  | .execute fsUUID =>
    if fsUUID ∈ σ.inFlight then
      some { σ with inFlight := σ.inFlight.erase fsUUID, jobs := insert fsUUID σ.jobs }
    else none
  | .lose fsUUID => some { σ with inFlight := σ.inFlight.erase fsUUID }
  | .dial fsUUID =>
    if fsUUID ∈ σ.jobs then
      some { σ with channels := insert fsUUID σ.channels, created := insert fsUUID σ.created }
    else none
  | .settle fsUUID => some { σ with jobs := σ.jobs.erase fsUUID }
  | .gone fsUUID => some { σ with channels := σ.channels.erase fsUUID }
  | .showChannels r resp =>
    match σ.round r with
    | .waiting => some (σ.setRound r (.listed σ.channels (getActiveChannelUUIDs resp)))
    | _ => none
  | .snapshot r =>
    match σ.round r with
    | .listed _ uuids => some (σ.setRound r (.releasing uuids σ.localMap))
    | _ => none
  | .turn r s =>
    match σ.round r with
    | .releasing uuids remaining =>
      if s ∈ remaining then
        let σ' := if s.fsUUID ∈ uuids then σ else σ.release s.sessionId
        some (σ'.setRound r (.releasing uuids (remaining.erase s)))
      else none
    | _ => none

/-- `CreateCall` has yet to send the command. -/
def Call.wants (fsUUID : Bytes) : Call → Bool
  | .adding sessionId | .originating sessionId => sessionId = fsUUID
  | _ => false

/-- An originate is still to be sent, on its way, or being executed. -/
def State.Pending (σ : State C R) (fsUUID : Bytes) : Prop :=
  (∃ c, (σ.call c).wants fsUUID = true) ∨ fsUUID ∈ σ.inFlight ∨ fsUUID ∈ σ.jobs

def State.Dead (σ : State C R) (fsUUID : Bytes) : Prop := fsUUID ∉ σ.channels ∧ ¬σ.Pending fsUUID

/-- The callback takes a session out of the local map only if it is dead. -/
def Right (σ : State C R) : Label C R → Prop
  | .turn r s =>
    ∀ τ, step σ (.turn r s) = some τ → ∀ s' ∈ σ.localMap, s' ∉ τ.localMap → σ.Dead s'.fsUUID
  | _ => True

/-- The reply to `show channels` gives the channels that exist, as far as they have UUIDs. -/
def Lists (σ : State C R) : Label C R → Prop
  | .showChannels _ resp => (firstFields resp).toFinset.filter (uuidShaped · = true) =
    σ.channels.filter (uuidShaped · = true)
  | _ => True

/-- Every session that could be copied had its channel when `show channels` was executed, or is
dead. -/
def Ready (σ : State C R) : Round → Prop
  | .listed existing _ =>
    ∀ s ∈ σ.localMap, (s.fsUUID ∈ existing ∧ uuidShaped s.fsUUID = true) ∨ σ.Dead s.fsUUID
  | _ => True

def Orderly (σ : State C R) : Label C R → Prop
  | .snapshot r => Ready σ (σ.round r)
  | _ => True

variable {σ τ : State C R} {l : Label C R}

/-- The UUID is taken, so that no channel and no originate begins anew under it. -/
def State.Taken (σ : State C R) (fsUUID : Bytes) : Prop := fsUUID ∈ σ.created ∨ σ.made fsUUID ≠ none

def State.Made (σ : State C R) (s : Session) : Prop := σ.made s.sessionId = some s.fsUUID

omit [DecidableEq R] in
theorem wants_moveTo {c : C} {call : Call}
    (wanted : ∃ d, ((σ.moveTo c call).call d).wants u = true) :
    call.wants u = true ∨ ∃ d, (σ.call d).wants u = true := by
  obtain ⟨d, wanted⟩ := wanted
  by_cases same : d = c
  · subst same
    left
    simpa [State.moveTo] using wanted
  · right
    exact ⟨d, by simpa [State.moveTo, same] using wanted⟩

/-- What a step does to a UUID that is taken. -/
structure Grows (σ τ : State C R) : Prop where
  taken : ∀ u, σ.Taken u → τ.Taken u
  made : ∀ s, σ.Made s → τ.Made s
  channels : ∀ u, σ.Taken u → u ∈ τ.channels → u ∈ σ.channels ∨ σ.Pending u
  pending : ∀ u, σ.Taken u → τ.Pending u → σ.Pending u

omit [DecidableEq C] [DecidableEq R] in
theorem Grows.dead (grows : Grows σ τ) (taken : σ.Taken u) (dead : σ.Dead u) : τ.Dead u := by
  constructor
  · intro present
    exact (grows.channels u taken present).elim dead.1 dead.2
  · exact fun pending => dead.2 (grows.pending u taken pending)

omit [DecidableEq C] [DecidableEq R] in
/-- Nothing that concerns channels and originates has changed. -/
theorem Grows.same (calls : τ.call = σ.call) (channels : τ.channels = σ.channels)
    (inFlight : τ.inFlight = σ.inFlight) (jobs : τ.jobs = σ.jobs) (created : τ.created = σ.created)
    (made : τ.made = σ.made) : Grows σ τ where
  taken := fun u taken => by rwa [State.Taken, created, made]
  made := fun s present => by rwa [State.Made, made]
  channels := fun u _ present => .inl (channels ▸ present)
  pending := fun u _ pending => by rwa [State.Pending, calls, inFlight, jobs] at pending

omit [DecidableEq R] in
/-- A call goes on, and wants nothing more than it did. -/
theorem Grows.move {c : C} {call : Call}
    (wants : ∀ u, call.wants u = true → (σ.call c).wants u = true) (sessions : Finset Session) :
    Grows σ { σ.moveTo c call with localMap := sessions } where
  taken := fun _ taken => taken
  made := fun _ made => made
  channels := fun _ _ present => .inl present
  pending := by
    rintro u - (wanted | sent)
    · exact .inl ((wants_moveTo wanted).elim (fun own => ⟨c, wants u own⟩) id)
    · exact .inr sent

omit [DecidableEq C] [DecidableEq R] in
theorem newSession_taken (s : Session) (taken : σ.Taken u) : (σ.newSession s).Taken u := by
  refine taken.imp id fun made => ?_
  simp only [State.newSession, Function.update_apply]
  split
  · exact Option.some_ne_none _
  · exact made

omit [DecidableEq C] [DecidableEq R] in
theorem newSession_made (s : Session) (fresh : σ.made s.sessionId = none) {s' : Session}
    (made : σ.Made s') : (σ.newSession s).Made s' := by
  have other : s'.sessionId ≠ s.sessionId := by
    intro same
    rw [State.Made, same, fresh] at made
    cases made
  exact (Function.update_of_ne other _ _).trans made

theorem step_grows (stepped : step σ l = some τ) : Grows σ τ := by
  cases l with
  | createCall c id =>
    simp only [step] at stepped
    split at stepped <;> cases stepped
    rename_i ready
    refine ⟨fun _ taken => newSession_taken _ taken, fun _ made => newSession_made _ ready.2.1 made,
      fun _ _ present => .inl present, ?_⟩
    rintro u taken (wanted | sent)
    · rcases wants_moveTo wanted with own | others
      · obtain rfl : id = u := by simpa [Call.wants] using own
        exact absurd ready.2.1 (taken.resolve_left ready.2.2)
      · exact .inl others
    · exact .inr sent
  | added c admitted =>
    simp only [step] at stepped
    split at stepped
    · rename_i id adding
      split at stepped <;> cases stepped
      · exact .move (by simp [adding, Call.wants]) _
      · exact .move (by simp [Call.wants]) _
    · cases stepped
  | originate c sent =>
    simp only [step] at stepped
    split at stepped
    · rename_i id originating
      split at stepped <;> cases stepped
      · refine ⟨fun _ taken => taken, fun _ made => made, fun _ _ present => .inl present, ?_⟩
        rintro u - (wanted | sent | executed)
        · exact .inl ((wants_moveTo wanted).resolve_left (by simp [Call.wants]))
        · rcases Finset.mem_insert.mp sent with rfl | sent
          · exact .inl ⟨c, by simp [originating, Call.wants]⟩
          · exact .inr (.inl sent)
        · exact .inr (.inr executed)
      · exact .move (by simp [Call.wants]) _
    · cases stepped
  | answered c ok =>
    simp only [step] at stepped
    split at stepped <;> cases stepped
    exact .move (by cases ok <;> simp [Call.wants]) _
  | release c =>
    simp only [step] at stepped
    split at stepped <;> cases stepped
    exact .move (by simp [Call.wants]) _
  | channelCreate u id =>
    simp only [step] at stepped
    split at stepped <;> cases stepped
    rename_i ready
    exact ⟨fun _ taken => newSession_taken ⟨id, u⟩ taken,
      fun _ made => newSession_made ⟨id, u⟩ ready.2.2.2 made,
      fun _ _ present => .inl present, fun _ _ pending => pending⟩
  | admitted ok =>
    simp only [step] at stepped
    split at stepped <;> cases stepped
    cases ok <;> exact .same rfl rfl rfl rfl rfl rfl
  | channelHangup s =>
    simp only [step] at stepped
    split at stepped <;> cases stepped
    exact .same rfl rfl rfl rfl rfl rfl
  | inbound u =>
    simp only [step] at stepped
    split at stepped <;> cases stepped
    rename_i fresh
    refine ⟨fun _ taken => taken.imp Finset.mem_insert_of_mem id, fun _ made => made, ?_,
      fun _ _ pending => pending⟩
    intro v taken present
    rcases Finset.mem_insert.mp present with rfl | present
    · exact absurd fresh.2 (taken.resolve_left fresh.1)
    · exact .inl present
  | execute u =>
    simp only [step] at stepped
    split at stepped <;> cases stepped
    rename_i sent
    refine ⟨fun _ taken => taken, fun _ made => made, fun _ _ present => .inl present, ?_⟩
    rintro v - (wanted | sent' | executed)
    · exact .inl wanted
    · exact .inr (.inl (Finset.mem_of_mem_erase sent'))
    · rcases Finset.mem_insert.mp executed with rfl | executed
      · exact .inr (.inl sent)
      · exact .inr (.inr executed)
  | lose u =>
    cases stepped
    exact ⟨fun _ taken => taken, fun _ made => made, fun _ _ present => .inl present,
      fun v _ pending => pending.imp id (.imp Finset.mem_of_mem_erase id)⟩
  | dial u =>
    simp only [step] at stepped
    split at stepped <;> cases stepped
    rename_i executed
    refine ⟨fun _ taken => taken.imp Finset.mem_insert_of_mem id, fun _ made => made, ?_,
      fun _ _ pending => pending⟩
    intro v _ present
    rcases Finset.mem_insert.mp present with rfl | present
    · exact .inr (.inr (.inr executed))
    · exact .inl present
  | settle u =>
    cases stepped
    exact ⟨fun _ taken => taken, fun _ made => made, fun _ _ present => .inl present,
      fun v _ pending => pending.imp id (.imp id Finset.mem_of_mem_erase)⟩
  | gone u =>
    cases stepped
    exact ⟨fun _ taken => taken, fun _ made => made,
      fun _ _ present => .inl (Finset.mem_of_mem_erase present),
      fun _ _ pending => pending⟩
  | showChannels r resp =>
    simp only [step] at stepped
    split at stepped <;> cases stepped
    exact .same rfl rfl rfl rfl rfl rfl
  | snapshot r =>
    simp only [step] at stepped
    split at stepped <;> cases stepped
    exact .same rfl rfl rfl rfl rfl rfl
  | turn r s =>
    simp only [step] at stepped
    split at stepped
    · split at stepped <;> cases stepped
      split <;> exact .same rfl rfl rfl rfl rfl rfl
    · cases stepped

/-- Sessions keep the channel that they were made with, and a copied session that is not listed is
dead. -/
structure Inv (σ : State C R) : Prop where
  taken : ∀ s, σ.Made s → σ.Taken s.fsUUID
  localMap : ∀ s ∈ σ.localMap, σ.Made s
  handling : ∀ s, σ.handling = some s → σ.Made s
  adding : ∀ c id, σ.call c = .adding id → σ.Made ⟨id, id⟩
  listed : ∀ r existing uuids, σ.round r = .listed existing uuids →
    ∀ u, u ∈ uuids ↔ u ∈ existing ∧ uuidShaped u = true
  releasing : ∀ r uuids remaining, σ.round r = .releasing uuids remaining →
    ∀ s ∈ remaining, σ.Made s ∧ (s.fsUUID ∈ uuids ∨ σ.Dead s.fsUUID)

omit [DecidableEq C] [DecidableEq R] in
theorem initial_inv : Inv (.initial C R) := by
  constructor <;> simp [State.initial, State.Made]

omit [DecidableEq C] [DecidableEq R] in
/-- A step of calls and channels, which leaves the rounds as they are. -/
theorem Inv.grow (inv : Inv σ) (grows : Grows σ τ)
    (taken : ∀ s, τ.Made s → σ.Made s ∨ τ.Taken s.fsUUID)
    (localMap : ∀ s ∈ τ.localMap, s ∈ σ.localMap ∨ σ.Made s)
    (handling : ∀ s, τ.handling = some s → σ.handling = some s ∨ τ.Made s)
    (adding : ∀ c id, τ.call c = .adding id → σ.call c = .adding id ∨ τ.Made ⟨id, id⟩)
    (round : τ.round = σ.round) : Inv τ where
  taken := fun s made => (taken s made).elim (fun old => grows.taken _ (inv.taken s old)) id
  localMap := fun s inside => grows.made s ((localMap s inside).elim (inv.localMap s) id)
  handling := fun s handled => (handling s handled).elim
    (fun old => grows.made s (inv.handling s old)) id
  adding := fun c id added => (adding c id added).elim
    (fun old => grows.made _ (inv.adding c id old)) (fun new => new)
  listed := round ▸ inv.listed
  releasing := by
    rw [round]
    intro r uuids remaining releasing s inside
    obtain ⟨made, doomed⟩ := inv.releasing r uuids remaining releasing s inside
    exact ⟨grows.made s made, doomed.imp id (grows.dead (inv.taken s made))⟩

omit [DecidableEq R] in
/-- A call goes on, and any session that enters the local map was made. -/
theorem Inv.move (inv : Inv σ) {c : C} {call : Call} {sessions : Finset Session}
    {sent : Finset Bytes}
    (grows : Grows σ { σ.moveTo c call with localMap := sessions, inFlight := sent })
    (localMap : ∀ s ∈ sessions, s ∈ σ.localMap ∨ σ.Made s) (past : ∀ id, call ≠ .adding id) :
    Inv { σ.moveTo c call with localMap := sessions, inFlight := sent } := by
  refine inv.grow grows (fun _ made => .inl made) localMap (fun _ handled => .inl handled) ?_ rfl
  intro d id adding
  by_cases same : d = c
  · subst same
    exact absurd (by simpa [State.moveTo] using adding) (past id)
  · exact .inl (by simpa [State.moveTo, same] using adding)

omit [DecidableEq C] [DecidableEq R] in
/-- Sessions leave the local map, and channels and jobs change. -/
theorem Inv.shrink (inv : Inv σ) (grows : Grows σ τ) (made : τ.made = σ.made)
    (localMap : ∀ s ∈ τ.localMap, s ∈ σ.localMap) (handling : τ.handling = σ.handling)
    (call : τ.call = σ.call) (round : τ.round = σ.round) : Inv τ :=
  inv.grow grows (fun s was => .inl (by rwa [State.Made, made] at was))
    (fun s inside => .inl (localMap s inside))
    (fun _ handled => .inl (handling ▸ handled)) (fun _ _ adding => .inl (call ▸ adding)) round

omit [DecidableEq C] [DecidableEq R] in
theorem made_newSession {s s' : Session} (made : (σ.newSession s).Made s') :
    σ.Made s' ∨ s'.sessionId = s.sessionId ∧ s'.fsUUID = s.fsUUID := by
  simp only [State.Made, State.newSession, Function.update_apply] at made
  split at made
  · rename_i same
    exact .inr ⟨same, (Option.some.inj made).symm⟩
  · exact .inl made

omit [DecidableEq C] in
theorem Inv.set_round (inv : Inv σ) (r : R) {round : Round}
    (listed : ∀ existing uuids, round = .listed existing uuids → ∀ u, u ∈ uuids ↔
      u ∈ existing ∧ uuidShaped u = true)
    (releasing : ∀ uuids remaining, round = .releasing uuids remaining →
      ∀ s ∈ remaining, σ.Made s ∧ (s.fsUUID ∈ uuids ∨
        σ.Dead s.fsUUID)) : Inv (σ.setRound r round) where
  taken := inv.taken
  localMap := inv.localMap
  handling := inv.handling
  adding := inv.adding
  listed := by
    intro q existing uuids there
    by_cases same : q = r
    · subst same
      exact listed existing uuids (by simpa [State.setRound] using there)
    · exact inv.listed q existing uuids (by simpa [State.setRound, same] using there)
  releasing := by
    intro q uuids remaining there
    by_cases same : q = r
    · subst same
      exact releasing uuids remaining (by simpa [State.setRound] using there)
    · exact inv.releasing q uuids remaining (by simpa [State.setRound, same] using there)

theorem step_inv (inv : Inv σ) (lists : Lists σ l) (orderly : Orderly σ l)
    (stepped : step σ l = some τ) : Inv τ := by
  have grows := step_grows stepped
  cases l with
  | createCall c id =>
    simp only [step] at stepped
    split at stepped <;> cases stepped
    refine inv.grow grows ?_ (fun _ inside => .inl inside) (fun _ handled => .inl handled) ?_ rfl
    · intro s made
      refine (made_newSession made).imp (fun old => old) fun ⟨_, same⟩ => .inr ?_
      rw [same]
      simp [State.newSession, State.moveTo]
    · intro d id' adding
      by_cases same : d = c
      · subst same
        obtain rfl : id = id' := by simpa [State.moveTo] using adding
        exact .inr (Function.update_self ..)
      · exact .inl (by simpa [State.moveTo, State.newSession, same] using adding)
  | added c admitted =>
    simp only [step] at stepped
    split at stepped
    · rename_i id adding
      split at stepped <;> cases stepped
      · refine inv.move grows (fun s inside => ?_) (by simp)
        rcases Finset.mem_insert.mp inside with rfl | inside
        · exact .inr (inv.adding c id adding)
        · exact .inl inside
      · exact inv.move grows (fun _ inside => .inl inside) (by simp)
    · cases stepped
  | originate c sent =>
    simp only [step] at stepped
    split at stepped
    · split at stepped <;> cases stepped <;>
        exact inv.move grows (fun _ inside => .inl inside) (by simp)
    · cases stepped
  | answered c ok =>
    simp only [step] at stepped
    split at stepped <;> cases stepped
    exact inv.move grows (fun _ inside => .inl inside) (by cases ok <;> simp)
  | release c =>
    simp only [step] at stepped
    split at stepped <;> cases stepped
    exact inv.move grows (fun _ inside => .inl (Finset.mem_of_mem_filter _ inside)) (by simp)
  | channelCreate u id =>
    simp only [step] at stepped
    split at stepped <;> cases stepped
    rename_i ready
    refine inv.grow grows ?_ (fun _ inside => .inl inside) ?_ (fun _ _ adding => .inl adding) rfl
    · intro s made
      refine (made_newSession (s := ⟨id, u⟩) made).imp (fun old => old) fun ⟨_, same⟩ => .inl ?_
      rw [same]
      exact ready.2.1
    · rintro s handled
      cases handled
      exact .inr (Function.update_self ..)
  | admitted ok =>
    simp only [step] at stepped
    split at stepped <;> cases stepped
    rename_i s handled
    refine inv.grow grows ?_ ?_ (by simp) ?_ ?_
    · cases ok <;> exact fun _ made => .inl made
    · intro s' inside
      cases ok with
      | false => exact .inl inside
      | true =>
        rcases Finset.mem_insert.mp inside with rfl | inside
        · exact .inr (inv.handling _ handled)
        · exact .inl inside
    · cases ok <;> exact fun _ _ adding => .inl adding
    · cases ok <;> rfl
  | channelHangup s =>
    simp only [step] at stepped
    split at stepped <;> cases stepped
    exact inv.shrink grows rfl (fun _ inside => Finset.mem_of_mem_filter _ inside) rfl rfl rfl
  | inbound u =>
    simp only [step] at stepped
    split at stepped <;> cases stepped
    exact inv.shrink grows rfl (fun _ inside => inside) rfl rfl rfl
  | execute u =>
    simp only [step] at stepped
    split at stepped <;> cases stepped
    exact inv.shrink grows rfl (fun _ inside => inside) rfl rfl rfl
  | lose u =>
    cases stepped
    exact inv.shrink grows rfl (fun _ inside => inside) rfl rfl rfl
  | dial u =>
    simp only [step] at stepped
    split at stepped <;> cases stepped
    exact inv.shrink grows rfl (fun _ inside => inside) rfl rfl rfl
  | settle u =>
    cases stepped
    exact inv.shrink grows rfl (fun _ inside => inside) rfl rfl rfl
  | gone u =>
    cases stepped
    exact inv.shrink grows rfl (fun _ inside => inside) rfl rfl rfl
  | showChannels r resp =>
    simp only [step] at stepped
    split at stepped <;> cases stepped
    refine inv.set_round r ?_ (by simp)
    rintro _ _ ⟨⟩ u
    have same := congrArg (u ∈ ·) (show _ = _ from lists)
    simpa [getActiveChannelUUIDs] using same
  | snapshot r =>
    simp only [step] at stepped
    split at stepped <;> cases stepped
    rename_i existing uuids listed
    refine inv.set_round r (by simp) ?_
    rintro _ _ ⟨⟩ s inside
    have ready : Ready σ (.listed existing uuids) := listed ▸ orderly
    exact ⟨inv.localMap s inside, (ready s inside).imp
      (inv.listed r existing uuids listed _).mpr id⟩
  | turn r s =>
    simp only [step] at stepped
    split at stepped
    · rename_i uuids remaining releasing
      split at stepped <;> cases stepped
      have rest := inv.releasing r uuids remaining releasing
      have kept : Inv (if s.fsUUID ∈ uuids then σ else σ.release s.sessionId) := by
        split
        · exact inv
        · exact inv.shrink (.same rfl rfl rfl rfl rfl rfl) rfl
            (fun _ inside => Finset.mem_of_mem_filter _ inside) rfl rfl rfl
      refine kept.set_round r (by simp) ?_
      rintro _ _ ⟨⟩ s' inside
      split <;> exact rest s' (Finset.mem_of_mem_erase inside)
    · cases stepped

theorem Inv.right (inv : Inv σ) (l : Label C R) : Right σ l := by
  cases l with
  | turn r s =>
    intro τ stepped s' inside gone
    simp only [step] at stepped
    split at stepped
    · rename_i uuids remaining releasing
      split at stepped <;> cases stepped
      rename_i mem
      obtain ⟨made, doomed⟩ := inv.releasing r uuids remaining releasing s mem
      change s' ∉ (if s.fsUUID ∈ uuids then σ else σ.release s.sessionId).localMap at gone
      split at gone
      · exact absurd inside gone
      · rename_i unlisted
        have own : s'.sessionId = s.sessionId := by simpa [State.release, inside] using gone
        have same : s'.fsUUID = s.fsUUID := by
          have made' := inv.localMap s' inside
          rw [State.Made, own, made] at made'
          exact (Option.some.inj made').symm
        rw [same]
        exact doomed.resolve_left unlisted
    · cases stepped
  | _ => trivial

/-- In an orderly run the callback releases sessions whose channel does not exist, and for which no
originate is pending or being executed. -/
theorem reconciliation_releases_dead {labels : List (Label C R)}
    (lists : Along step Lists (.initial C R) labels)
    (orderly : Along step Orderly (.initial C R) labels) : Along step Right (.initial C R) labels :=
  along_invariant (fun inv allowed stepped => step_inv inv allowed.1 allowed.2 stepped)
    (fun inv _ => inv.right _) (along_and lists orderly) initial_inv

/-- A copy that is not orderly can be followed by the release of a session that is not dead. -/
theorem hasty_snapshot_releases (inv : Inv σ) (hasty : ¬Orderly σ (.snapshot r)) :
    ∃ s ∈ σ.localMap, ∃ copied released, step σ (.snapshot r) = some copied ∧
      step copied (.turn r s) = some released ∧ s ∉ released.localMap ∧ ¬copied.Dead s.fsUUID := by
  rw [Orderly] at hasty
  cases listed : σ.round r with
  | listed existing uuids =>
    rw [listed] at hasty
    simp only [Ready, not_forall, not_or] at hasty
    obtain ⟨s, inside, missed, alive⟩ := hasty
    have unlisted : s.fsUUID ∉ uuids := mt (inv.listed r existing uuids listed s.fsUUID).mp missed
    let copied := σ.setRound r (.releasing uuids σ.localMap)
    let released := (copied.release s.sessionId).setRound r (.releasing uuids (σ.localMap.erase s))
    refine ⟨s, inside, copied, released, by simp [step, listed, copied], ?_, ?_, alive⟩
    · simp [step, copied, released, State.setRound, inside, unlisted, State.release]
    · simp [released, State.setRound, State.release]
  | waiting => simp [listed, Ready] at hasty
  | releasing uuids remaining => simp [listed, Ready] at hasty

def u1 : Bytes := ascii "6ba7b810-9dad-11d1-80b4-00c04fd430c8"
def u2 : Bytes := ascii "6ba7b811-9dad-11d1-80b4-00c04fd430c8"

def header : Bytes := ascii "uuid,direction,created" ++ [newline]

/-- Of two calls from outside, one hangs up while there is no connection. -/
def outage : List (Label Bool Unit) :=
  [.inbound u1, .channelCreate u1 (ascii "s-1"), .admitted true, .inbound u2,
    .channelCreate u2 (ascii "s-2"), .admitted true, .gone u1,
    .showChannels () (header ++ u2 ++ ascii ",inbound,2026-05-01" ++ [newline]), .snapshot (),
    .turn () ⟨ascii "s-2", u2⟩, .turn () ⟨ascii "s-1", u1⟩]

instance [Fintype C] (fsUUID : Bytes) : Decidable (σ.Dead fsUUID) := by
  unfold State.Dead State.Pending
  infer_instance

instance [Fintype C] (round : Round) : Decidable (Ready σ round) := by
  cases round <;> unfold Ready <;> infer_instance

instance [Fintype C] : Decidable (Orderly σ l) := by
  cases l <;> unfold Orderly <;> infer_instance

instance : Decidable (Lists σ l) := by
  cases l <;> unfold Lists <;> infer_instance

instance [Fintype C] : Decidable (Right σ l) := by
  cases l with
  | turn r s =>
    exact inferInstanceAs (Decidable (∀ τ ∈ step σ (.turn r s), ∀ s' ∈ σ.localMap,
      s' ∉ τ.localMap → _))
  | _ => exact .isTrue trivial

theorem outage_releases_dead : Along step Right (.initial Bool Unit) outage :=
  reconciliation_releases_dead (by decide +kernel) (by decide +kernel)

/-- A call is being originated when the channels are shown, and has its channel when the local
map is copied. -/
def racing : List (Label Bool Unit) :=
  [.createCall true u1, .added true true, .originate true true, .answered true true, .execute u1,
    .showChannels () header, .dial u1, .snapshot (), .turn () ⟨u1, u1⟩]

theorem live_call_released : (exec step (.initial Bool Unit) racing).isSome = true ∧
    Along step Lists (.initial Bool Unit) racing ∧
      ¬Along step Right (.initial Bool Unit) racing := by
  decide +kernel

end AgentOE.Gateway.Reconcile
