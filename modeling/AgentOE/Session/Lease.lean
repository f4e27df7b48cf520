import AgentOE.Transition
import AgentOE.Session.Store

/-! The session lease, as the WebSocket handler and the gRPC handler use it for
one session id. Every lease holds the same value `"1"`; the owner recorded here
is never read by a step. The handlers' other awaits (pipeline turns, sends,
metrics) are interleaving points only, of any duration. -/
namespace AgentOE.Session.Lease
open Transition

/-- Each entry point with the tenant it authenticated. -/
inductive Entry where
  | websocket (tenantId : String)
  | grpc (tenantId : String)
  deriving DecidableEq

/-- Only the gRPC handler passes its tenant to the lease. -/
def Entry.leaseTenant : Entry → Option String
  | .websocket _ => none
  | .grpc tenant => some tenant

def Entry.isGrpc : Entry → Bool
  | .websocket _ => false
  | .grpc _ => true

/-- Where a handler stands. `closed` is the orchestrator's own flag; a handler
without an orchestrator releases with `none`. -/
inductive Phase where
  | connecting
  | acquired
  | serving (closed : Bool)
  | finalizing (closed : Bool)
  | releasing (orchestrator : Option Bool)
  | endingReleased (closed : Bool)
  | finished
  deriving DecidableEq

structure State (C : Type) where
  leases : String → Option C
  phase : C → Phase
  /-- Between a successful acquire and the release. -/
  owns : C → Bool

def State.initial (C : Type) : State C := ⟨fun _ => none, fun _ => .connecting, fun _ => false⟩

/-- How `restore_or_create_orchestrator` ends. -/
inductive Restored where
  | created
  | resumed
  | refused
  | raised
  deriving DecidableEq

inductive RepoWrite where
  | saveTurn
  | updateState
  | endSession
  deriving DecidableEq

inductive Action (C : Type) where
  | acquire (c : C)
  | acquireFailed (c : C)
  /-- The handler is cancelled inside the acquire; `sent` if Redis ran the command. -/
  | acquireCancelled (c : C) (sent : Bool)
  | restore (c : C) (result : Restored)
  | write (c : C) (kind : RepoWrite)
  | leave (c : C)
  | finalize (c : C)
  | release (c : C)
  | endReleased (c : C)
  | crash (c : C)
  | expire (key : String)

variable {C : Type} [DecidableEq C] (cfg : Config) (sessionId : String) (entry : C → Entry)

def leaseKey (c : C) : String := scopedKey cfg "lease" [sessionId] (entry c).leaseTenant

namespace State
variable (σ : State C)

def moveTo (c : C) (phase : Phase) : State C := { σ with phase := Function.update σ.phase c phase }

def grant (key : String) (c : C) (phase : Phase) : State C :=
  ⟨Function.update σ.leases key (some c), Function.update σ.phase c phase,
    Function.update σ.owns c true⟩

/-- `DEL`, whoever set the lease. -/
def drop (key : String) (c : C) (phase : Phase) : State C :=
  ⟨Function.update σ.leases key none, Function.update σ.phase c phase,
    Function.update σ.owns c false⟩

def abandon (c : C) : State C :=
  { σ with phase := Function.update σ.phase c .finished, owns := Function.update σ.owns c false }

end State

def step (σ : State C) : Action C → Option (State C)
  | .acquire c =>
    if σ.phase c = .connecting then
      if σ.leases (leaseKey cfg sessionId entry c) = none then
        some (σ.grant (leaseKey cfg sessionId entry c) c .acquired)
      else some (σ.moveTo c .finished)
    else none
  | .acquireFailed c => if σ.phase c = .connecting then some (σ.moveTo c .finished) else none
  | .acquireCancelled c sent =>
    if σ.phase c = .connecting then
      -- the gRPC handler has set its session id, so its cleanup releases
      let next : Phase := if (entry c).isGrpc then .releasing none else .finished
      if sent ∧ σ.leases (leaseKey cfg sessionId entry c) = none then
        let granted := σ.grant (leaseKey cfg sessionId entry c) c next
        some (if (entry c).isGrpc then granted else granted.abandon c)
      else some (σ.moveTo c next)
    else none
  | .restore c result =>
    if σ.phase c = .acquired then
      match result with
      | .created | .resumed => some (σ.moveTo c (.serving false))
      | .refused => some (σ.moveTo c (.releasing none))
      | .raised => some (if (entry c).isGrpc then σ.moveTo c (.releasing none) else σ.abandon c)
    else none
  | .write c kind =>
    match σ.phase c, kind with
    | .serving false, .endSession => some (σ.moveTo c (.serving true))
    | .serving _, .saveTurn | .serving _, .updateState => some σ
    | _, _ => none
  | .leave c =>
    match σ.phase c with
    | .serving closed => some (σ.moveTo c
        (if (entry c).isGrpc then .releasing (some closed) else .finalizing closed))
    | _ => none
  | .finalize c =>
    match σ.phase c with
    | .finalizing _ => some (σ.moveTo c (.releasing (some true)))
    | _ => none
  | .release c =>
    match σ.phase c with
    | .releasing orchestrator =>
      let next : Phase := match orchestrator with
        | some closed => if (entry c).isGrpc then .endingReleased closed else .finished
        | none => .finished
      some (σ.drop (leaseKey cfg sessionId entry c) c next)
    | _ => none
  | .endReleased c =>
    match σ.phase c with
    | .endingReleased _ => some (σ.moveTo c .finished)
    | _ => none
  | .crash c => some (σ.abandon c)
  | .expire key => some { σ with leases := Function.update σ.leases key none }

/-- The connection whose create, save, update or end reaches the repository in
this step. `end_session` writes only while the orchestrator is open. -/
def writer (σ : State C) : Action C → Option C
  | .restore c .created => some c
  | .write c _ => some c
  | .finalize c => if σ.phase c = .finalizing false then some c else none
  | .endReleased c => if σ.phase c = .endingReleased false then some c else none
  | _ => none

def Exclusive (σ : State C) : Prop := ∀ c d, σ.owns c = true → σ.owns d = true → c = d

/-- What the lease has to guarantee in every state, of every step that is
possible there. -/
structure Safe (σ : State C) : Prop where
  exclusive : Exclusive σ
  release_own : ∀ c, (step cfg sessionId entry σ (.release c)).isSome →
    ∀ d, σ.leases (leaseKey cfg sessionId entry c) = some d → d = c
  write_held : ∀ action c, (step cfg sessionId entry σ action).isSome →
    writer σ action = some c → σ.leases (leaseKey cfg sessionId entry c) = some c

/-- The runs on which the code keeps that guarantee. -/
def Disciplined (σ : State C) : Action C → Prop
  | .acquire c => ∀ d, σ.owns d = true →
      leaseKey cfg sessionId entry d = leaseKey cfg sessionId entry c
  | .acquireCancelled c sent => (entry c).isGrpc = true →
      (sent = true ∧ σ.leases (leaseKey cfg sessionId entry c) = none) ∧
      ∀ d, σ.owns d = true → leaseKey cfg sessionId entry d = leaseKey cfg sessionId entry c
  | .leave c => (entry c).isGrpc = true → σ.phase c = .serving true
  | .expire key => ∀ c, σ.owns c = true → leaseKey cfg sessionId entry c ≠ key
  | _ => True

/-- Every phase before the release owns the lease, and a gRPC handler starts
its cleanup with a closed orchestrator. -/
def Phase.Sound (grpc owns : Bool) : Phase → Prop
  | .acquired | .serving _ | .finalizing _ => owns = true
  | .releasing orchestrator => owns = true ∧ (grpc = true → orchestrator ≠ some false)
  | .endingReleased closed => closed = true
  | .connecting | .finished => True

structure Inv (σ : State C) : Prop where
  held : ∀ c, σ.owns c = true → σ.leases (leaseKey cfg sessionId entry c) = some c
  oneKey : ∀ c d, σ.owns c = true → σ.owns d = true →
    leaseKey cfg sessionId entry c = leaseKey cfg sessionId entry d
  sound : ∀ c, (σ.phase c).Sound (entry c).isGrpc (σ.owns c)

namespace Inv
variable {cfg sessionId entry} {σ : State C}

omit [DecidableEq C] in
theorem initial : Inv cfg sessionId entry (State.initial C) := by
  refine ⟨?_, ?_, fun _ => trivial⟩
  · intro c owns
    simp [State.initial] at owns
  · intro c d owns
    simp [State.initial] at owns

omit [DecidableEq C] in
theorem exclusive (inv : Inv cfg sessionId entry σ) : Exclusive σ := by
  intro c d ownsC ownsD
  have heldC := inv.held c ownsC
  rw [inv.oneKey c d ownsC ownsD, inv.held d ownsD] at heldC
  exact (Option.some.inj heldC).symm

theorem moveTo (inv : Inv cfg sessionId entry σ) {c : C} {phase : Phase}
    (sound : phase.Sound (entry c).isGrpc (σ.owns c)) :
    Inv cfg sessionId entry (σ.moveTo c phase) := by
  refine ⟨inv.held, inv.oneKey, fun d => ?_⟩
  by_cases same : d = c
  · subst same
    simpa [State.moveTo] using sound
  · simpa [State.moveTo, same] using inv.sound d

/-- A free lease may be taken when no owner uses another key. -/
theorem grant (inv : Inv cfg sessionId entry σ) {c : C} {phase : Phase}
    (free : σ.leases (leaseKey cfg sessionId entry c) = none)
    (agree : ∀ d, σ.owns d = true →
      leaseKey cfg sessionId entry d = leaseKey cfg sessionId entry c)
    (sound : phase.Sound (entry c).isGrpc true) :
    Inv cfg sessionId entry (σ.grant (leaseKey cfg sessionId entry c) c phase) := by
  have unowned : ∀ d, σ.owns d = false := by
    intro d
    by_contra owns
    have owns : σ.owns d = true := by simpa using owns
    have held := inv.held d owns
    rw [agree d owns, free] at held
    cases held
  have owner : ∀ d, (σ.grant (leaseKey cfg sessionId entry c) c phase).owns d = true → d = c := by
    intro d owns
    by_contra different
    simp [State.grant, different, unowned] at owns
  constructor
  · intro d owns
    rw [owner d owns]
    simp [State.grant]
  · intro d e ownsD ownsE
    rw [owner d ownsD, owner e ownsE]
  · intro d
    by_cases same : d = c
    · subst same
      simpa [State.grant] using sound
    · simpa [State.grant, same] using inv.sound d

theorem abandon (inv : Inv cfg sessionId entry σ) (c : C) :
    Inv cfg sessionId entry (σ.abandon c) := by
  have before : ∀ d, (σ.abandon c).owns d = true → σ.owns d = true := by
    intro d owns
    by_cases same : d = c
    · simp [State.abandon, same] at owns
    · simpa [State.abandon, same] using owns
  refine ⟨fun d owns => inv.held d (before d owns),
    fun d e ownsD ownsE => inv.oneKey d e (before d ownsD) (before e ownsE), fun d => ?_⟩
  by_cases same : d = c
  · simp [State.abandon, same, Phase.Sound]
  · simpa [State.abandon, same] using inv.sound d

/-- A lease taken for a handler that is gone leaves every owner its own. -/
theorem orphan (inv : Inv cfg sessionId entry σ) {c : C} {phase : Phase}
    (free : σ.leases (leaseKey cfg sessionId entry c) = none) :
    Inv cfg sessionId entry ((σ.grant (leaseKey cfg sessionId entry c) c phase).abandon c) := by
  have before : ∀ d, ((σ.grant (leaseKey cfg sessionId entry c) c phase).abandon c).owns d = true →
      σ.owns d = true := by
    intro d owns
    by_cases same : d = c
    · simp [State.abandon, same] at owns
    · simpa [State.abandon, State.grant, same] using owns
  refine ⟨?_,
    fun d e ownsD ownsE => inv.oneKey d e (before d ownsD) (before e ownsE), ?_⟩
  · intro d owns
    have held := inv.held d (before d owns)
    have other : leaseKey cfg sessionId entry d ≠ leaseKey cfg sessionId entry c := by
      intro shared
      rw [shared, free] at held
      cases held
    simpa [State.abandon, State.grant, Function.update_of_ne other] using held
  · intro d
    by_cases same : d = c
    · simp [State.abandon, same, Phase.Sound]
    · simpa [State.abandon, State.grant, same] using inv.sound d

/-- The only owner deletes its own lease. -/
theorem drop (inv : Inv cfg sessionId entry σ) {c : C} {phase : Phase}
    (owns : σ.owns c = true) (sound : phase.Sound (entry c).isGrpc false) :
    Inv cfg sessionId entry (σ.drop (leaseKey cfg sessionId entry c) c phase) := by
  have unowned : ∀ d, (σ.drop (leaseKey cfg sessionId entry c) c phase).owns d = false := by
    intro d
    by_cases same : d = c
    · simp [State.drop, same]
    · have notOwner : σ.owns d ≠ true := fun ownsD => same (inv.exclusive d c ownsD owns)
      simpa [State.drop, same] using notOwner
  constructor
  · intro d ownsD
    rw [unowned] at ownsD
    cases ownsD
  · intro d e ownsD
    rw [unowned] at ownsD
    cases ownsD
  · intro d
    by_cases same : d = c
    · subst same
      simpa [State.drop] using sound
    · simpa [State.drop, same] using inv.sound d

omit [DecidableEq C] in
theorem expire (inv : Inv cfg sessionId entry σ) {key : String}
    (idle : ∀ c, σ.owns c = true → leaseKey cfg sessionId entry c ≠ key) :
    Inv cfg sessionId entry { σ with leases := Function.update σ.leases key none } := by
  refine ⟨?_, inv.oneKey, inv.sound⟩
  intro c owns
  simpa [Function.update_of_ne (idle c owns)] using inv.held c owns

end Inv

theorem step_inv {σ τ : State C} {action : Action C} (inv : Inv cfg sessionId entry σ)
    (disciplined : Disciplined cfg sessionId entry σ action)
    (stepped : step cfg sessionId entry σ action = some τ) : Inv cfg sessionId entry τ := by
  cases action with
  | acquire c =>
    simp only [step] at stepped
    split at stepped
    · split at stepped
      · rename_i free
        cases Option.some.inj stepped
        exact inv.grant free disciplined rfl
      · cases Option.some.inj stepped
        exact inv.moveTo trivial
    · contradiction
  | acquireFailed c =>
    simp only [step] at stepped
    split at stepped
    · cases Option.some.inj stepped
      exact inv.moveTo trivial
    · contradiction
  | acquireCancelled c sent =>
    simp only [step] at stepped
    split at stepped
    · by_cases grpc : (entry c).isGrpc = true
      · obtain ⟨⟨rfl, free⟩, agree⟩ := disciplined grpc
        simp only [grpc, free, and_self, if_true, Option.some.injEq] at stepped
        subst stepped
        exact inv.grant free agree ⟨rfl, fun _ => by simp⟩
      · simp only [grpc, if_false, Bool.false_eq_true] at stepped
        split at stepped
        · -- the lease outlives a cancelled WebSocket handler that never owned it
          rename_i free
          cases Option.some.inj stepped
          exact inv.orphan free.2
        · cases Option.some.inj stepped
          exact inv.moveTo trivial
    · contradiction
  | restore c result =>
    simp only [step] at stepped
    split at stepped
    · rename_i phase
      have owns : σ.owns c = true := by simpa only [phase, Phase.Sound] using inv.sound c
      cases result with
      | created | resumed =>
        cases Option.some.inj stepped
        exact inv.moveTo owns
      | refused =>
        cases Option.some.inj stepped
        exact inv.moveTo ⟨owns, fun _ => by simp⟩
      | raised =>
        simp only [Option.some.injEq] at stepped
        split at stepped
        · subst stepped
          exact inv.moveTo ⟨owns, fun _ => by simp⟩
        · subst stepped
          exact inv.abandon c
    · contradiction
  | write c kind =>
    have sound := inv.sound c
    simp only [step] at stepped
    split at stepped
    · rename_i phase
      cases Option.some.inj stepped
      rw [phase] at sound
      exact inv.moveTo sound
    · cases Option.some.inj stepped
      exact inv
    · cases Option.some.inj stepped
      exact inv
    · contradiction
  | leave c =>
    have sound := inv.sound c
    simp only [step] at stepped
    split at stepped
    · rename_i closed phase
      rw [phase] at sound
      cases Option.some.inj stepped
      by_cases grpc : (entry c).isGrpc = true
      · have already := disciplined grpc
        rw [phase] at already
        cases already
        rw [if_pos grpc]
        exact inv.moveTo ⟨sound, fun _ => by simp⟩
      · rw [if_neg grpc]
        exact inv.moveTo sound
    · contradiction
  | finalize c =>
    have sound := inv.sound c
    simp only [step] at stepped
    split at stepped
    · rename_i closed phase
      rw [phase] at sound
      cases Option.some.inj stepped
      exact inv.moveTo ⟨sound, fun _ => by simp⟩
    · contradiction
  | release c =>
    have sound := inv.sound c
    simp only [step] at stepped
    split at stepped
    · rename_i orchestrator phase
      rw [phase] at sound
      cases Option.some.inj stepped
      apply inv.drop sound.1
      cases orchestrator with
      | none => trivial
      | some closed =>
        by_cases grpc : (entry c).isGrpc = true
        · have notOpen := sound.2 grpc
          cases closed <;> simp_all [Phase.Sound]
        · simp [grpc, Phase.Sound]
    · contradiction
  | endReleased c =>
    simp only [step] at stepped
    split at stepped
    · cases Option.some.inj stepped
      exact inv.moveTo trivial
    · contradiction
  | crash c =>
    cases Option.some.inj stepped
    exact inv.abandon c
  | expire key =>
    cases Option.some.inj stepped
    exact inv.expire disciplined

/-- Where a handler may write to the repository, it owns the lease. -/
theorem Inv.writer_owns {σ : State C} {action : Action C} {c : C}
    (inv : Inv cfg sessionId entry σ) (taken : (step cfg sessionId entry σ action).isSome)
    (wrote : writer σ action = some c) : σ.owns c = true := by
  have sound := inv.sound c
  cases action with
  | restore d result =>
    cases result with
    | created =>
      cases Option.some.inj wrote
      simp only [step] at taken
      split at taken
      · rename_i phase
        rwa [phase] at sound
      · cases taken
    | resumed | refused | raised => cases wrote
  | write d kind =>
    cases Option.some.inj wrote
    simp only [step] at taken
    split at taken
    · rename_i phase
      rwa [phase] at sound
    · rename_i phase
      rwa [phase] at sound
    · rename_i phase
      rwa [phase] at sound
    · cases taken
  | finalize d =>
    simp only [writer] at wrote
    split at wrote
    · rename_i phase
      cases Option.some.inj wrote
      rwa [phase] at sound
    · cases wrote
  | endReleased d =>
    -- the invariant leaves no open orchestrator behind a released lease
    simp only [writer] at wrote
    split at wrote
    · rename_i phase
      cases Option.some.inj wrote
      rw [phase] at sound
      cases sound
    · cases wrote
  | _ => cases wrote

theorem Inv.safe {σ : State C} (inv : Inv cfg sessionId entry σ) :
    Safe cfg sessionId entry σ := by
  refine ⟨inv.exclusive, ?_, ?_⟩
  · intro c taken d lease
    have sound := inv.sound c
    simp only [step] at taken
    split at taken
    · rename_i orchestrator phase
      rw [phase] at sound
      rw [inv.held c sound.1] at lease
      exact (Option.some.inj lease).symm
    · cases taken
  · intro action c taken wrote
    exact inv.held c (inv.writer_owns cfg sessionId entry taken wrote)

theorem lease_mutual_exclusion (actions : List (Action C)) (σ : State C)
    (disciplined : Along (step cfg sessionId entry) (Disciplined cfg sessionId entry)
      (State.initial C) actions)
    (reached : exec (step cfg sessionId entry) (State.initial C) actions = some σ) :
    Safe cfg sessionId entry σ :=
  (exec_invariant (step_inv cfg sessionId entry) disciplined reached Inv.initial).safe

/-- A second connection is refused while the first serves its call, and takes
the lease after the first has ended it. -/
def handover : List (Action Bool) :=
  [.acquire false, .restore false .created, .write false .saveTurn, .leave false,
    .finalize false, .release false, .acquire true]

theorem lease_mutual_exclusion_handover :
    ∃ σ, exec (step Config.default "call-1" fun _ => .websocket "a") (State.initial Bool) handover =
        some σ ∧ Safe Config.default "call-1" (fun _ => .websocket "a") σ := by
  refine ⟨_, rfl, lease_mutual_exclusion _ _ _ handover _ ?_ rfl⟩
  simp [handover, Along, Disciplined, step, State.initial, State.grant, State.moveTo, State.drop,
    Entry.isGrpc, leaseKey]

/-- The first call outlives the thirty seconds of its lease. -/
def overrun : List (Action Bool) :=
  [.acquire false, .restore false .created,
    .expire (leaseKey Config.default "call-1" (fun _ : Bool => .websocket "a") false),
    .acquire true]

def socketAndStream : Bool → Entry
  | false => .websocket "a"
  | true => .grpc "a"

/-- The call ends in the stream's cleanup, after the release. -/
def lateEnd : List (Action Bool) :=
  [.acquire true, .restore true .created, .leave true, .release true]

theorem lease_not_exclusive :
    (∃ σ, exec (step Config.default "call-1" fun _ => .websocket "a") (State.initial Bool) overrun =
      some σ ∧ ¬Safe Config.default "call-1" (fun _ => .websocket "a") σ) ∧
    (∃ σ, exec (step Config.default "call-1" socketAndStream) (State.initial Bool)
      [.acquire false, .acquire true] = some σ ∧
      ¬Safe Config.default "call-1" socketAndStream σ) ∧
    ∃ σ, exec (step Config.default "call-1" socketAndStream) (State.initial Bool) lateEnd =
      some σ ∧ ¬Safe Config.default "call-1" socketAndStream σ := by
  refine ⟨⟨_, rfl, ?_⟩, ⟨_, rfl, ?_⟩, ⟨_, rfl, ?_⟩⟩
  · intro safe
    exact absurd (safe.exclusive false true rfl rfl) (by decide)
  · intro safe
    exact absurd (safe.exclusive false true rfl rfl) (by decide)
  · intro safe
    have held := safe.write_held (.endReleased true) true rfl rfl
    cases held

end AgentOE.Session.Lease
