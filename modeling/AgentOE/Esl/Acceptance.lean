import AgentOE.Esl.Cluster

/-! Whether a command that FreeSWITCH refuses is told from one that it accepts. `SendAPI`
returns the body of the reply, which carries the verdict, and the wrappers look at the
transport's error alone. -/
namespace AgentOE.Esl.Acceptance
open Text Cluster

/-- What `SendAPI` returns for the text that it sends. -/
abbrev SendAPI := Bytes → Except Bytes Bytes

/-- FreeSWITCH's verdict on a command, as its reply tells it. -/
structure Verdict where
  accepted : Bytes → Bool
  refusals : ∀ body, ascii "-ERR" <+: body ∨ ascii "-USAGE" <+: body → accepted body = false

/-- `_, err := c.SendAPI(..); return err`. -/
def errorOf (api : SendAPI) (text : Bytes) : Option Bytes :=
  match api text with
  | .error err => some err
  | .ok _ => none

def sendDtmf (api : SendAPI) (uuid digits : Bytes) : Option Bytes :=
  errorOf api (Command.sendDtmf uuid digits).text

def transfer (api : SendAPI) (uuid target : Bytes) : Option Bytes :=
  errorOf api (Command.transfer uuid target).text

def bridge (api : SendAPI) (uuidA uuidB : Bytes) : Option Bytes :=
  errorOf api (Command.bridge uuidA uuidB).text

def recordStart (api : SendAPI) (uuid path : Bytes) : Option Bytes :=
  errorOf api (Command.recordStart uuid path).text

def recordStop (api : SendAPI) (uuid : Bytes) : Option Bytes :=
  errorOf api (Command.recordStop uuid).text

def unbridgeText (uuid : Bytes) : Bytes := ascii "api uuid_transfer " ++ uuid ++ ascii " -both park"

def unbridge (api : SendAPI) (uuid : Bytes) : Option Bytes := errorOf api (unbridgeText uuid)

def killText (uuid : Bytes) : Bytes := ascii "api uuid_kill " ++ uuid

def kill (api : SendAPI) (uuid : Bytes) : Option Bytes := errorOf api (killText uuid)

/-- The commands whose wrappers return the error alone. -/
inductive Control where
  | sendDtmf (uuid digits : Bytes)
  | transfer (uuid target : Bytes)
  | bridge (uuidA uuidB : Bytes)
  | unbridge (uuid : Bytes)
  | recordStart (uuid path : Bytes)
  | recordStop (uuid : Bytes)
  | kill (uuid : Bytes)
  deriving DecidableEq

def Control.text : Control → Bytes
  | .sendDtmf uuid digits => (Command.sendDtmf uuid digits).text
  | .transfer uuid target => (Command.transfer uuid target).text
  | .bridge uuidA uuidB => (Command.bridge uuidA uuidB).text
  | .unbridge uuid => unbridgeText uuid
  | .recordStart uuid path => (Command.recordStart uuid path).text
  | .recordStop uuid => (Command.recordStop uuid).text
  | .kill uuid => killText uuid

/-- What the command's wrapper returns, `none` for a nil error. -/
def Control.run (api : SendAPI) : Control → Option Bytes
  | .sendDtmf uuid digits => Acceptance.sendDtmf api uuid digits
  | .transfer uuid target => Acceptance.transfer api uuid target
  | .bridge uuidA uuidB => Acceptance.bridge api uuidA uuidB
  | .unbridge uuid => Acceptance.unbridge api uuid
  | .recordStart uuid path => Acceptance.recordStart api uuid path
  | .recordStop uuid => Acceptance.recordStop api uuid
  | .kill uuid => Acceptance.kill api uuid

/-- The reply came and says that the command was accepted. -/
def Accepted (verdict : Verdict) (api : SendAPI) (control : Control) : Prop :=
  ∃ body, api control.text = .ok body ∧ verdict.accepted body = true

/-- No reply came. -/
def Failed (api : SendAPI) (control : Control) : Prop := ∃ err, api control.text = .error err

theorem errorOf_eq_none (api : SendAPI) (text : Bytes) :
    errorOf api text = none ↔ ∃ body, api text = .ok body := by
  cases sent : api text <;> simp [errorOf, sent]

theorem run_eq_errorOf (api : SendAPI) (control : Control) :
    control.run api = errorOf api control.text := by
  cases control <;> rfl

/-- A wrapper reports the verdict just when there is no reply or the reply accepts. -/
theorem run_faithful_iff (verdict : Verdict) (api : SendAPI) (control : Control) :
    (control.run api = none ↔ Accepted verdict api control) ↔
      ∀ body, api control.text = .ok body → verdict.accepted body = true := by
  rw [run_eq_errorOf, errorOf_eq_none]
  constructor
  · intro faithful body sent
    obtain ⟨same, replied, accepted⟩ := faithful.mp ⟨body, sent⟩
    cases sent.symm.trans replied
    exact accepted
  · intro accepts
    constructor
    · rintro ⟨body, sent⟩
      exact ⟨body, sent, accepts body sent⟩
    · rintro ⟨body, sent, _⟩
      exact ⟨body, sent⟩

/-! The endpoints. -/

def control? : EslCommand → Option Control
  | .command (.sendDtmf uuid digits) => some (.sendDtmf uuid digits)
  | .command (.transfer uuid target) => some (.transfer uuid target)
  | .command (.bridge uuidA uuidB) => some (.bridge uuidA uuidB)
  | .command (.recordStart uuid path) => some (.recordStart uuid path)
  | .command (.recordStop uuid) => some (.recordStop uuid)
  | .unbridge uuid => some (.unbridge uuid)
  | .command (.originate ..) | .command (.eavesdrop ..) | .command (.attendedTransfer ..) => none

/-- Each node has its own connection, and `eslOk` is that the wrapper returned nil. -/
def through (api : String → SendAPI) (env : Environment) : Environment :=
  { env with eslOk := fun node command => (control? command).elim true fun control => (control.run (api node)).isNone }

/-- Where a request leads before any command is answered. -/
inductive Plan where
  | refused
  | here (command : EslCommand)
  /-- Answered when the message is out. Its node sends the command, if it finds the session. -/
  | routed (target : String) (command : Option EslCommand)

section Plan
variable (env : Environment) (σ : State) (node : String)

/-- The command that `handleLocalCommand` sends. -/
def delivered (message : CommandMsg) : Option EslCommand :=
  (σ.get node message.sessionId).bind fun s => match message.action with
    | .dtmf digits => digits.map fun digits => .command (.sendDtmf s.fsUUID digits)
    | .transfer target => target.map fun target => .command (.transfer s.fsUUID target)
    | .recordStart => some (.command (.recordStart s.fsUUID (Node.recordPath s.sessionId)))
    | .recordStop => some (.command (.recordStop s.fsUUID))
    | .unknown _ => none

def route (target : String) (message : CommandMsg) : Plan :=
  if env.publishOk then .routed target (delivered σ target message) else .refused

def plan : ControlRequest → Plan
  | .sendDtmf callID digits => (σ.get node callID).elim .refused fun s =>
    if missing digits then .refused
    else if s.nodeId ≠ node then route env σ s.nodeId ⟨callID, .dtmf digits⟩
    else if !dtmfPattern (digits.getD []) then .refused
    else .here (.command (.sendDtmf s.fsUUID (digits.getD [])))
  | .transfer callID target => (σ.get node callID).elim .refused fun s =>
    if missing target ∨ !sipTargetPattern (target.getD []) then .refused
    else if s.nodeId ≠ node then route env σ s.nodeId ⟨callID, .transfer target⟩
    else .here (.command (.transfer s.fsUUID (target.getD [])))
  | .recordStart callID => (σ.get node callID).elim .refused fun s =>
    if s.nodeId ≠ node then route env σ s.nodeId ⟨callID, .recordStart⟩
    else .here (.command (.recordStart s.fsUUID (Node.recordPath callID)))
  | .recordStop callID => (σ.get node callID).elim .refused fun s =>
    .here (.command (.recordStop s.fsUUID))
  | .bridgeCalls fields => fields.elim .refused fun (callID1, callID2) =>
    match σ.get node callID1, σ.get node callID2 with
    | some sA, some sB => .here (.command (.bridge sA.fsUUID sB.fsUUID))
    | _, _ => .refused
  | .unbridgeCalls fields => fields.elim .refused fun (callID1, callID2) =>
    match σ.get node callID1, σ.get node callID2 with
    | some sA, some _ => .here (.unbridge sA.fsUUID)
    | _, _ => .refused

end Plan

/-- `bridgedWith`, `recordPath` and `aiPaused` of every session are as before, on every node and
in Redis. -/
def SameControl (σ τ : State) : Prop :=
  (∀ node id,
    (τ.locals node id).map SessionState.record = (σ.locals node id).map SessionState.record) ∧
    τ.redis = σ.redis

/-- `BridgeCalls` pauses the first call before it sends the command, and resumes it when that
fails. -/
def Unpaused (σ : State) (node : String) : ControlRequest → Prop
  | .bridgeCalls (some (callID1, _)) => ∀ s, σ.locals node callID1 = some s → s.aiPaused = false
  | _ => True

theorem SameControl.refl (σ : State) : SameControl σ σ := ⟨fun _ _ => rfl, rfl⟩

theorem SameControl.issue (σ : State) (node : String) (command : EslCommand) :
    SameControl σ (σ.issue node command) :=
  ⟨fun _ _ => rfl, rfl⟩

theorem failed_bridge_same_iff (σ : State) (node : String) (callID1 : Bytes)
    (command : EslCommand) : SameControl σ (((σ.modify node callID1
      (·.setAIPaused true)).issue node command).modify node callID1
      (·.setAIPaused false)) ↔ ∀ s, σ.locals node callID1 = some s → s.aiPaused = false := by
  constructor
  · rintro ⟨same, _⟩ s found
    have kept := same node callID1
    simp only [State.modify, State.issue, Function.update_self, found, Option.map_some,
      Option.some.injEq] at kept
    exact (congrArg Record.aiPaused kept).symm
  · intro unpaused
    refine ⟨fun n id => ?_, rfl⟩
    by_cases sameNode : n = node
    · subst sameNode
      by_cases sameCall : id = callID1
      · subst sameCall
        cases found : σ.locals n id with
        | none => simp [State.modify, State.issue, found]
        | some s =>
          simp [State.modify, State.issue, found, SessionState.record, SessionState.setAIPaused,
            unpaused s found]
      · simp [State.modify, State.issue, sameCall]
    · simp [State.modify, State.issue, sameNode]

/-- How a request ends, by the plan that it follows. -/
def Ends (env : Environment) (σ : State) (node : String) (request : ControlRequest)
    (served : State × Reply) : Plan → Prop
  | .refused => SameControl σ served.1 ∧ served.2.status ≠ 200
  | .here command =>
    if env.eslOk node command = true then served.2.status = 200
    else served.2.status ≠ 200 ∧ (SameControl σ served.1 ↔ Unpaused σ node request)
  | .routed _ _ => served.2.status = 200

section Ends
variable {env : Environment} {σ : State} {node : String}

theorem handle_of_unpublished {request : ControlRequest}
    (none : (serve env σ node request).2.published = none) :
    handle env σ node request = serve env σ node request := by
  simp only [handle, none]

theorem handle_status (request : ControlRequest) :
    (handle env σ node request).2 = (serve env σ node request).2 := by
  simp only [handle]
  split <;> rfl

theorem ends_route {request : ControlRequest} {target : String} {message : CommandMsg}
    (served : serve env σ node request = (σ, publishCommand env target message)) :
    Ends env σ node request (handle env σ node request) (route env σ target message) := by
  unfold route publishCommand at *
  split at served
  · rename_i published
    rw [if_pos published]
    simp only [Ends, handle_status, served]
  · rename_i lost
    rw [if_neg lost, handle_of_unpublished (by simp [served, Reply.of]), served]
    exact ⟨.refl σ, by simp [Reply.of]⟩

theorem ends_refused {request : ControlRequest} {status : Nat}
    (served : serve env σ node request = (σ, .of status)) (bad : status ≠ 200) :
    Ends env σ node request (handle env σ node request) .refused := by
  rw [handle_of_unpublished (by rw [served]; rfl), served]
  exact ⟨.refl σ, bad⟩

theorem ends_here {request : ControlRequest} {command : EslCommand}
    (ok : env.eslOk node command = true → (serve env σ node request).2 = .of 200)
    (failed : env.eslOk node command = false → ∃ τ, serve env σ node request = (τ, .of 500) ∧
      (SameControl σ τ ↔ Unpaused σ node request)) :
    Ends env σ node request (handle env σ node request) (.here command) := by
  by_cases accepted : env.eslOk node command = true
  · simp only [Ends, if_pos accepted, handle_status, ok accepted, Reply.of]
  · obtain ⟨τ, served, same⟩ := failed (Bool.eq_false_iff.mpr accepted)
    rw [handle_of_unpublished (by rw [served]; rfl), served]
    simp only [Ends, if_neg accepted]
    exact ⟨by decide, same⟩

theorem issue_same {request : ControlRequest} (command : EslCommand)
    (other : Unpaused σ node request) :
    SameControl σ (σ.issue node command) ↔ Unpaused σ node request :=
  iff_of_true (.issue σ node command) other

/-- The endpoints of one call look it up first. -/
theorem ends_lookup {request : ControlRequest} {callID : Bytes} {next : SessionState → Plan}
    (absent : σ.get node callID = none → serve env σ node request = (σ, .of 404))
    (present : ∀ s, σ.get node callID = some s →
      Ends env σ node request (handle env σ node request) (next s)) :
    Ends env σ node request (handle env σ node request)
      ((σ.get node callID).elim .refused next) := by
  cases found : σ.get node callID with
  | none => exact ends_refused (absent found) (by decide)
  | some s => exact present s found

theorem sendDtmf_ends (callID : Bytes) (digits : Option Bytes) :
    Ends env σ node (.sendDtmf callID digits)
    (handle env σ node (.sendDtmf callID digits)) (plan env σ node (.sendDtmf callID digits)) := by
  refine ends_lookup (fun none => by simp only [serve, Cluster.sendDtmf, none]) fun s found => ?_
  split
  · rename_i lacks
    exact ends_refused (by simp only [serve, Cluster.sendDtmf, found, if_pos lacks])
      (show 400 ≠ 200 by decide)
  rename_i given
  split
  · rename_i away
    exact ends_route (by simp only [serve, Cluster.sendDtmf, found, if_neg given, if_pos away])
  rename_i here
  split
  · rename_i bad
    exact ends_refused
      (by simp only [serve, Cluster.sendDtmf, found, if_neg given, if_neg here, if_pos bad])
      (show 400 ≠ 200 by decide)
  · rename_i good
    have served : serve env σ node (.sendDtmf callID digits) =
        (σ.issue node (.command (.sendDtmf s.fsUUID (digits.getD []))),
          .of (if env.eslOk node (.command (.sendDtmf s.fsUUID (digits.getD []))) then 200
              else 500)) := by
      simp only [serve, Cluster.sendDtmf, found, if_neg given, if_neg here, if_neg good]
    refine ends_here (fun ok => ?_) fun failed => ?_
    · rw [served, if_pos ok]
    · rw [served, failed]
      exact ⟨_, rfl, issue_same _ trivial⟩

theorem transfer_ends (callID : Bytes) (target : Option Bytes) :
    Ends env σ node (.transfer callID target)
    (handle env σ node (.transfer callID target)) (plan env σ node (.transfer callID target)) := by
  refine ends_lookup (fun none => by simp only [serve, Cluster.transfer, none]) fun s found => ?_
  split
  · rename_i bad
    refine ends_refused ?_ (show 400 ≠ 200 by decide)
    by_cases lacks : missing target = true
    · simp only [serve, Cluster.transfer, found, if_pos lacks]
    · simp only [serve, Cluster.transfer, found, if_neg lacks, if_pos (bad.resolve_left lacks)]
  rename_i good
  obtain ⟨given, valid⟩ := not_or.mp good
  split
  · rename_i away
    exact ends_route (by simp only [serve, Cluster.transfer, found, if_neg given, if_neg valid, if_pos away])
  · rename_i here
    refine ends_here (fun ok => ?_) fun failed => ?_
    · simp only [serve, Cluster.transfer, found, if_neg given, if_neg valid, if_neg here, if_pos ok]
    · refine ⟨_, ?_, issue_same (.command (.transfer s.fsUUID (target.getD []))) trivial⟩
      simp only [serve, Cluster.transfer, found, if_neg given, if_neg valid, if_neg here, failed,
        Bool.false_eq_true, if_false]

theorem recordStart_ends (callID : Bytes) : Ends env σ node (.recordStart callID)
    (handle env σ node (.recordStart callID)) (plan env σ node (.recordStart callID)) := by
  refine ends_lookup (fun none => by simp only [serve, Cluster.recordStart, none]) fun s found => ?_
  split
  · rename_i away
    exact ends_route (by simp only [serve, Cluster.recordStart, found, if_pos away])
  · rename_i here
    refine ends_here (fun ok => ?_) fun failed => ?_
    · simp only [serve, Cluster.recordStart, found, if_neg here, if_pos ok]
    · refine ⟨_, ?_, issue_same (.command (.recordStart s.fsUUID (Node.recordPath callID))) trivial⟩
      simp only [serve, Cluster.recordStart, found, if_neg here, failed, Bool.false_eq_true,
        if_false]

theorem recordStop_ends (callID : Bytes) : Ends env σ node (.recordStop callID)
    (handle env σ node (.recordStop callID)) (plan env σ node (.recordStop callID)) := by
  refine ends_lookup (fun none => by simp only [serve, Cluster.recordStop, none]) fun s found => ?_
  refine ends_here (fun ok => ?_) fun failed => ?_
  · simp only [serve, Cluster.recordStop, found, if_pos ok]
  · refine ⟨_, ?_, issue_same (.command (.recordStop s.fsUUID)) trivial⟩
    simp only [serve, Cluster.recordStop, found, failed, Bool.false_eq_true, if_false]

theorem bridgeCalls_ends (fields : Option (Bytes × Bytes)) : Ends env σ node (.bridgeCalls fields)
    (handle env σ node (.bridgeCalls fields)) (plan env σ node (.bridgeCalls fields)) := by
  cases fields with
  | none =>
    exact ends_refused (by simp only [serve, Cluster.bridgeCalls]) (show 400 ≠ 200 by decide)
  | some ids =>
    obtain ⟨callID1, callID2⟩ := ids
    cases foundA : σ.get node callID1 with
    | none =>
      simp only [plan, foundA, Option.elim]
      exact ends_refused (by simp only [serve, Cluster.bridgeCalls, foundA])
        (show 404 ≠ 200 by decide)
    | some sA =>
      cases foundB : σ.get node callID2 with
      | none =>
        simp only [plan, foundA, foundB, Option.elim]
        exact ends_refused (by simp only [serve, Cluster.bridgeCalls, foundA, foundB])
          (show 404 ≠ 200 by decide)
      | some sB =>
        simp only [plan, foundA, foundB, Option.elim]
        refine ends_here (fun ok => ?_) fun failed => ?_
        · simp only [serve, Cluster.bridgeCalls, foundA, foundB, if_pos ok]
        · refine ⟨_, ?_, failed_bridge_same_iff σ node callID1
            (.command (.bridge sA.fsUUID sB.fsUUID))⟩
          simp only [serve, Cluster.bridgeCalls, foundA, foundB, failed, Bool.false_eq_true,
            if_false]

theorem unbridgeCalls_ends (fields : Option (Bytes × Bytes)) :
    Ends env σ node (.unbridgeCalls fields)
    (handle env σ node (.unbridgeCalls fields)) (plan env σ node (.unbridgeCalls fields)) := by
  cases fields with
  | none =>
    exact ends_refused (by simp only [serve, Cluster.unbridgeCalls]) (show 400 ≠ 200 by decide)
  | some ids =>
    obtain ⟨callID1, callID2⟩ := ids
    cases foundA : σ.get node callID1 with
    | none =>
      simp only [plan, foundA, Option.elim]
      exact ends_refused (by simp only [serve, Cluster.unbridgeCalls, foundA])
        (show 404 ≠ 200 by decide)
    | some sA =>
      cases foundB : σ.get node callID2 with
      | none =>
        simp only [plan, foundA, foundB, Option.elim]
        exact ends_refused (by simp only [serve, Cluster.unbridgeCalls, foundA, foundB])
          (show 404 ≠ 200 by decide)
      | some sB =>
        simp only [plan, foundA, foundB, Option.elim]
        refine ends_here (fun ok => ?_) fun failed => ?_
        · simp only [serve, Cluster.unbridgeCalls, foundA, foundB, if_pos ok]
        · refine ⟨_, ?_, issue_same (.unbridge sA.fsUUID) trivial⟩
          simp only [serve, Cluster.unbridgeCalls, foundA, foundB, failed, Bool.false_eq_true,
            if_false]

theorem handle_ends (request : ControlRequest) :
    Ends env σ node request (handle env σ node request) (plan env σ node request) := by
  cases request with
  | sendDtmf callID digits => exact sendDtmf_ends callID digits
  | transfer callID target => exact transfer_ends callID target
  | recordStart callID => exact recordStart_ends callID
  | recordStop callID => exact recordStop_ends callID
  | bridgeCalls fields => exact bridgeCalls_ends fields
  | unbridgeCalls fields => exact unbridgeCalls_ends fields

end Ends

/-- The node's command has been accepted. -/
def Taken (verdict : Verdict) (api : String → SendAPI) (node : String) (command : EslCommand) :
    Prop :=
  ∃ control, control? command = some control ∧ Accepted verdict (api node) control

def Unanswered (api : String → SendAPI) (node : String) (command : EslCommand) : Prop :=
  ∃ control, control? command = some control ∧ Failed (api node) control

/-- The command that the request leads to has been accepted. -/
def Plan.Taken (verdict : Verdict) (api : String → SendAPI) (node : String) : Plan → Prop
  | .refused => False
  | .here command => Acceptance.Taken verdict api node command
  | .routed target command => ∃ c, command = some c ∧ Acceptance.Taken verdict api target c

/-- The request succeeds and changes a session only for an accepted command. -/
def Honest (verdict : Verdict) (api : String → SendAPI) (env : Environment) (σ : State)
    (node : String) (request : ControlRequest) : Prop :=
  let (τ, reply) := handle (through api env) σ node request
  reply.status = 200 ∨ ¬SameControl σ τ → (plan env σ node request).Taken verdict api node

/-- When that is so. -/
def Plan.Answered (verdict : Verdict) (api : String → SendAPI) (σ : State) (node : String)
    (request : ControlRequest) : Plan → Prop
  | .refused => True
  | .here command =>
    Acceptance.Taken verdict api node command ∨
      Unanswered api node command ∧ Unpaused σ node request
  | .routed target command => ∃ c, command = some c ∧ Acceptance.Taken verdict api target c

theorem through_ok_iff {api : String → SendAPI} {env : Environment} {node : String}
    {command : EslCommand} {control : Control} (known : control? command = some control) :
    (through api env).eslOk node command = true ↔ ∃ body, api node control.text = .ok body := by
  simp only [through, known, Option.elim, Option.isNone_iff_eq_none, run_eq_errorOf,
    errorOf_eq_none]

/-- Every command that a request sends has a wrapper. -/
theorem plan_known {env : Environment} {σ : State} {node : String} {request : ControlRequest}
    (sends : plan env σ node request = .here command) :
    ∃ control, control? command = some control := by
  have routes {target message} : route env σ target message ≠ .here command := by
    unfold route
    split <;> simp
  cases request with
  | sendDtmf callID digits =>
    cases found : σ.get node callID with
    | none => simp [plan, found] at sends
    | some s =>
      simp only [plan, found, Option.elim] at sends
      split at sends
      · cases sends
      split at sends
      · exact absurd sends routes
      split at sends <;> cases sends
      exact ⟨_, rfl⟩
  | transfer callID target =>
    cases found : σ.get node callID with
    | none => simp [plan, found] at sends
    | some s =>
      simp only [plan, found, Option.elim] at sends
      split at sends
      · cases sends
      split at sends
      · exact absurd sends routes
      · cases sends
        exact ⟨_, rfl⟩
  | recordStart callID =>
    cases found : σ.get node callID with
    | none => simp [plan, found] at sends
    | some s =>
      simp only [plan, found, Option.elim] at sends
      split at sends
      · exact absurd sends routes
      · cases sends
        exact ⟨_, rfl⟩
  | recordStop callID =>
    cases found : σ.get node callID with
    | none => simp [plan, found] at sends
    | some s =>
      simp only [plan, found, Option.elim] at sends
      cases sends
      exact ⟨_, rfl⟩
  | bridgeCalls fields | unbridgeCalls fields =>
    cases fields with
    | none => cases sends
    | some ids =>
      simp only [plan, Option.elim] at sends
      split at sends <;> cases sends
      exact ⟨_, rfl⟩

theorem honest_iff (verdict : Verdict) (api : String → SendAPI) (env : Environment) (σ : State)
    (node : String) (request : ControlRequest) : Honest verdict api env σ node request ↔
      (plan env σ node request).Answered verdict api σ node request := by
  have ends : Ends (through api env) σ node request (handle (through api env) σ node request)
      (plan env σ node request) := handle_ends request
  unfold Honest
  cases sends : plan env σ node request with
  | refused =>
    rw [sends] at ends
    obtain ⟨same, bad⟩ := ends
    simp only [Plan.Taken, Plan.Answered, iff_true]
    rintro (good | changed)
    · exact bad good
    · exact changed same
  | routed target command =>
    rw [sends] at ends
    simp only [Ends] at ends
    simp only [Plan.Taken, Plan.Answered, ends, true_or, true_implies]
  | here command =>
    rw [sends] at ends
    obtain ⟨control, known⟩ := plan_known sends
    simp only [Plan.Taken, Plan.Answered]
    by_cases ok : (through api env).eslOk node command = true
    · simp only [Ends, if_pos ok] at ends
      obtain ⟨body, replied⟩ := (through_ok_iff known).mp ok
      have answered : ¬Unanswered api node command := by
        rintro ⟨other, also, err, unsent⟩
        cases known.symm.trans also
        cases replied.symm.trans unsent
      simp only [ends, answered, true_or, true_implies, false_and, or_false]
    · simp only [Ends, if_neg ok] at ends
      obtain ⟨bad, same⟩ := ends
      have unanswered : Unanswered api node command := by
        cases sent : api node control.text with
        | error err => exact ⟨control, known, err, sent⟩
        | ok body => exact absurd ((through_ok_iff known).mpr ⟨body, sent⟩) ok
      have untaken : ¬Acceptance.Taken verdict api node command := by
        rintro ⟨other, also, body, replied, _⟩
        cases known.symm.trans also
        exact ok ((through_ok_iff known).mpr ⟨body, replied⟩)
      simp only [bad, untaken, unanswered, false_or, true_and, imp_false, not_not, same]

/-- The wrappers tell refusal from acceptance, and the endpoints act on acceptance alone, exactly
where replies accept (or no reply comes for a command that changes nothing on failure). -/
theorem control_acceptance_iff (verdict : Verdict) (api : String → SendAPI) :
    (∀ node control, (control.run (api node) = none ↔ Accepted verdict (api node) control) ↔
      ∀ body, api node control.text = .ok body → verdict.accepted body = true) ∧
    ∀ env σ node request, Honest verdict api env σ node request ↔
      (plan env σ node request).Answered verdict api σ node request :=
  ⟨fun node control => run_faithful_iff verdict (api node) control, honest_iff verdict api⟩

/-- A reply is a refusal just when it starts as one. -/
def byPrefix : Verdict where
  accepted body := !(ascii "-ERR").isPrefixOf body && !(ascii "-USAGE").isPrefixOf body
  refusals body refused := by
    rcases refused with refused | refused <;> simp [List.isPrefixOf_iff_prefix.mpr refused]

def noSuchChannel (_ : String) : SendAPI := fun _ => .ok (ascii "-ERR No such channel!\n")

def oneCall : State := State.empty.add (newSession "n1" (ascii "c1") (ascii "u1"))

def steady : Environment := ⟨fun _ _ => true, true, true, true⟩

/-- `uuid_record` is refused, its wrapper returns nil, and the path is set and answered with 200. -/
theorem refused_record_answered :
    ¬∀ (verdict : Verdict) (api : String → SendAPI), (∀ node control,
      control.run (api node) = none ↔ Accepted verdict (api node) control) ∧
      ∀ env σ node request, Honest verdict api env σ node request := by
  intro claim
  obtain ⟨faithful, honest⟩ := claim byPrefix noSuchChannel
  have untaken (control : Control) : ¬Accepted byPrefix (noSuchChannel "n1") control := by
    rintro ⟨body, sent, accepted⟩
    cases sent
    exact absurd accepted (by decide)
  have recorded : ((handle (through noSuchChannel steady) oneCall "n1"
      (.recordStart (ascii "c1"))).2.status = 200) :=
    by decide
  obtain ⟨control, _, accepted⟩ :=
    honest steady oneCall "n1" (.recordStart (ascii "c1")) (.inl recorded)
  exact untaken control accepted

end AgentOE.Esl.Acceptance
