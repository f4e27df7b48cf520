import AgentOE.Esl.Commands

/-! The call-control endpoints and the command handler behind pub/sub: which
requests they accept and which command they send. Request fields are the decoded
JSON, `none` where it does not decode. -/
namespace AgentOE.Esl

/-- Generated here or by FreeSWITCH: hexadecimal digits and hyphens. -/
structure Uuid where
  text : Bytes
  valid : ∀ b ∈ text, (unhex b).isSome ∨ b = 45

structure Session where
  sessionId : Uuid
  fsUUID : Uuid
  nodeId : String

/-- `^[0-9*#A-D]{1,20}$`. -/
def dtmfPattern (digits : Bytes) : Bool :=
  1 ≤ digits.length && digits.length ≤ 20 &&
    digits.all fun b => isDigit b || b = 42 || b = 35 || (65 ≤ b && b ≤ 68)

/-- Up to 256 letters, digits and `@ . _ : - /`. -/
def sipTargetPattern (target : Bytes) : Bool :=
  1 ≤ target.length && target.length ≤ 256 &&
    target.all fun b => (97 ≤ b && b ≤ 122) || (65 ≤ b && b ≤ 90) || isDigit b ||
      b = 64 || b = 46 || b = 95 || b = 58 || b = 45 || b = 47

inductive CommandAction where
  | dtmf (digits : Option Bytes)
  | transfer (target : Option Bytes)
  | recordStart
  | recordStop
  | unknown (action : String)

structure CommandMsg where
  sessionId : Bytes
  action : CommandAction

inductive Request where
  | createCall (fields : Option (Bytes × Bytes))
  | sendDtmf (callID : Bytes) (digits : Option Bytes)
  | transfer (callID : Bytes) (target : Option Bytes)
  | attendedTransfer (callID : Bytes) (target : Option Bytes)
  | recordStart (callID : Bytes)
  | eavesdrop (callID : Bytes) (supervisorUUID : Option Bytes)
  | bridge (fields : Option (Bytes × Bytes))
  /-- A message delivered to `HandleLocalCommand`. -/
  | delivered (message : CommandMsg)

/-- The node that serves the request. `fresh` is the next `uuid.New()`. -/
structure Node where
  nodeId : String
  useStandby : Bool
  underCapacity : Bool
  fresh : Uuid
  sessions : List Session

inductive Outcome where
  | rejected (status : Nat) (error : String)
  | published (nodeId : String) (message : CommandMsg)
  | send (command : Command)
  /-- A pub/sub message that is only logged. -/
  | dropped

namespace Node
variable (node : Node)

def get (callID : Bytes) : Option Session :=
  node.sessions.find? fun s => s.sessionId.text = callID

def createCall (fields : Option (Bytes × Bytes)) : Outcome :=
  match fields with
  | none => .rejected 400 "invalid request body"
  | some (targetURI, callerID) =>
    if targetURI = [] then .rejected 400 "target_uri is required"
    else if node.underCapacity then
      .send (.originate node.fresh.text targetURI callerID node.useStandby)
    else .rejected 503 "capacity exceeded"

/-- The session of the call, or `404`. -/
def withSession (callID : Bytes) (next : Session → Outcome) : Outcome :=
  (node.get callID).elim (.rejected 404 "session not found") next

/-- A field that has to be there and not empty, or `400`. -/
def required (field : Option Bytes) (error : String) (next : Bytes → Outcome) : Outcome :=
  match field with
  | none => .rejected 400 error
  | some text => if text = [] then .rejected 400 error else next text

/-- The digits are checked only when the call is on this node. -/
def sendDtmf (callID : Bytes) (digits : Option Bytes) : Outcome :=
  node.withSession callID fun s => required digits "digits required" fun digits =>
    if s.nodeId ≠ node.nodeId then .published s.nodeId ⟨callID, .dtmf (some digits)⟩
    else if dtmfPattern digits then .send (.sendDtmf s.fsUUID.text digits)
    else .rejected 400 "invalid digits format (allowed: 0-9*#A-D, max 20)"

def transfer (callID : Bytes) (target : Option Bytes) : Outcome :=
  node.withSession callID fun s => required target "target required" fun target =>
    if sipTargetPattern target then
      if s.nodeId ≠ node.nodeId then .published s.nodeId ⟨callID, .transfer (some target)⟩
      else .send (.transfer s.fsUUID.text target)
    else .rejected 400 "invalid target format"

def attendedTransfer (callID : Bytes) (target : Option Bytes) : Outcome :=
  node.withSession callID fun s => required target "target required" fun target =>
    if sipTargetPattern target then .send (.attendedTransfer s.fsUUID.text target)
    else .rejected 400 "invalid target format"

def recordPath (id : Bytes) : Bytes := ascii "/recordings/" ++ id ++ ascii ".wav"

def recordStart (callID : Bytes) : Outcome :=
  node.withSession callID fun s =>
    if s.nodeId ≠ node.nodeId then .published s.nodeId ⟨callID, .recordStart⟩
    else .send (.recordStart s.fsUUID.text (recordPath callID))

/-- `supervisor_uuid` is not checked. -/
def eavesdrop (callID : Bytes) (supervisorUUID : Option Bytes) : Outcome :=
  node.withSession callID fun s =>
    required supervisorUUID "supervisor_uuid required" fun supervisorUUID =>
      .send (.eavesdrop supervisorUUID s.fsUUID.text)

def bridgeCalls (fields : Option (Bytes × Bytes)) : Outcome :=
  match fields with
  | none => .rejected 400 "invalid request"
  | some (callID1, callID2) =>
    match node.get callID1, node.get callID2 with
    | some sA, some sB => .send (.bridge sA.fsUUID.text sB.fsUUID.text)
    | _, _ => .rejected 404 "one or both sessions not found"

/-- Nothing in the payload is checked. -/
def handleLocalCommand (message : CommandMsg) : Outcome :=
  match node.get message.sessionId with
  | none => .dropped
  | some s => match message.action with
    | .dtmf (some digits) => .send (.sendDtmf s.fsUUID.text digits)
    | .transfer (some target) => .send (.transfer s.fsUUID.text target)
    | .recordStart => .send (.recordStart s.fsUUID.text (recordPath s.sessionId.text))
    | .recordStop => .send (.recordStop s.fsUUID.text)
    | .dtmf none | .transfer none | .unknown _ => .dropped

def serve : Request → Outcome
  | .createCall fields => node.createCall fields
  | .sendDtmf callID digits => node.sendDtmf callID digits
  | .transfer callID target => node.transfer callID target
  | .attendedTransfer callID target => node.attendedTransfer callID target
  | .recordStart callID => node.recordStart callID
  | .eavesdrop callID supervisorUUID => node.eavesdrop callID supervisorUUID
  | .bridge fields => node.bridgeCalls fields
  | .delivered message => node.handleLocalCommand message

end Node

/-- The fields that no endpoint checks hold no separator of their place. -/
def Request.Clean : Request → Prop
  | .createCall (some (targetURI, callerID)) => LegTarget targetURI ∧ VariableValue callerID
  | .eavesdrop _ (some supervisorUUID) => Plain supervisorUUID
  | .delivered ⟨_, .dtmf (some digits)⟩ => Plain digits
  | .delivered ⟨_, .transfer (some target)⟩ => Plain target
  | _ => True

theorem Uuid.inert (uuid : Uuid) : Inert uuid.text := by
  refine inert_of_class (fun b => (unhex b).isSome || b = 45) (by decide +kernel) fun b mem => ?_
  simpa using uuid.valid b mem

theorem dtmfPattern_inert (accepted : dtmfPattern digits = true) : Inert digits := by
  simp only [dtmfPattern, Bool.and_eq_true, List.all_eq_true] at accepted
  exact inert_of_class _ (by decide +kernel) accepted.2

theorem sipTargetPattern_inert (accepted : sipTargetPattern target = true) : Inert target := by
  simp only [sipTargetPattern, Bool.and_eq_true, List.all_eq_true] at accepted
  exact inert_of_class _ (by decide +kernel) accepted.2

theorem recordPath_inert (id : Inert text) : Inert (Node.recordPath text) := by
  have around : (∀ b ∈ ascii "/recordings/", b ∉ separators) ∧
      ∀ b ∈ ascii ".wav", b ∉ separators := by
    decide +kernel
  intro b mem
  rcases List.mem_append.mp mem with mem | mem
  · rcases List.mem_append.mp mem with mem | mem
    · exact around.1 b mem
    · exact id b mem
  · exact around.2 b mem

namespace Node
variable {node : Node} {command : Command}

theorem get_sessionId (found : node.get callID = some s) : s.sessionId.text = callID := by
  simpa using List.find?_some found

theorem withSession_send {next : Session → Outcome}
    (sent : node.withSession callID next = .send command) :
    ∃ s, node.get callID = some s ∧ next s = .send command := by
  unfold withSession at sent
  cases found : node.get callID with
  | none =>
    rw [found] at sent
    cases sent
  | some s =>
    rw [found] at sent
    exact ⟨s, rfl, sent⟩

theorem required_send {next : Bytes → Outcome} (sent : required field error next = .send command) :
    ∃ text, field = some text ∧ next text = .send command := by
  unfold required at sent
  split at sent
  · cases sent
  · rename_i text
    split at sent
    · cases sent
    · exact ⟨text, rfl, sent⟩

theorem createCall_oneFrame (sent : node.createCall fields = .send command) :
    OneFrame command ↔ (Request.createCall fields).Clean := by
  unfold createCall at sent
  split at sent
  · cases sent
  · split at sent
    · cases sent
    · split at sent
      · cases sent
        exact oneFrame_originate node.fresh.inert
      · cases sent

theorem sendDtmf_oneFrame (sent : node.sendDtmf callID digits = .send command) :
    OneFrame command := by
  obtain ⟨s, -, present⟩ := withSession_send sent
  obtain ⟨digits, rfl, checked⟩ := required_send present
  split at checked
  · cases checked
  · split at checked
    · rename_i accepted
      cases checked
      exact (oneFrame_sendDtmf s.fsUUID.inert).mpr (dtmfPattern_inert accepted).plain
    · cases checked

theorem transfer_oneFrame (sent : node.transfer callID target = .send command) :
    OneFrame command := by
  obtain ⟨s, -, present⟩ := withSession_send sent
  obtain ⟨target, rfl, checked⟩ := required_send present
  split at checked
  · rename_i accepted
    split at checked
    · cases checked
    · cases checked
      exact (oneFrame_transfer s.fsUUID.inert).mpr (sipTargetPattern_inert accepted).plain
  · cases checked

theorem attendedTransfer_oneFrame (sent : node.attendedTransfer callID target = .send command) :
    OneFrame command := by
  obtain ⟨s, -, present⟩ := withSession_send sent
  obtain ⟨target, rfl, checked⟩ := required_send present
  split at checked
  · rename_i accepted
    cases checked
    exact oneFrame_attendedTransfer s.fsUUID.inert (sipTargetPattern_inert accepted)
  · cases checked

/-- The path is built from the id in the request, which is that of a session. -/
theorem recordStart_oneFrame (sent : node.recordStart callID = .send command) :
    OneFrame command := by
  obtain ⟨s, found, present⟩ := withSession_send sent
  split at present
  · cases present
  · cases present
    have id : Inert callID := get_sessionId found ▸ s.sessionId.inert
    exact oneFrame_recordStart s.fsUUID.inert (recordPath_inert id)

theorem eavesdrop_oneFrame (sent : node.eavesdrop callID supervisorUUID = .send command) :
    OneFrame command ↔ (Request.eavesdrop callID supervisorUUID).Clean := by
  obtain ⟨s, -, present⟩ := withSession_send sent
  obtain ⟨supervisorUUID, rfl, checked⟩ := required_send present
  cases checked
  exact oneFrame_eavesdrop s.fsUUID.inert

theorem bridgeCalls_oneFrame (sent : node.bridgeCalls fields = .send command) :
    OneFrame command := by
  unfold bridgeCalls at sent
  split at sent
  · cases sent
  · split at sent
    · rename_i sA sB foundA foundB
      cases sent
      exact oneFrame_bridge sA.fsUUID.inert sB.fsUUID.inert
    · cases sent

theorem handleLocalCommand_oneFrame (sent : node.handleLocalCommand message = .send command) :
    OneFrame command ↔ (Request.delivered message).Clean := by
  obtain ⟨sessionId, action⟩ := message
  unfold handleLocalCommand at sent
  split at sent
  · cases sent
  · rename_i s found
    cases action with
    | dtmf digits =>
      cases digits with
      | none => cases sent
      | some digits =>
        cases sent
        exact oneFrame_sendDtmf s.fsUUID.inert
    | transfer target =>
      cases target with
      | none => cases sent
      | some target =>
        cases sent
        exact oneFrame_transfer s.fsUUID.inert
    | recordStart =>
      cases sent
      exact iff_true_intro
        (oneFrame_recordStart s.fsUUID.inert (recordPath_inert s.sessionId.inert))
    | recordStop =>
      cases sent
      exact iff_true_intro (oneFrame_recordStop s.fsUUID.inert)
    | unknown name => cases sent

end Node

/-- A command is one frame exactly when the unchecked fields of its request are
clean. -/
theorem command_one_frame_iff (node : Node) (request : Request) (command : Command)
    (sent : node.serve request = .send command) : OneFrame command ↔ request.Clean := by
  cases request with
  | createCall fields => exact Node.createCall_oneFrame sent
  | sendDtmf callID digits => exact iff_true_intro (Node.sendDtmf_oneFrame sent)
  | transfer callID target => exact iff_true_intro (Node.transfer_oneFrame sent)
  | attendedTransfer callID target => exact iff_true_intro (Node.attendedTransfer_oneFrame sent)
  | recordStart callID => exact iff_true_intro (Node.recordStart_oneFrame sent)
  | eavesdrop callID supervisorUUID => exact Node.eavesdrop_oneFrame sent
  | bridge fields => exact iff_true_intro (Node.bridgeCalls_oneFrame sent)
  | delivered message => exact Node.handleLocalCommand_oneFrame sent

def callId : Uuid := ⟨ascii "6ba7b810-9dad", by decide +kernel⟩

def desk : Node := ⟨"node-1", false, true, callId, [⟨callId, callId, "node-1"⟩]⟩

theorem command_one_frame_supervised :
    desk.serve (.eavesdrop callId.text (some (ascii "ab12"))) =
        .send (.eavesdrop (ascii "ab12") callId.text) ∧
      (OneFrame (.eavesdrop (ascii "ab12") callId.text) ↔
        (Request.eavesdrop callId.text (some (ascii "ab12"))).Clean) :=
  ⟨rfl, command_one_frame_iff desk _ _ rfl⟩

/-- A supervisor id, a dialled number and routed digits that bring a command of
their own. -/
theorem command_injected : ∃ listen dial tones,
    desk.serve (.eavesdrop callId.text (some (ascii "x\n\napi hupall"))) = .send listen ∧
    desk.serve (.createCall (some (ascii "100 &bridge(user/1)", []))) = .send dial ∧
    desk.serve (.delivered ⟨callId.text, .dtmf (some (ascii "1\n\napi hupall"))⟩) = .send tones ∧
    ¬OneFrame listen ∧ ¬OneFrame dial ∧ ¬OneFrame tones := by
  refine ⟨_, _, _, rfl, rfl, rfl, fun frame => ?_, fun frame => ?_, fun frame => ?_⟩
  · have plain := (oneFrame_eavesdrop callId.inert).mp frame
    revert plain
    decide
  · have clean := (oneFrame_originate callId.inert).mp frame
    revert clean
    decide
  · have plain := (oneFrame_sendDtmf callId.inert).mp frame
    revert plain
    decide

end AgentOE.Esl
