import AgentOE.Delivery
import AgentOE.Transition

/-! The playback path of a bridge session: `aiResponseLoop` and `txLoop` over `ttsCh`, and
the barge-in that drains the channel while it is being read. A label is one step of one
loop, so a list of labels is an interleaving. -/
namespace AgentOE.Bridge.Playback
open Transition Delivery

/-- `audioData` is empty where the field is nil. -/
structure Response where
  clearBuffer : Bool
  audioData : List UInt8
  deriving DecidableEq

/-- `response` is history: the number of the response that carried the audio. -/
structure Frame where
  response : Nat
  data : List UInt8
  deriving DecidableEq

/-- `aiResponseLoop`, with the audio of the response that it is at. -/
inductive Ai where
  | receiving
  | draining (audio : Option Frame)
  /-- The request that tells the orchestrator of the barge-in is under way. -/
  | notifying (audio : Option Frame)
  | routing (audio : Option Frame)
  | stopped
  deriving DecidableEq

/-- `stopped` has the frame whose write failed. -/
inductive Tx where
  | receiving
  | received (frame : Frame)
  | writing (frame : Frame)
  | stopped (frame : Option Frame)
  deriving DecidableEq

inductive Loss where
  | channelFull
  | drained
  | aiPaused
  deriving DecidableEq

/-- `responses`, `frames`, `lost` and `written` are history. -/
structure State where
  ttsCh : List Frame := []
  ai : Ai := .receiving
  tx : Tx := .receiving
  done : Bool := false
  responses : Nat := 0
  frames : List Frame := []
  lost : List (Frame × Loss) := []
  written : List Frame := []
  deriving DecidableEq

def ttsChCap : Nat := 1000

inductive Label where
  /-- The context is cancelled by another goroutine. -/
  | cancel
  | recv (response : Response)
  | recvError
  /-- `Drain` receives a frame. -/
  | drainFrame
  /-- `Drain` finds the channel empty. -/
  | drainReturn
  | notified
  | route
  | aiDone
  | receive
  | load (aiPaused : Bool)
  | write
  | writeError
  | txDone
  deriving DecidableEq

def Response.frame (response : Response) (number : Nat) : Option Frame :=
  if response.audioData = [] then none else some ⟨number, response.audioData⟩

/-- The channel is closed only after both loops have returned. -/
def step (s : State) : Label → Option State
  | .cancel => some { s with done := true }
  | .recv response => match s.ai with
    | .receiving =>
      let audio := response.frame s.responses
      some { s with
        ai := if response.clearBuffer then .draining audio else .routing audio
        responses := s.responses + 1
        frames := s.frames ++ audio.toList }
    | _ => none
  | .recvError => match s.ai with
    | .receiving => some { s with ai := .stopped, done := true }
    | _ => none
  | .drainFrame => match s.ai, s.ttsCh with
    | .draining _, frame :: rest =>
      some { s with ttsCh := rest, lost := s.lost ++ [(frame, .drained)] }
    | _, _ => none
  | .drainReturn => match s.ai, s.ttsCh with
    | .draining audio, [] => some { s with ai := .notifying audio }
    | _, _ => none
  | .notified => match s.ai with
    | .notifying audio => some { s with ai := .routing audio }
    | _ => none
  | .route => match s.ai with
    | .routing none => some { s with ai := .receiving }
    | .routing (some frame) =>
      if s.ttsCh.length < ttsChCap then
        some { s with ai := .receiving, ttsCh := s.ttsCh ++ [frame] }
      else some { s with ai := .receiving, lost := s.lost ++ [(frame, .channelFull)] }
    | _ => none
  | .aiDone => match s.ai with
    | .receiving => if s.done then some { s with ai := .stopped } else none
    | _ => none
  | .receive => match s.tx, s.ttsCh with
    | .receiving, frame :: rest => some { s with tx := .received frame, ttsCh := rest }
    | _, _ => none
  | .load aiPaused => match s.tx with
    | .received frame =>
      if aiPaused then some { s with tx := .receiving, lost := s.lost ++ [(frame, .aiPaused)] }
      else some { s with tx := .writing frame }
    | _ => none
  | .write => match s.tx with
    | .writing frame => some { s with tx := .receiving, written := s.written ++ [frame] }
    | _ => none
  | .writeError => match s.tx with
    | .writing frame => some { s with tx := .stopped (some frame), done := true }
    | _ => none
  | .txDone => match s.tx with
    | .receiving => if s.done then some { s with tx := .stopped none } else none
    | _ => none

/-- The audio that `aiResponseLoop` has yet to route. -/
def Ai.audio : Ai → Option Frame
  | .draining audio | .notifying audio | .routing audio => audio
  | .receiving | .stopped => none

/-- The frame that `txLoop` has taken from the channel. -/
def Tx.frame : Tx → Option Frame
  | .received frame | .writing frame => some frame
  | .stopped frame => frame
  | .receiving => none

/-- The frames on their way, in the order in which they are to be written. -/
def State.underWay (s : State) : List Frame := s.tx.frame.toList ++ s.ttsCh ++ s.ai.audio.toList

def State.lostFrames (s : State) : List Frame := s.lost.map Prod.fst

/-- What a step does to the frames on their way. -/
inductive Moves (s t : State) : Prop where
  | pass (out : List Frame) (written : t.written = s.written ++ out)
      (underWay : s.underWay = out ++ t.underWay) (frames : t.frames = s.frames)
      (lost : t.lost = s.lost) (responses : s.responses ≤ t.responses)
  | give (frame : Frame) (number : frame.response = s.responses) (written : t.written = s.written)
      (underWay : t.underWay = s.underWay ++ [frame]) (frames : t.frames = s.frames ++ [frame])
      (lost : t.lost = s.lost) (responses : t.responses = s.responses + 1)
  | lose (front : List Frame) (frame : Frame) (back : List Frame) (loss : Loss)
      (written : t.written = s.written) (before : s.underWay = front ++ frame :: back)
      (after : t.underWay = front ++ back) (frames : t.frames = s.frames)
      (lost : t.lost = s.lost ++ [(frame, loss)]) (responses : t.responses = s.responses)

theorem Moves.still (written : t.written = s.written) (underWay : t.underWay = s.underWay)
    (frames : t.frames = s.frames) (lost : t.lost = s.lost)
    (responses : s.responses ≤ t.responses) : Moves s t :=
  .pass [] (by simp [written]) (by simp [underWay]) frames lost responses

theorem step_moves (stepped : step s l = some t) : Moves s t := by
  obtain ⟨ttsCh, ai, tx, done, responses, frames, lost, written⟩ := s
  cases l with
  | cancel =>
    cases stepped
    exact .still rfl rfl rfl rfl (Nat.le_refl _)
  | recv response =>
    cases ai with
    | receiving =>
      cases stepped
      by_cases silent : response.audioData = []
      · refine .still rfl ?_ ?_ rfl (Nat.le_succ _)
        · cases clear : response.clearBuffer <;>
            simp [State.underWay, Ai.audio, Response.frame, silent]
        · simp [Response.frame, silent]
      · refine .give ⟨responses, response.audioData⟩ rfl rfl ?_ ?_ rfl rfl
        · cases clear : response.clearBuffer <;>
            simp [State.underWay, Ai.audio, Response.frame, silent]
        · simp [Response.frame, silent]
    | _ => cases stepped
  | recvError =>
    cases ai with
    | receiving =>
      cases stepped
      exact .still rfl rfl rfl rfl (Nat.le_refl _)
    | _ => cases stepped
  | drainFrame =>
    cases ai with
    | draining audio =>
      cases ttsCh with
      | nil => cases stepped
      | cons frame rest =>
        cases stepped
        exact .lose tx.frame.toList frame (rest ++ audio.toList) .drained rfl
          (by simp [State.underWay, Ai.audio])
          (by simp [State.underWay, Ai.audio]) rfl rfl rfl
    | _ => cases stepped
  | drainReturn =>
    cases ai with
    | draining audio =>
      cases ttsCh with
      | nil =>
        cases stepped
        exact .still rfl rfl rfl rfl (Nat.le_refl _)
      | cons frame rest => cases stepped
    | _ => cases stepped
  | notified =>
    cases ai with
    | notifying audio =>
      cases stepped
      exact .still rfl rfl rfl rfl (Nat.le_refl _)
    | _ => cases stepped
  | route =>
    cases ai with
    | routing audio =>
      cases audio with
      | none =>
        cases stepped
        exact .still rfl rfl rfl rfl (Nat.le_refl _)
      | some frame =>
        simp only [step] at stepped
        split at stepped
        · cases stepped
          exact .still rfl (by simp [State.underWay, Ai.audio]) rfl rfl (Nat.le_refl _)
        · cases stepped
          exact .lose (tx.frame.toList ++ ttsCh) frame [] .channelFull rfl
            (by simp [State.underWay, Ai.audio])
            (by simp [State.underWay, Ai.audio]) rfl rfl rfl
    | _ => cases stepped
  | aiDone =>
    cases ai with
    | receiving =>
      simp only [step, Option.ite_none_right_eq_some] at stepped
      obtain ⟨_, stepped⟩ := stepped
      cases stepped
      exact .still rfl rfl rfl rfl (Nat.le_refl _)
    | _ => cases stepped
  | receive =>
    cases tx with
    | receiving =>
      cases ttsCh with
      | nil => cases stepped
      | cons frame rest =>
        cases stepped
        exact .still rfl rfl rfl rfl (Nat.le_refl _)
    | _ => cases stepped
  | load aiPaused =>
    cases tx with
    | received frame =>
      cases aiPaused with
      | true =>
        cases stepped
        exact .lose [] frame (ttsCh ++ ai.audio.toList) .aiPaused rfl rfl rfl rfl rfl rfl
      | false =>
        cases stepped
        exact .still rfl rfl rfl rfl (Nat.le_refl _)
    | _ => cases stepped
  | write =>
    cases tx with
    | writing frame =>
      cases stepped
      exact .pass [frame] rfl rfl rfl rfl (Nat.le_refl _)
    | _ => cases stepped
  | writeError =>
    cases tx with
    | writing frame =>
      cases stepped
      exact .still rfl rfl rfl rfl (Nat.le_refl _)
    | _ => cases stepped
  | txDone =>
    cases tx with
    | receiving =>
      simp only [step, Option.ite_none_right_eq_some] at stepped
      obtain ⟨_, stepped⟩ := stepped
      cases stepped
      exact .still rfl rfl rfl rfl (Nat.le_refl _)
    | _ => cases stepped

/-- `aiResponseLoop` is at the response that came last. -/
def Ai.busy : Ai → Bool
  | .draining _ | .notifying _ | .routing _ => true
  | .receiving | .stopped => false

structure Inv (s : State) : Prop where
  balanced : Balanced s.frames (s.written ++ s.underWay) s.lostFrames
  ordered : s.frames.Pairwise (·.response < ·.response)
  numbered : ∀ frame ∈ s.frames, frame.response < s.responses
  current : ∀ frame, s.ai.audio = some frame → frame.response + 1 = s.responses
  newest : s.ai.busy = true → ∀ frame ∈ s.frames, frame.response + 1 = s.responses →
    s.ai.audio = some frame

theorem Inv.nodup (inv : Inv s) : s.frames.Nodup :=
  inv.ordered.imp fun lower same => absurd (congrArg Frame.response same) (Nat.ne_of_lt lower)

theorem start_inv : Inv {} where
  balanced := .nil
  ordered := .nil
  numbered := by simp
  current := by simp [Ai.audio]
  newest := by simp [Ai.busy]

/-- `aiResponseLoop` leaves a response with nothing to route, or stays at it, or is at a new one. -/
inductive Turns (s t : State) : Prop where
  | stay (audio : t.ai.audio = s.ai.audio) (busy : t.ai.busy = s.ai.busy)
      (frames : t.frames = s.frames) (responses : t.responses = s.responses)
  | leave (audio : t.ai.audio = none) (busy : t.ai.busy = false)
  | start (frames : t.frames = s.frames ++ t.ai.audio.toList)
      (responses : t.responses = s.responses + 1)
      (number : ∀ frame, t.ai.audio = some frame → frame.response = s.responses)

theorem step_turns (stepped : step s l = some t) : Turns s t := by
  obtain ⟨ttsCh, ai, tx, done, responses, frames, lost, written⟩ := s
  cases l with
  | recv response =>
    cases ai with
    | receiving =>
      cases stepped
      have audio : (if response.clearBuffer then Ai.draining (response.frame responses)
          else .routing (response.frame responses)).audio = response.frame responses := by
        split <;> rfl
      refine .start ?_ rfl ?_
      · simp only [audio]
      · intro frame same
        rw [audio, Response.frame, Option.ite_none_left_eq_some] at same
        obtain ⟨_, same⟩ := same
        cases same
        rfl
    | _ => cases stepped
  | cancel =>
    cases stepped
    exact .stay rfl rfl rfl rfl
  | recvError | notified =>
    cases ai <;> cases stepped
    exact .stay rfl rfl rfl rfl
  | drainFrame | drainReturn =>
    cases ai <;> cases ttsCh <;> cases stepped
    exact .stay rfl rfl rfl rfl
  | route =>
    cases ai with
    | routing audio =>
      cases audio with
      | none =>
        cases stepped
        exact .leave rfl rfl
      | some frame =>
        simp only [step] at stepped
        split at stepped <;> cases stepped <;> exact .leave rfl rfl
    | _ => cases stepped
  | aiDone =>
    cases ai with
    | receiving =>
      simp only [step, Option.ite_none_right_eq_some] at stepped
      obtain ⟨_, stepped⟩ := stepped
      cases stepped
      exact .leave rfl rfl
    | _ => cases stepped
  | receive =>
    cases tx <;> cases ttsCh <;> cases stepped
    exact .stay rfl rfl rfl rfl
  | load aiPaused =>
    cases tx <;> cases aiPaused <;> cases stepped <;> exact .stay rfl rfl rfl rfl
  | write | writeError =>
    cases tx <;> cases stepped
    exact .stay rfl rfl rfl rfl
  | txDone =>
    cases tx with
    | receiving =>
      simp only [step, Option.ite_none_right_eq_some] at stepped
      obtain ⟨_, stepped⟩ := stepped
      cases stepped
      exact .stay rfl rfl rfl rfl
    | _ => cases stepped

theorem step_current (before : Inv s) (stepped : step s l = some t) :
    (∀ frame, t.ai.audio = some frame → frame.response + 1 = t.responses) ∧
    (t.ai.busy = true → ∀ frame ∈ t.frames, frame.response + 1 = t.responses →
      t.ai.audio = some frame) := by
  rcases step_turns stepped with ⟨audio, busy, frames, responses⟩ | ⟨audio, busy⟩ |
    ⟨frames, responses, number⟩
  · rw [audio, busy, frames, responses]
    exact ⟨before.current, before.newest⟩
  · rw [audio, busy]
    exact ⟨by simp, by simp⟩
  · rw [frames, responses]
    refine ⟨fun frame same => by rw [number frame same], fun _ frame mem last => ?_⟩
    rcases List.mem_append.mp mem with mem | mem
    · have lower := before.numbered frame mem
      omega
    · exact Option.mem_toList.mp mem

theorem step_inv (before : Inv s) (stepped : step s l = some t) : Inv t := by
  obtain ⟨current, newest⟩ := step_current before stepped
  have balanced := before.balanced
  rcases step_moves stepped with ⟨out, written, underWay, frames, lost, responses⟩ |
    ⟨frame, number, written, underWay, frames, lost, responses⟩ |
    ⟨front, frame, back, loss, written, underWay, after, frames, lost, responses⟩
  · refine ⟨?_, ?_, ?_, current, newest⟩
    · rw [frames, State.lostFrames, lost, written, List.append_assoc, ← underWay]
      exact balanced
    · exact frames ▸ before.ordered
    · rw [frames]
      exact fun f mem => Nat.lt_of_lt_of_le (before.numbered f mem) responses
  · refine ⟨?_, ?_, ?_, current, newest⟩
    · rw [frames, State.lostFrames, lost, written, underWay, ← List.append_assoc]
      exact balanced.give frame
    · rw [frames, List.pairwise_append]
      refine ⟨before.ordered, List.pairwise_singleton _ _, fun f mem g isNew => ?_⟩
      obtain rfl := List.mem_singleton.mp isNew
      exact number ▸ before.numbered f mem
    · rw [frames, responses]
      intro f mem
      rcases List.mem_append.mp mem with mem | mem
      · exact Nat.lt_succ_of_lt (before.numbered f mem)
      · obtain rfl := List.mem_singleton.mp mem
        exact number ▸ Nat.lt_succ_self _
  · refine ⟨?_, ?_, ?_, current, newest⟩
    · rw [underWay, ← List.append_assoc] at balanced
      rw [frames, State.lostFrames, lost, written, after, List.map_append, ← List.append_assoc]
      exact balanced.lose
    · exact frames ▸ before.ordered
    · rw [frames, responses]
      exact before.numbered

theorem reached_inv (run : exec step {} ls = some s) : Inv s :=
  exec_preserves Inv (fun _ _ _ before stepped => step_inv before stepped) run start_inv

/-- The frame was received before the last one of that many responses. -/
def Frame.before (responses : Nat) (frame : Frame) : Bool := frame.response + 1 < responses

/-- What a run has written since `u`, and how many frames from before the response that `u` is
at it has written or may still write. -/
def Since (u t : State) : Prop :=
  u.responses ≤ t.responses ∧ ∃ new, t.written = u.written ++ new ∧
    ((new ++ t.underWay).filter (·.before u.responses)).length ≤ 1

theorem step_since (before : Since u s) (stepped : step s l = some t) : Since u t := by
  obtain ⟨later, new, written, few⟩ := before
  rcases step_moves stepped with ⟨out, passed, underWay, _, _, responses⟩ |
    ⟨frame, number, same, underWay, _, _, responses⟩ |
    ⟨front, frame, back, _, same, underWay, after, _, _, responses⟩
  · refine ⟨Nat.le_trans later responses, new ++ out, ?_, ?_⟩
    · rw [passed, written, List.append_assoc]
    · rwa [List.append_assoc, ← underWay]
  · refine ⟨by omega, new, same.trans written, ?_⟩
    have isNew : frame.before u.responses = false := by
      simp only [Frame.before, decide_eq_false_iff_not]
      omega
    rw [underWay, ← List.append_assoc, List.filter_append]
    simpa [isNew] using few
  · refine ⟨responses ▸ later, new, same.trans written, ?_⟩
    have fewer : List.Sublist (new ++ t.underWay) (new ++ s.underWay) := by
      rw [underWay, after]
      exact ((List.sublist_cons_self frame back).append_left front).append_left new
    exact Nat.le_trans (fewer.filter _).length_le few

theorem drainReturn_inv (stepped : step s .drainReturn = some t) :
    s.ttsCh = [] ∧ ∃ audio, s.ai = .draining audio ∧ t = { s with ai := .notifying audio } := by
  obtain ⟨ttsCh, ai, tx, done, responses, frames, lost, written⟩ := s
  cases ai with
  | draining audio =>
    cases ttsCh with
    | nil =>
      cases stepped
      exact ⟨rfl, audio, rfl, rfl⟩
    | cons frame rest => cases stepped
  | _ => cases stepped

/-- At the return of `Drain` only the frame that `txLoop` holds is left of the old ones. -/
theorem drained_since (before : Inv s) (stepped : step s .drainReturn = some u) : Since u u := by
  have inv := step_inv before stepped
  obtain ⟨empty, audio, _, rfl⟩ := drainReturn_inv stepped
  refine ⟨Nat.le_refl _, [], (List.append_nil _).symm, ?_⟩
  have pending : audio.toList.filter (Frame.before s.responses) = [] := by
    rw [List.filter_eq_nil_iff]
    intro frame mem
    have number : frame.response + 1 = s.responses := inv.current frame (Option.mem_toList.mp mem)
    simp [Frame.before, number]
  have held : s.tx.frame.toList.length ≤ 1 := by cases s.tx.frame <;> simp
  simp only [State.underWay, Ai.audio, empty, List.append_nil, List.nil_append, List.filter_append,
    pending]
  exact Nat.le_trans (List.length_filter_le _ _) held

/-- Nothing of the response that `Drain` is called for, or of a later one, has been written. -/
theorem drained_written (before : Inv s) (stepped : step s .drainReturn = some u) :
    ∀ frame ∈ u.written, frame.before u.responses = true := by
  have inv := step_inv before stepped
  obtain ⟨empty, audio, _, rfl⟩ := drainReturn_inv stepped
  intro frame mem
  have known : frame ∈ s.frames := inv.balanced.order.subset (List.mem_append_left _ mem)
  have lower := inv.numbered frame known
  by_contra new
  simp only [Frame.before, decide_eq_true_eq] at new
  have pending : audio = some frame :=
    inv.newest rfl frame known (show frame.response + 1 = s.responses by
    simp only at lower new
    omega)
  have twice : frame ∈ (State.underWay { s with ai := .notifying audio }) := by
    simp [State.underWay, Ai.audio, pending]
  exact List.disjoint_of_nodup_append (inv.balanced.order.nodup inv.nodup) mem twice

/-- After `Drain` has returned: the frames written from then on hold at most one that was
received before the clear_buffer, and those received with or after it and not lost are written
once each and in order, or still on their way. -/
theorem barge_in_flushes (drain : exec step {} (past ++ [.drainReturn]) = some u)
    (run : exec step u rest = some t) :
    ∃ new, t.written = u.written ++ new ∧ (new.filter (·.before u.responses)).length ≤ 1 ∧
      t.frames.Nodup ∧
      (t.frames.filter fun frame => !frame.before u.responses && frame ∉ t.lostFrames) =
        (new ++ t.underWay).filter (!·.before u.responses) := by
  obtain ⟨s, walked, last⟩ := exec_append.mp drain
  obtain ⟨v, stepped, same⟩ := exec_cons.mp last
  cases Option.some.inj same
  have before := reached_inv walked
  have inv : Inv t := reached_inv (exec_append.mpr ⟨u, drain, run⟩)
  obtain ⟨_, new, written, few⟩ :=
    exec_preserves (Since u) (fun _ _ _ => step_since) run (drained_since before stepped)
  refine ⟨new, written, ?_, inv.nodup, ?_⟩
  · rw [List.filter_append, List.length_append] at few
    omega
  · have old : u.written.filter (!·.before u.responses) = [] := by
      rw [List.filter_eq_nil_iff]
      intro frame mem
      simp [drained_written before stepped frame mem]
    rw [← List.filter_filter, inv.balanced.filter_eq inv.nodup, written, List.append_assoc,
      List.filter_append, old, List.nil_append]

/-- Two frames, of which one is taken before the barge-in that carries a third. -/
def bargedIn : List Label :=
  [.recv ⟨false, [1]⟩, .route, .recv ⟨false, [2]⟩, .route, .receive, .recv ⟨true, [3]⟩, .drainFrame]

def flushed : State where
  ai := .notifying (some ⟨2, [3]⟩)
  tx := .received ⟨0, [1]⟩
  responses := 3
  frames := [⟨0, [1]⟩, ⟨1, [2]⟩, ⟨2, [3]⟩]
  lost := [(⟨1, [2]⟩, .drained)]

def played : State :=
  { flushed with ai := .receiving, tx := .receiving, written := [⟨0, [1]⟩, ⟨2, [3]⟩] }

theorem bargedIn_flushes : ∃ new, played.written = flushed.written ++ new ∧
    (new.filter (·.before flushed.responses)).length ≤ 1 ∧ played.frames.Nodup ∧
    (played.frames.filter fun frame =>
      !frame.before flushed.responses && frame ∉ played.lostFrames) =
      (new ++ played.underWay).filter (!·.before flushed.responses) := by
  have drain : exec step {} (bargedIn ++ [.drainReturn]) = some flushed := by decide
  have run : exec step flushed [.load false, .notified, .write, .route, .receive, .load false,
      .write] = some played := by decide
  exact barge_in_flushes drain run

def firstBarge : State where
  ai := .notifying (some ⟨0, [1]⟩)
  responses := 1
  frames := [⟨0, [1]⟩]

def secondBarge : State where
  ai := .notifying none
  responses := 2
  frames := [⟨0, [1]⟩]
  lost := [(⟨0, [1]⟩, .drained)]

/-- A frame that comes with one clear_buffer is drained for the next one. -/
theorem second_barge_in_drains : ¬∀ past u rest t, exec step {} (past ++ [.drainReturn]) = some u →
    exec step u rest = some t → t.underWay = [] →
    (t.frames.filter fun frame => !frame.before u.responses && (frame, .channelFull) ∉ t.lost &&
      (frame, .aiPaused) ∉ t.lost) = t.written.filter (!·.before u.responses) := by
  intro allWritten
  have drain : exec step {} ([.recv ⟨true, [1]⟩] ++ [.drainReturn]) = some firstBarge := by decide
  have again : exec step firstBarge [.notified, .route, .recv ⟨true, []⟩, .drainFrame,
      .drainReturn] = some secondBarge := by decide
  exact absurd (allWritten _ _ _ _ drain again (by decide)) (by decide)

end AgentOE.Bridge.Playback
