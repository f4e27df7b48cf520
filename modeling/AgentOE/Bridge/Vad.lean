import Mathlib.Algebra.Ring.Nat
import Mathlib.Data.List.Basic
import AgentOE.Transition

/-! Voice activity in the bridge: frames of any size are cut into windows of 512
samples, and every frame is sent with a flag. The model behind the decisions is
arbitrary, with whatever it remembers from window to window. -/
namespace AgentOE.Bridge

def vadWindowSamples : Nat := 512

/-- Little-endian, with an odd byte at the end discarded. -/
def bytesToInt16 : List UInt8 → List Int
  | low :: high :: rest =>
    let word : Int := low.toNat + 256 * high.toNat
    (if word < 32768 then word else word - 65536) :: bytesToInt16 rest
  | _ => []

/-- The average amplitude of a window, against a threshold. -/
def energyDetect (samples : List Int) : Bool :=
  if samples = [] then false else 800 < (samples.map Int.natAbs).sum / samples.length

variable {H : Type}

/-- `H` are the hidden tensors. A run that fails gives no probability. -/
structure Engine (H : Type) where
  session : Option (H → List Int → Option Bool × H)

/-- `infer`, or the energy of the window where there is no model or it fails. -/
def Engine.infer (engine : Engine H) (hidden : H) (window : List Int) : Bool × H :=
  match engine.session with
  | none => (energyDetect window, hidden)
  | some run => match run hidden window with
    | (some speech, hidden) => (speech, hidden)
    | (none, hidden) => (energyDetect window, hidden)

structure Instance (H : Type) where
  buffer : List Int
  hidden : H

/-- The loop over the complete windows. The flag is that of the last one. -/
def drain (infer : H → List Int → Bool × H) (inst : Instance H) (isSpeaking : Bool) :
    Bool × Instance H :=
  if vadWindowSamples ≤ inst.buffer.length then
    let (speech, hidden) := infer inst.hidden (inst.buffer.take vadWindowSamples)
    drain infer ⟨inst.buffer.drop vadWindowSamples, hidden⟩ speech
  else (isSpeaking, inst)
termination_by inst.buffer.length
decreasing_by
  simp only [List.length_drop, vadWindowSamples] at *
  omega

def processWith (infer : H → List Int → Bool × H) (inst : Instance H) (pcm : List UInt8) :
    Bool × Instance H :=
  drain infer { inst with buffer := inst.buffer ++ bytesToInt16 pcm } false

/-- `Instance.Process`. -/
def Engine.process (engine : Engine H) : Instance H → List UInt8 → Bool × Instance H :=
  processWith engine.infer

/-- A build without cgo has no model. -/
def stubInfer : Unit → List Int → Bool × Unit := fun _ window => (energyDetect window, ())

/-- `Engine.Process` of such a build. -/
def stubProcess : Instance Unit → List UInt8 → Bool × Instance Unit := processWith stubInfer

/-- The flags that `vadGrpcLoop` sends with its frames. -/
def flags (process : Instance H → List UInt8 → Bool × Instance H) (inst : Instance H) :
    List (List UInt8) → List Bool
  | [] => []
  | frame :: frames => (process inst frame).1 :: flags process (process inst frame).2 frames

/-! The decisions over a whole stream. -/

/-- The decisions of all complete windows, and what the model and the buffer hold
after them. -/
def scan (infer : H → List Int → Bool × H) (inst : Instance H) : List Bool × Instance H :=
  if vadWindowSamples ≤ inst.buffer.length then
    let (speech, hidden) := infer inst.hidden (inst.buffer.take vadWindowSamples)
    let (speeches, left) := scan infer ⟨inst.buffer.drop vadWindowSamples, hidden⟩
    (speech :: speeches, left)
  else ([], inst)
termination_by inst.buffer.length
decreasing_by
  simp only [List.length_drop, vadWindowSamples] at *
  omega

/-- The decision of the window that was completed last, `false` before the first. -/
def held (infer : H → List Int → Bool × H) (hidden : H) (pcm : List UInt8) : Bool :=
  (scan infer ⟨bytesToInt16 pcm, hidden⟩).1.getLast?.getD false

/-- The decision in force at the end of each frame. -/
def heldFlags (infer : H → List Int → Bool × H) (hidden : H) (past : List UInt8) :
    List (List UInt8) → List Bool
  | [] => []
  | frame :: frames =>
    held infer hidden (past ++ frame) :: heldFlags infer hidden (past ++ frame) frames

/-- The frame completes a window of the stream. -/
def Completes (past frame : List UInt8) : Prop :=
  vadWindowSamples ≤ past.length / 2 % vadWindowSamples + frame.length / 2

instance (past frame : List UInt8) : Decidable (Completes past frame) :=
  inferInstanceAs (Decidable (_ ≤ _))

/-- The falling edges that the reader of the flags takes for ends of speech. -/
def falls : Bool → List Bool → Nat
  | _, [] => 0
  | last, now :: rest => (if last && !now then 1 else 0) + falls now rest

/-- The flags of the frames follow the windows, and do not break continuous speech. -/
structure Unchopped (infer : H → List Int → Bool × H) (hidden : H) (frames : List (List UInt8))
    (sent : List Bool) : Prop where
  decided : sent = heldFlags infer hidden [] frames
  unbroken : (∀ speech ∈ (scan infer ⟨bytesToInt16 frames.flatten, hidden⟩).1, speech = true) →
    falls false sent = 0 ∧
    ∀ before frame after, frames = before ++ frame :: after →
      vadWindowSamples ≤ (bytesToInt16 (before.flatten ++ frame)).length →
      sent[before.length]? = some true

/-- The next frame completes a window, or the last one was no speech. -/
def Settled (infer : H → List Int → Bool × H) (hidden : H) (past frame : List UInt8) : Prop :=
  Completes past frame ∨ held infer hidden past = false

/-- Every frame that comes while the last window was speech completes another one. -/
def AllSettled (infer : H → List Int → Bool × H) (hidden : H) : List (List UInt8) → Prop :=
  Transition.Along (fun past frame => some (past ++ frame)) (Settled infer hidden) []

section Scan
variable (infer : H → List Int → Bool × H)

theorem scan_short {inst : Instance H} (short : ¬vadWindowSamples ≤ inst.buffer.length) :
    scan infer inst = ([], inst) := by
  rw [scan, if_neg short]

theorem scan_window {inst : Instance H} (enough : vadWindowSamples ≤ inst.buffer.length) :
    scan infer inst =
      let (speech, hidden) := infer inst.hidden (inst.buffer.take vadWindowSamples)
      let (speeches, left) := scan infer ⟨inst.buffer.drop vadWindowSamples, hidden⟩
      (speech :: speeches, left) := by
  rw [scan, if_pos enough]

/-- The loop keeps the last decision, or the flag it started with. -/
theorem drain_eq (inst : Instance H) (isSpeaking : Bool) :
    drain infer inst isSpeaking =
      ((scan infer inst).1.getLast?.getD isSpeaking, (scan infer inst).2) := by
  induction inst, isSpeaking using drain.induct infer with
  | case1 inst isSpeaking enough speech hidden decided ih =>
    rw [drain, if_pos enough, scan_window infer enough, decided]
    simp only [ih]
    cases (scan infer ⟨inst.buffer.drop vadWindowSamples, hidden⟩).1 with
    | nil => rfl
    | cons first rest => simp [List.getLast?_cons]
  | case2 inst isSpeaking short =>
    rw [drain, if_neg short, scan_short infer short]
    rfl

/-- Samples that arrive later continue where the scan stopped. -/
theorem scan_append (inst : Instance H) (samples : List Int) :
    scan infer { inst with buffer := inst.buffer ++ samples } =
      let (speeches, left) := scan infer inst
      let (more, final) := scan infer { left with buffer := left.buffer ++ samples }
      (speeches ++ more, final) := by
  induction inst using scan.induct infer with
  | case1 inst enough speech hidden decided _ _ _ ih =>
    have longer : vadWindowSamples ≤ (inst.buffer ++ samples).length := by
      rw [List.length_append]
      omega
    rw [scan_window infer enough, scan_window infer longer]
    simp only [List.take_append_of_le_length enough, List.drop_append_of_le_length enough, decided]
    simp only [ih, List.cons_append]
  | case2 inst short => rw [scan_short infer short]; rfl

/-- The rest that no window has used yet. -/
theorem scan_left (inst : Instance H) :
    (scan infer inst).2.buffer.length = inst.buffer.length % vadWindowSamples := by
  induction inst using scan.induct infer with
  | case1 inst enough speech hidden decided _ _ _ ih =>
    rw [scan_window infer enough, decided]
    rw [List.length_drop, ← Nat.mod_eq_sub_mod enough] at ih
    exact ih
  | case2 inst short =>
    rw [scan_short infer short]
    have fits : inst.buffer.length < vadWindowSamples := by omega
    exact (Nat.mod_eq_of_lt fits).symm

theorem scan_nil_iff (inst : Instance H) :
    (scan infer inst).1 = [] ↔ ¬vadWindowSamples ≤ inst.buffer.length := by
  by_cases enough : vadWindowSamples ≤ inst.buffer.length
  · rw [scan_window infer enough]
    simp [enough]
  · rw [scan_short infer enough]
    simp [enough]

end Scan

theorem bytesToInt16_length (pcm : List UInt8) : (bytesToInt16 pcm).length = pcm.length / 2 := by
  induction pcm using bytesToInt16.induct with
  | case1 low high rest ih =>
    simp only [bytesToInt16, List.length_cons, ih]
    omega
  | case2 pcm short =>
    rw [bytesToInt16]
    · match pcm, short with
      | [], _ => rfl
      | [_], _ => simp
      | low :: high :: rest, short => exact absurd rfl (short low high rest)
    · exact short

/-- Frames of even length do not split a sample. -/
theorem bytesToInt16_append {past : List UInt8} (even : past.length % 2 = 0) (frame : List UInt8) :
    bytesToInt16 (past ++ frame) = bytesToInt16 past ++ bytesToInt16 frame := by
  induction past using bytesToInt16.induct with
  | case1 low high rest ih =>
    simp only [List.length_cons] at even
    simp only [List.cons_append, bytesToInt16, ih (by omega)]
  | case2 past short =>
    match past, short with
    | [], _ => rfl
    | [_], _ => simp at even
    | low :: high :: rest, short => exact absurd rfl (short low high rest)

section Frames
variable (infer : H → List Int → Bool × H) (hidden : H)

/-- The instance after a stream. -/
def after (past : List UInt8) : Instance H := (scan infer ⟨bytesToInt16 past, hidden⟩).2

/-- What the windows that a frame completes decide. -/
def completed (past frame : List UInt8) : List Bool :=
  let inst := after infer hidden past
  (scan infer { inst with buffer := inst.buffer ++ bytesToInt16 frame }).1

variable {past : List UInt8} (even : past.length % 2 = 0) (frame : List UInt8)
include even

theorem scan_frame : scan infer ⟨bytesToInt16 (past ++ frame), hidden⟩ =
    ((scan infer ⟨bytesToInt16 past, hidden⟩).1 ++ completed infer hidden past frame,
      after infer hidden (past ++ frame)) := by
  have split := scan_append infer ⟨bytesToInt16 past, hidden⟩ (bytesToInt16 frame)
  simp only [← bytesToInt16_append even] at split
  refine Prod.ext ?_ rfl
  rw [split]
  rfl

/-- Earlier windows are decided as before. -/
theorem decisions_past
    (speech : ∀ decided ∈ (scan infer ⟨bytesToInt16 (past ++ frame), hidden⟩).1, decided = true) :
    ∀ decided ∈ (scan infer ⟨bytesToInt16 past, hidden⟩).1, decided = true := by
  intro decided mem
  rw [scan_frame infer hidden even] at speech
  exact speech decided (List.mem_append_left _ mem)

theorem processWith_after : processWith infer (after infer hidden past) frame =
    ((completed infer hidden past frame).getLast?.getD false,
      after infer hidden (past ++ frame)) := by
  have split := scan_append infer ⟨bytesToInt16 past, hidden⟩ (bytesToInt16 frame)
  simp only [← bytesToInt16_append even] at split
  rw [processWith, drain_eq]
  exact Prod.ext rfl (congrArg Prod.snd split).symm

theorem held_append : held infer hidden (past ++ frame) =
    (completed infer hidden past frame).getLast?.getD (held infer hidden past) := by
  rw [held, scan_frame infer hidden even, List.getLast?_append]
  cases (completed infer hidden past frame).getLast? <;> rfl

omit even in
theorem completed_nil_iff : completed infer hidden past frame = [] ↔ ¬Completes past frame := by
  rw [completed, scan_nil_iff]
  simp only [List.length_append, after, scan_left, bytesToInt16_length, Completes]

/-- One frame: the flag is the decision in force unless it is dropped. -/
theorem flag_held_iff : (processWith infer (after infer hidden past) frame).1 =
    held infer hidden (past ++ frame) ↔ Settled infer hidden past frame := by
  rw [processWith_after infer hidden even, held_append infer hidden even, Settled]
  by_cases none : completed infer hidden past frame = []
  · have open_window := (completed_nil_iff infer hidden frame).1 none
    rw [none]
    exact ⟨fun same => .inr same.symm, fun settled => (settled.resolve_left open_window).symm⟩
  · have closes : Completes past frame := by
      by_contra open_window
      exact none ((completed_nil_iff infer hidden frame).2 open_window)
    have last := List.getLast?_eq_some_getLast none
    rw [last]
    exact ⟨fun _ => .inl closes, fun _ => rfl⟩

omit frame in
theorem flags_held_iff {frames : List (List UInt8)}
    (whole : ∀ frame ∈ frames, frame.length % 2 = 0) :
    flags (processWith infer) (after infer hidden past) frames =
      heldFlags infer hidden past frames ↔
      Transition.Along (fun past frame => some (past ++ frame))
        (Settled infer hidden) past frames := by
  induction frames generalizing past with
  | nil => exact ⟨fun _ => trivial, fun _ => rfl⟩
  | cons frame frames ih =>
    rw [List.forall_mem_cons] at whole
    have longer : (past ++ frame).length % 2 = 0 := by
      rw [List.length_append]
      omega
    have rest := ih longer whole.2
    have next : (processWith infer (after infer hidden past) frame).2 =
        after infer hidden (past ++ frame) := by
      rw [processWith_after infer hidden even]
    rw [flags, heldFlags, List.cons.injEq, flag_held_iff infer hidden even, next, rest]
    simp only [Transition.Along, Option.some.injEq, forall_eq']

omit even frame in
/-- Where every window was speech, the decision in force is speech from the first on. -/
theorem held_of_speech
    (speech : ∀ decided ∈ (scan infer ⟨bytesToInt16 past, hidden⟩).1, decided = true) :
    held infer hidden past = true ↔ vadWindowSamples ≤ (bytesToInt16 past).length := by
  by_cases none : (scan infer ⟨bytesToInt16 past, hidden⟩).1 = []
  · have short := (scan_nil_iff infer _).1 none
    rw [held, none]
    exact ⟨fun impossible => Bool.noConfusion impossible, fun enough => absurd enough short⟩
  · have enough : vadWindowSamples ≤ (bytesToInt16 past).length := by
      by_contra short
      exact none ((scan_nil_iff infer _).2 short)
    rw [held, List.getLast?_eq_some_getLast none]
    exact ⟨fun _ => enough, fun _ => speech _ (List.getLast_mem none)⟩

omit even in
theorem heldFlags_getElem (past : List UInt8) (before after : List (List UInt8)) :
    (heldFlags infer hidden past (before ++ frame :: after))[before.length]? =
      some (held infer hidden (past ++ (before.flatten ++ frame))) := by
  induction before generalizing past with
  | nil => rfl
  | cons first before ih =>
    have rest := ih (past ++ first)
    rw [List.append_assoc, ← List.append_assoc first] at rest
    exact rest

omit frame in
theorem heldFlags_falls {frames : List (List UInt8)}
    (whole : ∀ frame ∈ frames, frame.length % 2 = 0)
    (speech : ∀ decided ∈ (scan infer ⟨bytesToInt16 (past ++ frames.flatten), hidden⟩).1,
      decided = true) :
    falls (held infer hidden past) (heldFlags infer hidden past frames) = 0 := by
  induction frames generalizing past with
  | nil => rfl
  | cons frame frames ih =>
    rw [List.forall_mem_cons] at whole
    have longer : (past ++ frame).length % 2 = 0 := by
      rw [List.length_append]
      omega
    rw [List.flatten_cons, ← List.append_assoc] at speech
    have through := decisions_past infer hidden longer frames.flatten speech
    have before := held_of_speech infer hidden (decisions_past infer hidden even frame through)
    have later := held_of_speech infer hidden through
    have grows : (bytesToInt16 past).length ≤ (bytesToInt16 (past ++ frame)).length := by
      rw [bytesToInt16_append even, List.length_append]
      omega
    have no_edge : (held infer hidden past && !held infer hidden (past ++ frame)) = false := by
      rw [Bool.and_eq_false_imp, Bool.not_eq_false']
      intro spoke
      exact later.2 (Nat.le_trans (before.1 spoke) grows)
    rw [heldFlags, falls, no_edge, ih longer whole.2 speech]
    rfl

end Frames

/-- Before the first frame nothing is buffered or decided. -/
theorem scan_start (infer : H → List Int → Bool × H) (hidden : H) :
    scan infer ⟨bytesToInt16 [], hidden⟩ = ([], ⟨[], hidden⟩) :=
  scan_short infer (Nat.not_succ_le_zero 511)

theorem flatten_even {frames : List (List UInt8)} (whole : ∀ frame ∈ frames, frame.length % 2 = 0) :
    frames.flatten.length % 2 = 0 := by
  induction frames with
  | nil => rfl
  | cons frame frames ih =>
    rw [List.forall_mem_cons] at whole
    have rest := ih whole.2
    rw [List.flatten_cons, List.length_append]
    omega

theorem unchopped_iff (infer : H → List Int → Bool × H) (hidden : H) {frames : List (List UInt8)}
    (whole : ∀ frame ∈ frames, frame.length % 2 = 0) :
    Unchopped infer hidden frames (flags (processWith infer) ⟨[], hidden⟩ frames) ↔
      AllSettled infer hidden frames := by
  have fresh : after infer hidden [] = ⟨[], hidden⟩ := by
    rw [after, scan_start]
  have follows := flags_held_iff infer hidden (by rfl : ([] : List UInt8).length % 2 = 0) whole
  rw [fresh] at follows
  refine ⟨fun unchopped => follows.1 unchopped.decided, fun settled => ?_⟩
  have decided := follows.2 settled
  refine ⟨decided, fun speech => ⟨?_, ?_⟩⟩
  · have none_yet : held infer hidden [] = false := by
      rw [held, scan_start]
      rfl
    have steady := heldFlags_falls infer hidden
      (by rfl : ([] : List UInt8).length % 2 = 0) whole speech
    rw [decided, ← steady, none_yet]
  · intro before frame later split enough
    rw [decided, split, heldFlags_getElem]
    rw [split, List.flatten_append, List.flatten_cons, ← List.append_assoc] at speech
    have so_far : (before.flatten ++ frame).length % 2 = 0 := by
      rw [← List.flatten_concat]
      refine flatten_even fun taken mem => whole taken ?_
      rw [split, List.append_cons]
      exact List.mem_append_left later mem
    have through := decisions_past infer hidden so_far later.flatten speech
    exact congrArg some ((held_of_speech infer hidden through).2 enough)

/-- With the model as without it: a frame carries the decision of the last window
unless it ends inside the window that follows speech. -/
theorem speech_unchopped_iff (engine : Engine H) (hidden : H) (frames : List (List UInt8))
    (whole : ∀ frame ∈ frames, frame.length % 2 = 0) :
    (Unchopped engine.infer hidden frames (flags engine.process ⟨[], hidden⟩ frames) ↔
      AllSettled engine.infer hidden frames) ∧
    (Unchopped stubInfer () frames (flags stubProcess ⟨[], ()⟩ frames) ↔
      AllSettled stubInfer () frames) :=
  ⟨unchopped_iff engine.infer hidden whole, unchopped_iff stubInfer () whole⟩

/-- Samples of amplitude 4096. -/
def loud (samples : Nat) : List UInt8 := (List.replicate samples [0x00, 0x10]).flatten

theorem whole_windows_unchopped :
    (∀ frame ∈ [loud 512, loud 512], frame.length % 2 = 0) ∧
      Unchopped (Engine.infer ⟨none⟩) () [loud 512, loud 512]
        (flags (Engine.process ⟨none⟩) ⟨[], ()⟩ [loud 512, loud 512]) := by
  have whole : ∀ frame ∈ [loud 512, loud 512], frame.length % 2 = 0 := by decide +kernel
  have first : Completes [] (loud 512) := by decide +kernel
  have second : Completes ([] ++ loud 512) (loud 512) := by decide +kernel
  refine ⟨whole, (speech_unchopped_iff ⟨none⟩ () _ whole).1.2 ⟨.inl first, ?_⟩⟩
  rintro past ⟨⟩
  exact ⟨.inl second, fun _ _ => trivial⟩

/-- Frames of 20 ms in a constant tone: the second completes a window, the third
does not. -/
theorem constant_speech_chopped :
    ¬Unchopped (Engine.infer (H := Unit) ⟨none⟩) () [loud 320, loud 320, loud 320]
      (flags (Engine.process ⟨none⟩) ⟨[], ()⟩ [loud 320, loud 320, loud 320]) := by
  have whole : ∀ frame ∈ [loud 320, loud 320, loud 320], frame.length % 2 = 0 := by decide +kernel
  have spoke : held (Engine.infer ⟨none⟩) () ([] ++ loud 320 ++ loud 320) = true := by
    rw [held, scan_window _ (by decide +kernel)]
    simp only [Engine.infer]
    rw [scan_short _ (by decide +kernel)]
    decide +kernel
  have open_window : ¬Completes ([] ++ loud 320 ++ loud 320) (loud 320) := by decide +kernel
  rw [Engine.process, unchopped_iff _ _ whole]
  intro settled
  have third := ((settled.2 _ rfl).2 _ rfl).1
  rcases third with closes | silent
  · exact open_window closes
  · exact Bool.noConfusion (spoke.symm.trans silent)

end AgentOE.Bridge
