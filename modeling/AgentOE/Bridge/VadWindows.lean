import Mathlib.Data.List.Range
import AgentOE.Bridge.Vad

/-! Which windows the detector is given. The detector is watched: besides its own memory it keeps
the windows that it has been passed, in order. -/
namespace AgentOE.Bridge

variable {H : Type}

def watch (infer : H → List Int → Bool × H) (hidden : H × List (List Int)) (window : List Int) :
    Bool × (H × List (List Int)) :=
  let (speech, next) := infer hidden.1 window
  (speech, next, hidden.2 ++ [window])

/-- Successive calls of `Process`. -/
def processAll (process : Instance H → List UInt8 → Bool × Instance H) (inst : Instance H)
    (frames : List (List UInt8)) : Instance H :=
  frames.foldl (fun inst frame => (process inst frame).2) inst

/-- The consecutive windows of a stream, one behind the other. -/
def windows (samples : List Int) : List (List Int) :=
  (List.range (samples.length / vadWindowSamples)).map fun i =>
    (samples.drop (vadWindowSamples * i)).take vadWindowSamples

/-- The suffix behind the last complete window. -/
def residue (samples : List Int) : List Int :=
  samples.drop (vadWindowSamples * (samples.length / vadWindowSamples))

section Windows
variable {samples : List Int}

theorem windows_short (short : ¬vadWindowSamples ≤ samples.length) :
    windows samples = [] ∧ residue samples = samples := by
  have none : samples.length / vadWindowSamples = 0 := Nat.div_eq_of_lt (Nat.lt_of_not_le short)
  simp [windows, residue, none]

theorem windows_enough (enough : vadWindowSamples ≤ samples.length) :
    windows samples = samples.take vadWindowSamples :: windows (samples.drop vadWindowSamples) ∧
      residue samples = residue (samples.drop vadWindowSamples) := by
  have count : samples.length / vadWindowSamples =
      (samples.drop vadWindowSamples).length / vadWindowSamples + 1 := by
    rw [List.length_drop, ← Nat.div_eq_sub_div (by decide) enough]
  constructor
  · rw [windows, windows, count, List.range_succ_eq_map, List.map_cons, List.map_map]
    refine congrArg₂ List.cons (by simp) (List.map_congr_left fun i _ => ?_)
    simp [List.drop_drop, Nat.mul_add, Nat.add_comm]
  · rw [residue, residue, count, List.drop_drop, Nat.mul_add, Nat.mul_one, Nat.add_comm]

theorem residue_short (samples : List Int) : (residue samples).length < vadWindowSamples := by
  have rest := Nat.mod_lt samples.length (show 0 < vadWindowSamples by decide)
  have whole := Nat.div_add_mod samples.length vadWindowSamples
  rw [residue, List.length_drop]
  omega

/-- Nothing of the stream is lost or used twice. -/
theorem windows_flatten (samples : List Int) :
    (windows samples).flatten ++ residue samples = samples := by
  induction size : samples.length using Nat.strongRecOn generalizing samples with
  | ind n ih =>
    by_cases enough : vadWindowSamples ≤ samples.length
    · have shorter : (samples.drop vadWindowSamples).length < n := by
        simp only [List.length_drop, vadWindowSamples] at *
        omega
      obtain ⟨first, rest⟩ := windows_enough enough
      rw [first, rest, List.flatten_cons, List.append_assoc, ih _ shorter _ rfl,
        List.take_append_drop]
    · rw [(windows_short enough).1, (windows_short enough).2, List.flatten_nil, List.nil_append]

end Windows

section Watched
variable (infer : H → List Int → Bool × H)

theorem scan_residue (inst : Instance H) : (scan infer inst).2.buffer = residue inst.buffer := by
  induction inst using scan.induct infer with
  | case1 inst enough speech hidden decided _ _ _ ih =>
    rw [scan_window infer enough, decided, (windows_enough enough).2]
    exact ih
  | case2 inst short => rw [scan_short infer short, (windows_short short).2]

/-- The scan of a watched detector does the same and has passed on the windows of the buffer. -/
theorem scan_watch (inst : Instance H) (seen : List (List Int)) :
    scan (watch infer) ⟨inst.buffer, inst.hidden, seen⟩ =
      ((scan infer inst).1,
        ⟨(scan infer inst).2.buffer, (scan infer inst).2.hidden, seen ++ windows inst.buffer⟩) := by
  induction inst using scan.induct infer generalizing seen with
  | case1 inst enough speech hidden decided _ _ _ ih =>
    have watched : watch infer (inst.hidden, seen) (inst.buffer.take vadWindowSamples) =
        (speech, hidden, seen ++ [inst.buffer.take vadWindowSamples]) := by
      rw [watch, decided]
    rw [scan_window (watch infer) enough, scan_window infer enough, decided, watched,
      (windows_enough enough).1]
    simp only [ih, List.append_assoc, List.singleton_append]
  | case2 inst short =>
    rw [scan_short (watch infer) short, scan_short infer short, (windows_short short).1,
      List.append_nil]

theorem processWith_watch (inst : Instance H) (seen : List (List Int)) (frame : List UInt8) :
    ∃ later, processWith (watch infer) ⟨inst.buffer, inst.hidden, seen⟩ frame =
      ((processWith infer inst frame).1,
        ⟨(processWith infer inst frame).2.buffer, (processWith infer inst frame).2.hidden,
          later⟩) := by
  refine ⟨seen ++ windows (inst.buffer ++ bytesToInt16 frame), ?_⟩
  have watched := scan_watch infer { inst with buffer := inst.buffer ++ bytesToInt16 frame } seen
  simp only [processWith, drain_eq, watched]

/-- The frames are sent with the same flags. -/
theorem flags_watch (inst : Instance H) (seen : List (List Int)) (frames : List (List UInt8)) :
    flags (processWith (watch infer)) ⟨inst.buffer, inst.hidden, seen⟩ frames =
      flags (processWith infer) inst frames := by
  induction frames generalizing inst seen with
  | nil => rfl
  | cons frame frames ih =>
    obtain ⟨later, watched⟩ := processWith_watch infer inst seen frame
    rw [flags, flags, watched, ih]

/-- The instance after a stream that comes in frames is that after the whole. -/
theorem processAll_after (hidden : H) {frames : List (List UInt8)}
    (whole : ∀ frame ∈ frames, frame.length % 2 = 0) (past : List UInt8)
    (even : past.length % 2 = 0) : processAll (processWith infer) (after infer hidden past) frames =
      after infer hidden (past ++ frames.flatten) := by
  induction frames generalizing past with
  | nil => simp [processAll]
  | cons frame frames ih =>
    obtain ⟨first, others⟩ := List.forall_mem_cons.mp whole
    have longer : (past ++ frame).length % 2 = 0 := by
      rw [List.length_append]
      omega
    have rest := ih others (past ++ frame) longer
    rw [List.flatten_cons, ← List.append_assoc, ← rest, processAll, List.foldl_cons,
      processWith_after infer hidden even]
    rfl

end Watched

/-- Whatever the detector, the windows that it is passed by the calls for the frames of a
stream, and the residue after them, are those of the stream. Watching it changes none of its
decisions. -/
theorem windows_of_stream (infer : H → List Int → Bool × H) (hidden : H) (pcm : List UInt8)
    (frames : List (List UInt8)) (cut : frames.flatten = pcm)
    (whole : ∀ frame ∈ frames, frame.length % 2 = 0) :
    let final := processAll (processWith (watch infer)) ⟨[], hidden, []⟩ frames
    final.hidden.2 = windows (bytesToInt16 pcm) ∧ final.buffer = residue (bytesToInt16 pcm) ∧
      final.buffer.length < vadWindowSamples ∧
      flags (processWith (watch infer)) ⟨[], hidden, []⟩ frames =
          flags (processWith infer) ⟨[], hidden⟩ frames := by
  have start : after (watch infer) (hidden, []) [] = ⟨[], hidden, []⟩ := by
    rw [after, scan_short (watch infer) (by simp [bytesToInt16, vadWindowSamples])]
    rfl
  have run := processAll_after (watch infer) (hidden, []) whole [] rfl
  rw [start, List.nil_append, cut, after, scan_watch infer ⟨bytesToInt16 pcm, hidden⟩ [],
    scan_residue infer] at run
  intro final
  have ends : final.buffer = residue (bytesToInt16 pcm) := by
    rw [show final = _ from run]
  refine ⟨?_, ends, ends ▸ residue_short _, flags_watch infer ⟨[], hidden⟩ [] frames⟩
  rw [show final = _ from run]
  rfl

/-- A window and one sample, cut inside the window. -/
def splitFrames : List (List UInt8) := [List.replicate 600 1, List.replicate 426 1]

theorem split_window_passed :
    let final := processAll (processWith (watch stubInfer)) ⟨[], (), []⟩ splitFrames
    final.hidden.2 = [List.replicate 512 257] ∧ final.buffer = [257] := by
  intro final
  obtain ⟨passed, rest, -⟩ := windows_of_stream stubInfer () (List.replicate 1026 1) splitFrames
    (by decide +kernel) (by decide +kernel)
  have all : windows (bytesToInt16 (List.replicate 1026 1)) = [List.replicate 512 257] := by
    decide +kernel
  have left : residue (bytesToInt16 (List.replicate 1026 1)) = [257] := by decide +kernel
  exact ⟨passed.trans all, rest.trans left⟩

end AgentOE.Bridge
