import Mathlib.Data.List.Range
import Mathlib.Data.List.GetD

/-! The conversion of speech from 24 kHz to 16 kHz: of three samples of two bytes, two are kept. -/
namespace AgentOE.Resample

/-- The number of samples that an input gives. -/
def outputSamples (input : List UInt8) : Nat := input.length / 2 * 2 / 3

/-- The input sample that output sample `i` is. -/
def source (i : Nat) : Nat := i * 3 / 2

def resample24To16 (input : List UInt8) : List UInt8 :=
  if input.length < 2 then input
  else (List.range (outputSamples input)).foldl (fun output i =>
    if source i * 2 + 1 < input.length then
      (output.set (i * 2) (input.getD (source i * 2) 0)).set (i * 2 + 1)
        (input.getD (source i * 2 + 1) 0)
    else output) (List.replicate (outputSamples input * 2) 0)

variable {input : List UInt8} {n i : Nat}

/-- The guard of the loop. -/
theorem source_inside (inside : i < outputSamples input) : source i * 2 + 1 < input.length := by
  simp only [outputSamples, source] at *
  omega

theorem length_pairs (f g : α → β) (l : List α) :
    (l.flatMap fun a => [f a, g a]).length = l.length * 2 := by
  induction l with
  | nil => rfl
  | cons a l ih =>
    simp only [List.flatMap_cons, List.length_append, List.length_cons, List.length_nil, ih]
    omega

/-- After `k` rounds two bytes each are written, and zeros are left. -/
theorem fill_eq (f g : Nat → UInt8) (k : Nat) (le : k ≤ n) :
    (List.range k).foldl (fun output i => (output.set (i * 2) (f i)).set (i * 2 + 1) (g i))
      (List.replicate (n * 2) 0) =
      (List.range k).flatMap (fun i => [f i, g i]) ++ List.replicate ((n - k) * 2) 0 := by
  induction k with
  | zero => simp
  | succ k ih =>
    have written : ((List.range k).flatMap fun i => [f i, g i]).length = k * 2 := by
      rw [length_pairs, List.length_range]
    have left : (n - k) * 2 = (n - (k + 1)) * 2 + 1 + 1 := by omega
    rw [List.range_succ, List.foldl_append, ih (by omega), List.flatMap_append]
    simp only [List.foldl_cons, List.foldl_nil, List.flatMap_cons, List.flatMap_nil,
      List.append_nil]
    rw [List.set_append_right _ _ (by omega), List.set_append_right _ _ (by omega), written, left,
      List.replicate_succ, List.replicate_succ]
    simp

/-- The output is the chosen samples, one behind the other. -/
theorem resample_eq (enough : 2 ≤ input.length) : resample24To16 input =
    (List.range (outputSamples input)).flatMap fun i =>
      [input.getD (source i * 2) 0, input.getD (source i * 2 + 1) 0] := by
  rw [resample24To16, if_neg (by omega)]
  have guarded : ∀ (output : List UInt8), ∀ i ∈ List.range (outputSamples input),
      (if source i * 2 + 1 < input.length then
        (output.set (i * 2) (input.getD (source i * 2) 0)).set (i * 2 + 1)
          (input.getD (source i * 2 + 1) 0)
      else output) =
      (output.set (i * 2) (input.getD (source i * 2) 0)).set (i * 2 + 1)
          (input.getD (source i * 2 + 1) 0) :=
    fun output i mem => if_pos (source_inside (List.mem_range.mp mem))
  rw [List.foldl_ext _ _ _ guarded, fill_eq _ _ _ le_rfl, Nat.sub_self, Nat.zero_mul,
    List.replicate_zero, List.append_nil]

theorem getElem?_pairs (f g : α → β) (l : List α) (i : Nat) :
    (l.flatMap fun a => [f a, g a])[i * 2]? = l[i]?.map f ∧
      (l.flatMap fun a => [f a, g a])[i * 2 + 1]? = l[i]?.map g := by
  induction l generalizing i with
  | nil => simp
  | cons a l ih =>
    cases i with
    | zero => simp
    | succ i => simpa [Nat.succ_mul] using ih i

/-- Two bytes for each output sample, which is the input sample that the guard admits. -/
theorem resample_samples (enough : 2 ≤ input.length) :
    (resample24To16 input).length = 2 * (2 * (input.length / 2) / 3) ∧
    ∀ i < outputSamples input, source i * 2 + 1 < input.length ∧
      (resample24To16 input)[i * 2]? = input[source i * 2]? ∧
      (resample24To16 input)[i * 2 + 1]? = input[source i * 2 + 1]? := by
  constructor
  · rw [resample_eq enough, length_pairs, List.length_range, outputSamples]
    omega
  · intro i inside
    have admitted := source_inside inside
    obtain ⟨low, high⟩ := getElem?_pairs (fun i => input.getD (source i * 2) 0)
      (fun i => input.getD (source i * 2 + 1) 0) (List.range (outputSamples input)) i
    rw [resample_eq enough, low, high, List.getElem?_range inside]
    refine ⟨admitted, ?_, ?_⟩
    · simp [List.getD_eq_getElem?_getD, List.getElem?_eq_getElem (Nat.lt_of_succ_lt admitted)]
    · simp [List.getD_eq_getElem?_getD, List.getElem?_eq_getElem admitted]

/-- The samples of a whole number of triples are kept as those of each part. -/
theorem resample_append {first : List UInt8} (firstWhole : first.length % 6 = 0)
    (whole : input.length % 6 = 0) :
    resample24To16 (first ++ input) = resample24To16 first ++ resample24To16 input := by
  by_cases none : first = []
  · subst none
    rfl
  by_cases none' : input = []
  · subst none'
    rw [List.append_nil]
    exact (List.append_nil _).symm
  have pos := List.length_pos_iff.mpr none
  have pos' := List.length_pos_iff.mpr none'
  have total : outputSamples (first ++ input) = outputSamples first + outputSamples input := by
    simp only [outputSamples, List.length_append]
    omega
  have enough : 2 ≤ first.length := by omega
  have enough' : 2 ≤ input.length := by omega
  have both : 2 ≤ (first ++ input).length := by
    rw [List.length_append]
    omega
  rw [resample_eq enough, resample_eq enough', resample_eq both, total, List.range_add,
    List.flatMap_append, List.flatMap_map]
  congr 1
  · refine List.flatMap_congr fun i mem => ?_
    have admitted := source_inside (List.mem_range.mp mem)
    rw [List.getD_append _ _ _ _ (by omega), List.getD_append _ _ _ _ admitted]
  · refine List.flatMap_congr fun i _ => ?_
    have shifted : source (outputSamples first + i) * 2 = first.length + source i * 2 := by
      simp only [outputSamples, source]
      omega
    rw [shifted, Nat.add_assoc, List.getD_append_right _ _ _ _ (by omega),
      List.getD_append_right _ _ _ _ (by omega)]
    simp

theorem resample24To16_spec :
    (∀ input : List UInt8, 2 ≤ input.length →
      (resample24To16 input).length = 2 * (2 * (input.length / 2) / 3) ∧
      ∀ i < outputSamples input, source i * 2 + 1 < input.length ∧
        (resample24To16 input)[i * 2]? = input[source i * 2]? ∧
        (resample24To16 input)[i * 2 + 1]? = input[source i * 2 + 1]?) ∧
    ∀ parts : List (List UInt8), (∀ part ∈ parts, part.length % 2 = 0 ∧ part.length / 2 % 3 = 0) →
      resample24To16 parts.flatten = (parts.map resample24To16).flatten := by
  refine ⟨fun input enough => resample_samples enough, fun parts whole => ?_⟩
  have sixes : ∀ part ∈ parts, part.length % 6 = 0 := by
    intro part mem
    have := whole part mem
    omega
  clear whole
  suffices parts.flatten.length % 6 = 0 ∧ resample24To16 parts.flatten =
      (parts.map resample24To16).flatten from this.2
  induction parts with
  | nil => exact ⟨rfl, rfl⟩
  | cons part parts ih =>
    obtain ⟨first, others⟩ := List.forall_mem_cons.mp sixes
    obtain ⟨rest, joined⟩ := ih others
    rw [List.flatten_cons, List.length_append, List.map_cons, List.flatten_cons]
    exact ⟨by omega, by rw [resample_append first rest, joined]⟩

/-- Two chunks of three samples. -/
theorem two_chunks_resampled :
    resample24To16 [1, 0, 2, 0, 3, 0, 4, 0, 5, 0, 6, 0] = [1, 0, 2, 0] ++ [4, 0, 5, 0] ∧
      (resample24To16 [1, 0, 2, 0, 3, 0, 4, 0, 5, 0, 6, 0])[5]? = some 0 := by
  have joined := resample24To16_spec.2 [[1, 0, 2, 0, 3, 0], [4, 0, 5, 0, 6, 0]] (by decide)
  have samples := (resample24To16_spec.1 [1, 0, 2, 0, 3, 0, 4, 0, 5, 0, 6, 0] (by decide)).2 2
    (by decide)
  exact ⟨joined.trans (by decide), samples.2.2.trans (by decide)⟩

end AgentOE.Resample
