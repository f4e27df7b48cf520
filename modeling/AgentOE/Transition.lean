import Mathlib.Algebra.GroupWithZero.Nat
import Mathlib.Logic.Function.Basic

/-! Executable labelled machines. A label is either refused in a state or has
exactly one successor, so every interleaving of a system is a list of labels.
Nothing here names a particular system. -/
namespace AgentOE.Transition

/-! The actors of a fixed run are numbered; their numerals rest on these. -/

instance neZeroTwo : NeZero 2 := ⟨by decide⟩
instance neZeroThree : NeZero 3 := ⟨by decide⟩
instance neZeroFour : NeZero 4 := ⟨by decide⟩
instance neZeroFive : NeZero 5 := ⟨by decide⟩
instance neZeroTen : NeZero 10 := ⟨by decide⟩

variable {S L : Type*}

/-- `none` when some label of the run is refused. -/
def exec (step : S → L → Option S) : S → List L → Option S
  | s, [] => some s
  | s, l :: ls => (step s l).bind fun t => exec step t ls

/-- Every step of the run is taken from a state and by a label related by `P`.
Nothing is required of the labels after a refused one. -/
def Along (step : S → L → Option S) (P : S → L → Prop) : S → List L → Prop
  | _, [] => True
  | s, l :: ls => P s l ∧ ∀ t, step s l = some t → Along step P t ls

/-- Executable form of `Along`, for fixed runs. -/
def alongBool (step : S → L → Option S) (p : S → L → Bool) : S → List L → Bool
  | _, [] => true
  | s, l :: ls => p s l && match step s l with
    | some t => alongBool step p t ls
    | none => true

variable {step : S → L → Option S} {P Q : S → L → Prop} {inv : S → Prop}

theorem exec_cons : exec step s (l :: ls) = some u ↔
    ∃ t, step s l = some t ∧ exec step t ls = some u := by
  simp only [exec, Option.bind_eq_some_iff]

theorem exec_append : exec step s (ls ++ ms) = some u ↔
    ∃ t, exec step s ls = some t ∧ exec step t ms = some u := by
  induction ls generalizing s with
  | nil => simp [exec]
  | cons l ls ih =>
    simp only [List.cons_append, exec_cons, ih]
    constructor
    · rintro ⟨v, first, t, middle, last⟩
      exact ⟨t, ⟨v, first, middle⟩, last⟩
    · rintro ⟨t, ⟨v, first, middle⟩, last⟩
      exact ⟨v, first, t, middle, last⟩

/-- The invariant rule. A label needs to preserve the invariant only where the
run is allowed to take it. -/
theorem exec_invariant (preserves : ∀ {s l t}, inv s → P s l → step s l = some t → inv t)
    (along : Along step P s ls) (run : exec step s ls = some t) (initial : inv s) : inv t := by
  induction ls generalizing s with
  | nil =>
    cases Option.some.inj run
    exact initial
  | cons l ls ih =>
    obtain ⟨u, first, rest⟩ := exec_cons.mp run
    exact ih (along.2 u first) rest (preserves initial along.1 first)

/-- What follows from the invariant at every step of a run. -/
theorem along_invariant (preserves : ∀ {s l t}, inv s → P s l → step s l = some t → inv t)
    (holds : ∀ {s l}, inv s → P s l → Q s l) (along : Along step P s ls) (initial : inv s) :
    Along step Q s ls := by
  induction ls generalizing s with
  | nil => trivial
  | cons l ls ih =>
    exact ⟨holds initial along.1, fun t first =>
      ih (along.2 t first) (preserves initial along.1 first)⟩

theorem along_append_left (along : Along step P s (ls ++ ms)) : Along step P s ls := by
  induction ls generalizing s with
  | nil => trivial
  | cons l ls ih => exact ⟨along.1, fun t first => ih (along.2 t first)⟩

theorem along_append_right (along : Along step P s (ls ++ ms)) (run : exec step s ls = some t) :
    Along step P t ms := by
  induction ls generalizing s with
  | nil =>
    cases Option.some.inj run
    exact along
  | cons l ls ih =>
    obtain ⟨u, first, rest⟩ := exec_cons.mp run
    exact ih (along.2 u first) rest

theorem along_cons (here : P s l) (stepped : step s l = some t) (rest : Along step P t ls) :
    Along step P s (l :: ls) := by
  refine ⟨here, fun u taken => ?_⟩
  cases Option.some.inj (stepped.symm.trans taken)
  exact rest

theorem along_append (left : Along step P s ls)
    (right : ∀ t, exec step s ls = some t → Along step P t ms) : Along step P s (ls ++ ms) := by
  induction ls generalizing s with
  | nil => exact right s rfl
  | cons l ls ih =>
    refine ⟨left.1, fun t taken => ih (left.2 t taken) fun u walked => right u ?_⟩
    exact exec_cons.mpr ⟨t, taken, walked⟩

theorem along_and (left : Along step P s ls) (right : Along step Q s ls) :
    Along step (fun s l => P s l ∧ Q s l) s ls := by
  induction ls generalizing s with
  | nil => trivial
  | cons l ls ih =>
    exact ⟨⟨left.1, right.1⟩, fun t first => ih (left.2 t first) (right.2 t first)⟩

/-- A run meets `P` at every step when `P` follows from what is seen of the state
after it, given an invariant of the steps before. -/
theorem along_of_reached_inv (inv : S → Prop) {good : S → Prop}
    (necessary : ∀ {s l t}, inv s → Q s l → step s l = some t → good t → P s l ∧ inv t)
    (initial : inv s) (along : Along step Q s ls) (run : exec step s ls = some u)
    (reached : ∀ past t, past <+: ls → exec step s past = some t → good t) :
    Along step P s ls := by
  induction ls generalizing s with
  | nil => trivial
  | cons l ls ih =>
    obtain ⟨t, first, rest⟩ := exec_cons.mp run
    have next : good t := reached [l] t ⟨ls, rfl⟩ (exec_cons.mpr ⟨t, first, rfl⟩)
    obtain ⟨holds, kept⟩ := necessary initial along.1 first next
    refine ⟨holds, fun v taken => ?_⟩
    cases Option.some.inj (first.symm.trans taken)
    apply ih kept (along.2 t first) rest
    intro past w isPast walked
    exact reached (l :: past) w (List.cons_prefix_cons.mpr ⟨rfl, isPast⟩)
      (exec_cons.mpr ⟨t, first, walked⟩)

theorem along_of_forall (holds : ∀ l ∈ ls, ∀ s, P s l) (s : S) : Along step P s ls := by
  induction ls generalizing s with
  | nil => trivial
  | cons l ls ih =>
    obtain ⟨first, rest⟩ := List.forall_mem_cons.mp holds
    exact ⟨first s, fun t _ => ih rest t⟩

theorem along_true (s : S) : Along step (fun _ _ => True) s ls :=
  along_of_forall (fun _ _ _ => trivial) s

/-- What is seen in every state of a run holds there just when each step meets `P`, given an
invariant that the steps which meet it keep. -/
theorem reached_iff_along (inv : S → Prop) {good : S → Prop}
    (necessary : ∀ {s l t}, inv s → Q s l → step s l = some t → good t → P s l)
    (preserves : ∀ {s l t}, inv s → Q s l → step s l = some t → P s l → inv t)
    (sound : ∀ {s}, inv s → good s) (initial : inv s) (along : Along step Q s ls)
    (run : exec step s ls = some u) :
    (∀ past t, past <+: ls → exec step s past = some t → good t) ↔ Along step P s ls := by
  constructor
  · refine along_of_reached_inv inv (fun before allowed stepped after => ?_) initial along run
    have meets := necessary before allowed stepped after
    exact ⟨meets, preserves before allowed stepped meets⟩
  · rintro meets past t ⟨rest, rfl⟩ walked
    exact sound (exec_invariant (fun before both stepped => preserves before both.2 stepped both.1)
      (along_append_left (along_and meets along)) walked initial)

/-- The invariant rule without a restriction on the run. -/
theorem exec_preserves (inv : S → Prop) (preserves : ∀ s l t, inv s → step s l = some t → inv t)
    (run : exec step s ls = some t) (initial : inv s) : inv t := by
  exact exec_invariant (fun before _ stepped => preserves _ _ _ before stepped)
    (along_true s) run initial

/-- The invariant rule for a relation between the labels so far and the state. -/
theorem exec_history_along (inv : List L → S → Prop)
    (preserves : ∀ {past s l t}, inv past s → P s l → step s l = some t → inv (past ++ [l]) t)
    (along : Along step P s ls) (run : exec step s ls = some t) (initial : inv [] s) :
    inv ls t := by
  have extend : ∀ past s, inv past s → Along step P s ls → exec step s ls = some t →
      inv (past ++ ls) t := by
    clear run initial along
    induction ls with
    | nil =>
      intro past s before _ run
      cases Option.some.inj run
      simpa using before
    | cons l ls ih =>
      intro past s before along run
      obtain ⟨u, first, rest⟩ := exec_cons.mp run
      simpa using ih (past ++ [l]) u (preserves before along.1 first) (along.2 u first) rest
  exact extend [] s initial along run

theorem exec_history (inv : List L → S → Prop)
    (preserves : ∀ past s l t, inv past s → step s l = some t → inv (past ++ [l]) t)
    (run : exec step s ls = some t) (initial : inv [] s) : inv ls t := by
  exact exec_history_along inv (fun before _ stepped => preserves _ _ _ _ before stepped)
    (along_true s) run initial

/-- A run that does not meet `P` everywhere has a first label at which it does not. -/
theorem exists_of_not_along (broken : ¬Along step P s ls) :
    ∃ past l rest t, ls = past ++ l :: rest ∧
    exec step s past = some t ∧ Along step P s past ∧ ¬P t l := by
  induction ls generalizing s with
  | nil => exact absurd trivial broken
  | cons l ls ih =>
    by_cases here : P s l
    · have later : ∃ t, step s l = some t ∧ ¬Along step P t ls := by
        by_contra none
        refine broken ⟨here, fun t taken => ?_⟩
        by_contra bad
        exact none ⟨t, taken, bad⟩
      obtain ⟨t, taken, bad⟩ := later
      obtain ⟨past, l', rest, u, rfl, walked, along, fails⟩ := ih bad
      refine ⟨l :: past, l', rest, u, rfl, exec_cons.mpr ⟨t, taken, walked⟩,
        ⟨here, fun v taken' => ?_⟩, fails⟩
      cases Option.some.inj (taken.symm.trans taken')
      exact along
    · exact ⟨[], l, ls, s, rfl, rfl, trivial, here⟩

instance Along.decidable [∀ s l, Decidable (P s l)] (s : S) :
    (ls : List L) → Decidable (Along step P s ls)
  | [] => .isTrue trivial
  | l :: ls =>
    have (t : S) : Decidable (Along step P t ls) := Along.decidable t ls
    inferInstanceAs (Decidable (P s l ∧ ∀ t ∈ step s l, Along step P t ls))

theorem along_of_bool {p : S → L → Bool} (sound : ∀ s l, p s l = true → P s l)
    (checked : alongBool step p s ls = true) : Along step P s ls := by
  induction ls generalizing s with
  | nil => trivial
  | cons l ls ih =>
    simp only [alongBool, Bool.and_eq_true] at checked
    refine ⟨sound s l checked.1, fun t first => ih ?_⟩
    simpa only [first] using checked.2

end AgentOE.Transition
