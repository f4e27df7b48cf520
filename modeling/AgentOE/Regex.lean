import Mathlib.Data.List.Basic

/-! Regular expressions with greedy repetition, matched by backtracking, and the replacement of
their matches in a text. What a match leaves of the text is listed in the order in which the
alternatives are tried, so the first way is the match. -/
namespace AgentOE.Regex

inductive Pattern (α : Type) where
  | symbol (p : α → Bool)
  /-- One or more symbols of a class. -/
  | run (p : α → Bool)
  /-- Between a word symbol and another one, or an end of the text. -/
  | boundary
  | andThen (first rest : Pattern α)
  | maybe (pattern : Pattern α)
  /-- From `low` to `low + more` times. -/
  | times (low more : Nat) (pattern : Pattern α)

/-- The last symbol before a place in a text, and what follows. -/
abbrev Place (α : Type) := Option α × List α

variable {α : Type}

def exactly (ways : Place α → List (Place α)) : Nat → Place α → List (Place α)
  | 0, place => [place]
  | n + 1, place => (ways place).flatMap (exactly ways n)

def upTo (ways : Place α → List (Place α)) : Nat → Place α → List (Place α)
  | 0, place => [place]
  | n + 1, place => (ways place).flatMap (upTo ways n) ++ [place]

def runs (p : α → Bool) : List α → List (Place α)
  | [] => []
  | a :: s => if p a then runs p s ++ [(some a, s)] else []

def Pattern.ways (word : α → Bool) : Pattern α → Place α → List (Place α)
  | symbol p, (_, a :: s) => if p a then [(some a, s)] else []
  | symbol _, (_, []) => []
  | run p, (_, s) => runs p s
  | boundary, (before, s) => if before.any word = s.head?.any word then [] else [(before, s)]
  | andThen first rest, place => (first.ways word place).flatMap (rest.ways word)
  | maybe pattern, place => pattern.ways word place ++ [place]
  | times low more pattern, place =>
    (exactly (pattern.ways word) low place).flatMap (upTo (pattern.ways word) more)

def sequence : List (Pattern α) → Pattern α
  | [] => .times 0 0 .boundary
  | [pattern] => pattern
  | pattern :: rest => .andThen pattern (sequence rest)

/-- Left to right, for a pattern that matches no empty text; `n` bounds the symbols that are
left. -/
def subFrom (word : α → Bool) (pattern : Pattern α) (token : List α) : Nat → Place α → List α
  | 0, place => place.2
  | _ + 1, (_, []) => []
  | n + 1, (before, a :: s) => match pattern.ways word (before, a :: s) with
    | [] => a :: subFrom word pattern token n (some a, s)
    | after :: _ => token ++ subFrom word pattern token n after

def sub (word : α → Bool) (pattern : Pattern α) (token s : List α) : List α :=
  subFrom word pattern token s.length (none, s)

/-! Patterns that do not match without a symbol of some class. -/

/-- No way to match where `q` holds of no symbol. -/
def Pattern.Needs (word q : α → Bool) (pattern : Pattern α) : Prop :=
  ∀ place : Place α, (∀ a ∈ place.2, q a = false) → pattern.ways word place = []

/-- A match leaves an end of the text. -/
def Pattern.Suffixed (word : α → Bool) (pattern : Pattern α) : Prop :=
  ∀ place, ∀ after ∈ pattern.ways word place, after.2 <:+ place.2

variable {word q p : α → Bool} {pattern first rest : Pattern α} {place after : Place α}

theorem exactly_suffix {ways : Place α → List (Place α)}
    (inner : ∀ place, ∀ after ∈ ways place, after.2 <:+ place.2)
    (mem : after ∈ exactly ways n place) : after.2 <:+ place.2 := by
  induction n generalizing place with
  | zero =>
    cases List.mem_singleton.mp mem
    exact List.suffix_refl _
  | succ n ih =>
    obtain ⟨middle, here, later⟩ := List.mem_flatMap.mp mem
    exact (ih later).trans (inner place middle here)

theorem upTo_suffix {ways : Place α → List (Place α)}
    (inner : ∀ place, ∀ after ∈ ways place, after.2 <:+ place.2) (mem : after ∈ upTo ways n place) :
    after.2 <:+ place.2 := by
  induction n generalizing place with
  | zero =>
    cases List.mem_singleton.mp mem
    exact List.suffix_refl _
  | succ n ih =>
    rcases List.mem_append.mp mem with mem | mem
    · obtain ⟨middle, here, later⟩ := List.mem_flatMap.mp mem
      exact (ih later).trans (inner place middle here)
    · cases List.mem_singleton.mp mem
      exact List.suffix_refl _

theorem runs_suffix (mem : after ∈ runs p s) : after.2 <:+ s := by
  induction s with
  | nil => cases mem
  | cons a s ih =>
    rw [runs] at mem
    split at mem
    · rcases List.mem_append.mp mem with mem | mem
      · exact (ih mem).trans (List.suffix_cons a s)
      · cases List.mem_singleton.mp mem
        exact List.suffix_cons a s
    · cases mem

theorem ways_suffix (word : α → Bool) (pattern : Pattern α) : pattern.Suffixed word := by
  induction pattern with
  | symbol p =>
    rintro ⟨before, s⟩ after mem
    cases s with
    | nil => cases mem
    | cons a s =>
      simp only [Pattern.ways] at mem
      split at mem
      · cases List.mem_singleton.mp mem
        exact List.suffix_cons a s
      · cases mem
  | run p => exact fun place after mem => runs_suffix mem
  | boundary =>
    intro place after mem
    simp only [Pattern.ways] at mem
    split at mem
    · cases mem
    · cases List.mem_singleton.mp mem
      exact List.suffix_refl _
  | andThen first rest ihFirst ihRest =>
    intro place after mem
    obtain ⟨middle, here, later⟩ := List.mem_flatMap.mp mem
    exact (ihRest middle after later).trans (ihFirst place middle here)
  | maybe pattern ih =>
    intro place after mem
    rcases List.mem_append.mp mem with mem | mem
    · exact ih place after mem
    · cases List.mem_singleton.mp mem
      exact List.suffix_refl _
  | times low more pattern ih =>
    intro place after mem
    obtain ⟨middle, here, later⟩ := List.mem_flatMap.mp mem
    exact (upTo_suffix ih later).trans (exactly_suffix ih here)

theorem needs_symbol (within : ∀ a, p a = true → q a = true) : (Pattern.symbol p).Needs word q := by
  rintro ⟨before, s⟩ none
  cases s with
  | nil => rfl
  | cons a s =>
    have absent : p a = false :=
      Bool.eq_false_iff.mpr fun here => Bool.eq_false_iff.mp (none a List.mem_cons_self)
        (within a here)
    simp [Pattern.ways, absent]

theorem Pattern.Needs.andThen_left (needs : first.Needs word q) (rest : Pattern α) :
    (andThen first rest).Needs word q := by
  intro place none
  rw [ways, needs place none, List.flatMap_nil]

theorem Pattern.Needs.andThen_right (first : Pattern α) (needs : rest.Needs word q) :
    (andThen first rest).Needs word q := by
  intro place none
  rw [ways, List.flatMap_eq_nil_iff]
  intro middle mem
  exact needs middle fun a inside =>
    none a ((ways_suffix word first place middle mem).subset inside)

theorem Pattern.Needs.times (needs : pattern.Needs word q) (low more : Nat) :
    (times (low + 1) more pattern).Needs word q := by
  intro place none
  rw [ways, exactly, needs place none, List.flatMap_nil, List.flatMap_nil]

theorem Pattern.Needs.of_mem {patterns : List (Pattern α)} (needs : pattern.Needs word q)
    (mem : pattern ∈ patterns) : (sequence patterns).Needs word q := by
  induction patterns using sequence.induct with
  | case1 => cases mem
  | case2 only =>
    cases List.mem_singleton.mp mem
    exact needs
  | case3 head rest more ih =>
    rw [sequence]
    · rcases List.mem_cons.mp mem with rfl | mem
      · exact needs.andThen_left _
      · exact .andThen_right head (ih mem)
    · exact more

/-- Such a pattern replaces nothing in a text without the symbols. -/
theorem sub_of_needs (needs : pattern.Needs word q) {s : List α} (none : ∀ a ∈ s, q a = false)
    (token : List α) : sub word pattern token s = s := by
  have go : ∀ n (place : Place α), (∀ a ∈ place.2, q a = false) → place.2.length ≤ n →
      subFrom word pattern token n place = place.2 := by
    intro n
    induction n with
    | zero => exact fun place _ _ => rfl
    | succ n ih =>
      rintro ⟨before, s⟩ none short
      cases s with
      | nil => rfl
      | cons a s =>
        rw [subFrom, needs _ none]
        have tail := ih (some a, s) (fun b mem => none b (List.mem_cons_of_mem a mem))
          (by simpa using short)
        exact congrArg (a :: ·) tail
  exact go s.length (Option.none, s) none (Nat.le_refl _)

end AgentOE.Regex
