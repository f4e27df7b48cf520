import Mathlib.Logic.Function.Basic

/-! One-sided links between keys, each present key linked to one other at most. They
match when every link is answered. Nothing here names a particular system. -/
namespace AgentOE.Pairing
variable {K : Type*}

/-- `none` for a key that is absent, `some none` for one that is not linked. -/
abbrev Links (K : Type*) := K → Option (Option K)

def Matched (links : Links K) : Prop :=
  ∀ a b, links a = some (some b) → a ≠ b ∧ links b = some (some a)

variable [DecidableEq K] {links : Links K} {a b : K} {x y : Option K}

def join (links : Links K) (a b : K) : Links K :=
  Function.update (Function.update links a (some (some b))) b (some (some a))

def part (links : Links K) (a b : K) : Links K :=
  Function.update (Function.update links a (some none)) b (some none)

theorem join_apply (links : Links K) (a b c : K) :
    join links a b c = if c = b then some (some a) else if c =
      a then some (some b) else links c := by
  simp only [join, Function.update_apply]

theorem part_apply (links : Links K) (a b c : K) :
    part links a b c = if c = a ∨ c = b then some none else links c := by
  simp only [part, Function.update_apply]
  grind

omit [DecidableEq K] in
theorem matched_none : Matched (fun _ : K => none) := fun _ _ linked => nomatch linked

/-- The link of a key that is to be joined to `b` or parted from it. -/
def Free (link : Option K) (b : K) : Prop := link = none ∨ link = some b

omit [DecidableEq K] in
/-- Keys that are free for each other are in no link with a third. -/
theorem Matched.apart (matched : Matched links) (present : links a = some x) (free : Free x b)
    {c : K} (linked : links c = some (some a)) : c = b := by
  obtain ⟨-, answered⟩ := matched c a linked
  obtain rfl : x = some c := Option.some.inj (present.symm.trans answered)
  rcases free with none | same
  · cases none
  · exact Option.some.inj same

/-- A link of a third key to `a` would be left unanswered. -/
theorem Matched.free_of_answered (matched : Matched links) (present : links a = some x)
    {changed : Links K} (after : Matched changed)
    (others : ∀ c, c ≠ a → c ≠ b → changed c = links c)
    (moved : ∀ c, c ≠ b → changed a ≠ some (some c)) : Free x b := by
  cases x with
  | none => exact .inl rfl
  | some c =>
    refine .inr ?_
    by_contra other
    have apart : c ≠ b := fun same => other (congrArg some same)
    obtain ⟨different, answered⟩ := matched a c present
    have kept : changed c = some (some a) := (others c different.symm apart).trans answered
    exact moved c apart (after c a kept).2

theorem Matched.join_iff (matched : Matched links) (first : links a = some x)
    (second : links b = some y) : Matched (join links a b) ↔ a ≠ b ∧ Free x b ∧ Free y a := by
  constructor
  · intro after
    have different : a ≠ b := (after b a (by rw [join_apply, if_pos rfl])).1.symm
    refine ⟨different, ?_, ?_⟩
    · refine matched.free_of_answered first after (fun c here there => ?_) fun c other linked => ?_
      · rw [join_apply, if_neg there, if_neg here]
      · rw [join_apply, if_neg different, if_pos rfl] at linked
        exact other (Option.some.inj (Option.some.inj linked)).symm
    · refine matched.free_of_answered second after (fun c here there => ?_) fun c other linked => ?_
      · rw [join_apply, if_neg here, if_neg there]
      · rw [join_apply, if_pos rfl] at linked
        exact other (Option.some.inj (Option.some.inj linked)).symm
  · rintro ⟨different, freeA, freeB⟩ c d linked
    rw [join_apply] at linked
    split at linked
    · rename_i same
      subst same
      cases Option.some.inj (Option.some.inj linked)
      exact ⟨different.symm, by rw [join_apply, if_neg different, if_pos rfl]⟩
    · rename_i notB
      split at linked
      · rename_i same
        subst same
        cases Option.some.inj (Option.some.inj linked)
        exact ⟨different, by rw [join_apply, if_pos rfl]⟩
      · rename_i notA
        obtain ⟨irreflexive, answered⟩ := matched c d linked
        have fromA : d ≠ a := fun same => notB (matched.apart first freeA (same ▸ linked))
        have fromB : d ≠ b := fun same => notA (matched.apart second freeB (same ▸ linked))
        exact ⟨irreflexive, by rw [join_apply, if_neg fromB, if_neg fromA, answered]⟩

theorem Matched.part_iff (matched : Matched links) (first : links a = some x)
    (second : links b = some y) : Matched (part links a b) ↔ Free x b ∧ Free y a := by
  constructor
  · intro after
    constructor
    · refine matched.free_of_answered first after (fun c here there => ?_) fun c _ linked => ?_
      · rw [part_apply, if_neg (not_or.mpr ⟨here, there⟩)]
      · simp [part_apply] at linked
    · refine matched.free_of_answered second after (fun c here there => ?_) fun c _ linked => ?_
      · rw [part_apply, if_neg (not_or.mpr ⟨there, here⟩)]
      · simp [part_apply] at linked
  · rintro ⟨freeA, freeB⟩ c d linked
    rw [part_apply] at linked
    split at linked
    · cases linked
    · rename_i outside
      obtain ⟨notA, notB⟩ := not_or.mp outside
      obtain ⟨irreflexive, answered⟩ := matched c d linked
      have fromA : d ≠ a := fun same => notB (matched.apart first freeA (same ▸ linked))
      have fromB : d ≠ b := fun same => notA (matched.apart second freeB (same ▸ linked))
      exact ⟨irreflexive, by rw [part_apply, if_neg (not_or.mpr ⟨fromA, fromB⟩), answered]⟩

theorem Matched.remove_iff (matched : Matched links) (present : links a = some x) :
    Matched (Function.update links a none) ↔ x = none := by
  constructor
  · intro after
    cases x with
    | none => rfl
    | some b =>
      obtain ⟨different, answered⟩ := matched a b present
      have kept : Function.update links a none b = some (some a) := by
        rw [Function.update_of_ne different.symm, answered]
      have gone := (after b a kept).2
      rw [Function.update_self] at gone
      cases gone
  · rintro rfl b c linked
    by_cases same : b = a
    · rw [same, Function.update_self] at linked
      cases linked
    · rw [Function.update_of_ne same] at linked
      obtain ⟨different, answered⟩ := matched b c linked
      have other : c ≠ a := by
        rintro rfl
        cases present.symm.trans answered
      exact ⟨different, by rw [Function.update_of_ne other, answered]⟩

theorem Matched.insert (matched : Matched links) (absent : links a = none) :
    Matched (Function.update links a (some none)) := by
  intro b c linked
  by_cases same : b = a
  · rw [same, Function.update_self] at linked
    cases linked
  · rw [Function.update_of_ne same] at linked
    obtain ⟨different, answered⟩ := matched b c linked
    have other : c ≠ a := by
      rintro rfl
      cases absent.symm.trans answered
    exact ⟨different, by rw [Function.update_of_ne other, answered]⟩

end AgentOE.Pairing
