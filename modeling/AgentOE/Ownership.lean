import Mathlib.Data.List.Nodup
import Mathlib.Data.List.Perm.Subperm
import Mathlib.Logic.Function.Basic

/-! Resources that are either free or held by exactly one party. -/
namespace AgentOE.Ownership
variable {ι R : Type*}

structure Exclusive (free : List R) (held : ι → List R) : Prop where
  nodup : ∀ i, (free ++ held i).Nodup
  disjoint : ∀ i j, i ≠ j → (held i).Disjoint (held j)

variable {free free' mine : List R} {held : ι → List R} {i : ι}

theorem Exclusive.free_not_held (exclusive : Exclusive free held) {r : R} (mem : r ∈ free) (j : ι) :
    r ∉ held j := fun taken => List.disjoint_of_nodup_append (exclusive.nodup j) mem taken

variable [DecidableEq ι]

/-- One party moves resources between itself and the free ones, loses some, or
takes ones that nobody had. -/
theorem Exclusive.move (exclusive : Exclusive free held) {fresh : List R} (distinct : fresh.Nodup)
    (unknown : ∀ r ∈ fresh, r ∉ free ∧ ∀ j, r ∉ held j)
    (moves : (free' ++ mine).Subperm (fresh ++ (free ++ held i))) :
    Exclusive free' (Function.update held i mine) := by
  have whole : (fresh ++ (free ++ held i)).Nodup := by
    refine List.nodup_append'.2 ⟨distinct, exclusive.nodup i, fun r new old => ?_⟩
    rcases List.mem_append.1 old with idle | taken
    · exact (unknown r new).1 idle
    · exact (unknown r new).2 i taken
  have after : (free' ++ mine).Nodup := by
    obtain ⟨kept, same, part⟩ := moves
    exact same.nodup_iff.1 (whole.sublist part)
  have outside : ∀ j, j ≠ i → ∀ r ∈ free' ++ mine, r ∉ held j := by
    intro j other r mem taken
    rcases List.mem_append.1 (moves.subset mem) with new | old
    · exact (unknown r new).2 j taken
    · rcases List.mem_append.1 old with idle | own
      · exact exclusive.free_not_held idle j taken
      · exact exclusive.disjoint i j (Ne.symm other) own taken
  constructor
  · intro j
    by_cases same : j = i
    · subst same
      rwa [Function.update_self]
    · rw [Function.update_of_ne same]
      refine List.nodup_append'.2 ⟨after.of_append_left, (exclusive.nodup j).of_append_right, ?_⟩
      exact fun r idle => outside j same r (List.mem_append_left _ idle)
  · intro j k distinct r left right
    by_cases first : j = i
    · subst first
      rw [Function.update_self] at left
      rw [Function.update_of_ne (Ne.symm distinct)] at right
      exact outside k (Ne.symm distinct) r (List.mem_append_right _ left) right
    · rw [Function.update_of_ne first] at left
      by_cases second : k = i
      · subst second
        rw [Function.update_self] at right
        exact outside j first r (List.mem_append_right _ right) left
      · rw [Function.update_of_ne second] at right
        exact exclusive.disjoint j k distinct left right

end AgentOE.Ownership
