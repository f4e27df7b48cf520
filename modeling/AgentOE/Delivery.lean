import Mathlib.Data.List.Nodup
import Mathlib.Data.List.Perm.Basic

/-! What becomes of the items that a queue is given: each is kept, in its place, or lost.
Nothing here names a particular queue. -/
namespace AgentOE.Delivery
open scoped List
variable {α : Type*}

/-- `kept` is what has been passed on, in order, followed by what is held. -/
structure Balanced (given kept lost : List α) : Prop where
  order : kept <+ given
  all : kept ++ lost ~ given

namespace Balanced
variable {given kept front back lost : List α} {x : α}

theorem nil : Balanced ([] : List α) [] [] := ⟨.refl _, .refl _⟩

theorem give (before : Balanced given kept lost) (x : α) :
    Balanced (given ++ [x]) (kept ++ [x]) lost := by
  refine ⟨before.order.append (.refl _), ?_⟩
  calc kept ++ [x] ++ lost
    _ ~ kept ++ (lost ++ [x]) := by
      rw [List.append_assoc]
      exact List.perm_append_comm.append_left kept
    _ ~ given ++ [x] := by
      rw [← List.append_assoc]
      exact before.all.append_right [x]

/-- Wherever the item stands. -/
theorem lose (before : Balanced given (front ++ x :: back) lost) :
    Balanced given (front ++ back) (lost ++ [x]) := by
  refine ⟨((List.sublist_cons_self x back).append_left front).trans before.order, ?_⟩
  refine .trans ?_ before.all
  calc front ++ back ++ (lost ++ [x])
    _ ~ x :: (front ++ back ++ lost) := by
      rw [← List.append_assoc]
      exact List.perm_append_singleton x _
    _ ~ front ++ x :: back ++ lost :=
      List.perm_middle.symm.append_right lost

/-- Of distinct items, the ones kept are those that are not lost, in the order they came. -/
theorem filter_eq [DecidableEq α] (balanced : Balanced given kept lost) (distinct : given.Nodup) :
    given.filter (· ∉ lost) = kept := by
  have apart : (kept ++ lost).Nodup := balanced.all.nodup_iff.mpr distinct
  have none_lost : kept.filter (· ∉ lost) = kept := by
    rw [List.filter_eq_self]
    intro x mem
    exact decide_eq_true ((List.disjoint_of_nodup_append apart) mem)
  have sublist : kept <+ given.filter (· ∉ lost) := by
    rw [← none_lost]
    exact balanced.order.filter _
  refine (sublist.eq_of_length_le ?_).symm
  have count := (balanced.all.filter (· ∉ lost)).length_eq
  have all_lost : lost.filter (· ∉ lost) = [] := by simp
  rw [List.filter_append, none_lost, all_lost, List.append_nil] at count
  exact Nat.le_of_eq count.symm

theorem mem_of_not_lost (balanced : Balanced given kept lost) (mem : x ∈ given) (safe : x ∉ lost) :
    x ∈ kept := (List.mem_append.mp (balanced.all.mem_iff.mpr mem)).resolve_right safe

end Balanced

end AgentOE.Delivery
