import Mathlib.Data.Finset.Card
import Mathlib.Data.Fintype.Sets

/-! How many members of a type have a property, where the type may be infinite. -/
namespace AgentOE.Census
variable {ι : Type*}

/-- Exactly `n` members have the property. -/
def Number (p : ι → Prop) (n : Nat) : Prop :=
  ∃ members : Finset ι, (∀ i, i ∈ members ↔ p i) ∧ members.card = n

variable {p q : ι → Prop} {n m : Nat}

theorem number_zero : Number p 0 ↔ ∀ i, ¬p i := by
  constructor
  · rintro ⟨members, mem, empty⟩ i holds
    rw [Finset.card_eq_zero.mp empty] at mem
    exact Finset.notMem_empty i ((mem i).mpr holds)
  · exact fun none => ⟨∅, fun i => iff_of_false (Finset.notMem_empty i) (none i), rfl⟩

theorem Number.congr (number : Number p n) (same : ∀ i, q i ↔ p i) : Number q n := by
  obtain ⟨members, mem, size⟩ := number
  exact ⟨members, fun i => (mem i).trans (same i).symm, size⟩

theorem Number.unique (number : Number p n) (other : Number p m) : n = m := by
  obtain ⟨members, mem, rfl⟩ := number
  obtain ⟨members', mem', rfl⟩ := other
  rw [Finset.ext fun i => (mem i).trans (mem' i).symm]

theorem Number.subset (number : Number p n) (fewer : ∀ i, q i → p i) : ∃ m, m ≤ n ∧ Number q m := by
  classical
  obtain ⟨members, mem, rfl⟩ := number
  refine ⟨_, Finset.card_filter_le members q, members.filter q, fun i => ?_, rfl⟩
  rw [Finset.mem_filter, mem]
  exact and_iff_right_of_imp (fewer i)

theorem number_filter [Fintype ι] [DecidablePred p] : Number p (Finset.univ.filter p).card :=
  ⟨Finset.univ.filter p, by simp, rfl⟩

/-- What is covered by two properties is no more than both. -/
theorem Number.cover (number : Number p n) (number' : Number q m) {r : ι → Prop}
    (covered : ∀ i, r i → p i ∨ q i) :
    ∃ k, k ≤ n + m ∧ Number r k := by
  classical
  obtain ⟨members, mem, rfl⟩ := number
  obtain ⟨members', mem', rfl⟩ := number'
  have both : Number (fun i => p i ∨ q i) (members ∪ members').card :=
    ⟨_, fun i => by rw [Finset.mem_union, mem, mem'], rfl⟩
  obtain ⟨k, fewer, counted⟩ := both.subset covered
  exact ⟨k, fewer.trans (Finset.card_union_le _ _), counted⟩

variable [DecidableEq ι] {i : ι}

theorem Number.gain (number : Number p n) (before : ¬p i) (after : q i)
    (others : ∀ j, j ≠ i → (q j ↔ p j)) : Number q (n + 1) := by
  obtain ⟨members, mem, rfl⟩ := number
  refine ⟨insert i members, fun j => ?_, Finset.card_insert_of_notMem (mt (mem i).mp before)⟩
  by_cases same : j = i
  · exact iff_of_true (same ▸ Finset.mem_insert_self i members) (same ▸ after)
  · rw [Finset.mem_insert, or_iff_right same, mem, others j same]

theorem Number.lose (number : Number p n) (before : p i) (after : ¬q i)
    (others : ∀ j, j ≠ i → (q j ↔ p j)) : ∃ m, n = m + 1 ∧ Number q m := by
  obtain ⟨members, mem, rfl⟩ := number
  have held : i ∈ members := (mem i).mpr before
  refine ⟨(members.erase i).card, (Finset.card_erase_add_one held).symm, members.erase i,
    fun j => ?_, rfl⟩
  by_cases same : j = i
  · exact iff_of_false (same ▸ Finset.notMem_erase i members) (same ▸ after)
  · rw [Finset.mem_erase, and_iff_right same, mem, others j same]

/-- One member may change. -/
theorem Number.change (number : Number p n) {before after : Bool} (was : p i ↔ before = true)
    (is : q i ↔ after = true) (others : ∀ j, j ≠ i → (q j ↔ p j)) :
    ∃ m, Number q m ∧ m + before.toNat = n + after.toNat := by
  cases before <;> cases after
  case false.true =>
    exact ⟨n + 1, number.gain (fun holds => nomatch was.mp holds) (is.mpr rfl) others, rfl⟩
  case true.false =>
    obtain ⟨m, rfl, fewer⟩ := number.lose (was.mpr rfl) (fun holds => nomatch is.mp holds) others
    exact ⟨m, fewer, rfl⟩
  case false.false | true.true =>
    refine ⟨n, number.congr fun j => ?_, rfl⟩
    by_cases same : j = i
    · exact same ▸ is.trans was.symm
    · exact others j same

end AgentOE.Census
