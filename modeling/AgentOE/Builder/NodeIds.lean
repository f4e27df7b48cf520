import Mathlib.Data.Finset.Card
import Mathlib.Order.Interval.Finset.Nat
import AgentOE.Builder.Store

/-! The search for a free node id: how far it goes, and what many additions from the palette
make. -/
namespace AgentOE.Builder
open Agentic (NodeType)

/-- The search with a limit on how often it looks into the set. -/
def probe (existing : List String) (type : NodeType) : Nat → Nat → Option Nat
  | 0, _ => none
  | limit + 1, i => if nodeName type i ∈ existing then probe existing type limit (i + 1) else some i

section Search
variable {existing : List String} {type : NodeType} {i j : Nat}

theorem le_freeNumber (existing : List String) (type : NodeType) (i : Nat) :
    i ≤ freeNumber existing type i := by
  fun_induction freeNumber existing type i with
  | case1 i taken ih => exact (Nat.le_succ i).trans ih
  | case2 i free => exact le_rfl

/-- Every number before the one that is found is taken. -/
theorem taken_of_lt (from_ : i ≤ j) (before : j < freeNumber existing type i) :
    nodeName type j ∈ existing := by
  fun_induction freeNumber existing type i with
  | case1 i taken ih =>
    rcases Nat.eq_or_lt_of_le from_ with rfl | later
    · exact taken
    · exact ih later before
  | case2 i free => omega

/-- The names before it are different members of the set. -/
theorem freeNumber_le (existing : List String) (type : NodeType) :
    freeNumber existing type 1 ≤ existing.toFinset.card + 1 := by
  have taken : (Finset.Ico 1 (freeNumber existing type 1)).image
      (nodeName type) ⊆ existing.toFinset := by
    intro name mem
    obtain ⟨j, inside, rfl⟩ := Finset.mem_image.mp mem
    obtain ⟨one, before⟩ := Finset.mem_Ico.mp inside
    exact List.mem_toFinset.mpr (taken_of_lt one before)
  have count := Finset.card_le_card taken
  rw [Finset.card_image_of_injective _ (nodeName_injective type), Nat.card_Ico] at count
  omega

/-- As many looks as there are numbers up to the one that is found are enough. -/
theorem probe_eq (limit : Nat) (enough : freeNumber existing type i < i + limit) :
    probe existing type limit i = some (freeNumber existing type i) := by
  induction limit generalizing i with
  | zero =>
    have := le_freeNumber existing type i
    omega
  | succ limit ih =>
    rw [freeNumber] at enough ⊢
    by_cases taken : nodeName type i ∈ existing
    · rw [if_pos taken] at enough ⊢
      rw [probe, if_pos taken, ih (by omega)]
    · rw [probe, if_neg taken, if_neg taken]

end Search

/-! Many additions. -/

section Palette
variable {F : Type} (num : Numbers F)

def addAll (s : BuilderState F) (calls : List (NodeType × (F × F))) : BuilderState F :=
  calls.foldl (fun s call => s.addNodeFromPalette num call.1 call.2) s

theorem addNodeFromPalette_ids (s : BuilderState F) (type : NodeType) (position : F × F) :
    (s.addNodeFromPalette num type position).ids = s.ids ∨
      (s.addNodeFromPalette num type position).ids = s.ids ++ [uniqueNodeId s.ids type] := by
  rw [BuilderState.addNodeFromPalette]
  split
  · exact .inl rfl
  · exact .inr (by simp [BuilderState.ids])

/-- What the calls add is new and without repetition. -/
theorem addAll_ids (s : BuilderState F) (calls : List (NodeType × (F × F))) : ∃ added,
    (addAll num s calls).ids = s.ids ++ added ∧ added.Nodup ∧ ∀ id ∈ added, id ∉ s.ids := by
  induction calls generalizing s with
  | nil => exact ⟨[], (List.append_nil _).symm, List.nodup_nil, nofun⟩
  | cons call calls ih =>
    obtain ⟨later, joined, unique, fresh⟩ := ih (s.addNodeFromPalette num call.1 call.2)
    rcases addNodeFromPalette_ids num s call.1 call.2 with same | grown
    · exact ⟨later, same ▸ joined, unique, same ▸ fresh⟩
    · rw [grown] at joined fresh
      have notLater : uniqueNodeId s.ids call.1 ∉ later := fun mem => fresh _ mem (by simp)
      refine ⟨uniqueNodeId s.ids call.1 :: later, by simpa [addAll] using joined,
        List.nodup_cons.mpr ⟨notLater, unique⟩,
          List.forall_mem_cons.mpr ⟨uniqueNodeId_fresh s.ids call.1, ?_⟩⟩
      exact fun id mem inside => fresh id mem (List.mem_append_left _ inside)

end Palette

/-- The search ends within one look more than the set has members, with the least number whose
name is free, and no sequence of additions makes an id that is there already. -/
theorem fresh_node_ids {F : Type} (num : Numbers F) :
    (∀ (existing : List String) (type : NodeType), ∃ k,
      probe existing type (existing.toFinset.card + 1) 1 = some k ∧
      uniqueNodeId existing type = nodeName type k ∧ 1 ≤ k ∧ nodeName type k ∉ existing ∧
      ∀ j, 1 ≤ j → j < k → nodeName type j ∈ existing) ∧
    ∀ (s : BuilderState F) (calls : List (NodeType × (F × F))), ∃ added,
      (addAll num s calls).ids = s.ids ++ added ∧ added.Nodup ∧ ∀ id ∈ added, id ∉ s.ids := by
  refine ⟨fun existing type => ⟨freeNumber existing type 1, probe_eq _ ?_, rfl,
    le_freeNumber existing type 1,
    freeNumber_free existing type 1, fun j one before => taken_of_lt one before⟩, addAll_ids num⟩
  have bound := freeNumber_le existing type
  omega

theorem gap_is_filled : uniqueNodeId ["llm_1", "llm_3"] .llm = "llm_2" ∧
    (addAll wholeNumbers initialState
    [(.llm, (0, 0)), (.start, (0, 0)), (.llm, (0, 0)), (.start, (0, 0))]).ids.Nodup := by
  obtain ⟨search, additions⟩ := fresh_node_ids wholeNumbers
  obtain ⟨k, found, same, -⟩ := search ["llm_1", "llm_3"] .llm
  obtain ⟨added, ids, unique, -⟩ := additions initialState
    [(.llm, (0, 0)), (.start, (0, 0)), (.llm, (0, 0)), (.start, (0, 0))]
  have second : probe ["llm_1", "llm_3"] .llm (["llm_1", "llm_3"].toFinset.card + 1) 1 =
    some 2 := by decide +kernel
  cases found.symm.trans second
  exact ⟨same.trans (by decide +kernel), ids ▸ unique⟩

end AgentOE.Builder
