import Mathlib.Data.Finset.Card
import AgentOE.Collection

/-! Least-recently-used caches: an ordered dictionary, oldest entry first. -/
namespace AgentOE.Lru
open Collection
variable {α β : Type*} [DecidableEq α]

def get (key : α) (entries : List (α × β)) : Option β := entries.lookup key

def without (key : α) (entries : List (α × β)) : List (α × β) := entries.filter (·.1 ≠ key)

/-- `move_to_end` of a key that is there. -/
def touch (key : α) (entries : List (α × β)) : List (α × β) :=
  (get key entries).elim entries fun value => without key entries ++ [(key, value)]

/-- The new entry is the youngest; the oldest ones go while there are too many. -/
def put (capacity : Nat) (key : α) (value : β) (entries : List (α × β)) : List (α × β) :=
  let next := without key entries ++ [(key, value)]
  next.drop (next.length - capacity)

variable {key name : α} {value other : β} {entries : List (α × β)}

theorem mem_of_touch (mem : (name, other) ∈ touch key entries) : (name, other) ∈ entries := by
  cases found : get key entries with
  | none => simpa [touch, found] using mem
  | some value =>
    simp only [touch, found, Option.elim_some] at mem
    rcases List.mem_append.mp mem with mem | mem
    · exact List.mem_of_mem_filter mem
    · cases List.mem_singleton.mp mem
      exact mem_of_lookup found

theorem mem_of_put (mem : (name, other) ∈ put capacity key value entries) :
    (name, other) = (key, value) ∨ (name, other) ∈ entries := by
  rcases List.mem_append.mp (List.mem_of_mem_drop mem) with mem | mem
  · exact .inr (List.mem_of_mem_filter mem)
  · exact .inl (List.mem_singleton.mp mem)

theorem mem_put_cases (mem : (name, other) ∈ put capacity key value entries) :
    name = key ∧ other = value ∨ name ≠ key ∧ (name, other) ∈ entries := by
  rcases List.mem_append.mp (List.mem_of_mem_drop mem) with mem | mem
  · obtain ⟨inside, differs⟩ := List.mem_filter.mp mem
    exact .inr ⟨of_decide_eq_true differs, inside⟩
  · exact .inl (Prod.mk.inj (List.mem_singleton.mp mem))

theorem length_put (capacity : Nat) : (put capacity key value entries).length ≤ capacity := by
  simp only [put, List.length_drop]
  omega

/-! No key has two entries. -/

def Distinct (entries : List (α × β)) : Prop := (entries.map (·.1)).Nodup

omit [DecidableEq α] in
theorem Distinct.sublist {fewer : List (α × β)} (distinct : Distinct entries)
    (part : fewer.Sublist entries) : Distinct fewer := List.Nodup.sublist (part.map _) distinct

theorem Distinct.renewed (distinct : Distinct entries) :
    Distinct (without key entries ++ [(key, value)]) := by
  have rest : Distinct (without key entries) := distinct.sublist List.filter_sublist
  rw [Distinct, List.map_append, List.nodup_append]
  refine ⟨rest, by simp, ?_⟩
  intro name mem other last
  obtain ⟨entry, inside, rfl⟩ := List.mem_map.mp mem
  cases List.mem_singleton.mp last
  exact of_decide_eq_true (List.mem_filter.mp inside).2

theorem Distinct.touch (distinct : Distinct entries) : Distinct (touch key entries) := by
  cases found : get key entries with
  | none => simpa [Lru.touch, found] using distinct
  | some value => simpa only [Lru.touch, found, Option.elim_some] using distinct.renewed

theorem Distinct.put (distinct : Distinct entries) : Distinct (put capacity key value entries) :=
  distinct.renewed.sublist (List.drop_sublist _ _)

theorem length_touch (key : α) (entries : List (α × β)) :
    (touch key entries).length ≤ entries.length := by
  cases found : get key entries with
  | none => simp [touch, found]
  | some value =>
    have gone : (without key entries).length < entries.length :=
      List.length_filter_lt_length_iff_exists.mpr ⟨(key, value), mem_of_lookup found, by simp⟩
    simp only [touch, found, Option.elim_some, List.length_append, List.length_singleton]
    omega

/-! How long a key stays. -/

/-- The key is there, and all entries younger than its own are under `used` keys. -/
def Recent (key : α) (used : List α) (entries : List (α × β)) : Prop :=
  ∃ older value younger, entries = older ++ (key, value) :: younger ∧ younger.map (·.1) ⊆ used

omit [DecidableEq α] in
theorem recent_append (older : List (α × β)) (used : List α) :
    Recent key used (older ++ [(key, value)]) :=
  ⟨older, value, [], rfl, by simp⟩

namespace Recent
variable {used : List α}

theorem found (recent : Recent key used entries) : (get key entries).isSome := by
  obtain ⟨older, value, younger, rfl, -⟩ := recent
  rw [get, Option.isSome_iff_ne_none]
  intro missing
  have differs := List.lookup_eq_none_iff.mp missing (key, value) (by simp)
  exact bne_iff_ne.mp differs rfl

omit [DecidableEq α] in
theorem weaken {more : List α} (recent : Recent key used entries) (within : used ⊆ more) :
    Recent key more entries := by
  obtain ⟨older, value, younger, same, names⟩ := recent
  exact ⟨older, value, younger, same, fun _ mem => within (names mem)⟩

omit [DecidableEq α] in
theorem filter {p : α × β → Bool} (recent : Recent key used entries)
    (kept : ∀ value, p (key, value) = true) :
    Recent key used (entries.filter p) := by
  obtain ⟨older, value, younger, rfl, names⟩ := recent
  refine ⟨older.filter p, value, younger.filter p, by simp [kept], fun _ mem => names ?_⟩
  exact (List.filter_sublist.map _).subset mem

omit [DecidableEq α] in
theorem append (recent : Recent key used entries) (name : α) (other : β) :
    Recent key (used ++ [name]) (entries ++ [(name, other)]) := by
  obtain ⟨older, value, younger, rfl, names⟩ := recent
  refine ⟨older, value, younger ++ [(name, other)], by simp, ?_⟩
  rw [List.map_append]
  exact List.append_subset.mpr ⟨List.subset_append_of_subset_left _ names,
    List.subset_append_right _ _⟩

/-- The younger entries are fewer than the distinct names that were used. -/
theorem drop (recent : Recent key used entries) (distinct : Distinct entries)
    (few : (used.toFinset.erase key).card < capacity) :
    Recent key used (entries.drop (entries.length - capacity)) := by
  obtain ⟨older, value, younger, rfl, names⟩ := recent
  have apart : (key :: younger.map (·.1)).Nodup := by
    have tail : Distinct ((key, value) :: younger) :=
      distinct.sublist (List.sublist_append_right ..)
    simpa [Distinct] using tail
  obtain ⟨other, once⟩ := List.nodup_cons.mp apart
  have within : (younger.map (·.1)).toFinset ⊆ used.toFinset.erase key := by
    intro name mem
    have inside := List.mem_toFinset.mp mem
    exact Finset.mem_erase.mpr ⟨fun same => other (same ▸ inside),
      List.mem_toFinset.mpr (names inside)⟩
  have short : younger.length < capacity := by
    have counted := Finset.card_le_card within
    rw [List.toFinset_card_of_nodup once, List.length_map] at counted
    omega
  refine ⟨older.drop ((older ++ (key, value) :: younger).length - capacity), value, younger,
    ?_, names⟩
  apply List.drop_append_of_le_length
  simp only [List.length_append, List.length_cons]
  omega

/-- Another key becomes the youngest. -/
theorem renewed (recent : Recent key used entries) (differs : name ≠ key) (other : β) :
    Recent key (used ++ [name]) (without name entries ++ [(name, other)]) :=
  (recent.filter fun _ => decide_eq_true differs.symm).append name other

theorem touch (recent : Recent key used entries) (differs : name ≠ key)
    (hit : (get name entries).isSome) :
    Recent key (used ++ [name]) (touch name entries) := by
  obtain ⟨other, there⟩ := Option.isSome_iff_exists.mp hit
  simpa only [Lru.touch, there, Option.elim_some] using recent.renewed differs other

theorem put (recent : Recent key used entries) (distinct : Distinct entries) (differs : name ≠ key)
    (few : ((used ++ [name]).toFinset.erase key).card < capacity) :
    Recent key (used ++ [name]) (put capacity name other entries) :=
  (recent.renewed differs other).drop distinct.renewed few

end Recent

theorem recent_touch (hit : (get key entries).isSome) (used : List α) :
    Recent key used (touch key entries) := by
  obtain ⟨value, there⟩ := Option.isSome_iff_exists.mp hit
  simpa only [touch, there, Option.elim_some] using recent_append _ used

theorem recent_put (positive : 0 < capacity) (used : List α) :
    Recent key used (put capacity key value entries) := by
  rw [put, List.drop_append_of_le_length (by simp; omega)]
  exact recent_append _ used

end AgentOE.Lru
