import Mathlib.Data.List.Basic

/-! A growing buffer over a heap of arrays. Its contents are handed out as slices, which
share the array with it. Nothing here names a particular program. -/
namespace AgentOE.SliceBuffer
variable {α : Type*}

/-- The arrays by address. The length of an array is its capacity. -/
abbrev Heap (α : Type*) := List (List α)

/-- The first `len` elements of an array. The nil slice is `none`. -/
structure Slice where
  array : Nat
  len : Nat
  deriving DecidableEq

namespace Heap
variable (heap : Heap α)

def array (address : Nat) : List α := (heap[address]?).getD []

def contents : Option Slice → List α
  | none => []
  | some s => (heap.array s.array).take s.len

def capacity : Option Slice → Nat
  | none => 0
  | some s => (heap.array s.array).length

/-- Copies the elements into the array, from the index on. -/
def store (address start : Nat) (p : List α) : Heap α :=
  heap.modify address fun array => array.take start ++ p ++ array.drop (start + p.length)

/-- Copies the elements behind the slice. -/
def append (buf : Option Slice) (p : List α) : Heap α :=
  match buf with
  | none => heap
  | some s => heap.store s.array s.len p

/-- A new array with the elements in front. -/
def alloc [Inhabited α] (p : List α) (capacity : Nat) : Heap α :=
  heap ++ [p ++ List.replicate (capacity - p.length) default]

/-- The slice lies in an array of the heap. -/
def Valid (heap : Heap α) (slice : Option Slice) : Prop :=
  ∀ s ∈ slice, s.array < heap.length ∧ s.len ≤ (heap.array s.array).length

end Heap

def length : Option Slice → Nat
  | none => 0
  | some s => s.len

/-- How large an array is allocated when `c` elements are asked for. -/
structure Growth where
  roundUp : Nat → Nat
  enough : ∀ c, c ≤ roundUp c

/-- The capacity of the first array when little is written. -/
def smallBufferSize : Nat := 64

/-- The elements go behind the contents where the array has room for them, and with the
contents into a new array where it has not. -/
def write [Inhabited α] (growth : Growth) (p : List α) (heap : Heap α) (buf : Option Slice) :
    Heap α × Option Slice :=
  let n := length buf + p.length
  if p.length ≤ heap.capacity buf - length buf then
    (heap.append buf p, buf.map fun s => { s with len := n })
  else
    let capacity := if buf = none ∧ p.length ≤ smallBufferSize then smallBufferSize
      else growth.roundUp (max n (2 * heap.capacity buf))
    (heap.alloc (heap.contents buf ++ p) capacity, some { array := heap.length, len := n })

/-- The array is kept. -/
def reset : Option Slice → Option Slice
  | none => none
  | some s => some { s with len := 0 }

variable {heap : Heap α} {slice buf : Option Slice} {p : List α} {address start k : Nat}

theorem contents_length (valid : heap.Valid slice) :
    (heap.contents slice).length = length slice := by
  cases slice with
  | none => rfl
  | some s => exact List.length_take_of_le (valid s rfl).2

theorem valid_none : heap.Valid none := by
  intro s mem
  cases mem

theorem valid_reset (valid : heap.Valid buf) : heap.Valid (reset buf) := by
  cases buf with
  | none => exact valid
  | some s =>
    intro r same
    cases same
    exact ⟨(valid s rfl).1, Nat.zero_le _⟩

theorem contents_reset (heap : Heap α) (buf : Option Slice) : heap.contents (reset buf) = [] := by
  cases buf with
  | none => rfl
  | some s => rfl

theorem array_alloc_old [Inhabited α] {capacity : Nat} (old : address < heap.length) :
    (heap.alloc p capacity).array address = heap.array address := by
  simp only [Heap.array, Heap.alloc, List.getElem?_append_left old]

theorem array_alloc_new [Inhabited α] {capacity : Nat} : (heap.alloc p capacity).array heap.length =
    p ++ List.replicate (capacity - p.length) default := by
  simp [Heap.array, Heap.alloc]

theorem array_store_other {other : Nat} (differs : other ≠ address) :
    (heap.store address start p).array other = heap.array other := by
  simp [Heap.array, Heap.store, differs.symm]

theorem array_store_self (inside : address < heap.length) :
    (heap.store address start p).array address =
    (heap.array address).take start ++ p ++ (heap.array address).drop (start + p.length) := by
  simp [Heap.array, Heap.store, List.getElem?_eq_getElem inside]

/-- A new array has room for what is put into it. -/
theorem new_capacity (growth : Growth) (buf : Option Slice) (p : List α) (old : Nat) :
    length buf + p.length ≤
    (if buf = none ∧ p.length ≤ smallBufferSize then smallBufferSize
      else growth.roundUp (max (length buf + p.length) old)) := by
  split
  · rename_i small
    rw [small.1, length, Nat.zero_add]
    exact small.2
  · exact Nat.le_trans (Nat.le_max_left _ _) (growth.enough _)

section write
variable [Inhabited α] (growth : Growth)

/-- What a write does. An empty write to the nil slice does nothing. -/
theorem write_cases (valid : heap.Valid buf) (p : List α) :
    (buf = none ∧ p = [] ∧ write growth p heap buf = (heap, none)) ∨
    (∃ s, buf = some s ∧ s.array < heap.length ∧ s.len + p.length ≤ (heap.array s.array).length ∧
      write growth p heap buf = (heap.store s.array s.len p,
        some { s with len := s.len + p.length })) ∨
    (∃ capacity, length buf + p.length ≤ capacity ∧ write growth p heap buf =
      (heap.alloc (heap.contents buf ++ p) capacity,
        some { array := heap.length, len := length buf + p.length })) := by
  by_cases room : p.length ≤ heap.capacity buf - length buf
  · cases buf with
    | none =>
      have empty : p = [] := List.eq_nil_of_length_eq_zero (Nat.le_zero.mp room)
      exact .inl ⟨rfl, empty, if_pos room⟩
    | some s =>
      obtain ⟨inside, bounded⟩ := valid s rfl
      refine .inr (.inl ⟨s, rfl, inside, ?_, if_pos room⟩)
      simp only [Heap.capacity, length] at room
      omega
  · exact .inr (.inr ⟨_, new_capacity growth buf p _, if_neg room⟩)

/-- The buffer has grown by what was written. -/
theorem contents_write (valid : heap.Valid buf) (p : List α) :
    (write growth p heap buf).1.contents (write growth p heap buf).2 = heap.contents buf ++ p := by
  rcases write_cases growth valid p with ⟨rfl, rfl, now⟩ | ⟨s, rfl, inside, room, now⟩ |
    ⟨capacity, room, now⟩
  · rw [now]
    rfl
  · rw [now, Heap.contents, array_store_self inside, Heap.contents]
    have front : ((heap.array s.array).take s.len).length = s.len :=
      List.length_take_of_le (by omega)
    apply List.take_left'
    rw [List.length_append, front]
  · rw [now, Heap.contents, array_alloc_new]
    apply List.take_left'
    rw [List.length_append, contents_length valid]

theorem valid_write (valid : heap.Valid buf) (p : List α) :
    (write growth p heap buf).1.Valid (write growth p heap buf).2 := by
  rcases write_cases growth valid p with ⟨rfl, rfl, now⟩ | ⟨s, rfl, inside, room, now⟩ |
    ⟨capacity, room, now⟩
  · rw [now]
    exact valid_none
  · rw [now]
    intro r same
    cases same
    refine ⟨by simpa [Heap.store] using inside, ?_⟩
    rw [array_store_self inside]
    simp only [List.length_append, List.length_take, List.length_drop]
    omega
  · rw [now]
    intro r same
    cases same
    refine ⟨by simp [Heap.alloc], ?_⟩
    rw [array_alloc_new]
    simp only [List.length_append, List.length_replicate, contents_length valid]
    omega

/-- Other slices stay valid, even where a write changes their arrays. -/
theorem valid_write_other (valid : heap.Valid buf) (other : heap.Valid slice) (p : List α) :
    (write growth p heap buf).1.Valid slice := by
  intro r same
  obtain ⟨inside', bounded⟩ := other r same
  rcases write_cases growth valid p with ⟨-, -, now⟩ | ⟨s, -, inside, room, now⟩ |
    ⟨capacity, -, now⟩
  · rw [now]
    exact ⟨inside', bounded⟩
  · rw [now]
    refine ⟨by simpa [Heap.store] using inside', ?_⟩
    by_cases same : r.array = s.array
    · rw [same] at bounded ⊢
      rw [array_store_self inside]
      simp only [List.length_append, List.length_take, List.length_drop]
      omega
    · rw [array_store_other same]
      exact bounded
  · rw [now]
    refine ⟨by simp only [Heap.alloc, List.length_append]; omega, ?_⟩
    rw [array_alloc_old inside']
    exact bounded

end write

end AgentOE.SliceBuffer
