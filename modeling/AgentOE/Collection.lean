import Mathlib.Data.List.Basic
import Mathlib.Data.List.Forall2
import Mathlib.Data.List.Nodup

/-! Document collections in natural order. A query that matches several
documents selects the first one, in every operation alike. -/
namespace AgentOE.Collection
variable {α : Type*}

def findOne (p : α → Bool) (docs : List α) : Option α := docs.find? p

def insertOne (doc : α) (docs : List α) : List α := docs ++ [doc]

/-- Changes the first match only. -/
def updateOne (p : α → Bool) (f : α → α) : List α → List α
  | [] => []
  | doc :: docs => if p doc then f doc :: docs else doc :: updateOne p f docs

def updateMany (p : α → Bool) (f : α → α) (docs : List α) : List α :=
  docs.map fun doc => if p doc then f doc else doc

def deleteOne (p : α → Bool) (docs : List α) : List α := docs.eraseP p

variable {p q : α → Bool} {f : α → α} {docs : List α}

theorem findOne_match (found : findOne p docs = some doc) : p doc = true :=
  List.find?_some found

theorem findOne_mem (found : findOne p docs = some doc) : doc ∈ docs :=
  List.mem_of_find?_eq_some found

theorem findOne_none : findOne p docs = none ↔ ∀ doc ∈ docs, p doc = false := by
  simp [findOne, List.find?_eq_none]

theorem findOne_unique (mem : doc ∈ docs) (matched : p doc = true)
    (only : ∀ other ∈ docs, p other = true → other = doc) : findOne p docs = some doc := by
  cases found : findOne p docs with
  | none => exact absurd matched (by simp [findOne_none.mp found doc mem])
  | some other => rw [only other (findOne_mem found) (findOne_match found)]

theorem findOne_insertOne (doc : α) :
    findOne p (insertOne doc docs) = (findOne p docs).or (if p doc then some doc else none) := by
  simp only [findOne, insertOne, List.find?_append]
  cases matched : p doc <;> simp [matched]

/-- An update that keeps its own match is read back by the same query. -/
theorem findOne_updateOne (keeps : ∀ doc, p doc = true → p (f doc) = true) :
    findOne p (updateOne p f docs) = (findOne p docs).map f := by
  induction docs with
  | nil => rfl
  | cons doc docs ih =>
    by_cases matched : p doc = true
    · simp [updateOne, findOne, matched, keeps doc matched]
    · simp only [updateOne, findOne, matched, if_false, Bool.false_eq_true, List.find?_cons]
      exact ih

theorem forall₂_updateOne {R : α → α → Prop} (refl : ∀ doc, R doc doc)
    (changed : ∀ doc, p doc = true → R doc (f doc)) : List.Forall₂ R docs (updateOne p f docs) := by
  induction docs with
  | nil => exact .nil
  | cons doc docs ih =>
    rw [updateOne]
    split
    · exact .cons (changed doc ‹_›) (List.forall₂_same.mpr fun doc _ => refl doc)
    · exact .cons (refl doc) ih

theorem forall₂_updateMany {R : α → α → Prop} (refl : ∀ doc, R doc doc)
    (changed : ∀ doc, p doc = true → R doc (f doc)) :
    List.Forall₂ R docs (updateMany p f docs) := by
  apply List.forall₂_map_right_iff.mpr
  apply List.forall₂_same.mpr
  intro doc _
  split
  · exact changed doc ‹_›
  · exact refl doc

theorem forall₂_mem_right {R : α → α → Prop} (related : List.Forall₂ R docs docs')
    (mem : doc' ∈ docs') : ∃ doc ∈ docs, R doc doc' := by
  induction related with
  | nil => cases mem
  | cons first _ ih =>
    rcases List.mem_cons.mp mem with rfl | mem
    · exact ⟨_, List.mem_cons_self, first⟩
    · obtain ⟨doc, inside, rel⟩ := ih mem
      exact ⟨doc, List.mem_cons_of_mem _ inside, rel⟩

theorem forall₂_mem_left {R : α → α → Prop} (related : List.Forall₂ R docs docs')
    (mem : doc ∈ docs) : ∃ doc' ∈ docs', R doc doc' :=
  forall₂_mem_right related.flip mem

theorem forall₂_map_eq {R : α → α → Prop} {g : α → β} (related : List.Forall₂ R docs docs')
    (same : ∀ doc doc', R doc doc' → g doc' = g doc) : docs'.map g = docs.map g := by
  induction related with
  | nil => rfl
  | cons first _ ih => rw [List.map_cons, List.map_cons, same _ _ first, ih]

/-- Every match of a query that selects one document at most is updated. -/
theorem updateOne_eq_updateMany
    (single : ∀ doc ∈ docs, ∀ doc' ∈ docs, p doc = true → p doc' = true → doc = doc')
    (distinct : docs.Nodup) : updateOne p f docs = updateMany p f docs := by
  induction docs with
  | nil => rfl
  | cons doc docs ih =>
    obtain ⟨new, distinct⟩ := List.nodup_cons.mp distinct
    have rest := ih (fun a memA b memB => single a (List.mem_cons_of_mem _ memA) b
      (List.mem_cons_of_mem _ memB)) distinct
    by_cases matched : p doc = true
    · have unmatched : ∀ other ∈ docs, (if p other then f other else other) = other := by
        intro other mem
        have different : ¬ p other = true := by
          intro also
          obtain rfl := single doc List.mem_cons_self other
            (List.mem_cons_of_mem _ mem) matched also
          exact new mem
        rw [if_neg different]
      simp only [updateOne, updateMany, matched, if_true, List.map_cons]
      rw [List.map_congr_left unmatched, List.map_id']
    · simp only [updateOne, updateMany, matched, if_false, Bool.false_eq_true, List.map_cons]
      rw [rest, updateMany]

/-- A query that an update can neither gain nor lose a match for. -/
theorem findOne_updateOne_of_disjoint (before : ∀ doc, p doc = true → q doc = false)
    (after : ∀ doc, p doc = true → q (f doc) = false) :
    findOne q (updateOne p f docs) = findOne q docs := by
  induction docs with
  | nil => rfl
  | cons doc docs ih =>
    by_cases matched : p doc = true
    · simp [updateOne, findOne, matched, before doc matched, after doc matched]
    · simp only [updateOne, matched, if_false, Bool.false_eq_true, findOne, List.find?_cons]
      rw [show List.find? q (updateOne p f docs) = List.find? q docs from ih]

/-- An updated collection holds its old documents and the change of the first match. -/
theorem mem_updateOne (mem : doc' ∈ updateOne p f docs) :
    doc' ∈ docs ∨ ∃ doc, findOne p docs = some doc ∧ doc' = f doc := by
  induction docs with
  | nil => cases mem
  | cons doc docs ih =>
    by_cases matched : p doc = true
    · rw [updateOne, if_pos matched] at mem
      rcases List.mem_cons.mp mem with rfl | mem
      · exact .inr ⟨doc, by simp [findOne, matched], rfl⟩
      · exact .inl (List.mem_cons_of_mem _ mem)
    · rw [updateOne, if_neg matched] at mem
      rcases List.mem_cons.mp mem with rfl | mem
      · exact .inl List.mem_cons_self
      · rcases ih mem with mem | ⟨first, found, rfl⟩
        · exact .inl (List.mem_cons_of_mem _ mem)
        · exact .inr ⟨first, by simpa [findOne, matched] using found, rfl⟩

theorem mem_updateMany (mem : doc' ∈ updateMany p f docs) :
    doc' ∈ docs ∨ ∃ doc ∈ docs, p doc = true ∧ doc' = f doc := by
  obtain ⟨doc, inside, rfl⟩ := List.mem_map.mp mem
  split
  · exact .inr ⟨doc, inside, ‹_›, rfl⟩
  · exact .inl inside

/-- Deleting a document outside a selection. -/
theorem filter_deleteOne (outside : ∀ doc ∈ docs, p doc = true → q doc = false) :
    (deleteOne p docs).filter q = docs.filter q := by
  induction docs with
  | nil => rfl
  | cons doc docs ih =>
    obtain ⟨first, outside⟩ := List.forall_mem_cons.mp outside
    by_cases matched : p doc = true
    · simp [deleteOne, matched, first matched]
    · have tail := ih outside
      simp only [deleteOne] at tail ⊢
      rw [List.eraseP_cons_of_neg matched, List.filter_cons, List.filter_cons, tail]

/-! A selection that holds the document an operation finds. -/

theorem findOne_filter (first : ∀ doc, findOne p docs = some doc → q doc = true) :
    findOne p (docs.filter q) = findOne p docs := by
  induction docs with
  | nil => rfl
  | cons doc docs ih =>
    simp only [findOne] at first ih ⊢
    by_cases matched : p doc = true
    · have inside : q doc = true := first doc (List.find?_cons_of_pos matched)
      rw [List.filter_cons_of_pos inside, List.find?_cons_of_pos matched,
        List.find?_cons_of_pos matched]
    · rw [List.find?_cons_of_neg matched] at first ⊢
      by_cases inside : q doc = true
      · rw [List.filter_cons_of_pos inside, List.find?_cons_of_neg matched, ih first]
      · rw [List.filter_cons_of_neg inside, ih first]

theorem filter_updateOne
    (first : ∀ doc, findOne p docs = some doc → q doc = true ∧ q (f doc) = true) :
    (updateOne p f docs).filter q = updateOne p f (docs.filter q) ∧
      (updateOne p f docs).filter (fun doc => !q doc) = docs.filter (fun doc => !q doc) := by
  induction docs with
  | nil => exact ⟨rfl, rfl⟩
  | cons doc docs ih =>
    simp only [findOne] at first ih
    by_cases matched : p doc = true
    · obtain ⟨inside, stays⟩ := first doc (List.find?_cons_of_pos matched)
      simp [updateOne, matched, inside, stays]
    · rw [List.find?_cons_of_neg matched] at first
      obtain ⟨same, rest⟩ := ih first
      by_cases inside : q doc = true <;> simp [updateOne, matched, inside, same, rest]

theorem filter_deleteOne_inside (first : ∀ doc, findOne p docs = some doc → q doc = true) :
    (deleteOne p docs).filter q = deleteOne p (docs.filter q) ∧
      (deleteOne p docs).filter (fun doc => !q doc) = docs.filter (fun doc => !q doc) := by
  induction docs with
  | nil => exact ⟨rfl, rfl⟩
  | cons doc docs ih =>
    simp only [findOne, deleteOne] at first ih ⊢
    by_cases matched : p doc = true
    · have inside : q doc = true := first doc (List.find?_cons_of_pos matched)
      simp [matched, inside]
    · rw [List.find?_cons_of_neg matched] at first
      obtain ⟨same, rest⟩ := ih first
      by_cases inside : q doc = true <;>
        simp [List.eraseP_cons_of_neg matched, inside, same, rest]

/-- An update that moves its match into a selection where nothing was. -/
theorem length_filter_updateOne (present : ∃ doc ∈ docs, p doc = true)
    (empty : docs.filter q = []) (into : ∀ doc, p doc = true → q (f doc) = true) :
    ((updateOne p f docs).filter q).length = 1 := by
  induction docs with
  | nil =>
    obtain ⟨doc, mem, -⟩ := present
    cases mem
  | cons doc docs ih =>
    have none := List.filter_eq_nil_iff.mp empty
    have rest : docs.filter q = [] :=
      List.filter_eq_nil_iff.mpr fun other mem => none other (List.mem_cons_of_mem _ mem)
    by_cases matched : p doc = true
    · simp [updateOne, matched, into doc matched, rest]
    · have first : ¬q doc = true := none doc List.mem_cons_self
      obtain ⟨other, mem, found⟩ := present
      rcases List.mem_cons.mp mem with rfl | mem
      · contradiction
      · rw [updateOne, if_neg matched, List.filter_cons_of_neg first]
        exact ih ⟨other, mem, found⟩ rest

/-- An update that moves its match out of a selection. -/
theorem length_filter_updateOne_out (found : findOne p docs = some doc) (inside : q doc = true)
    (outside : q (f doc) = false) : ((updateOne p f docs).filter q).length + 1 =
      (docs.filter q).length := by
  induction docs with
  | nil => cases found
  | cons first docs ih =>
    by_cases matched : p first = true
    · obtain rfl : first = doc := by simpa [findOne, matched] using found
      simp [updateOne, matched, inside, outside]
    · have later : findOne p docs = some doc := by simpa [findOne, matched] using found
      have rest := ih later
      by_cases counted : q first = true
      · simpa [updateOne, matched, counted] using rest
      · simpa [updateOne, matched, counted] using rest

/-- What an update does not touch about its documents stays true of one of them. -/
theorem exists_updateOne (keeps : ∀ doc, q (f doc) = q doc)
    (present : ∃ doc ∈ docs, q doc = true) : ∃ doc ∈ updateOne p f docs, q doc = true := by
  induction docs with
  | nil => exact present
  | cons doc docs ih =>
    obtain ⟨other, mem, found⟩ := present
    by_cases matched : p doc = true
    · rw [updateOne, if_pos matched]
      rcases List.mem_cons.mp mem with rfl | mem
      · exact ⟨f other, List.mem_cons_self, (keeps other).trans found⟩
      · exact ⟨other, List.mem_cons_of_mem _ mem, found⟩
    · rw [updateOne, if_neg matched]
      rcases List.mem_cons.mp mem with rfl | mem
      · exact ⟨other, List.mem_cons_self, found⟩
      · obtain ⟨kept, mem, still⟩ := ih ⟨other, mem, found⟩
        exact ⟨kept, List.mem_cons_of_mem _ mem, still⟩

theorem exists_updateMany (keeps : ∀ doc, q (f doc) = q doc)
    (present : ∃ doc ∈ docs, q doc = true) : ∃ doc ∈ updateMany p f docs, q doc = true := by
  obtain ⟨doc, mem, found⟩ := present
  refine ⟨if p doc then f doc else doc, List.mem_map_of_mem mem, ?_⟩
  split
  · exact (keeps doc).trans found
  · exact found

theorem filter_updateMany_eq_nil (out : ∀ doc, q (f doc) = false)
    (all : ∀ doc, q doc = true → p doc = true) : (updateMany p f docs).filter q = [] := by
  rw [List.filter_eq_nil_iff]
  intro doc mem selected
  obtain ⟨before, -, rfl⟩ := List.mem_map.mp mem
  split at selected
  · rw [out before] at selected
    cases selected
  · rename_i unmatched
    exact unmatched (all before selected)

theorem mem_of_lookup [BEq κ] [LawfulBEq κ] {key : κ} {entries : List (κ × α)}
    (found : entries.lookup key = some value) : (key, value) ∈ entries := by
  obtain ⟨before, after, rfl, -⟩ := List.lookup_eq_some_iff.mp found
  exact List.mem_append_right _ List.mem_cons_self

theorem lookup_of_mem [BEq κ] [LawfulBEq κ] {key : κ} {entries : List (κ × α)}
    (unique : (entries.map Prod.fst).Nodup) (mem : (key, value) ∈ entries) :
    entries.lookup key = some value := by
  obtain ⟨before, after, rfl⟩ := List.append_of_mem mem
  rw [List.map_append, List.map_cons, List.nodup_append] at unique
  refine List.lookup_eq_some_iff.mpr ⟨before, after, rfl, fun entry early => ?_⟩
  have other := unique.2.2 entry.1 (List.mem_map_of_mem early) key List.mem_cons_self
  simpa using Ne.symm other

/-! The last `n` entries of a log. -/

def newest (n : Nat) (docs : List α) : List α := docs.drop (docs.length - n)

theorem newest_append_newest (n : Nat) (older recent : List α) :
    newest n (newest n older ++ recent) = newest n (older ++ recent) := by
  simp only [newest, List.drop_append, List.length_append, List.length_drop, List.drop_drop]
  congr 2 <;> omega

theorem newest_flatMap {g : α → List β} (size : ∀ doc, (g doc).length = m) (n : Nat)
    (docs : List α) : (newest n docs).flatMap g = newest (n * m) (docs.flatMap g) := by
  have length : ∀ docs : List α, (docs.flatMap g).length = docs.length * m := by
    intro docs
    simp [List.length_flatMap, size]
  have drops : ∀ (k : Nat) (docs : List α), (docs.drop k).flatMap g =
      (docs.flatMap g).drop (k * m) := by
    intro k docs
    induction docs generalizing k with
    | nil => simp
    | cons doc docs ih =>
      cases k with
      | zero => simp
      | succ k =>
        have offset : (k + 1) * m - m = k * m := by
          rw [Nat.add_mul, Nat.one_mul, Nat.add_sub_cancel]
        have short : (g doc).length ≤ (k + 1) * m := by rw [size, Nat.add_mul]; omega
        rw [List.drop_succ_cons, ih, List.flatMap_cons, List.drop_append,
          List.drop_of_length_le short, size, offset, List.nil_append]
  rw [newest, newest, drops, length, Nat.sub_mul]

theorem mergeSort_descending {key : α → Nat} (ascending : (sorted.map key).Pairwise (· < ·))
    (perm : docs.Perm sorted) : docs.mergeSort (fun a b => decide (key b ≤ key a)) =
      sorted.reverse := by
  have descending : (docs.mergeSort fun a b => decide (key b ≤ key a)).Pairwise
      (fun a b => decide (key b ≤ key a) = true) := by
    apply List.pairwise_mergeSort
    · simp only [decide_eq_true_eq]
      omega
    · simp only [Bool.or_eq_true, decide_eq_true_eq]
      omega
  have reversed : sorted.reverse.Pairwise (fun a b => decide (key b ≤ key a) = true) := by
    apply List.pairwise_reverse.mpr
    exact (List.pairwise_map.mp ascending).imp fun less => decide_eq_true (Nat.le_of_lt less)
  have distinct : (sorted.map key).Nodup := ascending.imp Nat.ne_of_lt
  have same : (docs.mergeSort fun a b => decide (key b ≤ key a)).Perm sorted :=
    (List.mergeSort_perm docs _).trans perm
  apply List.Perm.eq_of_pairwise _ descending reversed (same.trans (List.reverse_perm sorted).symm)
  intro a b memA memB below above
  have inA : a ∈ sorted := same.mem_iff.mp memA
  have inB : b ∈ sorted := List.mem_reverse.mp memB
  simp only [decide_eq_true_eq] at below above
  exact List.inj_on_of_nodup_map distinct inA inB (Nat.le_antisymm above below)

end AgentOE.Collection
