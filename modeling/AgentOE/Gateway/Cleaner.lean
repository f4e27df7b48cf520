import Mathlib.Algebra.BigOperators.Group.List.Basic
import Mathlib.Algebra.Ring.Int.Defs
import Mathlib.Data.List.Nodup
import Mathlib.Data.List.Sort

/-! The retention of recordings: those older than a cutoff are removed, and then the oldest
until the rest fits a quota. The cutoff and the quota, in bytes, are given; times are
nanoseconds. -/
namespace AgentOE.Gateway.Cleaner

structure FileInfo where
  path : String
  isDir : Bool
  modTime : Int
  size : Nat
  deriving DecidableEq, Repr

structure FileEntry where
  path : String
  modTime : Int
  size : Nat
  deriving DecidableEq, Repr

/-- The extension of a path that is read from its end, with what has been read. -/
def extFrom : List Char → List Char → List Char
  | [], _ => []
  | c :: path, read =>
    if c = '/' then [] else if c = '.' then c :: read else extFrom path (c :: read)

/-- `filepath.Ext`. -/
def ext (path : String) : String := .ofList (extFrom path.toList.reverse [])

/-- The function of the walk. -/
def visit (info : FileInfo) : Option FileEntry :=
  if info.isDir then none
  else if ext info.path ≠ ".wav" then none
  else some ⟨info.path, info.modTime, info.size⟩

def recordings (infos : List FileInfo) : List FileEntry := infos.filterMap visit

def totalOf (files : List FileEntry) : Int := (files.map fun f => (f.size : Int)).sum

/-- What a walk meets, every path once. An `int64` holds the size of all recordings. -/
structure Directory where
  infos : List FileInfo
  paths_nodup : (infos.map (·.path)).Nodup
  total_lt : totalOf (recordings infos) < 2 ^ 63

/-- The files that are left, and the counters. -/
@[ext] structure Sweep where
  disk : List FileInfo
  totalSize : Int
  removedCount : Nat
  removedBytes : Int
  deriving DecidableEq, Repr

/-- `sort.Slice` by modification time: any order that is sorted, files of one time as they come. -/
structure SortSlice where
  sort : List FileEntry → List FileEntry
  perm : ∀ files, (sort files).Perm files
  sorted : ∀ files, (sort files).Pairwise fun f g => ¬g.modTime < f.modTime

/-- `os.Remove`, whose failure is logged and the file passed over. -/
def Sweep.remove (removable : String → Bool) (s : Sweep) (f : FileEntry) : Sweep :=
  if removable f.path then
    { disk := s.disk.filter (·.path ≠ f.path)
      totalSize := s.totalSize - f.size
      removedCount := s.removedCount + 1
      removedBytes := s.removedBytes + f.size }
  else s

def removeOld (removable : String → Bool) (cutoff : Int) (s : Sweep) (files : List FileEntry) :
    Sweep × List FileEntry :=
  files.foldl (fun (s, remaining) f =>
    if f.modTime < cutoff then (s.remove removable f, remaining) else (s, remaining ++ [f])) (s, [])

def removeExcess (removable : String → Bool) (maxBytes : Int) (s : Sweep) : List FileEntry → Sweep
  | [] => s
  | f :: files =>
    if s.totalSize ≤ maxBytes then s
    else removeExcess removable maxBytes (s.remove removable f) files

/-- An error of the walk ends it at once. -/
def cleanup (slice : SortSlice) (removable : String → Bool) (cutoff maxBytes : Int)
    (walkFails : Bool) (infos : List FileInfo) : Sweep :=
  if walkFails then ⟨infos, 0, 0, 0⟩
  else
    let files := recordings infos
    let (s, remaining) := removeOld removable cutoff ⟨infos, totalOf files, 0, 0⟩ files
    if s.totalSize > maxBytes then removeExcess removable maxBytes s (slice.sort remaining) else s

/-! Removals that succeed. -/

def Sweep.removeAll (s : Sweep) (files : List FileEntry) : Sweep :=
  { disk := s.disk.filter fun info => info.path ∉ files.map (·.path)
    totalSize := s.totalSize - totalOf files
    removedCount := s.removedCount + files.length
    removedBytes := s.removedBytes + totalOf files }

def old (cutoff : Int) (files : List FileEntry) : List FileEntry :=
  files.filter (·.modTime < cutoff)

def recent (cutoff : Int) (files : List FileEntry) : List FileEntry :=
  files.filter (¬·.modTime < cutoff)

section Loops
variable {removable : String → Bool} {cutoff maxBytes : Int} {s : Sweep} {f : FileEntry}
    {files : List FileEntry}

@[simp] theorem totalOf_nil : totalOf [] = 0 := rfl

@[simp] theorem totalOf_cons : totalOf (f :: files) = f.size + totalOf files := by
  simp [totalOf]

@[simp] theorem totalOf_append {files' : List FileEntry} :
    totalOf (files ++ files') = totalOf files + totalOf files' := by
  simp [totalOf]

theorem totalOf_perm {files' : List FileEntry} (perm : files.Perm files') :
    totalOf files = totalOf files' := (perm.map _).sum_eq

@[simp] theorem removeAll_nil : s.removeAll [] = s := by
  simp [Sweep.removeAll]

theorem removeAll_append (files' : List FileEntry) :
    (s.removeAll files).removeAll files' = s.removeAll (files ++ files') := by
  have disk : ((s.removeAll files).removeAll files').disk =
      (s.removeAll (files ++ files')).disk := by
    simp only [Sweep.removeAll, List.filter_filter, List.map_append, List.mem_append, not_or]
    exact List.filter_congr fun info _ => by simp [Bool.and_comm]
  have count : s.removedCount + files.length + files'.length =
      s.removedCount + (files ++ files').length := by
    rw [List.length_append, Nat.add_assoc]
  have total : s.totalSize - totalOf files - totalOf files' =
      s.totalSize - totalOf (files ++ files') := by
    rw [totalOf_append]
    omega
  have bytes : s.removedBytes + totalOf files + totalOf files' =
      s.removedBytes + totalOf (files ++ files') := by
    rw [totalOf_append, Int.add_assoc]
  exact Sweep.ext disk total count bytes

theorem totalOf_nonneg (files : List FileEntry) : 0 ≤ totalOf files := by
  induction files with
  | nil => exact Int.le_refl 0
  | cons f files ih =>
    rw [totalOf_cons]
    omega

/-- The totals add up to `total`, and the files that may still be removed are in what is left. -/
structure Sweep.Counts (total : Int) (files : List FileEntry) (s : Sweep) : Prop where
  sum : s.totalSize + s.removedBytes = total
  removed : 0 ≤ s.removedBytes
  left : totalOf files ≤ s.totalSize

theorem Sweep.Counts.remove {total : Int} (counts : s.Counts total (f :: files)) :
    (s.remove removable f).Counts total files := by
  obtain ⟨sum, removed, left⟩ := counts
  rw [totalOf_cons] at left
  rw [Sweep.remove]
  split
  · refine ⟨?_, ?_, ?_⟩
    · change s.totalSize - f.size + (s.removedBytes + f.size) = total
      omega
    · change 0 ≤ s.removedBytes + f.size
      omega
    · change totalOf files ≤ s.totalSize - f.size
      omega
  · exact ⟨sum, removed, by omega⟩

theorem Sweep.Counts.perm {total : Int} {files' : List FileEntry} (counts : s.Counts total files)
    (perm : files'.Perm files) : s.Counts total files' :=
  ⟨counts.sum, counts.removed, totalOf_perm perm ▸ counts.left⟩

theorem removeOld_counts {total : Int} (counts : s.Counts total files) :
    (removeOld removable cutoff s files).1.Counts total (removeOld removable cutoff s files).2 := by
  have carried : ∀ (files : List FileEntry) (s : Sweep) remaining,
      s.Counts total (files ++ remaining) →
      let swept := files.foldl (fun (s, remaining) f =>
        if f.modTime < cutoff then (s.remove removable f, remaining)
        else (s, remaining ++ [f])) (s, remaining)
      swept.1.Counts total swept.2 := by
    intro files
    induction files with
    | nil => exact fun _ _ counts => counts
    | cons f files ih =>
      intro s remaining counts
      rw [List.foldl_cons]
      by_cases early : f.modTime < cutoff
      · simp only [if_pos early]
        exact ih _ _ counts.remove
      · simp only [if_neg early]
        refine ih _ _ ⟨counts.sum, counts.removed, ?_⟩
        have left := counts.left
        simp only [List.cons_append, totalOf_cons, totalOf_append, totalOf_nil] at left ⊢
        omega
  exact carried files s [] (by rwa [List.append_nil])

theorem removeExcess_counts {total : Int} (counts : s.Counts total files) :
    (removeExcess removable maxBytes s files).Counts total [] := by
  induction files generalizing s with
  | nil => exact counts
  | cons f files ih =>
    rw [removeExcess]
    split
    · exact ⟨counts.sum, counts.removed, (totalOf_nonneg _).trans counts.left⟩
    · exact ih counts.remove

/-- An `int64` holds the totals. -/
def Sweep.Fits (s : Sweep) : Prop :=
  (0 ≤ s.totalSize ∧ s.totalSize < 2 ^ 63) ∧ 0 ≤ s.removedBytes ∧ s.removedBytes < 2 ^ 63

theorem Sweep.Counts.fits {total : Int} (counts : s.Counts total files) (below : total < 2 ^ 63) :
    s.Fits := by
  obtain ⟨sum, removed, left⟩ := counts
  have nonneg := totalOf_nonneg files
  refine ⟨⟨?_, ?_⟩, removed, ?_⟩ <;> omega

/-- No total overflows, whatever can be removed. -/
theorem cleanup_fits (dir : Directory) (slice : SortSlice) (walkFails : Bool) :
    (cleanup slice removable cutoff maxBytes walkFails dir.infos).Fits := by
  have start : Sweep.Counts (totalOf (recordings dir.infos)) (recordings dir.infos)
      ⟨dir.infos, totalOf (recordings dir.infos), 0, 0⟩ :=
        ⟨Int.add_zero _, Int.le_refl 0, Int.le_refl _⟩
  have aged : Sweep.Counts _ _ (removeOld removable cutoff _ _).1 := removeOld_counts start
  unfold cleanup
  split
  · simp [Sweep.Fits]
  · dsimp only
    split
    · exact (removeExcess_counts (aged.perm (slice.perm _))).fits dir.total_lt
    · exact aged.fits dir.total_lt

variable (succeeds : ∀ path, removable path = true)
include succeeds

theorem remove_eq : s.remove removable f = s.removeAll [f] := by
  simp [Sweep.remove, Sweep.removeAll, succeeds]

/-- The old files are removed, the others remain in their order. -/
theorem removeOld_eq : removeOld removable cutoff s files =
    (s.removeAll (old cutoff files), recent cutoff files) := by
  have carried : ∀ (files : List FileEntry) (s : Sweep) remaining,
      files.foldl (fun (s, remaining) f =>
      if f.modTime < cutoff then (s.remove removable f, remaining)
      else (s, remaining ++ [f])) (s, remaining) =
      (s.removeAll (old cutoff files), remaining ++ recent cutoff files) := by
    intro files
    induction files with
    | nil => simp [old, recent]
    | cons f files ih =>
      intro s remaining
      by_cases early : f.modTime < cutoff
      · simp only [List.foldl_cons, if_pos early]
        rw [ih, remove_eq succeeds, removeAll_append]
        simp [old, recent, early]
      · simp only [List.foldl_cons, if_neg early]
        rw [ih]
        simp [old, recent, Int.not_lt.mp early]
  exact carried files s []

/-- What is removed is a beginning of the files: as long as it goes on the total exceeds the
quota, and where it ends short of all files the quota holds. -/
theorem removeExcess_split (maxBytes : Int) (files : List FileEntry) (s : Sweep) :
    ∃ removed rest, files = removed ++ rest ∧
    removeExcess removable maxBytes s files = s.removeAll removed ∧
    (s.totalSize - totalOf removed ≤ maxBytes ∨ rest = []) ∧
    ∀ before f after, removed = before ++ f :: after → maxBytes < s.totalSize - totalOf before := by
  induction files generalizing s with
  | nil => exact ⟨[], [], rfl, removeAll_nil.symm, .inr rfl, by simp⟩
  | cons f files ih =>
    by_cases fits : s.totalSize ≤ maxBytes
    · refine ⟨[], f :: files, rfl, ?_, .inl (by simpa using fits), by simp⟩
      rw [removeExcess, if_pos fits, removeAll_nil]
    · obtain ⟨removed, rest, rfl, same, ended, exceeds⟩ := ih (s.removeAll [f])
      refine ⟨f :: removed, rest, rfl, ?_, ?_, ?_⟩
      · rw [removeExcess, if_neg fits, remove_eq succeeds, same, removeAll_append,
          List.singleton_append]
      · refine ended.imp_left fun below => ?_
        simpa [Sweep.removeAll, Int.sub_sub] using below
      · intro before g after split
        cases before with
        | nil => simpa using fits
        | cons first before =>
          obtain ⟨rfl, tail⟩ := List.cons.inj split
          simpa [Sweep.removeAll, Int.sub_sub] using exceeds before g after tail

end Loops

/-! What is kept. -/

def removed (infos : List FileInfo) (s : Sweep) : List FileInfo := infos.filter (· ∉ s.disk)

/-- The files are kept but for old recordings and for the recordings `excess`, which were removed in
this order: none is newer than a recording that is left, they leave what fits the quota, or no
recording, and each was removed when what there still was exceeded the quota. -/
structure Retained (infos : List FileInfo) (cutoff maxBytes : Int) (excess : List FileEntry)
    (s : Sweep) : Prop where
  kept : s.disk = infos.filter fun info => (visit info).all fun f =>
    decide (¬f.modTime < cutoff ∧ f ∉ excess)
  recent : ∀ f ∈ excess, f ∈ recordings infos ∧ ¬f.modTime < cutoff
  distinct : excess.Nodup
  oldest : ∀ f ∈ excess, ∀ g ∈ recordings s.disk, f.modTime ≤ g.modTime
  fits : totalOf (recordings s.disk) ≤ maxBytes ∨ recordings s.disk = []
  needed : ∀ before f after, excess = before ++ f :: after →
    maxBytes < totalOf (recordings s.disk) + totalOf (f :: after)
  count : s.removedCount = (removed infos s).length
  bytes : s.removedBytes = ((removed infos s).map fun info => (info.size : Int)).sum

section Kept
variable {dir : Directory} {removable : String → Bool} {cutoff maxBytes : Int} {info : FileInfo}
    {f : FileEntry}
  {files gone : List FileEntry}

theorem visit_some (visited : visit info = some f) : f = ⟨info.path, info.modTime, info.size⟩ := by
  rw [visit] at visited
  split at visited
  · cases visited
  split at visited
  · cases visited
  · exact (Option.some.inj visited).symm

/-- Among the files of a directory a recording is told by its path. -/
theorem path_mem_iff (mem : info ∈ dir.infos) (from_dir : ∀ f ∈ gone, f ∈ recordings dir.infos) :
    info.path ∈ gone.map (·.path) ↔ ∃ f, visit info = some f ∧ f ∈ gone := by
  constructor
  · intro inside
    obtain ⟨f, fGone, path⟩ := List.mem_map.mp inside
    obtain ⟨other, otherMem, visited⟩ := List.mem_filterMap.mp (from_dir f fGone)
    have samePath : other.path = info.path := by
      rw [← path, visit_some visited]
    cases List.inj_on_of_nodup_map dir.paths_nodup otherMem mem samePath
    exact ⟨f, visited, fGone⟩
  · rintro ⟨f, visited, fGone⟩
    refine List.mem_map.mpr ⟨f, fGone, ?_⟩
    rw [visit_some visited]

theorem recordings_nodup : (recordings dir.infos).Nodup := by
  have paths : dir.infos.Pairwise fun i j => i.path ≠ j.path := List.pairwise_map.mp dir.paths_nodup
  refine List.pairwise_filterMap.mpr (paths.imp fun differ f visited g visited' same => differ ?_)
  rw [visit_some visited, visit_some visited'] at same
  exact (FileEntry.mk.inj same).1

/-- What removing some recordings of a directory leaves of it. -/
theorem disk_removeAll (total : Int) (from_dir : ∀ f ∈ gone, f ∈ recordings dir.infos) :
    (Sweep.removeAll ⟨dir.infos, total, 0, 0⟩ gone).disk =
      dir.infos.filter fun info => (visit info).all fun f => decide (f ∉ gone) := by
  refine List.filter_congr fun info mem => ?_
  rw [Bool.eq_iff_iff, decide_eq_true_iff, path_mem_iff mem from_dir]
  cases visit info <;> simp

/-- A choice of files that depends only on the recording chooses recordings. -/
theorem recordings_filter {q : FileInfo → Bool} {p : FileEntry → Bool} (infos : List FileInfo)
    (agrees : ∀ info ∈ infos, ∀ f, visit info = some f → q info = p f) :
    recordings (infos.filter q) = (recordings infos).filter p := by
  rw [recordings, recordings, List.filterMap_filter, List.filter_filterMap]
  refine List.filterMap_congr fun info mem => ?_
  cases visited : visit info with
  | none => simp
  | some f =>
    rw [agrees info mem f visited]
    by_cases holds : p f <;> simp [holds, Option.filter]

theorem recordings_eq_map {infos : List FileInfo} (all : ∀ info ∈ infos, ∃ f, visit info = some f) :
    recordings infos = infos.map fun info => ⟨info.path, info.modTime, info.size⟩ := by
  refine List.filterMap_eq_map_iff_forall_eq_some.mpr fun info mem => ?_
  obtain ⟨f, visited⟩ := all info mem
  rw [visited, visit_some visited]

/-- The removed files are the recordings that were removed. -/
theorem removed_spec (s : Sweep) (unique : gone.Nodup)
    (from_dir : ∀ f ∈ gone, f ∈ recordings dir.infos)
    (disk : s.disk = dir.infos.filter fun info => (visit info).all fun f => decide (f ∉ gone)) :
    (removed dir.infos s).length = gone.length ∧
    ((removed dir.infos s).map fun info => (info.size : Int)).sum = totalOf gone := by
  have chosen : removed dir.infos s = dir.infos.filter fun info => (visit info).any fun f =>
      decide (f ∈ gone) := by
    refine List.filter_congr fun info mem => ?_
    rw [disk, Bool.eq_iff_iff, decide_eq_true_iff, List.mem_filter, not_and]
    cases visit info <;> simp [mem]
  have visited : ∀ info ∈ removed dir.infos s, ∃ f, visit info = some f := by
    intro info mem
    rw [chosen, List.mem_filter, Option.any_eq_true] at mem
    obtain ⟨f, found, -⟩ := mem.2
    exact ⟨f, found⟩
  have perm : (recordings (removed dir.infos s)).Perm gone := by
    rw [chosen, recordings_filter (p := fun f => decide (f ∈ gone)) dir.infos fun info _ f found =>
      by simp [found]]
    refine (List.perm_ext_iff_of_nodup (recordings_nodup.filter _) unique).mpr fun f => ?_
    simpa using from_dir f
  rw [recordings_eq_map visited] at perm
  refine ⟨by simpa using perm.length_eq, ?_⟩
  rw [← totalOf_perm perm, totalOf, List.map_map]
  rfl

end Kept

theorem totalOf_old_add_recent (cutoff : Int) (files : List FileEntry) :
    totalOf (old cutoff files) + totalOf (recent cutoff files) = totalOf files := by
  have perm := List.filter_append_perm (fun f : FileEntry => decide (f.modTime < cutoff)) files
  rw [← totalOf_perm perm, totalOf_append]
  simp only [old, recent, decide_not]

/-- What is removed for its age and what for the quota. -/
theorem cleanup_split (slice : SortSlice) {removable : String → Bool}
    (succeeds : ∀ path, removable path = true) (cutoff maxBytes : Int) (infos : List FileInfo) :
    ∃ excess rest,
    slice.sort (recent cutoff (recordings infos)) = excess ++ rest ∧
    cleanup slice removable cutoff maxBytes false infos =
      Sweep.removeAll ⟨infos, totalOf (recordings infos), 0, 0⟩
        (old cutoff (recordings infos) ++ excess) ∧
    (totalOf (recent cutoff (recordings infos)) - totalOf excess ≤ maxBytes ∨ rest = []) ∧
    ∀ before f after, excess = before ++ f :: after →
      maxBytes < totalOf (recent cutoff (recordings infos)) - totalOf before := by
  have total : (Sweep.removeAll ⟨infos, totalOf (recordings infos), 0, 0⟩
      (old cutoff (recordings infos))).totalSize =
      totalOf (recent cutoff (recordings infos)) := by
    have shares := totalOf_old_add_recent cutoff (recordings infos)
    simp only [Sweep.removeAll]
    omega
  simp only [cleanup, Bool.false_eq_true, if_false, removeOld_eq succeeds, total]
  split
  · obtain ⟨excess, rest, split, same, ended, exceeds⟩ := removeExcess_split succeeds maxBytes
      (slice.sort (recent cutoff (recordings infos)))
      (Sweep.removeAll ⟨infos, totalOf (recordings infos), 0, 0⟩ (old cutoff (recordings infos)))
    rw [total] at ended exceeds
    exact ⟨excess, rest, split, same.trans (removeAll_append _), ended, exceeds⟩
  · rename_i fits
    exact ⟨[], slice.sort (recent cutoff (recordings infos)), rfl, by rw [List.append_nil],
      .inl (by simpa using fits), by simp⟩

/-- Where no removal fails, old recordings go and then the oldest, as many as the quota asks for. -/
theorem cleanup_retains (dir : Directory) (slice : SortSlice) (cutoff maxBytes : Int)
    (removable : String → Bool) (succeeds : ∀ path, removable path = true) :
    ∃ excess, Retained dir.infos cutoff maxBytes excess
      (cleanup slice removable cutoff maxBytes false dir.infos) := by
  obtain ⟨excess, rest, sorted, swept, ended, exceeds⟩ :=
    cleanup_split slice succeeds cutoff maxBytes dir.infos
  have perm := slice.perm (recent cutoff (recordings dir.infos))
  have ordered := slice.sorted (recent cutoff (recordings dir.infos))
  rw [sorted] at perm ordered
  have unique : (excess ++ rest).Nodup := perm.nodup_iff.mpr (recordings_nodup.filter _)
  obtain ⟨excessUnique, -, apart⟩ := List.nodup_append.mp unique
  have fresh : ∀ f ∈ excess, f ∈ recordings dir.infos ∧ ¬f.modTime < cutoff := by
    intro f mem
    simpa [recent] using perm.subset (List.mem_append_left rest mem)
  have gone : ∀ f ∈ old cutoff (recordings dir.infos) ++ excess, f ∈ recordings dir.infos := by
    intro f mem
    exact (List.mem_append.mp mem).elim (fun early => (List.mem_filter.mp early).1) fun inside =>
      (fresh f inside).1
  have disk := disk_removeAll (totalOf (recordings dir.infos)) gone
  rw [← swept] at disk
  have kept : (cleanup slice removable cutoff maxBytes false dir.infos).disk =
      dir.infos.filter fun info => (visit info).all fun f =>
          decide (¬f.modTime < cutoff ∧ f ∉ excess) := by
    refine disk.trans (List.filter_congr fun info mem => ?_)
    cases visited : visit info with
    | none => rfl
    | some f =>
      have inside : f ∈ recordings dir.infos := List.mem_filterMap.mpr ⟨info, mem, visited⟩
      simp [old, inside]
  -- what is left are the files behind those that the quota took
  have left :
      (recordings (cleanup slice removable cutoff maxBytes false dir.infos).disk).Perm rest := by
    have still : (excess ++ rest).filter (· ∉ excess) = rest := by
      rw [List.filter_append, List.filter_eq_nil_iff.mpr (by simp), List.nil_append,
        List.filter_eq_self]
      intro f mem
      simpa using fun inside => apart f inside f mem rfl
    rw [kept, recordings_filter (p := fun f => decide (¬f.modTime < cutoff ∧ f ∉ excess)) dir.infos
      fun info _ f found => by simp [found]]
    have both := perm.symm.filter (· ∉ excess)
    rw [still, recent, List.filter_filter] at both
    simpa [Bool.and_comm] using both
  have total : totalOf (recent cutoff (recordings dir.infos)) =
      totalOf excess + totalOf
          (recordings (cleanup slice removable cutoff maxBytes false dir.infos).disk) := by
    rw [← totalOf_perm perm, totalOf_append, totalOf_perm left]
  have counted := removed_spec _ ?_ gone disk
  · refine ⟨excess, kept, fresh, excessUnique, fun f mem g inside => ?_, ?_,
      fun before f after split => ?_, ?_, ?_⟩
    · exact Int.not_lt.mp ((List.pairwise_append.mp ordered).2.2 f mem g (left.subset inside))
    · refine ended.imp (fun fits => by omega) fun none => ?_
      rw [none] at left
      exact left.eq_nil
    · have more := exceeds before f after split
      rw [total, split, totalOf_append] at more
      omega
    · rw [counted.1, swept]
      exact Nat.zero_add _
    · rw [counted.2, swept]
      exact Int.zero_add _
  · refine List.nodup_append.mpr ⟨recordings_nodup.filter _, excessUnique, ?_⟩
    rintro f early _ mem rfl
    exact (fresh f mem).2 (by simpa using (List.mem_filter.mp early).2)

def byModTime (f g : FileEntry) : Prop := f.modTime ≤ g.modTime

instance : DecidableRel byModTime := fun f g => inferInstanceAs (Decidable (f.modTime ≤ g.modTime))

instance : Std.Total byModTime := ⟨fun f g => Int.le_total f.modTime g.modTime⟩

instance : IsTrans FileEntry byModTime := ⟨fun _ _ _ => Int.le_trans⟩

def oldestFirst : SortSlice where
  sort := List.insertionSort byModTime
  perm := List.perm_insertionSort byModTime
  sorted files := (List.pairwise_insertionSort byModTime files).imp fun le => Int.not_lt.mpr le

/-- One recording is too old, and two of one time share what the quota leaves. -/
def recordingDir : Directory where
  infos := [⟨"rec", true, 25, 4096⟩, ⟨"rec/a.wav", false, 20, 4⟩, ⟨"rec/b.wav", false, 20, 4⟩,
    ⟨"rec/c.wav", false, 30, 4⟩, ⟨"rec/notes.txt", false, 0, 9⟩, ⟨"rec/old.wav", false, 0, 5⟩]
  paths_nodup := by decide
  total_lt := by decide +kernel

theorem recordingDir_retains : ∃ excess, Retained recordingDir.infos 10 8 excess
    (cleanup oldestFirst (fun _ => true) 10 8 false recordingDir.infos) :=
  cleanup_retains recordingDir oldestFirst 10 8 (fun _ => true) fun _ => rfl

example : cleanup oldestFirst (fun _ => true) 10 8 false recordingDir.infos =
    ⟨[⟨"rec", true, 25, 4096⟩, ⟨"rec/b.wav", false, 20, 4⟩, ⟨"rec/c.wav", false, 30, 4⟩,
      ⟨"rec/notes.txt", false, 0, 9⟩], 8, 2, 9⟩ := by
  decide +kernel

end AgentOE.Gateway.Cleaner
