import Mathlib.Data.List.Infix

/-! Search and line operations on sequences of symbols, for text protocols that
are read symbol by symbol. -/
namespace AgentOE.Text
variable {α : Type*} [DecidableEq α]

def contains (part s : List α) : Bool := decide (part <:+: s)

/-- Split at the first occurrence of `sep`, which is dropped. -/
def cut (sep : List α) : List α → Option (List α × List α)
  | [] => if sep = [] then some ([], []) else none
  | a :: s =>
    if sep.isPrefixOf (a :: s) then some ([], (a :: s).drop sep.length)
    else (cut sep s).map fun parts => (a :: parts.1, parts.2)

/-- The symbols up to and including the first `delim`, and the rest. -/
def readUntil (delim : α) : List α → Option (List α × List α)
  | [] => none
  | a :: s =>
    if a = delim then some ([a], s)
    else (readUntil delim s).map fun parts => (a :: parts.1, parts.2)

def dropTokensFrom (tokens : List (List α)) : Nat → List α → List α
  | 0, s => s
  | n + 1, s => match tokens.find? (·.isPrefixOf s) with
    | some token => dropTokensFrom tokens n (s.drop token.length)
    | none => s

/-- Leading tokens removed, as often as one stands there. -/
def dropTokens (tokens : List (List α)) (s : List α) : List α :=
  dropTokensFrom tokens s.length s

def trimTokens (tokens : List (List α)) (s : List α) : List α :=
  (dropTokens (tokens.map List.reverse) (dropTokens tokens s).reverse).reverse

def unlines (delim : α) (lines : List (List α)) : List α := lines.flatMap (· ++ [delim])

variable {delim : α} {line s rest : List α} {lines tokens : List (List α)}

theorem readUntil_line (clean : delim ∉ line) :
    readUntil delim (line ++ delim :: rest) = some (line ++ [delim], rest) := by
  induction line with
  | nil => simp [readUntil]
  | cons a line ih =>
    obtain ⟨first, clean⟩ := not_or.mp (List.mem_cons.not.mp clean)
    simp [readUntil, Ne.symm first, ih clean]

theorem readUntil_shorter (read : readUntil delim s = some (line, rest)) :
    rest.length < s.length := by
  induction s generalizing line with
  | nil => cases read
  | cons a s ih =>
    simp only [readUntil] at read
    split at read
    · obtain ⟨_, rfl⟩ := Prod.mk.inj (Option.some.inj read)
      simp
    · obtain ⟨⟨front, back⟩, tail, same⟩ := Option.map_eq_some_iff.mp read
      obtain ⟨_, rfl⟩ := Prod.mk.inj same
      have shorter : back.length < s.length := ih tail
      simp only [List.length_cons]
      omega

theorem dropTokens_eq_self (absent : ∀ token ∈ tokens, ¬token <+: s) :
    dropTokens tokens s = s := by
  have none : tokens.find? (·.isPrefixOf s) = none := by
    simpa [List.find?_eq_none] using absent
  unfold dropTokens
  cases s.length <;> simp [dropTokensFrom, none]

theorem trimTokens_eq_self (front : ∀ token ∈ tokens, ¬token <+: s)
    (back : ∀ token ∈ tokens, ¬token <:+ s) : trimTokens tokens s = s := by
  unfold trimTokens
  rw [dropTokens_eq_self front, dropTokens_eq_self, List.reverse_reverse]
  intro token mem
  obtain ⟨original, known, rfl⟩ := List.mem_map.mp mem
  rw [List.reverse_prefix]
  exact back original known

/-- The first double delimiter ends a block of nonempty lines. -/
theorem cut_line (nonempty : line ≠ []) (clean : delim ∉ line) :
    cut [delim, delim] (line ++ delim :: s) =
      if [delim].isPrefixOf s then some (line, s.drop 1)
      else (cut [delim, delim] s).map fun parts => (line ++ delim :: parts.1, parts.2) := by
  induction line with
  | nil => contradiction
  | cons a line ih =>
    obtain ⟨first, clean⟩ := not_or.mp (List.mem_cons.not.mp clean)
    have apart : ¬[delim, delim].isPrefixOf (a :: (line ++ delim :: s)) := by
      simp [first]
    rw [List.cons_append, cut, if_neg apart]
    cases line with
    | nil =>
      simp only [List.nil_append, cut]
      cases s with
      | nil => simp [cut]
      | cons b s =>
        by_cases next : delim = b
        · simp [next]
        · simp [next, Option.map_map, Function.comp_def]
    | cons b line =>
      rw [ih (List.cons_ne_nil _ _) clean]
      split <;> simp [Option.map_map, Function.comp_def]

theorem cut_unlines (linesNonempty : lines ≠ []) (nonempty : [] ∉ lines)
    (clean : ∀ line ∈ lines, delim ∉ line) :
    cut [delim, delim] (unlines delim lines ++ delim :: rest) =
      some ([delim].intercalate lines, rest) := by
  induction lines with
  | nil => contradiction
  | cons line lines ih =>
    obtain ⟨first, nonempty⟩ := not_or.mp (List.mem_cons.not.mp nonempty)
    have cleanLine := clean line List.mem_cons_self
    simp only [unlines, List.flatMap_cons, List.append_assoc, List.cons_append, List.nil_append]
    rw [cut_line (Ne.symm first) cleanLine]
    cases lines with
    | nil => simp
    | cons next lines =>
      obtain ⟨a, others, rfl⟩ : ∃ a others, next = a :: others :=
        List.exists_cons_of_ne_nil fun empty => nonempty (by simp [empty])
      have other : delim ≠ a := by
        rintro rfl
        exact clean (delim :: others) (by simp) (by simp)
      have tail := ih (by simp) nonempty fun l mem => clean l (List.mem_cons_of_mem _ mem)
      simp only [unlines, List.flatMap_cons, List.append_assoc, List.cons_append,
        List.nil_append] at tail ⊢
      rw [if_neg (by simp [other]), tail]
      simp

theorem cut_unlines_none (nonempty : [] ∉ lines) (clean : ∀ line ∈ lines, delim ∉ line) :
    cut [delim, delim] (unlines delim lines) = none := by
  induction lines with
  | nil => rfl
  | cons line lines ih =>
    obtain ⟨first, nonempty⟩ := not_or.mp (List.mem_cons.not.mp nonempty)
    have tail := ih nonempty fun l mem => clean l (List.mem_cons_of_mem _ mem)
    simp only [unlines, List.flatMap_cons, List.append_assoc, List.cons_append,
      List.nil_append] at tail ⊢
    rw [cut_line (Ne.symm first) (clean line List.mem_cons_self), tail]
    cases lines with
    | nil => simp
    | cons next lines =>
      obtain ⟨a, others, rfl⟩ : ∃ a others, next = a :: others :=
        List.exists_cons_of_ne_nil fun empty => nonempty (by simp [empty])
      have other : delim ≠ a := by
        rintro rfl
        exact clean (delim :: others) (by simp) (by simp)
      simp [other]

omit [DecidableEq α] in
theorem infix_unlines (mem : line ∈ lines) : line <:+: unlines delim lines := by
  obtain ⟨before, after, rfl⟩ := List.append_of_mem mem
  refine ⟨unlines delim before, delim :: unlines delim after, ?_⟩
  simp [unlines]

omit [DecidableEq α] in
theorem unlines_eq_intercalate : unlines delim lines = [delim].intercalate (lines ++ [[]]) := by
  induction lines with
  | nil => rfl
  | cons line lines ih =>
    rw [List.cons_append, List.intercalate_cons_of_ne_nil (by simp), ← ih]
    rfl

theorem splitOn_unlines (clean : ∀ line ∈ lines, delim ∉ line) :
    (unlines delim lines).splitOn delim = lines ++ [[]] := by
  rw [unlines_eq_intercalate]
  apply List.splitOn_intercalate
  · intro line mem
    rcases List.mem_append.mp mem with mem | mem
    · exact clean line mem
    · simp_all
  · simp

omit [DecidableEq α] in
theorem unlines_append_eq_intercalate (last : List α) :
    unlines delim lines ++ last = [delim].intercalate (lines ++ [last]) := by
  induction lines with
  | nil => simp [unlines]
  | cons line lines ih =>
    rw [List.cons_append, List.intercalate_cons_of_ne_nil (by simp), ← ih, unlines,
      List.flatMap_cons]
    simp [unlines]

/-- Lines that are ended, and one behind them that is not. -/
theorem splitOn_unlines_append (clean : ∀ line ∈ lines, delim ∉ line) (open_ : delim ∉ line) :
    (unlines delim lines ++ line).splitOn delim = lines ++ [line] := by
  rw [unlines_append_eq_intercalate]
  apply List.splitOn_intercalate
  · exact List.forall_mem_append.mpr ⟨clean, List.forall_mem_singleton.mpr open_⟩
  · simp

omit [DecidableEq α] in
theorem not_of_mem_splitOnP {p : α → Bool} {piece : List α} (mem : piece ∈ s.splitOnP p) :
    ∀ a ∈ piece, p a = false := by
  induction s generalizing piece with
  | nil =>
    rw [List.splitOnP_nil, List.mem_singleton] at mem
    simp [mem]
  | cons b s ih =>
    rw [List.splitOnP_cons_eq_if_modifyHead] at mem
    split at mem
    · rcases List.mem_cons.mp mem with rfl | mem
      · simp
      · exact ih mem
    · rename_i other
      obtain ⟨first, others, split⟩ := List.exists_cons_of_ne_nil (List.splitOnP_ne_nil p s)
      rw [split] at mem ih
      rcases List.mem_cons.mp mem with rfl | mem
      · intro a inside
        rcases List.mem_cons.mp inside with rfl | inside
        · simpa using other
        · exact ih List.mem_cons_self a inside
      · exact ih (List.mem_cons_of_mem _ mem)

omit [DecidableEq α] in
/-- Joined pieces are recovered exactly when none of them holds a separator. -/
theorem splitOnP_intercalate_iff {p : α → Bool} (sep : p delim = true) (nonempty : lines ≠ []) :
    ([delim].intercalate lines).splitOnP p = lines ↔
      ∀ line ∈ lines, ∀ a ∈ line, p a = false := by
  constructor
  · intro recovered line mem
    rw [← recovered] at mem
    exact not_of_mem_splitOnP mem
  · intro clean
    induction lines with
    | nil => contradiction
    | cons line lines ih =>
      obtain ⟨cleanLine, clean⟩ := List.forall_mem_cons.mp clean
      cases lines with
      | nil =>
        rw [List.intercalate_singleton]
        exact List.splitOnP_eq_singleton cleanLine
      | cons next lines =>
        rw [List.intercalate_cons_cons, List.append_assoc, List.singleton_append,
          List.splitOnP_append_cons_of_forall_mem cleanLine _ sep, ih (by simp) clean]

theorem splitOn_intercalate_iff (nonempty : lines ≠ []) :
    ([delim].intercalate lines).splitOn delim = lines ↔ ∀ line ∈ lines, delim ∉ line := by
  rw [List.splitOn_eq_splitOnP, splitOnP_intercalate_iff (by simp) nonempty]
  simp only [beq_eq_false_iff_ne]
  exact forall₂_congr fun line _ => ⟨fun clean mem => clean _ mem rfl,
    fun clean a mem same => clean (same ▸ mem)⟩

/-- Joining splits at the separators of the pieces too. -/
theorem splitOn_intercalate_flatMap (nonempty : lines ≠ []) :
    ([delim].intercalate lines).splitOn delim = lines.flatMap (·.splitOn delim) := by
  induction lines with
  | nil => contradiction
  | cons line lines ih =>
    cases lines with
    | nil => simp
    | cons next lines =>
      rw [List.intercalate_cons_cons, List.append_assoc, List.singleton_append,
        List.splitOn_append_cons_self, ih (by simp)]
      rfl

theorem splitOn_injective : Function.Injective (List.splitOn delim (α := α)) := by
  intro s t same
  calc s
    _ = [delim].intercalate (s.splitOn delim) := (List.intercalate_splitOn delim).symm
    _ = t := by rw [same, List.intercalate_splitOn]

omit [DecidableEq α] in
theorem not_mem_intercalate_iff {a : α} (other : a ≠ delim) :
    a ∉ [delim].intercalate lines ↔ ∀ line ∈ lines, a ∉ line := by
  induction lines with
  | nil => simp [List.intercalate]
  | cons line lines ih =>
    cases lines with
    | nil => simp
    | cons next lines =>
      rw [List.intercalate_cons_cons, List.forall_mem_cons, ← ih]
      simp [other, not_or]

theorem cut_single (clean : delim ∉ line) :
    cut [delim] (line ++ delim :: rest) = some (line, rest) := by
  induction line with
  | nil => simp [cut]
  | cons a line ih =>
    obtain ⟨first, clean⟩ := not_or.mp (List.mem_cons.not.mp clean)
    simp [cut, first, ih clean]

theorem not_mem_of_cut_single (found : cut [delim] s = some (line, rest)) : delim ∉ line := by
  induction s generalizing line with
  | nil => simp [cut] at found
  | cons a s ih =>
    rw [cut] at found
    split at found
    · cases found
      simp
    · rename_i other
      obtain ⟨⟨front, back⟩, tail, same⟩ := Option.map_eq_some_iff.mp found
      cases same
      have first : delim ≠ a := by simpa using other
      simp [first, ih tail]

end AgentOE.Text
