import AgentOE.Collection
import AgentOE.Esl.Framing

/-! An event written as text: a line for each header with its value URL-encoded, a blank line and
the body. Parsing inverts it. -/
namespace AgentOE.Esl
open Text Collection

/-! `url.QueryEscape`. -/

def isLetter (b : UInt8) : Bool := (65 ≤ b && b ≤ 90) || (97 ≤ b && b ≤ 122)

/-- Letters, digits and `-_.~` stand for themselves. -/
def unreserved (b : UInt8) : Bool :=
  isLetter b || isDigit b || b = 45 || b = 95 || b = 46 || b = 126

def upperhex (n : UInt8) : UInt8 := if n < 10 then 48 + n else 55 + n

def escapeByte (b : UInt8) : Bytes :=
  if b = 32 then [43]
  else if unreserved b then [b]
  else [37, upperhex (b / 16), upperhex (b % 16)]

def queryEscape (s : Bytes) : Bytes := s.flatMap escapeByte

theorem byte_forall {P : UInt8 → Prop} (every : ∀ n < 256, P (.ofNat n)) (b : UInt8) : P b := by
  have at_b := every b.toNat b.toNat_lt
  rwa [UInt8.ofNat_toNat] at at_b

theorem escapeByte_visible (b : UInt8) : escapeByte b ≠ [] ∧
    ∀ c ∈ escapeByte b, visible c = true := by
  rw [← List.all_eq_true]
  revert b
  exact byte_forall (by decide +kernel)

theorem unreserved_plain (b : UInt8) : unreserved b = true → b ≠ 37 ∧ b ≠ 43 := by
  revert b
  exact byte_forall (by decide +kernel)

theorem unhex_upperhex (b : UInt8) : unhex (upperhex (b / 16)) = some (b / 16) ∧
    unhex (upperhex (b % 16)) = some (b % 16) ∧ b / 16 * 16 + b % 16 = b := by
  revert b
  exact byte_forall (by decide +kernel)

theorem queryUnescape_plain {b : UInt8} (other : b ≠ 37) (s : Bytes) :
    queryUnescape (b :: s) = (queryUnescape s).map ((if b = 43 then 32 else b) :: ·) := by
  match s with
  | [] => simp [queryUnescape, other]
  | [_] => simp [queryUnescape, other]
  | _ :: _ :: _ => simp [queryUnescape, other]

theorem queryUnescape_escapeByte (b : UInt8) (s : Bytes) :
    queryUnescape (escapeByte b ++ s) = (queryUnescape s).map (b :: ·) := by
  rw [escapeByte]
  split
  · rename_i space
    rw [List.singleton_append, queryUnescape_plain (by decide), if_pos rfl, space]
  split
  · rename_i plain
    obtain ⟨percent, plus⟩ := unreserved_plain b plain
    rw [List.singleton_append, queryUnescape_plain percent, if_neg plus]
  · obtain ⟨high, low, same⟩ := unhex_upperhex b
    simp [queryUnescape, high, low, same]

@[simp] theorem queryUnescape_queryEscape (s : Bytes) : queryUnescape (queryEscape s) = some s := by
  induction s with
  | nil => rfl
  | cons b s ih =>
    have tail : queryUnescape (s.flatMap escapeByte) = some s := ih
    rw [queryEscape, List.flatMap_cons, queryUnescape_escapeByte, tail]
    rfl

theorem queryEscape_visible (s : Bytes) : ∀ c ∈ queryEscape s, visible c = true := by
  intro c mem
  obtain ⟨b, -, inside⟩ := List.mem_flatMap.mp mem
  exact (escapeByte_visible b).2 c inside

theorem queryEscape_eq_nil_iff {s : Bytes} : queryEscape s = [] ↔ s = [] := by
  cases s with
  | nil => simp [queryEscape]
  | cons b s => simp [queryEscape, (escapeByte_visible b).1]

/-! A header line. -/

/-- A name that a line can carry: blanks would be trimmed, and `": "` ends a name. -/
structure HeaderName (name : Bytes) : Prop where
  nonempty : name ≠ []
  plain : ¬ascii ": " <:+: name
  oneLine : newline ∉ name
  unblanked : ∀ blank ∈ whiteSpace, ¬blank <+: name ∧ ¬blank <:+ name

instance (name : Bytes) : Decidable (HeaderName name) :=
  decidable_of_iff (name ≠ [] ∧ ¬ascii ": " <:+: name ∧ newline ∉ name ∧
    ∀ blank ∈ whiteSpace, ¬blank <+: name ∧ ¬blank <:+ name)
    ⟨fun ⟨a, b, c, d⟩ => ⟨a, b, c, d⟩, fun ⟨a, b, c, d⟩ => ⟨a, b, c, d⟩⟩

def headerLine (header : Bytes × Bytes) : Bytes := header.1 ++ ascii ": " ++ queryEscape header.2

section Line
variable {name value : Bytes}

theorem colon_eq : ascii ": " = [58, 32] := rfl

/-- No `": "` begins inside a name that has none, whatever follows its colon. -/
theorem colon_apart {b : UInt8} (plain : ¬ascii ": " <:+: b :: name) (rest : Bytes) :
    ¬(ascii ": ").isPrefixOf (b :: (name ++ 58 :: rest)) = true := by
  rw [colon_eq, List.isPrefixOf_iff_prefix, List.cons_prefix_cons] at *
  rintro ⟨rfl, next⟩
  cases name with
  | nil => exact absurd (List.cons_prefix_cons.mp next).1 (by decide)
  | cons c name =>
    obtain ⟨rfl, -⟩ := List.cons_prefix_cons.mp next
    exact plain ⟨[], name, rfl⟩

theorem plain_tail {b : UInt8} (plain : ¬ascii ": " <:+: b :: name) : ¬ascii ": " <:+: name :=
  fun inside => plain (inside.trans (List.suffix_cons b name).isInfix)

/-- The first `": "` is the one behind the name. -/
theorem cut_colon (plain : ¬ascii ": " <:+: name) (rest : Bytes) :
    cut (ascii ": ") (name ++ ascii ": " ++ rest) = some (name, rest) := by
  induction name with
  | nil => rfl
  | cons b name ih =>
    have apart := colon_apart plain (32 :: rest)
    have joined : name ++ ascii ": " ++ rest = name ++ 58 :: 32 :: rest := by
      rw [colon_eq, List.append_assoc]
      rfl
    rw [List.cons_append, List.cons_append, joined, cut, if_neg apart, ← joined,
      ih (plain_tail plain)]
    rfl

/-- Without its blank the colon does not end a name. -/
theorem cut_name_colon (plain : ¬ascii ": " <:+: name) :
    cut (ascii ": ") (name ++ [58]) = none := by
  induction name with
  | nil => rfl
  | cons b name ih =>
    rw [List.cons_append, cut, if_neg (colon_apart plain []), ih (plain_tail plain)]
    rfl

theorem prefix_before {a : UInt8} {token s rest : Bytes} (free : a ∉ token)
    (starts : token <+: s ++ a :: rest) :
    token <+: s := by
  rcases List.prefix_or_prefix_of_prefix starts (List.prefix_append s (a :: rest))
    with inside | ⟨more, same⟩
  · exact inside
  · subst same
    cases more with
    | nil => simp
    | cons b more =>
      have next := (List.prefix_append_right_inj s).mp starts
      obtain ⟨rfl, -⟩ := List.cons_prefix_cons.mp next
      exact absurd (List.mem_append_right s List.mem_cons_self) free

/-- No blank stands before a name and its colon. -/
theorem front_clear (named : HeaderName name) (rest : Bytes) :
    ∀ token ∈ whiteSpace, ¬token <+: name ++ 58 :: rest := by
  intro token mem starts
  have unseen : (58 : UInt8) ∉ token := fun inside =>
    absurd ((whiteSpace_invisible token mem).2 58 inside) (by decide)
  exact (named.unblanked token mem).1 (prefix_before unseen starts)

/-- The line of a value that is not empty is not trimmed. -/
theorem trimSpace_line (named : HeaderName name) (full : value ≠ []) :
    trimSpace (headerLine (name, value)) = headerLine (name, value) := by
  have nonempty : queryEscape value ≠ [] := mt queryEscape_eq_nil_iff.mp full
  have joined : headerLine (name, value) = name ++ 58 :: (32 :: queryEscape value) := by
    rw [headerLine, colon_eq, List.append_assoc]
    rfl
  have ends : (headerLine (name, value)).getLast? =
      some ((queryEscape value).getLast nonempty) := by
    rw [headerLine, List.getLast?_append_of_ne_nil _ nonempty,
      List.getLast?_eq_some_getLast nonempty]
  refine trimTokens_eq_self ?_ (not_suffix_visible ends
    (queryEscape_visible value _ (List.getLast_mem nonempty)))
  rw [joined]
  exact front_clear named _

/-- Of an empty value the line keeps the colon. -/
theorem trimSpace_empty (named : HeaderName name) :
    trimSpace (headerLine (name, [])) = name ++ [58] := by
  have front : dropTokens whiteSpace (headerLine (name, [])) = headerLine (name, []) :=
    dropTokens_eq_self (by simpa [headerLine, colon_eq, queryEscape] using front_clear named [32])
  have turned : (headerLine (name, [])).reverse = 32 :: 58 :: name.reverse := by
    simp [headerLine, colon_eq, queryEscape]
  have blank : dropTokens (whiteSpace.map List.reverse) (32 :: 58 :: name.reverse) =
      dropTokens (whiteSpace.map List.reverse) (58 :: name.reverse) := rfl
  have colon : dropTokens (whiteSpace.map List.reverse) (58 :: name.reverse) =
      58 :: name.reverse := by
    refine dropTokens_eq_self fun token mem => ?_
    obtain ⟨original, known, rfl⟩ := List.mem_map.mp mem
    obtain ⟨nonempty, unseen⟩ := whiteSpace_invisible original known
    obtain ⟨c, rest, shape⟩ := List.exists_cons_of_ne_nil (mt List.reverse_eq_nil_iff.mp nonempty)
    rw [shape]
    intro starts
    obtain ⟨rfl, -⟩ := List.cons_prefix_cons.mp starts
    have inside : (58 : UInt8) ∈ original := List.mem_reverse.mp (shape ▸ List.mem_cons_self)
    exact absurd (unseen 58 inside) (by decide)
  rw [trimSpace, trimTokens, front, turned, blank, colon]
  simp

theorem parseHeader_line (headers : List (Bytes × Bytes)) (named : HeaderName name) :
    parseHeader headers (headerLine (name, value)) =
      if value = [] then headers else (name, queryEscape value) :: headers := by
  by_cases empty : value = []
  · subst empty
    rw [parseHeader, trimSpace_empty named, cut_name_colon named.plain]
    rfl
  · rw [parseHeader, trimSpace_line named empty, headerLine, cut_colon named.plain, if_neg empty]

end Line

/-! A whole event. -/

/-- A finite map from names to values. -/
structure HeaderMap where
  entries : List (Bytes × Bytes)
  nonempty : entries ≠ []
  named : ∀ entry ∈ entries, HeaderName entry.1
  unique : (entries.map Prod.fst).Nodup

def render (headers : HeaderMap) (body : Bytes) : Bytes :=
  unlines newline (headers.entries.map headerLine) ++ newline :: body

/-- What the lines assign, the newest first. -/
def assigned (entries : List (Bytes × Bytes)) : List (Bytes × Bytes) :=
  ((entries.filter (·.2 ≠ [])).map fun entry => (entry.1, queryEscape entry.2)).reverse

theorem parse_lines {entries : List (Bytes × Bytes)} (named : ∀ entry ∈ entries, HeaderName entry.1)
    (headers : List (Bytes × Bytes)) :
    (entries.map headerLine).foldl parseHeader headers = assigned entries ++ headers := by
  induction entries generalizing headers with
  | nil => rfl
  | cons entry entries ih =>
    obtain ⟨first, others⟩ := List.forall_mem_cons.mp named
    rw [List.map_cons, List.foldl_cons, ih others, parseHeader_line headers first]
    by_cases empty : entry.2 = []
    · simp [assigned, empty]
    · simp [assigned, empty]

theorem headerLine_clean {entry : Bytes × Bytes} (named : HeaderName entry.1) :
    headerLine entry ≠ [] ∧ newline ∉ headerLine entry := by
  have escaped : newline ∉ queryEscape entry.2 := fun inside =>
    absurd (queryEscape_visible entry.2 newline inside) (by decide)
  constructor
  · simp [headerLine, colon_eq]
  · simp only [headerLine, List.mem_append, not_or]
    exact ⟨⟨named.oneLine, by decide⟩, escaped⟩

theorem parseEvent_render (headers : HeaderMap) (body : Bytes) :
    parseEvent (render headers body) = ⟨assigned headers.entries, body⟩ := by
  have nonempty : headers.entries.map headerLine ≠ [] := by simpa using headers.nonempty
  have clean : ∀ line ∈ headers.entries.map headerLine, line ≠ [] ∧ newline ∉ line := by
    intro line mem
    obtain ⟨entry, inside, rfl⟩ := List.mem_map.mp mem
    exact headerLine_clean (headers.named entry inside)
  have split : cut [newline, newline] (unlines newline (headers.entries.map headerLine) ++
      newline :: body) = some ([newline].intercalate (headers.entries.map headerLine), body) :=
    cut_unlines nonempty (fun mem => (clean [] mem).1 rfl) fun line mem => (clean line mem).2
  have lines : ([newline].intercalate (headers.entries.map headerLine)).splitOn newline =
      headers.entries.map headerLine :=
    (splitOn_intercalate_iff nonempty).mpr fun line mem => (clean line mem).2
  simp only [parseEvent, render, split, Option.getD_some, lines, parse_lines headers.named,
    List.append_nil]

/-- Parsing gives back every value, nothing for any other name, and the body. -/
theorem parse_inverts_render (headers : HeaderMap) (body : Bytes) :
    (∀ name value, (name, value) ∈ headers.entries →
      (parseEvent (render headers body)).get name = value) ∧
    (∀ name, name ∉ headers.entries.map Prod.fst →
      (parseEvent (render headers body)).get name = []) ∧
    (parseEvent (render headers body)).body = body := by
  rw [parseEvent_render]
  have unique : ((assigned headers.entries).map Prod.fst).Nodup := by
    rw [assigned, List.map_reverse, List.nodup_reverse, List.map_map]
    exact headers.unique.sublist (List.filter_sublist.map Prod.fst)
  have absent : ∀ name, (∀ value, (name, value) ∈ headers.entries → value = []) →
      Event.get ⟨assigned headers.entries, body⟩ name = [] := by
    intro name empty
    refine get_of_absent (List.lookup_eq_none_iff.mpr fun entry mem => ?_)
    simp only [assigned, List.mem_reverse, List.mem_map, List.mem_filter, decide_eq_true_eq] at mem
    obtain ⟨source, ⟨inside, full⟩, rfl⟩ := mem
    rw [bne_iff_ne]
    rintro rfl
    exact full (empty source.2 inside)
  refine ⟨fun name value mem => ?_, fun name other => absent name fun value mem => ?_, rfl⟩
  · by_cases empty : value = []
    · subst empty
      refine absent name fun value other => ?_
      have found := lookup_of_mem headers.unique mem
      exact Option.some.inj ((lookup_of_mem headers.unique other).symm.trans found)
    · have inside : (name, queryEscape value) ∈ assigned headers.entries := by
        simp only [assigned, List.mem_reverse, List.mem_map, List.mem_filter, decide_eq_true_eq]
        exact ⟨(name, value), ⟨mem, empty⟩, rfl⟩
      simp [Event.get, lookup_of_mem unique inside]
  · exact absurd (List.mem_map_of_mem mem) other

/-- An empty value between one with everything that is escaped and a name with colons. -/
def sampleHeaders : HeaderMap where
  entries := [(ascii "Event-Subclass", ascii "a b+c%2B: d\n"), (ascii "X", []),
    (ascii "a:b:", ascii "1")]
  nonempty := by simp
  named := by decide +kernel
  unique := by decide +kernel

theorem sample_event_read : (parseEvent (render sampleHeaders (ascii "body\n\n"))).get
    (ascii "Event-Subclass") =
      ascii "a b+c%2B: d\n" ∧
    (parseEvent (render sampleHeaders (ascii "body\n\n"))).get (ascii "a:b:") = ascii "1" ∧
    (parseEvent (render sampleHeaders (ascii "body\n\n"))).get (ascii "Unique-ID") = [] := by
  obtain ⟨values, others, -⟩ := parse_inverts_render sampleHeaders (ascii "body\n\n")
  exact ⟨values _ _ (by simp [sampleHeaders]), values _ _ (by simp [sampleHeaders]),
    others _ (by decide +kernel)⟩

end AgentOE.Esl
