import Mathlib.Data.List.Infix

/-! The event-stream format as the HTML standard has a browser read it, one character after
another. Nothing here names a particular program. -/
namespace AgentOE.EventStream

abbrev Text := List Char

structure Event where
  type : Text
  data : Text
  lastEventId : Text
  deriving DecidableEq

/-- `line` is what has been read of a line that has not ended. -/
structure Reader where
  begun : Bool := false
  afterReturn : Bool := false
  line : Text := []
  type : Text := []
  data : Text := []
  lastEventId : Text := []
  dispatched : List Event := []
  deriving DecidableEq

def byteOrderMark : Char := Char.ofNat 0xFEFF

def fieldName (line : Text) : Text := line.takeWhile (· ≠ ':')

/-- What stands behind the colon, less one blank. -/
def fieldValue (line : Text) : Text :=
  match (line.dropWhile (· ≠ ':')).tail with
  | ' ' :: value => value
  | value => value

namespace Reader
variable (r : Reader)

/-- A comment is a line without a name. `retry` is left out: it tells how long the reader waits
before it connects again. -/
def field (name value : Text) : Reader :=
  if name = "event".toList then { r with type := value }
  else if name = "data".toList then { r with data := r.data ++ value ++ ['\n'] }
  else if name = "id".toList ∧ Char.ofNat 0 ∉ value then { r with lastEventId := value }
  else r

theorem field_event (value : Text) : r.field "event".toList value = { r with type := value } :=
  if_pos rfl

theorem field_data (value : Text) : r.field "data".toList value =
    { r with data := r.data ++ value ++ ['\n'] } := by
  have other : "data".toList ≠ "event".toList := by decide
  rw [field, if_neg other, if_pos rfl]

theorem field_id {value : Text} (null : Char.ofNat 0 ∉ value) :
    r.field "id".toList value = { r with lastEventId := value } := by
  have notEvent : "id".toList ≠ "event".toList := by decide
  have notData : "id".toList ≠ "data".toList := by decide
  rw [field, if_neg notEvent, if_neg notData, if_pos ⟨rfl, null⟩]

def dispatch : Reader :=
  if r.data = [] then { r with type := [] }
  else
    let type := if r.type = [] then "message".toList else r.type
    { r with
      type := []
      data := []
      dispatched := r.dispatched ++ [⟨type, r.data.dropLast, r.lastEventId⟩] }

def endLine : Reader :=
  let ended := { r with line := [] }
  if r.line = [] then ended.dispatch else ended.field (fieldName r.line) (fieldValue r.line)

/-- A line ends with a line feed, a carriage return or both. -/
def next (c : Char) : Reader :=
  let later := { r with begun := true, afterReturn := false }
  if c = '\n' then if r.afterReturn then later else later.endLine
  else if c = '\r' then { later.endLine with afterReturn := true }
  else if c = byteOrderMark ∧ r.begun = false then later
  else { later with line := r.line ++ [c] }

def feed (text : Text) : Reader := text.foldl next r

/-- At the front of a line. -/
structure Fresh : Prop where
  begun : r.begun = true
  afterReturn : r.afterReturn = false
  line : r.line = []

end Reader

/-! ### Writing -/

structure Entry where
  name : Text
  value : Text

def Entry.text (f : Entry) : Text := f.name ++ ':' :: ' ' :: f.value ++ ['\n']

def block (entries : List Entry) : Text := entries.flatMap Entry.text ++ ['\n']

/-- What a block does to the reader. -/
def Reader.interpret (r : Reader) (entries : List Entry) : Reader :=
  (entries.foldl (fun r f => r.field f.name f.value) r).dispatch

def Clean (text : Text) : Prop := '\n' ∉ text ∧ '\r' ∉ text

instance (text : Text) : Decidable (Clean text) := inferInstanceAs (Decidable (_ ∧ _))

structure Entry.WellFormed (f : Entry) : Prop where
  colon : ':' ∉ f.name
  name : Clean f.name
  value : Clean f.value

variable {r : Reader} {text rest value : Text} {f : Entry} {entries : List Entry}

theorem clean_append : Clean (text ++ rest) ↔ Clean text ∧ Clean rest := by
  simp only [Clean, List.mem_append, not_or]
  exact and_and_and_comm

namespace Reader

theorem feed_append : r.feed (text ++ rest) = (r.feed text).feed rest := List.foldl_append

@[simp] theorem feed_nil : r.feed [] = r := rfl

theorem feed_cons {c : Char} : r.feed (c :: text) = (r.next c).feed text := rfl

/-- A stream that begins with something else than a byte order mark. -/
theorem feed_begun {c : Char} (other : c ≠ byteOrderMark) (text : Text) :
    r.feed (c :: text) = { r with begun := true }.feed (c :: text) := by
  simp only [feed_cons, next, other, false_and, if_false]

@[simp] theorem field_begun (name value : Text) : (r.field name value).begun = r.begun := by
  unfold field
  split_ifs <;> rfl

@[simp] theorem field_afterReturn (name value : Text) :
    (r.field name value).afterReturn = r.afterReturn := by
  unfold field
  split_ifs <;> rfl

@[simp] theorem field_line (name value : Text) : (r.field name value).line = r.line := by
  unfold field
  split_ifs <;> rfl

@[simp] theorem field_dispatched (name value : Text) :
    (r.field name value).dispatched = r.dispatched := by
  unfold field
  split_ifs <;> rfl

@[simp] theorem dispatch_begun : r.dispatch.begun = r.begun := by
  unfold dispatch
  split_ifs <;> rfl

@[simp] theorem dispatch_afterReturn : r.dispatch.afterReturn = r.afterReturn := by
  unfold dispatch
  split_ifs <;> rfl

@[simp] theorem dispatch_line : r.dispatch.line = r.line := by
  unfold dispatch
  split_ifs <;> rfl

theorem feed_clean (clean : Clean text) (begun : r.begun = true) (same : r.afterReturn = false) :
    r.feed text = { r with line := r.line ++ text } := by
  induction text generalizing r with
  | nil => simp
  | cons c text ih =>
    obtain ⟨feeds, returns⟩ := clean
    obtain ⟨notFeed, feeds⟩ := List.ne_and_not_mem_of_not_mem_cons feeds
    obtain ⟨notReturn, returns⟩ := List.ne_and_not_mem_of_not_mem_cons returns
    have step : r.next c = { r with line := r.line ++ [c] } := by
      cases r
      cases begun
      cases same
      simp [next, notFeed.symm, notReturn.symm]
    rw [feed_cons, step]
    simpa using ih (r := { r with line := r.line ++ [c] }) ⟨feeds, returns⟩ begun same

variable (fresh : r.Fresh)
include fresh

theorem Fresh.next_feed : r.next '\n' = r.dispatch := by
  obtain ⟨begun, same, empty⟩ := fresh
  cases r
  cases begun
  cases same
  cases empty
  rfl

theorem feed_line (clean : Clean text) (nonempty : text ≠ []) :
    r.feed (text ++ ['\n']) = r.field (fieldName text) (fieldValue text) := by
  rw [feed_append, feed_clean clean fresh.begun fresh.afterReturn, fresh.line, List.nil_append]
  obtain ⟨begun, same, empty⟩ := fresh
  cases r
  cases begun
  cases same
  cases empty
  simp [feed, next, endLine, nonempty]

theorem Fresh.field (name value : Text) : (r.field name value).Fresh :=
  ⟨by simpa using fresh.begun, by simpa using fresh.afterReturn, by simpa using fresh.line⟩

theorem Fresh.dispatch : r.dispatch.Fresh :=
  ⟨by simpa using fresh.begun, by simpa using fresh.afterReturn, by simpa using fresh.line⟩

end Reader

theorem fieldName_line {name : Text} (colon : ':' ∉ name) (rest : Text) :
    fieldName (name ++ ':' :: rest) = name := by
  have others : ∀ c ∈ name, (c ≠ ':') = true := by
    intro c mem
    simpa using fun same : c = ':' => colon (same ▸ mem)
  simp only [fieldName]
  rw [List.takeWhile_append_of_pos (by simpa using others)]
  simp

theorem fieldValue_line {name : Text} (colon : ':' ∉ name) (value : Text) :
    fieldValue (name ++ ':' :: ' ' :: value) = value := by
  have others : ∀ c ∈ name, (c ≠ ':') = true := by
    intro c mem
    simpa using fun same : c = ':' => colon (same ▸ mem)
  simp only [fieldValue]
  rw [List.dropWhile_append_of_pos (by simpa using others)]
  simp

namespace Reader
variable (fresh : r.Fresh)
include fresh

theorem feed_entry (wellFormed : f.WellFormed) : r.feed f.text = r.field f.name f.value := by
  have clean : Clean (f.name ++ ':' :: ' ' :: f.value) := by
    have separator : Clean [':', ' '] := by decide
    exact clean_append.mpr ⟨wellFormed.name, clean_append.mpr ⟨separator, wellFormed.value⟩⟩
  have line := feed_line fresh clean (by simp)
  rwa [fieldName_line wellFormed.colon, fieldValue_line wellFormed.colon] at line

theorem feed_entries (wellFormed : ∀ f ∈ entries, f.WellFormed) :
    r.feed (entries.flatMap Entry.text) = entries.foldl (fun r f => r.field f.name f.value) r ∧
      (entries.foldl (fun r f => r.field f.name f.value) r).Fresh := by
  induction entries generalizing r with
  | nil => exact ⟨rfl, fresh⟩
  | cons f entries ih =>
    obtain ⟨first, others⟩ := List.forall_mem_cons.mp wellFormed
    rw [List.flatMap_cons, feed_append, feed_entry fresh first]
    exact ih (fresh.field f.name f.value) others

/-- A block that is written and read again, behind whatever has been read before. -/
theorem feed_block (wellFormed : ∀ f ∈ entries, f.WellFormed) :
    r.feed (block entries) = r.interpret entries ∧ (r.interpret entries).Fresh := by
  obtain ⟨read, after⟩ := feed_entries fresh wellFormed
  rw [block, feed_append, read]
  exact ⟨after.next_feed, after.dispatch⟩

end Reader

/-! ### Data that ends a line

Such data is not read as it was written: every line of it but the first has a name in front
of its value, or is lost. -/

theorem fieldValue_length (line : Text) : (fieldName line).length + (fieldValue line).length ≤
    line.length := by
  have split : (fieldName line).length + (line.dropWhile (· ≠ ':')).length = line.length := by
    rw [fieldName, ← List.length_append, List.takeWhile_append_dropWhile]
  have tail : (line.dropWhile (· ≠ ':')).tail.length ≤ (line.dropWhile (· ≠ ':')).length := by simp
  have value : (fieldValue line).length ≤ (line.dropWhile (· ≠ ':')).tail.length := by
    unfold fieldValue
    split <;> simp_all
  omega

namespace Reader

/-- An event is waiting for the end of its block. -/
structure Waiting (r : Reader) : Prop where
  begun : r.begun = true
  data : r.data ≠ []
  line : r.afterReturn = true → r.line = []

def pending (r : Reader) : Nat := r.data.length + r.line.length

theorem dispatch_waiting (waiting : r.data ≠ []) :
    ∃ e, r.dispatch.dispatched = r.dispatched ++ [e] ∧ e.data.length + 1 = r.data.length := by
  refine ⟨⟨_, r.data.dropLast, r.lastEventId⟩, by rw [dispatch, if_neg waiting], ?_⟩
  have nonempty : 0 < r.data.length := List.length_pos_iff.mpr waiting
  simp only [List.length_dropLast]
  omega

theorem endLine_blank (blank : r.line = []) : r.endLine = r.dispatch := by
  have same : { r with line := [] } = r := by
    cases r
    cases blank
    rfl
  simp only [endLine, blank, if_true, same]

theorem endLine_begun : r.endLine.begun = r.begun := by
  unfold endLine
  split_ifs <;> simp

theorem endLine_afterReturn : r.endLine.afterReturn = r.afterReturn := by
  unfold endLine
  split_ifs <;> simp

/-- The character ends a line, which it does not behind a carriage return. -/
theorem next_endLine {c : Char} (begun : r.begun = true)
    (ends : c = '\n' ∧ r.afterReturn = false ∨ c = '\r') :
    r.next c = { r.endLine with afterReturn := decide (c = '\r') } := by
  rcases ends with ⟨rfl, same⟩ | rfl
  · have here : { r with begun := true, afterReturn := false } = r := by
      cases r
      cases begun
      cases same
      rfl
    have after : r.endLine.afterReturn = false := endLine_afterReturn.trans same
    simp only [next, same, here, if_true, Bool.false_eq_true, if_false, Char.reduceEq, decide_false]
    rw [← after]
  · simp only [next, begun, Char.reduceEq, if_true, if_false, decide_true, endLine, dispatch, field]
    split_ifs <;> rfl

/-- A line that is not blank adds less to the data than it is long. -/
theorem endLine_pending (waiting : r.data ≠ []) (nonempty : r.line ≠ []) :
    r.endLine.dispatched = r.dispatched ∧ r.endLine.data ≠ [] ∧ r.endLine.line = [] ∧
      r.endLine.data.length ≤ r.pending := by
  have bound := fieldValue_length r.line
  unfold endLine field pending
  rw [if_neg nonempty]
  split_ifs with _ isData
  · exact ⟨rfl, waiting, rfl, by simp⟩
  · refine ⟨rfl, by simp, rfl, ?_⟩
    have named : (fieldName r.line).length = 4 := by rw [isData]; rfl
    simp only [List.length_append, List.length_cons, List.length_nil]
    omega
  · exact ⟨rfl, waiting, rfl, by simp⟩
  · exact ⟨rfl, waiting, rfl, by simp⟩

/-- What one character can do to a waiting event: the event is dispatched, or it waits on and
has grown by no more than the character. -/
theorem next_waiting (waiting : r.Waiting) (c : Char) :
    (∃ e, (r.next c).dispatched = r.dispatched ++ [e] ∧ e.data.length + 1 = r.data.length) ∨
      ((r.next c).dispatched = r.dispatched ∧ (r.next c).Waiting ∧
        (r.next c).pending ≤ r.pending + 1 ∧
        (c = '\n' → (r.next c).pending ≤ r.pending ∧ (r.next c).Fresh)) := by
  obtain ⟨begun, data, consistent⟩ := waiting
  by_cases ends : c = '\n' ∧ r.afterReturn = false ∨ c = '\r'
  · rw [next_endLine begun ends]
    have begins : r.endLine.begun = true := endLine_begun.trans begun
    by_cases blank : r.line = []
    · left
      rw [endLine_blank blank]
      exact dispatch_waiting data
    · right
      obtain ⟨kept, waits, empty, grown⟩ := endLine_pending data blank
      have same : r.endLine.pending = r.endLine.data.length := by simp [pending, empty]
      rw [← same] at grown
      refine ⟨kept, ⟨begins, waits, fun _ => empty⟩, Nat.le_succ_of_le grown,
        fun feeds => ⟨grown, begins, ?_, empty⟩⟩
      subst feeds
      rfl
  · right
    by_cases swallowed : c = '\n'
    · have returned : r.afterReturn = true := by simpa [swallowed] using ends
      have stepped : r.next c = { r with begun := true, afterReturn := false } := by
        simp [next, swallowed, returned]
      rw [stepped]
      refine ⟨rfl, ⟨rfl, data, fun no => by cases no⟩, Nat.le_succ _,
        fun _ => ⟨Nat.le_refl _, rfl, rfl, ?_⟩⟩
      exact consistent returned
    · have other : c ≠ '\r' := fun same => ends (.inr same)
      have stepped : r.next c =
          { r with begun := true, afterReturn := false, line := r.line ++ [c] } := by
        simp [next, swallowed, other, begun]
      rw [stepped]
      refine ⟨rfl, ⟨rfl, data, fun no => by cases no⟩, ?_, fun same => absurd same swallowed⟩
      simp only [pending, List.length_append, List.length_singleton]
      omega

theorem endLine_dispatched : r.dispatched <+: r.endLine.dispatched := by
  by_cases blank : r.line = []
  · rw [endLine_blank blank]
    unfold dispatch
    split_ifs <;> simp
  · simp [endLine, blank]

theorem next_dispatched (c : Char) : r.dispatched <+: (r.next c).dispatched := by
  unfold next
  split_ifs
  · exact List.prefix_rfl
  · exact endLine_dispatched (r := { r with begun := true, afterReturn := false })
  · exact endLine_dispatched (r := { r with begun := true, afterReturn := false })
  · exact List.prefix_rfl
  · exact List.prefix_rfl

theorem feed_dispatched (text : Text) : r.dispatched <+: (r.feed text).dispatched := by
  induction text generalizing r with
  | nil => exact List.prefix_rfl
  | cons c text ih => exact (next_dispatched c).trans ih

/-- The waiting event, when its block is over at last. -/
theorem feed_waiting (waiting : r.Waiting) (text : Text) :
    ∃ e later, (r.feed (text ++ ['\n', '\n'])).dispatched = r.dispatched ++ e :: later ∧
      e.data.length < r.pending + text.length := by
  have dispatchedNow : ∀ {r : Reader} {c : Char} {rest : Text} {n : Nat},
      (∃ e, (r.next c).dispatched = r.dispatched ++ [e] ∧ e.data.length + 1 = r.data.length) →
        r.data.length ≤ n →
      ∃ e later, (r.feed (c :: rest)).dispatched = r.dispatched ++ e :: later ∧
          e.data.length < n := by
    rintro r c rest n ⟨e, dispatched, size⟩ bound
    obtain ⟨later, more⟩ := feed_dispatched (r := r.next c) rest
    refine ⟨e, later, ?_, by omega⟩
    rw [feed_cons, ← more, dispatched, List.append_assoc, List.singleton_append]
  induction text generalizing r with
  | nil =>
    rcases next_waiting waiting '\n' with now | ⟨kept, waits, _, newline⟩
    · exact dispatchedNow now (by simp [pending])
    · obtain ⟨smaller, fresh⟩ := newline rfl
      have dispatch := dispatch_waiting waits.data
      rw [← fresh.next_feed] at dispatch
      have bound : (r.next '\n').data.length ≤ r.pending := by
        simp only [pending, fresh.line] at smaller ⊢
        simpa using smaller
      rw [← kept]
      exact dispatchedNow dispatch bound
  | cons c text ih =>
    rcases next_waiting waiting c with now | ⟨kept, waits, grown, _⟩
    · exact dispatchedNow now (by simp only [pending, List.length_cons]; omega)
    · obtain ⟨e, later, dispatched, size⟩ := ih waits
      refine ⟨e, later, by rw [List.cons_append, feed_cons, dispatched, kept], ?_⟩
      simp only [List.length_cons]
      omega

/-- Data that is written with the end of a line in it is read as shorter data. -/
theorem feed_broken (fresh : r.Fresh) (empty : r.data = []) (broken : ¬Clean value) :
    ∃ e later, (r.feed (block [⟨"data".toList, value⟩])).dispatched = r.dispatched ++ e :: later ∧
      e.data.length < value.length := by
  have parts : ∃ front c rest, value = front ++ c :: rest ∧ Clean front ∧
      (c = '\n' ∨ c = '\r') := by
    have ends : ∃ c ∈ value, c = '\n' ∨ c = '\r' := by
      simp only [Clean, not_and_or, not_not] at broken
      exact broken.elim (fun mem => ⟨_, mem, .inl rfl⟩) fun mem => ⟨_, mem, .inr rfl⟩
    have found : (value.find? fun c => decide (c = '\n' ∨ c = '\r')).isSome = true := by
      simpa [List.find?_isSome] using ends
    obtain ⟨c, found⟩ := Option.isSome_iff_exists.mp found
    obtain ⟨holds, front, rest, rfl, before⟩ := List.find?_eq_some_iff_append.mp found
    refine ⟨front, c, rest, rfl, ⟨fun mem => ?_, fun mem => ?_⟩, of_decide_eq_true holds⟩
    all_goals simpa using before _ mem
  obtain ⟨front, c, rest, rfl, clean, ends⟩ := parts
  let opened : Reader := { r with line := "data".toList ++ ':' :: ' ' :: front }
  have name : Clean ("data".toList ++ [':', ' ']) := by decide
  have whole : Clean ("data".toList ++ ':' :: ' ' :: front) := by
    simpa using clean_append.mpr ⟨name, clean⟩
  have read : r.feed ("data".toList ++ ':' :: ' ' :: front) = opened := by
    rw [feed_clean whole fresh.begun fresh.afterReturn, fresh.line, List.nil_append]
  have stepped : opened.next c =
      { r with data := front ++ ['\n'], afterReturn := decide (c = '\r') } := by
    rw [next_endLine (r := opened) fresh.begun
      (ends.imp_left fun feeds => ⟨feeds, fresh.afterReturn⟩)]
    have colon : ':' ∉ "data".toList := by decide
    have named : fieldName opened.line = "data".toList := fieldName_line colon (' ' :: front)
    have valued : fieldValue opened.line = front := fieldValue_line colon front
    have nonempty : opened.line ≠ [] := by simp [opened]
    simp only [endLine, nonempty, if_false, named, valued, field_data]
    simp [opened, empty, fresh.line]
  have waiting : (opened.next c).Waiting := by
    rw [stepped]
    exact ⟨fresh.begun, by simp, fun _ => fresh.line⟩
  obtain ⟨e, later, dispatched, size⟩ := feed_waiting waiting rest
  have text : block [⟨"data".toList, front ++ c :: rest⟩] =
      ("data".toList ++ ':' :: ' ' :: front) ++ c :: (rest ++ ['\n', '\n']) := by
    simp [block, Entry.text]
  refine ⟨e, later, ?_, ?_⟩
  · rw [text, feed_append, read, feed_cons, dispatched, stepped]
  · rw [stepped] at size
    simp only [pending, fresh.line, List.length_append, List.length_cons, List.length_nil] at size ⊢
    omega

end Reader

end AgentOE.EventStream
