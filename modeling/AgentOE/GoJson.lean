import AgentOE.JsonRoundTrip

/-! A flat object as `json.Marshal` of Go writes it for a struct, and what a reader of JSON
makes of it. A Go string is read as its runes; `none` is a byte that belongs to no UTF-8.
Nothing here names a particular program. -/
namespace AgentOE.GoJson
open JsonText

abbrev GoString := List (Option Char)

def GoString.ofString (s : String) : GoString := s.toList.map some

inductive Field where
  | string (value : GoString)
  | int (value : Int)
  deriving DecidableEq

/-- The fields by their tags, in the order of the struct. -/
abbrev Struct := List (String × Field)

/-- What a byte that is no rune is read as: the replacement character. -/
def rune : Option Char → Nat
  | none => 0xFFFD
  | some c => c.toNat

/-- Written as `\uXXXX`: beside control characters, what HTML or JavaScript would take for its
own. -/
def hidden (c : Nat) : Bool := c < 32 || c ∈ ofString "<>&" || c = 0x2028 || c = 0x2029

def escape : Option Char → Text
  | none => unicodeEscape 0xFFFD
  | some c => match shortEscapes.lookup c.toNat with
    | some e => ['\\'.toNat, e]
    | none => if hidden c.toNat then unicodeEscape c.toNat else [c.toNat]

def writeString (s : GoString) : Text := '"'.toNat :: s.flatMap escape ++ ['"'.toNat]

def writeField : Field → Text
  | .string value => writeString value
  | .int value => writeInt value

def writeMember (entry : String × Field) : Text :=
  writeString (.ofString entry.1) ++ ':'.toNat :: writeField entry.2

/-- The members behind the first one. -/
def writeOthers (entries : Struct) : Text :=
  entries.flatMap fun entry => ','.toNat :: writeMember entry

def marshal : Struct → Text
  | [] => ofString "\x7b\x7d"
  | entry :: entries => '\x7b'.toNat :: writeMember entry ++ writeOthers entries ++ ['\x7d'.toNat]

def Field.read : Field → Value
  | .string value => .str (value.map rune)
  | .int value => .int value

def readMember (entry : String × Field) : JsonText.Text × Value := (ofString entry.1, entry.2.read)

/-- A number is not longer than what the reader converts. -/
def Field.Short (maxDigits : Nat) : Field → Prop
  | .string _ => True
  | .int value => (decimal value.natAbs).length ≤ maxDigits

variable {s : GoString} {c : Option Char} {entry first : String × Field} {entries : Struct}
    {rest : Text}
variable {maxDigits depth n : Nat} {field : Field}

/-! ### Strings -/

/-- Whether a rune is read from a `\uXXXX`. -/
def byNumber : Option Char → Bool
  | none => true
  | some c => (shortEscapes.lookup c.toNat).isNone && hidden c.toNat

def piece (c : Option Char) : Piece := (rune c, byNumber c)

theorem rune_scalar (c : Option Char) : rune c < 0x110000 ∧
    ¬(0xD800 ≤ rune c ∧ rune c ≤ 0xDFFF) := by
  cases c with
  | none => exact ⟨by decide, by decide⟩
  | some c =>
    have valid := c.valid
    simp only [UInt32.isValidChar, Nat.isValidChar] at valid
    simp only [rune, Char.toNat]
    omega

theorem hidden_small {c : Nat} (isHidden : hidden c = true) : c < 0x10000 := by
  have unsafe_ : ∀ c ∈ ofString "<>&", c < 0x10000 := by decide
  simp only [hidden, Bool.or_eq_true, decide_eq_true_eq] at isHidden
  rcases isHidden with ((control | html) | line) | paragraph
  · omega
  · exact unsafe_ c html
  · omega
  · omega

theorem units_escape (c : Option Char) (t : Text) :
    units (escape c ++ t) = (units t).map fun read => (piece c :: read.1, read.2) := by
  cases c with
  | none => exact units_unicodeEscape (by decide) t
  | some c =>
    cases known : shortEscapes.lookup c.toNat with
    | some e =>
      have written : escape (some c) = ['\\'.toNat, e] := by simp only [escape, known]
      have read : piece (some c) = (c.toNat, false) := by simp [piece, rune, byNumber, known]
      rw [written, read]
      exact units_short known t
    | none =>
      have read : piece (some c) = (c.toNat, hidden c.toNat) := by
        simp [piece, rune, byNumber, known]
      have written : escape (some c) =
          if hidden c.toNat then unicodeEscape c.toNat else [c.toNat] := by
        simp only [escape, known]
      rw [written, read]
      split_ifs with isHidden
      · rw [isHidden]
        exact units_unicodeEscape (hidden_small isHidden) t
      · have notQuote : c.toNat ≠ '"'.toNat := fun same => by rw [same] at known; cases known
        have notBackslash : c.toNat ≠ '\\'.toNat := fun same => by rw [same] at known; cases known
        have notControl : ¬c.toNat < 32 := fun small => isHidden (by simp [hidden, small])
        rw [List.singleton_append, units.eq_def, Bool.of_not_eq_true isHidden]
        simp only [if_neg notQuote, if_neg notControl, if_neg notBackslash]
        cases units t <;> rfl

theorem units_string (s : GoString) (rest : Text) :
    units (s.flatMap escape ++ '"'.toNat :: rest) = some (s.map piece, rest) := by
  induction s with
  | nil =>
    rw [List.flatMap_nil, List.nil_append, units.eq_def]
    rfl
  | cons c s ih =>
    rw [List.flatMap_cons, List.append_assoc, units_escape, ih]
    rfl

theorem isHigh_rune (c : Option Char) : isHigh (rune c) = false := by
  have scalar := (rune_scalar c).2
  rw [isHigh, Bool.and_eq_false_iff, decide_eq_false_iff_not, decide_eq_false_iff_not]
  omega

/-- No rune is half of a pair. -/
theorem joinPairs_piece (s : GoString) : joinPairs (s.map piece) = s.map rune := by
  induction s with
  | nil => rfl
  | cons c s ih =>
    cases s with
    | nil => rfl
    | cons d s =>
      have apart : ((piece c).2 && (piece d).2 && isHigh (piece c).1 && isLow (piece d).1) =
          false := by
        simp only [piece, isHigh_rune, Bool.and_false, Bool.false_and]
      rw [List.map_cons, List.map_cons] at ih ⊢
      rw [joinPairs, apart, if_neg Bool.false_ne_true, ih]
      rfl

theorem readString_writeString (s : GoString) (rest : Text) :
    readString (s.flatMap escape ++ '"'.toNat :: rest) = .ok (s.map rune, rest) := by
  simp only [readString, units_string, joinPairs_piece]

theorem map_rune_ofString (key : String) : (GoString.ofString key).map rune = ofString key := by
  simp only [GoString.ofString, ofString, List.map_map]
  rfl

/-! ### The object -/

theorem begins_field (field : Field) : Begins (writeField field) := by
  cases field with
  | string value => exact ⟨_, _, rfl, by decide⟩
  | int value => exact @begins_dumps (decimal value.natAbs).length 0 (.int value) le_rfl

theorem reads_field (short : field.Short maxDigits) :
    Reads (scanOnce maxDigits depth) (writeField field) field.read := by
  cases field with
  | int value => exact scan_dumps (.int value) short
  | string value =>
    intro rest _
    obtain ⟨dict, list, isRead⟩ := scanOnce_eq maxDigits depth
    have split : writeField (.string value) ++ rest =
        '"'.toNat :: (value.flatMap escape ++ '"'.toNat :: rest) := by
      simp [writeField, writeString]
    rw [isRead, split, readValue, if_pos rfl, readString_writeString]
    rfl

theorem begins_member (entry : String × Field) : Begins (writeMember entry) :=
  ⟨_, _, rfl, by decide⟩

theorem reads_member (short : entry.2.Short maxDigits) :
    Reads (member (scanOnce maxDigits depth)) (writeMember entry) (readMember entry) := by
  intro rest stops
  have split : writeMember entry ++ rest = '"'.toNat ::
      ((GoString.ofString entry.1).flatMap escape ++
      '"'.toNat :: (':'.toNat :: (writeField entry.2 ++ rest))) := by
    simp [writeMember, writeString]
  have colon : skip (':'.toNat :: (writeField entry.2 ++ rest)) =
    ':'.toNat :: (writeField entry.2 ++ rest) := rfl
  have front : skip (writeField entry.2 ++ rest) = writeField entry.2 ++ rest :=
    (begins_field entry.2).skip_append rest
  rw [split, member]
  simp only [if_true, readString_writeString, bind, Except.bind, colon, front,
    reads_field short rest stops, map_rune_ofString]
  rfl

theorem length_writeOthers (entries : Struct) : entries.length ≤ (writeOthers entries).length := by
  induction entries with
  | nil => exact Nat.zero_le _
  | cons entry entries ih =>
    rw [writeOthers] at ih ⊢
    rw [List.flatMap_cons, List.length_append, List.length_cons, List.length_cons]
    omega

theorem separated_read (short : ∀ entry ∈ first :: entries, entry.2.Short maxDigits)
    (enough : entries.length < n) (rest : Text) :
    separated '\x7d'.toNat (member (scanOnce maxDigits depth)) n
      (writeMember first ++ (writeOthers entries ++ '\x7d'.toNat :: rest)) =
        .ok ((first :: entries).map readMember, rest) := by
  induction entries generalizing first n with
  | nil =>
    obtain ⟨n, rfl⟩ := Nat.exists_eq_succ_of_ne_zero (Nat.ne_of_gt enough)
    have closed : skip ('\x7d'.toNat :: rest) = '\x7d'.toNat :: rest := rfl
    have here := @reads_member _ _ depth (short first List.mem_cons_self) ('\x7d'.toNat :: rest)
      (stops_cons (by decide) rest)
    rw [writeOthers, List.flatMap_nil, List.nil_append, separated, here]
    simp only [bind, Except.bind, closed, if_true]
    rfl
  | cons next entries ih =>
    obtain ⟨n, rfl⟩ := Nat.exists_eq_succ_of_ne_zero (Nat.ne_of_gt (Nat.zero_lt_of_lt enough))
    obtain ⟨firstShort, short⟩ := List.forall_mem_cons.mp short
    have behind := ih short (Nat.lt_of_succ_lt_succ enough)
    have text : writeOthers (next :: entries) ++ '\x7d'.toNat :: rest =
        ','.toNat :: (writeMember next ++ (writeOthers entries ++ '\x7d'.toNat :: rest)) := by
      simp [writeOthers]
    have here := @reads_member _ _ depth firstShort
      (','.toNat :: (writeMember next ++ (writeOthers entries ++ '\x7d'.toNat :: rest)))
        (stops_cons (by decide) _)
    have comma (t : Text) : skip (','.toNat :: t) = ','.toNat :: t := rfl
    have front := (begins_member next).skip_append (writeOthers entries ++ '\x7d'.toNat :: rest)
    have notClose : ','.toNat ≠ '\x7d'.toNat := by decide
    rw [text, separated, here]
    simp only [bind, Except.bind, comma, if_neg notClose, if_true, front, behind]
    rfl

/-- Go's text of an object is read as its fields, with the replacement character for what is not
UTF-8. -/
theorem loads_marshal {limits : Limits} (nonempty : entries ≠ [])
    (distinct : (entries.map Prod.fst).Nodup)
    (short : ∀ entry ∈ entries, entry.2.Short limits.digits) (nests : 0 < limits.depth) :
    loads limits (marshal entries) = .ok (.dict (entries.map readMember)) := by
  obtain ⟨digits, depth⟩ := limits
  obtain ⟨depth, rfl⟩ := Nat.exists_eq_succ_of_ne_zero (Nat.ne_of_gt nests)
  obtain ⟨first, entries, rfl⟩ := List.exists_cons_of_ne_nil nonempty
  have keys : (((first :: entries).map readMember).map (·.1)).Nodup := by
    have injective : Function.Injective ofString := by
      intro a b same
      have chars : Function.Injective Char.toNat := fun _ _ => Char.toNat_inj.mp
      exact String.toList_inj.mp (List.map_injective_iff.mpr chars same)
    have same : ((first :: entries).map readMember).map (·.1) =
        ((first :: entries).map Prod.fst).map ofString := by
      simp only [List.map_map]
      rfl
    rw [same]
    exact distinct.map injective
  have enough : entries.length < (writeMember first ++
      (writeOthers entries ++ ['\x7d'.toNat])).length := by
    have fewer := length_writeOthers entries
    simp only [List.length_append, List.length_cons]
    omega
  have found := @separated_read _ _ _ depth _ short enough []
  have begins := begins_member first
  have front := begins.skip_append (writeOthers entries ++ ['\x7d'.toNat])
  obtain ⟨c, text, isCons, -, -, notClose⟩ := begins.cons
  have opened : marshal (first :: entries) =
      '\x7b'.toNat :: (writeMember first ++ (writeOthers entries ++ ['\x7d'.toNat])) := by
    simp [marshal]
  have read : readDict (scanOnce digits depth)
      (writeMember first ++ (writeOthers entries ++ ['\x7d'.toNat])) =
      .ok (.dict ((first :: entries).map readMember), []) := by
    rw [readDict, bracketed, front]
    rw [isCons, List.cons_append] at found ⊢
    simp only [if_neg (notClose '\x7d'.toNat (by decide)), found, bind, Except.bind,
      toDict_distinct keys]
    rfl
  have scanned : scanOnce digits (depth + 1) (marshal (first :: entries)) =
      .ok (.dict ((first :: entries).map readMember), []) := by
    rw [opened]
    exact read
  have noMark : (marshal (first :: entries)).head? ≠ some 0xFEFF := by
    rw [opened, List.head?_cons]
    exact fun same => absurd (Option.some.inj same) (by decide)
  have skipped : skip (marshal (first :: entries)) = marshal (first :: entries) := by
    rw [opened]
    rfl
  rw [loads, if_neg noMark, skipped, scanned]
  rfl

/-! ### The line -/

theorem printable_escape (c : Option Char) : ∀ u ∈ escape c, 32 ≤ u := by
  have hex : ∀ n < 16, 32 ≤ hexChar n := by decide
  have byNumber (n : Nat) : ∀ u ∈ unicodeEscape n, 32 ≤ u := by
    intro u mem
    have digit (m : Nat) : 32 ≤ hexChar (m % 16) := hex _ (Nat.mod_lt m (by decide))
    rcases List.mem_append.mp mem with mark | mem
    · exact (by decide : ∀ u ∈ ofString "\\u", 32 ≤ u) u mark
    · simp only [List.mem_cons, List.not_mem_nil, or_false] at mem
      rcases mem with rfl | rfl | rfl | rfl
      · exact digit _
      · exact digit _
      · exact digit _
      · exact digit _
  cases c with
  | none => exact byNumber 0xFFFD
  | some c =>
    intro u inside
    cases known : shortEscapes.lookup c.toNat with
    | some e =>
      obtain ⟨before, after, split, -⟩ := List.lookup_eq_some_iff.mp known
      have mem : (c.toNat, e) ∈ shortEscapes := by simp [split]
      have short : ∀ entry ∈ shortEscapes, 32 ≤ entry.2 := by decide
      simp only [escape, known] at inside
      rcases List.mem_pair.mp inside with rfl | rfl
      · decide
      · exact short _ mem
    | none =>
      simp only [escape, known] at inside
      split_ifs at inside with isHidden
      · exact byNumber c.toNat u inside
      · rw [List.mem_singleton.mp inside]
        by_contra small
        exact isHidden (by simp [hidden, Nat.lt_of_not_le small])

theorem printable_string (s : GoString) : ∀ u ∈ writeString s, 32 ≤ u := by
  intro u mem
  simp only [writeString, List.cons_append, List.mem_cons, List.mem_append, List.mem_flatMap,
    List.not_mem_nil, or_false] at mem
  rcases mem with rfl | ⟨c, -, inside⟩ | rfl
  · decide
  · exact printable_escape c u inside
  · decide

theorem printable_field (field : Field) : ∀ u ∈ writeField field, 32 ≤ u := by
  have digits (n : Nat) : ∀ u ∈ decimal n, 32 ≤ u := by
    intro u mem
    have isDigit := decimal_digits n u mem
    have lower := of_decide_eq_true (Bool.and_eq_true_iff.mp isDigit).1
    exact le_trans (by decide) lower
  cases field with
  | string value => exact printable_string value
  | int value => cases value with
    | ofNat n => exact digits n
    | negSucc n =>
      intro u mem
      rcases List.mem_cons.mp mem with rfl | mem
      · decide
      · exact digits (n + 1) u mem

theorem printable_member (entry : String × Field) : ∀ u ∈ writeMember entry, 32 ≤ u := by
  intro u mem
  rcases List.mem_append.mp mem with key | mem
  · exact printable_string _ u key
  · rcases List.mem_cons.mp mem with rfl | mem
    · decide
    · exact printable_field entry.2 u mem

/-- No control character stands in Go's text, and so no end of a line. -/
theorem printable_marshal (entries : Struct) : ∀ u ∈ marshal entries, 32 ≤ u := by
  cases entries with
  | nil => decide
  | cons first entries =>
    intro u mem
    simp only [marshal, List.cons_append, List.mem_cons, List.mem_append, writeOthers,
      List.mem_flatMap, List.not_mem_nil, or_false] at mem
    rcases mem with rfl | (inside | ⟨entry, -, rfl | inside⟩) | rfl
    · decide
    · exact printable_member first u inside
    · decide
    · exact printable_member entry u inside
    · decide

end AgentOE.GoJson
