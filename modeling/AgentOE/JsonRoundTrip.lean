import AgentOE.JsonText

/-! What `dumps` writes is read back by `loads`. -/
namespace AgentOE.JsonText

/-- A number ends in front of the text. -/
def Stops (t : Text) : Prop := ∀ c ∈ t.head?, isDigit c = false ∧ c ∉ ofString "+-.eE"

variable {t rest : Text} {c n maxDigits depth : Nat}

section append
variable {p : Nat → Bool}

theorem takeWhile_append_of_stop (stop : ∀ c ∈ rest.head?, p c = false) (t : Text) :
    (t ++ rest).takeWhile p = t.takeWhile p := by
  induction t with
  | nil =>
    cases rest with
    | nil => rfl
    | cons c rest => simp [stop c rfl]
  | cons c t ih => simp [List.takeWhile_cons, ih]

theorem dropWhile_append_of_stop (stop : ∀ c ∈ rest.head?, p c = false) (t : Text) :
    (t ++ rest).dropWhile p = t.dropWhile p ++ rest := by
  induction t with
  | nil =>
    cases rest with
    | nil => rfl
    | cons c rest => simp [stop c rfl]
  | cons c t ih =>
    rw [List.cons_append, List.dropWhile_cons, List.dropWhile_cons]
    split
    · exact ih
    · rfl

end append

theorem sign_append {allowed : Text} (stop : ∀ c ∈ rest.head?, c ∉ allowed) (t : Text) :
    sign allowed (t ++ rest) = ((sign allowed t).1, (sign allowed t).2 ++ rest) := by
  cases t with
  | nil =>
    cases rest with
    | nil => rfl
    | cons c rest => simp [sign, stop c rfl]
  | cons c t =>
    rw [List.cons_append, sign, sign]
    split <;> rfl

theorem whole_append (stops : Stops rest) (t : Text) :
    whole (t ++ rest) = ((whole t).1, (whole t).2 ++ rest) := by
  have digits : ∀ c ∈ rest.head?, isDigit c = false := fun c mem => (stops c mem).1
  cases t with
  | nil =>
    cases rest with
    | nil => rfl
    | cons c rest =>
      have notDigit := digits c rfl
      have notZero : c ≠ '0'.toNat := fun same => by simp [same, isDigit] at notDigit
      rw [List.nil_append, whole, if_neg notZero]
      simp [whole, notDigit]
  | cons c t =>
    rw [List.cons_append, whole, whole]
    split
    · rfl
    · rw [← List.cons_append, takeWhile_append_of_stop digits, dropWhile_append_of_stop digits]

theorem fraction_append (stops : Stops rest) (t : Text) :
    fraction (t ++ rest) = ((fraction t).1, (fraction t).2 ++ rest) := by
  have digits : ∀ c ∈ rest.head?, isDigit c = false := fun c mem => (stops c mem).1
  cases t with
  | nil =>
    cases rest with
    | nil => rfl
    | cons c rest =>
      have notPoint : c ≠ '.'.toNat := fun same => (stops c rfl).2 (same ▸ by decide)
      rw [List.nil_append, fraction, if_neg (not_and.mpr fun isPoint => absurd isPoint notPoint)]
      rfl
  | cons c t =>
    rw [List.cons_append, fraction, fraction, takeWhile_append_of_stop digits,
      dropWhile_append_of_stop digits]
    split <;> rfl

theorem exponent_append (stops : Stops rest) (t : Text) :
    exponent (t ++ rest) = ((exponent t).1, (exponent t).2 ++ rest) := by
  have digits : ∀ c ∈ rest.head?, isDigit c = false := fun c mem => (stops c mem).1
  have signs : ∀ c ∈ rest.head?, c ∉ ofString "+-" :=
    fun c mem plusMinus => (stops c mem).2 (List.mem_append_left (ofString ".eE") plusMinus)
  cases t with
  | nil =>
    cases rest with
    | nil => rfl
    | cons c rest =>
      have notE : c ∉ ofString "eE" := fun isE =>
        (stops c rfl).2 (List.mem_append_right (ofString "+-.") isE)
      simp only [List.nil_append, exponent, if_neg (not_and.mpr fun isE => absurd isE notE)]
  | cons c t =>
    simp only [List.cons_append, exponent, sign_append signs, takeWhile_append_of_stop digits,
      dropWhile_append_of_stop digits]
    split <;> rfl

theorem number_append (stops : Stops rest) (t : Text) :
    number (t ++ rest) = (number t).map fun parsed => (parsed.1, parsed.2 ++ rest) := by
  have minus : ∀ c ∈ rest.head?, c ∉ ofString "-" := by
    intro c mem isMinus
    cases List.mem_singleton.mp isMinus
    exact (stops _ mem).2 (by decide)
  simp only [number, sign_append minus, whole_append stops, fraction_append stops,
    exponent_append stops]
  split
  · rfl
  · split <;> rfl

/-! Numbers -/

theorem decimal_digits (n : Nat) : ∀ c ∈ decimal n, isDigit c = true := by
  unfold decimal
  split
  · simp [isDigit]
  · intro c mem
    obtain ⟨d, isDigit', rfl⟩ := List.mem_map.mp mem
    have small : d < 10 := Nat.digits_lt_base (by decide) (List.mem_reverse.mp isDigit')
    have bounds : '0'.toNat ≤ '0'.toNat + d ∧ '0'.toNat + d ≤ '9'.toNat := by
      have nine : '9'.toNat = '0'.toNat + 9 := rfl
      omega
    simp only [isDigit, bounds, decide_true, Bool.and_self]

theorem decimal_ne_nil (n : Nat) : decimal n ≠ [] := by
  unfold decimal
  split
  · simp
  · rename_i positive
    simpa using Nat.digits_ne_nil_iff_ne_zero.mpr positive

theorem digitsValue_decimal (n : Nat) : digitsValue (decimal n) = n := by
  unfold decimal
  split
  · rename_i zero
    rw [zero]
    rfl
  · rw [digitsValue, List.foldl_map, List.foldl_reverse]
    have value := Nat.ofDigits_digits 10 n
    rw [Nat.ofDigits_eq_foldr] at value
    refine Eq.trans ?_ value
    congr 1
    funext d m
    simp only [Nat.cast_id, Nat.add_sub_cancel_left]
    omega

theorem whole_decimal (n : Nat) : whole (decimal n) = (decimal n, []) := by
  by_cases zero : n = 0
  · subst zero
    rfl
  · have all := decimal_digits n
    have taken : (decimal n).takeWhile isDigit = decimal n := List.takeWhile_eq_self_iff.mpr all
    have left : (decimal n).dropWhile isDigit = [] := List.dropWhile_eq_nil_iff.mpr all
    have front : ∀ c ∈ (decimal n).head?, c ≠ '0'.toNat := by
      have nonempty : Nat.digits 10 n ≠ [] := Nat.digits_ne_nil_iff_ne_zero.mpr zero
      have last := Nat.getLast_digit_ne_zero 10 zero
      rw [decimal, if_neg zero, List.head?_map, List.head?_reverse,
        List.getLast?_eq_some_getLast nonempty]
      intro c first
      cases first
      simpa using last
    cases here : decimal n with
    | nil => rfl
    | cons c t =>
      rw [here] at taken left front
      rw [whole, if_neg (front c rfl), taken, left]

theorem number_decimal (n : Nat) : number (decimal n) = some (.int [] (decimal n), []) := by
  have unsigned : sign (ofString "-") (decimal n) = ([], decimal n) := by
    have digits := decimal_digits n
    cases here : decimal n with
    | nil => rfl
    | cons c t =>
      have first := digits c (here ▸ List.mem_cons_self)
      have notMinus : c ∉ ofString "-" := fun minus => by
        cases List.mem_singleton.mp minus; cases first
      rw [sign, if_neg notMinus]
  simp only [number, unsigned, whole_decimal, if_neg (decimal_ne_nil n)]
  rfl

theorem number_minus (n : Nat) : number ('-'.toNat :: decimal n) =
    some (.int ['-'.toNat] (decimal n), []) := by
  have signed : sign (ofString "-") ('-'.toNat :: decimal n) = (['-'.toNat], decimal n) := rfl
  simp only [number, signed, whole_decimal, if_neg (decimal_ne_nil n)]
  rfl

theorem readNumber_writeInt (stops : Stops rest) (n : Int)
    (short : (decimal n.natAbs).length ≤ maxDigits) :
    readNumber maxDigits (writeInt n ++ rest) = .ok (.int n, rest) := by
  cases n with
  | ofNat n =>
    have short : ¬maxDigits < (decimal n).length := Nat.not_lt.mpr short
    rw [writeInt, readNumber, number_append stops, number_decimal]
    simp only [Option.map_some, List.nil_append, if_neg short, if_true, digitsValue_decimal]
    rfl
  | negSucc n =>
    have short : ¬maxDigits < (decimal (n + 1)).length := Nat.not_lt.mpr short
    rw [writeInt, readNumber, number_append stops, number_minus]
    simp only [Option.map_some, List.nil_append, if_neg short, digitsValue_decimal]
    rfl

/-! Strings -/

theorem hexDigit_hexChar : ∀ n < 16, hexDigit (hexChar n) = some n := by decide

theorem hex4_hexChar (small : n < 0x10000) : hex4 (hexChar (n / 4096 % 16)) (hexChar (n / 256 % 16))
    (hexChar (n / 16 % 16)) (hexChar (n % 16)) = some n := by
  have digit (m : Nat) : hexDigit (hexChar (m % 16)) = some (m % 16) :=
    hexDigit_hexChar _ (Nat.mod_lt m (by decide))
  simp only [hex4, digit, Option.bind_eq_bind, Option.bind_some, Option.pure_def, Option.some.injEq]
  omega

/-- The pieces that a written character is read as. -/
def pieces (c : Nat) : List Piece :=
  match shortEscapes.lookup c with
  | some _ => [(c, false)]
  | none =>
    if ' '.toNat ≤ c ∧ c ≤ '~'.toNat then [(c, false)]
    else if c < 0x10000 then [(c, true)]
    else [(0xD800 + (c - 0x10000) / 0x400, true), (0xDC00 + (c - 0x10000) % 0x400, true)]

theorem units_unicodeEscape (small : n < 0x10000) (t : Text) :
    units (unicodeEscape n ++ t) = (units t).map fun read => ((n, true) :: read.1, read.2) := by
  have split : unicodeEscape n ++ t = '\\'.toNat :: 117 :: hexChar (n / 4096 % 16) :: hexChar
      (n / 256 % 16) :: hexChar (n / 16 % 16) :: hexChar (n % 16) :: t := rfl
  rw [split, units]
  simp only [hex4_hexChar small]
  cases units t <;> rfl

theorem units_short {e : Nat} (known : shortEscapes.lookup c = some e) (t : Text) :
    units ('\\'.toNat :: e :: t) = (units t).map fun read => ((c, false) :: read.1, read.2) := by
  have inverse : ∀ entry ∈ shortEscapes, escapes.lookup entry.2 = some entry.1 ∧
    entry.2 ≠ 117 := by decide
  have mem : (c, e) ∈ shortEscapes := by
    obtain ⟨front, back, split, -⟩ := List.lookup_eq_some_iff.mp known
    simp [split]
  obtain ⟨value, notU⟩ := inverse (c, e) mem
  have notU : e ≠ 117 := notU
  have plain : ∀ a b c d (rest : Text), e = 117 → t = a :: b :: c :: d :: rest → False :=
    fun a b c d rest isU _ => notU isU
  rw [units]
  · simp only [value]
    cases units t <;> rfl
  · exact plain

theorem units_escape (scalar : c < 0x110000) (t : Text) :
    units (escape c ++ t) = (units t).map fun read => (pieces c ++ read.1, read.2) := by
  unfold escape pieces
  cases known : shortEscapes.lookup c with
  | some e => exact units_short known t
  | none =>
    simp only
    split
    · rename_i printable
      have notQuote : c ≠ '"'.toNat := fun same => by rw [same] at known; cases known
      have notBackslash : c ≠ '\\'.toNat := fun same => by rw [same] at known; cases known
      have notControl : ¬c < 32 := Nat.not_lt.mpr printable.1
      rw [List.singleton_append, units.eq_def]
      simp only [if_neg notQuote, if_neg notControl, if_neg notBackslash]
      cases units t <;> rfl
    · split
      · rename_i small
        exact units_unicodeEscape small t
      · rw [List.append_assoc, units_unicodeEscape (by omega), units_unicodeEscape (by omega),
          Option.map_map]
        rfl

theorem units_string {s : Text} (scalar : Scalar s) (rest : Text) :
    units (s.flatMap escape ++ '"'.toNat :: rest) = some (s.flatMap pieces, rest) := by
  induction s with
  | nil =>
    rw [List.flatMap_nil, List.nil_append, units.eq_def]
    rfl
  | cons c s ih =>
    obtain ⟨first, others⟩ := List.forall_mem_cons.mp scalar
    rw [List.flatMap_cons, List.append_assoc, units_escape first.1, ih others]
    rfl

theorem joinPairs_pieces (bound : c < 0x110000) (scalar : ¬(0xD800 ≤ c ∧ c ≤ 0xDFFF))
    (us : List Piece) : joinPairs (pieces c ++ us) = c :: joinPairs us := by
  have single (escaped : Bool) : joinPairs ((c, escaped) :: us) = c :: joinPairs us := by
    have notHigh : isHigh c = false := by
      simp only [isHigh, Bool.and_eq_false_iff, decide_eq_false_iff_not]
      omega
    cases us with
    | nil => rfl
    | cons u us => simp [joinPairs, notHigh]
  unfold pieces
  split
  · exact single false
  · split
    · exact single false
    · split
      · exact single true
      · have high : isHigh (0xD800 + (c - 0x10000) / 0x400) = true := by
          simp only [isHigh, Bool.and_eq_true, decide_eq_true_eq]
          omega
        have low : isLow (0xDC00 + (c - 0x10000) % 0x400) = true := by
          simp only [isLow, Bool.and_eq_true, decide_eq_true_eq]
          omega
        have value : 0x10000 + (0xD800 + (c - 0x10000) / 0x400 - 0xD800) * 0x400 +
            (0xDC00 + (c - 0x10000) % 0x400 - 0xDC00) = c := by omega
        simp only [List.cons_append, List.nil_append, joinPairs, high, low, Bool.and_self,
          if_true, value]

theorem readString_writeString {s : Text} (scalar : Scalar s) (rest : Text) :
    readString (s.flatMap escape ++ '"'.toNat :: rest) = .ok (s, rest) := by
  have joined : joinPairs (s.flatMap pieces) = s := by
    induction s with
    | nil => rfl
    | cons c s ih =>
      obtain ⟨⟨bound, here⟩, others⟩ := List.forall_mem_cons.mp scalar
      rw [List.flatMap_cons, joinPairs_pieces bound here, ih others]
  simp only [readString, units_string scalar, joined]

/-! Values -/

theorem digit_front (found : number t = some parsed) :
    (∃ c rest, t = c :: rest ∧ isDigit c = true) ∨ ∃ c rest, t = '-'.toNat :: c :: rest ∧
      isDigit c = true := by
  have digit {t : Text} (nonempty : (whole t).1 ≠ []) : ∃ c rest, t = c :: rest ∧
      isDigit c = true := by
    cases t with
    | nil => exact absurd rfl nonempty
    | cons c rest =>
      refine ⟨c, rest, rfl, ?_⟩
      by_contra notDigit
      have notZero : c ≠ '0'.toNat := fun same => notDigit (same ▸ rfl)
      rw [whole, if_neg notZero, List.takeWhile_cons, if_neg notDigit] at nonempty
      exact nonempty rfl
  have nonempty : (whole (sign (ofString "-") t).2).1 ≠ [] := by
    intro empty
    simp [number, empty] at found
  cases t with
  | nil => exact absurd rfl nonempty
  | cons c t =>
    rw [sign] at nonempty
    split at nonempty
    · rename_i minus
      have isMinus : c = '-'.toNat := List.mem_singleton.mp minus
      obtain ⟨d, rest, rfl, isDigit'⟩ := digit nonempty
      exact .inr ⟨d, rest, by rw [isMinus], isDigit'⟩
    · exact .inl (digit nonempty)

/-- No constant begins as a number does. -/
theorem no_constant (found : number t = some parsed) :
    constants.find? (fun constant => constant.1.isPrefixOf t) = none := by
  have heads : ∀ constant ∈ constants, constant.1.head?.map isDigit = some false ∧
      (constant.1.head? = some '-'.toNat → constant.1[1]?.map isDigit = some false) := by decide
  rw [List.find?_eq_none]
  intro constant mem isPrefix
  obtain ⟨tail, split⟩ := List.isPrefixOf_iff_prefix.mp isPrefix
  obtain ⟨first, second⟩ := heads constant mem
  cases name : constant.1 with
  | nil => simp [name] at first
  | cons a name' =>
    rw [name] at first second split
    rcases digit_front found with ⟨c, rest, rfl, isDigit'⟩ | ⟨c, rest, rfl, isDigit'⟩
    · obtain ⟨rfl, -⟩ := List.cons.inj split
      simp [isDigit'] at first
    · obtain ⟨rfl, split⟩ := List.cons.inj split
      cases name' with
      | nil => simp at second
      | cons b name' =>
        obtain ⟨-, more⟩ := List.cons.inj split
        obtain ⟨rfl, -⟩ := List.cons.inj more
        simp [isDigit'] at second

theorem readValue_number {dict list : Reader Value} (found : number t = some parsed) :
    readValue maxDigits dict list t = readNumber maxDigits t := by
  have constant := no_constant found
  have opens : ∀ c, isDigit c = true ∨ c = '-'.toNat →
      c ≠ '"'.toNat ∧ c ≠ '\x7b'.toNat ∧ c ≠ '['.toNat := by
    rintro c (isDigit' | rfl)
    · refine ⟨?_, ?_, ?_⟩ <;> rintro rfl <;> cases isDigit'
    · decide
  have front : ∃ c rest, t = c :: rest ∧ (isDigit c = true ∨ c = '-'.toNat) := by
    rcases digit_front found with ⟨c, rest, rfl, isDigit'⟩ | ⟨c, rest, rfl, -⟩
    · exact ⟨c, rest, rfl, .inl isDigit'⟩
    · exact ⟨_, c :: rest, rfl, .inr rfl⟩
  obtain ⟨c, rest, rfl, begins⟩ := front
  obtain ⟨notQuote, notBrace, notBracket⟩ := opens c begins
  rw [readValue, if_neg notQuote, if_neg notBrace, if_neg notBracket, constant]

/-- What a written value can begin with. -/
structure Begins (t : Text) : Prop where
  cons : ∃ c rest, t = c :: rest ∧ c < 128 ∧ isSpace c = false ∧
    ∀ close ∈ ofString "]\x7d", c ≠ close

theorem begins_number (found : number t = some parsed) : Begins t := by
  have fine : ∀ c, isDigit c = true ∨ c = '-'.toNat →
      c < 128 ∧ isSpace c = false ∧ ∀ close ∈ ofString "]\x7d", c ≠ close := by
    have small : ∀ c < 58, isDigit c = true →
        c < 128 ∧ isSpace c = false ∧ ∀ close ∈ ofString "]\x7d", c ≠ close := by
      decide
    rintro c (isDigit' | rfl)
    · have bound : c ≤ '9'.toNat := of_decide_eq_true (Bool.and_eq_true_iff.mp isDigit').2
      exact small c (Nat.lt_succ_of_le bound) isDigit'
    · decide
  rcases digit_front found with ⟨c, rest, rfl, isDigit'⟩ | ⟨c, rest, rfl, -⟩
  · exact ⟨c, rest, rfl, fine c (.inl isDigit')⟩
  · exact ⟨_, c :: rest, rfl, fine _ (.inr rfl)⟩

theorem begins_dumps {v : Value} (fits : Fits maxDigits depth v) : Begins (dumps v) := by
  cases v with
  | null => exact ⟨_, _, rfl, by decide⟩
  | bool value => cases value <;> exact ⟨_, _, rfl, by decide⟩
  | int n =>
    cases n with
    | ofNat n => exact begins_number (number_decimal n)
    | negSucc n => exact begins_number (number_minus (n + 1))
  | float literal => exact begins_number (by rw [Fits] at fits; exact fits)
  | str s => exact ⟨_, _, rfl, by decide⟩
  | list values => cases values <;> exact ⟨_, _, rfl, by decide⟩
  | dict entries => cases entries <;> exact ⟨_, _, rfl, by decide⟩

theorem Begins.skip_append (begins : Begins t) (rest : Text) : skip (t ++ rest) = t ++ rest := by
  obtain ⟨c, t, rfl, -, notSpace, -⟩ := begins.cons
  rw [skip, List.cons_append, List.dropWhile_cons, notSpace]
  rfl

/-- The separators end a number. -/
theorem stops_cons (separates : c ∈ ofString ",]\x7d") (t : Text) : Stops (c :: t) := by
  have fine : ∀ c ∈ ofString ",]\x7d", isDigit c = false ∧ c ∉ ofString "+-.eE" := by decide
  intro d mem
  cases mem
  exact fine c separates

/-- The text is read as the value, whatever stands behind it. -/
def Reads (read : Reader α) (text : Text) (a : α) : Prop :=
  ∀ rest, Stops rest → read (text ++ rest) = .ok (a, rest)

theorem scanOnce_eq (maxDigits depth : Nat) :
    ∃ dict list, scanOnce maxDigits depth = readValue maxDigits dict list := by
  cases depth with
  | zero => exact ⟨_, _, rfl⟩
  | succ depth => exact ⟨_, _, rfl⟩

/-- The elements behind the first one. -/
def others (write : α → Text) (as : List α) : Text := as.flatMap fun a => ofString ", " ++ write a

/-- There are no more elements than characters. -/
theorem length_others (write : α → Text) (as : List α) : as.length ≤ (others write as).length := by
  induction as with
  | nil => exact Nat.zero_le _
  | cons a as ih =>
    rw [others] at ih ⊢
    rw [List.flatMap_cons, List.length_append, List.length_append, List.length_cons]
    have two : (ofString ", ").length = 2 := rfl
    omega

section containers
variable {read : Reader Value} {key : Text} {v : Value}

/-- What is written one after the other is read so. -/
theorem separated_read {close : Nat} (closes : close ∈ ofString "]\x7d") {read : Reader α}
    {write : α → Text} {as : List α} {first : α}
    (each : ∀ a ∈ first :: as, Begins (write a) ∧ Reads read (write a) a) {n : Nat}
    (enough : as.length < n) (rest : Text) :
    separated close read n (write first ++ (others write as ++ close :: rest)) =
      .ok (first :: as, rest) := by
  have fine : ∀ close ∈ ofString "]\x7d", close ∈ ofString ",]\x7d" ∧ isSpace close = false ∧
      close ≠ ','.toNat := by
    decide
  obtain ⟨ends, notSpace, notComma⟩ := fine close closes
  induction as generalizing first n with
  | nil =>
    obtain ⟨n, rfl⟩ := Nat.exists_eq_succ_of_ne_zero (Nat.ne_of_gt enough)
    have closed : skip (close :: rest) = close :: rest := by
      rw [skip, List.dropWhile_cons, notSpace]; rfl
    have here : read (write first ++ close :: rest) = .ok (first, close :: rest) :=
      (each first List.mem_cons_self).2 _ (stops_cons ends rest)
    rw [others, List.flatMap_nil, List.nil_append, separated, here]
    simp only [bind, Except.bind, closed, if_true]
    rfl
  | cons next as ih =>
    obtain ⟨n, rfl⟩ := Nat.exists_eq_succ_of_ne_zero (Nat.ne_of_gt (Nat.zero_lt_of_lt enough))
    obtain ⟨firstReads, each⟩ := List.forall_mem_cons.mp each
    have behind := ih each (Nat.lt_of_succ_lt_succ enough)
    have text : others write (next :: as) ++ close :: rest =
        ofString ", " ++ (write next ++ (others write as ++ close :: rest)) := by
      simp [others]
    have here := firstReads.2 (ofString ", " ++ (write next ++ (others write as ++ close :: rest)))
      (stops_cons (by decide) _)
    have comma : skip (ofString ", " ++ (write next ++ (others write as ++ close :: rest))) =
        ','.toNat :: ' '.toNat :: (write next ++ (others write as ++ close :: rest)) := rfl
    have space : skip (' '.toNat :: (write next ++ (others write as ++ close :: rest))) =
        write next ++ (others write as ++ close :: rest) :=
          (each next List.mem_cons_self).1.skip_append _
    rw [text, separated, here]
    simp only [bind, Except.bind, comma, if_neg notComma.symm, if_true, space, behind]
    rfl

theorem bracketed_read {close : Nat} (closes : close ∈ ofString "]\x7d") {read : Reader α}
    {write : α → Text} (make : List α → Value) {as : List α} {first : α}
    (each : ∀ a ∈ first :: as, Begins (write a) ∧ Reads read (write a) a) (rest : Text) :
    bracketed close read make (write first ++ (others write as ++ close :: rest)) =
      .ok (make (first :: as), rest) := by
  have enough : as.length < (write first ++ (others write as ++ close :: rest)).length := by
    have fewer := length_others write as
    simp only [List.length_append, List.length_cons]
    omega
  have found := separated_read closes each enough rest
  have begins := (each first List.mem_cons_self).1
  have same := begins.skip_append (others write as ++ close :: rest)
  obtain ⟨c, text, isCons, -, -, notClose⟩ := begins.cons
  rw [bracketed, same]
  rw [isCons, List.cons_append] at found ⊢
  simp only [if_neg (notClose close closes), found]
  rfl

def memberText (entry : Text × Value) : Text :=
  writeString entry.1 ++ (ofString ": " ++ dumps entry.2)

theorem member_entry (scalar : Scalar key) (begins : Begins (dumps v))
    (reads : Reads read (dumps v) v) :
    Reads (member read) (memberText (key, v)) (key, v) := by
  intro rest stops
  have split : memberText (key, v) ++ rest =
      '"'.toNat :: (key.flatMap escape ++ '"'.toNat :: (ofString ": " ++ (dumps v ++ rest))) := by
    simp [memberText, writeString]
  have colon : skip (ofString ": " ++ (dumps v ++ rest)) =
    ':'.toNat :: ' '.toNat :: (dumps v ++ rest) := rfl
  have space : skip (' '.toNat :: (dumps v ++ rest)) = dumps v ++ rest := begins.skip_append rest
  rw [split, member]
  simp only [if_true, readString_writeString scalar, bind, Except.bind, colon, space,
    reads rest stops]
  rfl

theorem begins_member (entry : Text × Value) : Begins (memberText entry) := ⟨_, _, rfl, by decide⟩

end containers

theorem dumpItems_eq (values : List Value) : dumpItems values = others dumps values := by
  induction values with
  | nil => rfl
  | cons value values ih => rw [dumpItems, ih, others, others, List.flatMap_cons]

theorem dumpMembers_eq (entries : Dict) : dumpMembers entries = others memberText entries := by
  induction entries with
  | nil => rfl
  | cons entry entries ih =>
    rw [dumpMembers, ih, others, others, List.flatMap_cons, memberText]
    simp only [List.append_assoc]

theorem setKey_new {dict : Dict} {key : Text} (new : key ∉ dict.map (·.1)) (value : Value) :
    setKey dict key value = dict ++ [(key, value)] := by
  have missing : ¬dict.any (·.1 = key) = true := by simpa using new
  rw [setKey, if_neg missing]

theorem toDict_distinct {entries : Dict} (distinct : (entries.map (·.1)).Nodup) :
    toDict entries = entries := by
  have fill : ∀ dict : Dict, ((dict ++ entries).map (·.1)).Nodup →
      entries.foldl (fun dict member => setKey dict member.1 member.2) dict = dict ++ entries := by
    clear distinct
    induction entries with
    | nil => simp
    | cons entry entries ih =>
      intro dict distinct
      have new : entry.1 ∉ dict.map (·.1) := by
        rw [List.map_append, List.nodup_append] at distinct
        exact fun mem => distinct.2.2 entry.1 mem entry.1 List.mem_cons_self rfl
      rw [List.foldl_cons, setKey_new new, ih _ (by simpa using distinct), List.append_assoc,
        List.singleton_append]
  exact fill [] distinct

mutual

theorem scan_dumps {maxDigits depth : Nat} (v : Value) (fits : Fits maxDigits depth v) :
    Reads (scanOnce maxDigits depth) (dumps v) v := by
  intro rest stops
  obtain ⟨dict, list, isRead⟩ := scanOnce_eq maxDigits depth
  match v, depth with
  | .null, _ => rw [isRead]; rfl
  | .bool true, _ => rw [isRead]; rfl
  | .bool false, _ => rw [isRead]; rfl
  | .int n, _ =>
    have found : ∃ parsed, number (writeInt n ++ rest) = some parsed := by
      rw [number_append stops]
      cases n with
      | ofNat n => exact ⟨_, congrArg (Option.map _) (number_decimal n)⟩
      | negSucc n => exact ⟨_, congrArg (Option.map _) (number_minus (n + 1))⟩
    obtain ⟨parsed, found⟩ := found
    rw [isRead, dumps, readValue_number found,
      readNumber_writeInt stops n (by simpa only [Fits] using fits)]
  | .float literal, _ =>
    have isFloat : number literal = some (.float literal, []) := by
      simpa only [Fits, IsFloat] using fits
    have found : number (literal ++ rest) = some (.float literal, rest) := by
      rw [number_append stops, isFloat]
      rfl
    rw [isRead, dumps, readValue_number found, readNumber, found]
  | .str s, _ =>
    have split : dumps (.str s) ++ rest = '"'.toNat :: (s.flatMap escape ++ '"'.toNat :: rest) := by
      simp [dumps, writeString]
    rw [isRead, split, readValue, if_pos rfl,
      readString_writeString (by simpa only [Fits] using fits)]
    rfl
  | .list _, 0 => exact absurd fits (by simp [Fits])
  | .dict _, 0 => exact absurd fits (by simp [Fits])
  | .list [], depth + 1 => rfl
  | .list (value :: values), depth + 1 =>
    rw [Fits] at fits
    have split : dumps (.list (value :: values)) ++ rest =
        '['.toNat :: (dumps value ++ (others dumps values ++ ']'.toNat :: rest)) := by
      simp [dumps, dumpItems_eq]
    have opened (t : Text) :
      scanOnce maxDigits (depth + 1) ('['.toNat :: t) = readList (scanOnce maxDigits depth) t := rfl
    rw [split, opened]
    exact bracketed_read (by decide) .list (items_dumps (value :: values) fits) rest
  | .dict [], depth + 1 => rfl
  | .dict (entry :: entries), depth + 1 =>
    rw [Fits] at fits
    have split : dumps (.dict (entry :: entries)) ++ rest =
        '\x7b'.toNat :: (memberText entry ++ (others memberText entries ++
            '\x7d'.toNat :: rest)) := by
      simp [dumps, memberText, dumpMembers_eq]
    have opened (t : Text) :
      scanOnce maxDigits (depth + 1) ('\x7b'.toNat :: t) =
        readDict (scanOnce maxDigits depth) t := rfl
    have closes : '\x7d'.toNat ∈ ofString "]\x7d" := by decide
    have read := bracketed_read closes (fun entries => .dict (toDict entries))
      (members_dumps (entry :: entries) fits.2) rest
    rw [split, opened, readDict, read, toDict_distinct fits.1]

theorem items_dumps {maxDigits depth : Nat} (values : List Value)
    (fits : FitItems maxDigits depth values) :
    ∀ v ∈ values, Begins (dumps v) ∧ Reads (scanOnce maxDigits depth) (dumps v) v := by
  match values with
  | [] => exact fun v mem => nomatch mem
  | value :: values =>
    rw [FitItems] at fits
    exact List.forall_mem_cons.mpr ⟨⟨begins_dumps fits.1, scan_dumps value fits.1⟩,
      items_dumps values fits.2⟩

theorem members_dumps {maxDigits depth : Nat} (entries : Dict)
    (fits : FitMembers maxDigits depth entries) :
    ∀ e ∈ entries, Begins (memberText e) ∧ Reads (member (scanOnce maxDigits depth))
      (memberText e) e := by
  match entries with
  | [] => exact fun e mem => nomatch mem
  | (key, value) :: entries =>
    rw [FitMembers] at fits
    obtain ⟨scalar, fitsValue, fitsRest⟩ := fits
    have reads := member_entry scalar (begins_dumps fitsValue) (scan_dumps value fitsValue)
    exact List.forall_mem_cons.mpr ⟨⟨begins_member (key, value), reads⟩,
      members_dumps entries fitsRest⟩

end

/-- What `dumps` writes is read back by `loads`. -/
theorem loads_dumps {limits : Limits} {v : Value} (fits : Fits limits.digits limits.depth v) :
    loads limits (dumps v) = .ok v := by
  have read := scan_dumps v fits [] (by simp [Stops])
  have begins := begins_dumps fits
  have same := begins.skip_append []
  rw [List.append_nil] at read same
  obtain ⟨c, t, front, small, -⟩ := begins.cons
  have noMark : (dumps v).head? ≠ some 0xFEFF := by
    rw [front]
    intro mark
    cases Option.some.inj mark
    omega
  rw [loads, if_neg noMark, same, read]
  rfl

end AgentOE.JsonText
