import AgentOE.JsonRoundTrip

/-! What a reader leaves of a text, so that its loops do not run out, and what the limits of the
interpreter change: a text has one value or none, and one that is short is not refused. -/
namespace AgentOE.JsonText

/-! ### A reader leaves less than it was given -/

/-- So the number that bounds a loop is never reached. -/
def Shrinks (read : Reader α) : Prop :=
  ∀ t found rest, read t = .ok (found, rest) → rest.length < t.length

variable {t rest : Text} {c n maxDigits depth : Nat} {read : Reader Value}

theorem skip_length (t : Text) : (skip t).length ≤ t.length := (List.dropWhile_sublist _).length_le

theorem sign_length (allowed t : Text) : (sign allowed t).2.length ≤ t.length := by
  cases t with
  | nil => exact Nat.le_refl 0
  | cons c t =>
    rw [sign]
    split
    · exact Nat.le_succ _
    · exact Nat.le_refl _

theorem whole_length (nonempty : (whole t).1 ≠ []) : (whole t).2.length < t.length := by
  cases t with
  | nil => exact absurd rfl nonempty
  | cons c t =>
    rw [whole] at nonempty ⊢
    split
    · exact Nat.lt_succ_self _
    · rename_i notZero
      rw [if_neg notZero] at nonempty
      have lengths := congrArg List.length (List.takeWhile_append_dropWhile (p := isDigit)
        (l := c :: t))
      have positive : 0 < ((c :: t).takeWhile isDigit).length := List.length_pos_iff.mpr nonempty
      rw [List.length_append] at lengths
      change ((c :: t).dropWhile isDigit).length < (c :: t).length
      omega

theorem fraction_length (t : Text) : (fraction t).2.length ≤ t.length := by
  cases t with
  | nil => exact Nat.le_refl 0
  | cons c t =>
    rw [fraction]
    split
    · exact Nat.le_succ_of_le (List.dropWhile_sublist _).length_le
    · exact Nat.le_refl _

theorem exponent_length (t : Text) : (exponent t).2.length ≤ t.length := by
  cases t with
  | nil => exact Nat.le_refl 0
  | cons c t =>
    have signed := sign_length (ofString "+-") t
    simp only [exponent]
    split
    · exact Nat.le_succ_of_le ((List.dropWhile_sublist _).length_le.trans signed)
    · exact Nat.le_refl _

theorem number_length {found : Number} (read : number t = some (found, rest)) :
    rest.length < t.length := by
  have signed := sign_length (ofString "-") t
  simp only [number] at read
  split at read
  · cases read
  · rename_i nonempty
    have digits := whole_length nonempty
    have fractions := fraction_length (whole (sign (ofString "-") t).2).2
    have exponents := exponent_length (fraction (whole (sign (ofString "-") t).2).2).2
    split at read <;> cases read <;> omega

theorem readNumber_shrinks (maxDigits : Nat) : Shrinks (readNumber maxDigits) := by
  intro t found rest read
  unfold readNumber at read
  split at read
  · cases read
  · rename_i found
    cases read
    exact number_length found
  · rename_i found
    have shorter := number_length found
    split at read
    · cases read
    · split at read <;> cases read <;> exact shorter

theorem units_length {us : List Piece} (found : units t = some (us, rest)) :
    rest.length < t.length := by
  have more (piece : Option Nat) (escaped : Bool) {t : Text} {us : List Piece}
      (found : (piece.bind fun u => (units t).bind fun read =>
        some ((u, escaped) :: read.1, read.2)) =
        some (us, rest)) : ∃ us, units t = some (us, rest) := by
    obtain ⟨u, -, found⟩ := Option.bind_eq_some_iff.mp found
    obtain ⟨⟨us, rest⟩, read, same⟩ := Option.bind_eq_some_iff.mp found
    cases same
    exact ⟨us, read⟩
  induction t using units.induct generalizing us with
  | case1 => cases found
  | case2 t =>
    rw [units.eq_def] at found
    cases found
    exact Nat.lt_succ_self _
  | case3 c t notQuote control =>
    rw [units.eq_def] at found
    simp only [if_neg notQuote, if_pos control] at found
    cases found
  | case4 a b c d t _ _ ih =>
    rw [units.eq_def] at found
    obtain ⟨us, read⟩ := more _ _ found
    have shorter := ih read
    simp only [List.length_cons]
    omega
  | case5 e t plain _ _ ih =>
    rw [units] at found
    · obtain ⟨us, read⟩ := more _ _ found
      have shorter := ih read
      simp only [List.length_cons]
      omega
    · exact plain
  | case6 =>
    rw [units.eq_def] at found
    cases found
  | case7 c t notQuote notControl notBackslash ih =>
    rw [units.eq_def] at found
    simp only [if_neg notQuote, if_neg notControl, if_neg notBackslash] at found
    obtain ⟨us, read⟩ := more (some c) _ found
    have shorter := ih read
    simp only [List.length_cons]
    omega

theorem readString_shrinks : Shrinks readString := by
  intro t found rest read
  unfold readString at read
  split at read
  · cases read
  · rename_i found
    cases read
    exact units_length found

/-- What is read before the rest of a computation that succeeds. -/
theorem bind_eq_ok {found : Except Error α} {next : α → Except Error β} {b : β}
    (ok : found >>= next = .ok b) : ∃ a, found = .ok a ∧ next a = .ok b := by
  cases found with
  | error e => cases ok
  | ok a => exact ⟨a, rfl, ok⟩

theorem separated_shrinks {close : Nat} {read : Reader α} (shrinks : Shrinks read) (n : Nat) :
    Shrinks (separated close read n) := by
  induction n with
  | zero =>
    intro t found rest none
    cases none
  | succ n ih =>
    intro t found rest some
    obtain ⟨⟨a, behind⟩, first, some⟩ := bind_eq_ok some
    have shorter := shrinks t a behind first
    have skipped := skip_length behind
    simp only at some
    split at some
    · rename_i c tail isTail
      rw [isTail, List.length_cons] at skipped
      split at some
      · cases some
        omega
      · split at some
        · obtain ⟨⟨others, last⟩, loop, same⟩ := bind_eq_ok some
          cases same
          have remaining : last.length < (skip tail).length := ih _ _ _ loop
          have spaces := skip_length tail
          change last.length < t.length
          omega
        · cases some
    · cases some

theorem bracketed_shrinks {close : Nat} {read : Reader α} (shrinks : Shrinks read)
    (make : List α → Value) : Shrinks (bracketed close read make) := by
  intro t found rest some
  have skipped := skip_length t
  unfold bracketed at some
  split at some
  · cases some
  · rename_i c tail isTail
    rw [isTail, List.length_cons] at skipped
    split at some
    · cases some
      omega
    · obtain ⟨⟨items, last⟩, loop, same⟩ := bind_eq_ok some
      have remaining : last.length < (c :: tail).length := separated_shrinks shrinks _ _ _ _ loop
      have isLast : last = rest := congrArg Prod.snd (Except.ok.inj same)
      rw [isLast, List.length_cons] at remaining
      omega

theorem member_shrinks (shrinks : Shrinks read) : Shrinks (member read) := by
  intro t found rest some
  unfold member at some
  split at some
  · cases some
  · rename_i c tail
    split at some
    · obtain ⟨⟨key, behind⟩, first, some⟩ := bind_eq_ok some
      have shorter : behind.length < tail.length := readString_shrinks _ _ _ first
      have skipped := skip_length behind
      simp only at some
      split at some
      · rename_i d more isMore
        rw [isMore, List.length_cons] at skipped
        split at some
        · obtain ⟨⟨value, last⟩, second, same⟩ := bind_eq_ok some
          have remaining : last.length < (skip more).length := shrinks _ _ _ second
          have spaces := skip_length more
          have isLast : last = rest := congrArg Prod.snd (Except.ok.inj same)
          rw [isLast] at remaining
          rw [List.length_cons]
          omega
        · cases some
      · cases some
    · cases some

/-- No constant has an empty name. -/
theorem constant_length {name : Text} {value : Value} (isConstant : (name, value) ∈ constants) :
    0 < name.length := by
  simp only [constants, List.mem_cons, List.not_mem_nil, or_false, Prod.mk.injEq] at isConstant
  rcases isConstant with same | same | same | same | same | same <;> rw [same.1] <;> decide

theorem readValue_shrinks {dict list : Reader Value} (dictShrinks : Shrinks dict)
    (listShrinks : Shrinks list) : Shrinks (readValue maxDigits dict list) := by
  intro t found rest some
  cases t with
  | nil => cases some
  | cons c t =>
    rw [readValue] at some
    rw [List.length_cons]
    split at some
    · obtain ⟨⟨value, last⟩, first, same⟩ := bind_eq_ok some
      have remaining : last.length < t.length := readString_shrinks _ _ _ first
      have isLast : last = rest := congrArg Prod.snd (Except.ok.inj same)
      rw [isLast] at remaining
      exact Nat.lt_succ_of_lt remaining
    · split at some
      · exact Nat.lt_succ_of_lt (dictShrinks _ _ _ some)
      · split at some
        · exact Nat.lt_succ_of_lt (listShrinks _ _ _ some)
        · split at some
          · rename_i name value isConstant
            cases some
            have positive := constant_length (List.mem_of_find?_eq_some isConstant)
            rw [List.length_drop, List.length_cons]
            omega
          · exact readNumber_shrinks maxDigits _ _ _ some

theorem scanOnce_shrinks (maxDigits depth : Nat) : Shrinks (scanOnce maxDigits depth) := by
  have refuses : Shrinks fun _ => (.error .recursion : Except Error (Value × Text)) := by
    intro t found rest none
    cases none
  induction depth with
  | zero => exact readValue_shrinks refuses refuses
  | succ depth ih =>
    exact readValue_shrinks (bracketed_shrinks (member_shrinks ih) _) (bracketed_shrinks ih _)

/-! ### What is refused for its size -/

/-- The reader does not fail so on texts of at most so many characters. -/
def Avoids (e : Error) (limit : Nat) (read : Text → Except Error α) : Prop :=
  ∀ t, t.length ≤ limit → read t ≠ .error e

theorem Avoids.mono {e : Error} {small large : Nat} {read : Text → Except Error α}
    (avoids : Avoids e large read) (smaller : small ≤ large) :
    Avoids e small read := fun t short => avoids t (short.trans smaller)

theorem bind_ne_error {e : Error} {found : Except Error α} {next : α → Except Error β}
    (here : found ≠ .error e) (later : ∀ a, found = .ok a → next a ≠ .error e) :
    found >>= next ≠ .error e := by
  cases found with
  | error other => exact fun same => here (congrArg Except.error (Except.error.inj same))
  | ok a => exact later a rfl

theorem whole_digits (t : Text) : (whole t).1.length ≤ t.length := by
  cases t with
  | nil => exact Nat.le_refl 0
  | cons c t =>
    rw [whole]
    split
    · simp
    · exact (List.takeWhile_sublist _).length_le

theorem number_digits {minus digits : Text} (found : number t = some (.int minus digits, rest)) :
    digits.length ≤ t.length := by
  have signed := sign_length (ofString "-") t
  have enough := whole_digits (sign (ofString "-") t).2
  simp only [number] at found
  split at found
  · cases found
  · split at found
    · cases found
      exact enough.trans signed
    · cases found

theorem readNumber_value (maxDigits : Nat) : Avoids .value maxDigits (readNumber maxDigits) := by
  intro t short
  unfold readNumber
  split
  · exact fun same => nomatch same
  · exact fun same => nomatch same
  · rename_i found
    have few := (number_digits found).trans short
    rw [if_neg (Nat.not_lt.mpr few)]
    split <;> exact fun same => nomatch same

theorem readNumber_recursion (t : Text) : readNumber maxDigits t ≠ .error .recursion := by
  unfold readNumber
  split
  · exact fun same => nomatch same
  · exact fun same => nomatch same
  · split
    · exact fun same => nomatch same
    · split <;> exact fun same => nomatch same

section avoids
variable {e : Error} {limit : Nat} (notDecode : e ≠ .decode)
include notDecode

theorem decode_ne : (.error .decode : Except Error α) ≠ .error e :=
  fun same => notDecode (Except.error.inj same).symm

theorem readString_ne (t : Text) : readString t ≠ .error e := by
  unfold readString
  split
  · exact decode_ne notDecode
  · exact fun same => nomatch same

theorem separated_avoids {close : Nat} {read : Reader α} (shrinks : Shrinks read)
    (avoids : Avoids e limit read) (n : Nat) : Avoids e limit (separated close read n) := by
  induction n with
  | zero => exact fun t _ => decode_ne notDecode
  | succ n ih =>
    intro t short
    refine bind_ne_error (avoids t short) fun ⟨first, behind⟩ here => ?_
    have shorter := shrinks t first behind here
    have skipped := skip_length behind
    simp only
    split
    · rename_i c tail isTail
      rw [isTail, List.length_cons] at skipped
      have spaces := skip_length tail
      split
      · exact fun same => nomatch same
      · split
        · exact bind_ne_error (ih _ (by omega)) fun _ _ same => nomatch same
        · exact decode_ne notDecode
    · exact decode_ne notDecode

theorem bracketed_avoids {close : Nat} {read : Reader α} (shrinks : Shrinks read)
    (avoids : Avoids e limit read) (make : List α → Value) :
    Avoids e limit (bracketed close read make) := by
  intro t short
  have skipped := skip_length t
  unfold bracketed
  split
  · exact decode_ne notDecode
  · rename_i c tail isTail
    rw [isTail] at skipped
    split
    · intro same
      cases same
    · refine bind_ne_error (separated_avoids notDecode shrinks avoids _ _ (skipped.trans short)) ?_
      intro _ _ same
      cases same

theorem member_avoids (avoids : Avoids e limit read) : Avoids e limit (member read) := by
  intro t short
  unfold member
  split
  · exact decode_ne notDecode
  · rename_i c tail
    rw [List.length_cons] at short
    split
    · refine bind_ne_error (readString_ne notDecode tail) fun found here => ?_
      obtain ⟨key, behind⟩ := found
      have shorter : behind.length < tail.length := readString_shrinks _ _ _ here
      have skipped := skip_length behind
      simp only
      split
      · rename_i d more isMore
        rw [isMore, List.length_cons] at skipped
        have spaces := skip_length more
        split
        · refine bind_ne_error (avoids _ (by omega)) ?_
          intro _ _ same
          cases same
        · exact decode_ne notDecode
      · exact decode_ne notDecode
    · exact decode_ne notDecode

theorem readList_avoids (shrinks : Shrinks read) (avoids : Avoids e limit read) :
    Avoids e limit (readList read) := bracketed_avoids notDecode shrinks avoids _

theorem readDict_avoids (shrinks : Shrinks read) (avoids : Avoids e limit read) :
    Avoids e limit (readDict read) :=
  bracketed_avoids notDecode (member_shrinks shrinks) (member_avoids notDecode avoids) _

/-- What stands behind a bracket is shorter by one character. -/
theorem readValue_avoids {dict list : Reader Value} (dictAvoids : Avoids e (limit - 1) dict)
    (listAvoids : Avoids e (limit - 1) list) (numbers : Avoids e limit (readNumber maxDigits)) :
    Avoids e limit (readValue maxDigits dict list) := by
  intro t short
  cases t with
  | nil => exact decode_ne notDecode
  | cons c t =>
    have behind : t.length ≤ limit - 1 := Nat.le_sub_one_of_lt short
    rw [readValue]
    split
    · exact bind_ne_error (readString_ne notDecode t) fun _ _ same => nomatch same
    · split
      · exact dictAvoids t behind
      · split
        · exact listAvoids t behind
        · split
          · exact fun same => nomatch same
          · exact numbers (c :: t) short

end avoids

theorem scanOnce_value (maxDigits depth : Nat) :
    Avoids .value maxDigits (scanOnce maxDigits depth) := by
  have notDecode : Error.value ≠ .decode := nofun
  have fewer : maxDigits - 1 ≤ maxDigits := Nat.sub_le _ _
  induction depth with
  | zero =>
    exact readValue_avoids notDecode (fun t _ same => nomatch same) (fun t _ same => nomatch same)
      (readNumber_value maxDigits)
  | succ depth ih =>
    have shrinks := scanOnce_shrinks maxDigits depth
    exact readValue_avoids notDecode (readDict_avoids notDecode shrinks (ih.mono fewer))
      (readList_avoids notDecode shrinks (ih.mono fewer)) (readNumber_value maxDigits)

/-- Every level of nesting takes a character. -/
theorem scanOnce_recursion (maxDigits depth : Nat) :
    Avoids .recursion depth (scanOnce maxDigits depth) := by
  have notDecode : Error.recursion ≠ .decode := nofun
  induction depth with
  | zero =>
    intro t short
    rw [List.eq_nil_of_length_eq_zero (Nat.le_zero.mp short)]
    exact fun same => nomatch same
  | succ depth ih =>
    have shrinks := scanOnce_shrinks maxDigits depth
    exact readValue_avoids notDecode (readDict_avoids notDecode shrinks ih)
      (readList_avoids notDecode shrinks ih)
      fun t _ => readNumber_recursion t

/-- A text is refused for its size only if it is longer than the limits. -/
theorem loads_avoids {limits : Limits} {e : Error} {limit : Nat} (notDecode : e ≠ .decode)
    (avoids : Avoids e limit (scanOnce limits.digits limits.depth)) :
    Avoids e limit (loads limits) := by
  intro t short
  unfold loads
  split
  · exact decode_ne notDecode
  · refine bind_ne_error (avoids _ ((skip_length t).trans short)) fun ⟨value, rest⟩ _ => ?_
    simp only
    split
    · exact fun same => nomatch same
    · exact decode_ne notDecode

theorem loads_value (limits : Limits) : Avoids .value limits.digits (loads limits) :=
  loads_avoids (by decide) (scanOnce_value limits.digits limits.depth)

theorem loads_recursion (limits : Limits) : Avoids .recursion limits.depth (loads limits) :=
  loads_avoids (by decide) (scanOnce_recursion limits.digits limits.depth)

/-! ### Wider limits -/

/-- What the one accepts the other accepts, with the same result. -/
def Extends (more less : Text → Except Error α) : Prop := ∀ t a, less t = .ok a → more t = .ok a

theorem bind_ok_of {found found' : Except Error α} {next next' : α → Except Error β} {b : β}
    (ok : found >>= next = .ok b) (same : ∀ a, found = .ok a → found' = .ok a)
    (onward : ∀ a, next a = .ok b → next' a = .ok b) : found' >>= next' = .ok b := by
  obtain ⟨a, here, later⟩ := bind_eq_ok ok
  rw [same a here]
  exact onward a later

section wider
variable {more : Reader Value} {maxDigits' : Nat}

theorem readNumber_extends (le : maxDigits ≤ maxDigits') :
    Extends (readNumber maxDigits') (readNumber maxDigits) := by
  intro t found ok
  unfold readNumber at ok ⊢
  split at ok
  · cases ok
  · rename_i isNumber
    exact ok
  · split at ok
    · cases ok
    · rename_i few
      rw [if_neg (by omega)]
      exact ok

theorem separated_extends {close : Nat} {more less : Reader α} (wide : Extends more less)
    (n : Nat) : Extends (separated close more n) (separated close less n) := by
  induction n with
  | zero => exact fun t found ok => ok
  | succ n ih =>
    intro t found ok
    refine bind_ok_of ok (wide t) fun ⟨first, behind⟩ ok => ?_
    simp only at ok ⊢
    split
    · rename_i c tail isTail
      rw [isTail] at ok
      simp only at ok
      split at ok
      · rename_i closes
        rw [if_pos closes]
        exact ok
      · rename_i goesOn
        rw [if_neg goesOn]
        split at ok
        · rename_i isComma
          rw [if_pos isComma]
          exact bind_ok_of ok (ih _) fun _ ok => ok
        · cases ok
    · rename_i isTail
      rw [isTail] at ok
      cases ok

theorem bracketed_extends {close : Nat} {more less : Reader α} (wide : Extends more less)
    (make : List α → Value) : Extends (bracketed close more make) (bracketed close less make) := by
  intro t found ok
  unfold bracketed at ok ⊢
  split at ok
  · cases ok
  · split at ok
    · rename_i closes
      rw [if_pos closes]
      exact ok
    · rename_i goesOn
      rw [if_neg goesOn]
      exact bind_ok_of ok (separated_extends wide _ _) fun _ ok => ok

theorem member_extends (wide : Extends more read) : Extends (member more) (member read) := by
  intro t found ok
  unfold member at ok ⊢
  split at ok
  · cases ok
  · split at ok
    · rename_i isQuote
      rw [if_pos isQuote]
      refine bind_ok_of ok (fun _ ok => ok) fun found ok => ?_
      obtain ⟨key, behind⟩ := found
      simp only at ok ⊢
      split
      · rename_i d tail isTail
        rw [isTail] at ok
        simp only at ok
        split at ok
        · rename_i isColon
          rw [if_pos isColon]
          exact bind_ok_of ok (wide _) fun _ ok => ok
        · cases ok
      · rename_i isTail
        rw [isTail] at ok
        cases ok
    · cases ok

theorem readValue_extends {dict list dict' list' : Reader Value} (le : maxDigits ≤ maxDigits')
    (dicts : Extends dict' dict) (lists : Extends list' list) :
    Extends (readValue maxDigits' dict' list') (readValue maxDigits dict list) := by
  intro t found ok
  cases t with
  | nil => cases ok
  | cons c t =>
    rw [readValue] at ok ⊢
    split
    · rename_i isQuote
      rwa [if_pos isQuote] at ok
    · rename_i notQuote
      rw [if_neg notQuote] at ok
      split
      · rename_i isBrace
        rw [if_pos isBrace] at ok
        exact dicts t found ok
      · rename_i notBrace
        rw [if_neg notBrace] at ok
        split
        · rename_i isBracket
          rw [if_pos isBracket] at ok
          exact lists t found ok
        · rename_i notBracket
          rw [if_neg notBracket] at ok
          split at ok
          · exact ok
          · exact readNumber_extends le _ _ ok

theorem scanOnce_extends {depth' : Nat} (le : maxDigits ≤ maxDigits') (deeper : depth ≤ depth') :
    Extends (scanOnce maxDigits' depth') (scanOnce maxDigits depth) := by
  have refuses (wide : Reader Value) : Extends wide fun _ =>
      (.error .recursion : Except Error (Value × Text)) := by
    intro t found none
    cases none
  induction depth generalizing depth' with
  | zero =>
    obtain ⟨dict, list, isRead⟩ := scanOnce_eq maxDigits' depth'
    rw [isRead]
    exact readValue_extends le (refuses dict) (refuses list)
  | succ depth ih =>
    obtain ⟨depth', rfl⟩ := Nat.exists_eq_succ_of_ne_zero (Nat.ne_of_gt (Nat.zero_lt_of_lt deeper))
    have inner := ih (Nat.le_of_succ_le_succ deeper)
    exact readValue_extends le (bracketed_extends (member_extends inner) _)
      (bracketed_extends inner _)

end wider

theorem loads_extends {less more : Limits} (digits : less.digits ≤ more.digits)
    (depth : less.depth ≤ more.depth) :
    Extends (loads more) (loads less) := by
  intro t found ok
  unfold loads at ok ⊢
  split
  · rename_i mark
    rwa [if_pos mark] at ok
  · rename_i noMark
    rw [if_neg noMark] at ok
    exact bind_ok_of ok (scanOnce_extends digits depth _) fun _ ok => ok

/-- The limits decide whether a text is read, not what is read. -/
theorem loads_unique {one other : Limits} {v w : Value} (first : loads one t = .ok v)
    (second : loads other t = .ok w) : v = w := by
  let both : Limits := ⟨max one.digits other.digits, max one.depth other.depth⟩
  have byOne : loads both t = .ok v :=
    loads_extends (Nat.le_max_left _ _) (Nat.le_max_left _ _) t v first
  have byOther : loads both t = .ok w :=
    loads_extends (Nat.le_max_right _ _) (Nat.le_max_right _ _) t w second
  exact Except.ok.inj (byOne.symm.trans byOther)

theorem skip_replicate (notSpace : isSpace c = false) (n : Nat) :
    skip (List.replicate n c) = List.replicate n c := by
  cases n with
  | zero => rfl
  | succ n => rw [skip, List.replicate_succ, List.dropWhile_cons, notSpace]; rfl

theorem number_nines (n : Nat) :
    number (List.replicate (n + 1) '9'.toNat) =
      some (.int [] (List.replicate (n + 1) '9'.toNat), []) := by
  have digits : ∀ c ∈ List.replicate (n + 1) '9'.toNat, isDigit c = true := by
    intro c mem
    rw [List.eq_of_mem_replicate mem]
    rfl
  have taken := List.takeWhile_eq_self_iff.mpr digits
  have left := List.dropWhile_eq_nil_iff.mpr digits
  rw [List.replicate_succ] at taken left ⊢
  have wholly : whole ('9'.toNat :: List.replicate n '9'.toNat) =
      ('9'.toNat :: List.replicate n '9'.toNat, []) := by
    rw [whole, if_neg (by decide), taken, left]
  have unsigned : sign (ofString "-") ('9'.toNat :: List.replicate n '9'.toNat) =
    ([], '9'.toNat :: List.replicate n '9'.toNat) := rfl
  simp only [number, unsigned, wholly]
  rfl

/-- An integer, or more digits than `int` converts. -/
theorem loads_nines (limits : Limits) (n : Nat) : loads limits (List.replicate (n + 1) '9'.toNat) =
    if limits.digits < n + 1 then .error .value
    else .ok (.int (digitsValue (List.replicate (n + 1) '9'.toNat))) := by
  obtain ⟨dict, list, isRead⟩ := scanOnce_eq limits.digits limits.depth
  have noMark : (List.replicate (n + 1) '9'.toNat).head? ≠ some 0xFEFF := by
    rw [List.replicate_succ, List.head?_cons]
    decide
  rw [loads, if_neg noMark, skip_replicate rfl, isRead, readValue_number (number_nines n),
    readNumber, number_nines]
  simp only [List.length_replicate]
  split
  · rfl
  · rfl

theorem scanOnce_brackets (maxDigits depth n : Nat) :
    scanOnce maxDigits depth (List.replicate (n + 1) '['.toNat) =
    .error (if depth ≤ n then .recursion else .decode) := by
  induction n generalizing depth with
  | zero => cases depth <;> rfl
  | succ n ih =>
    cases depth with
    | zero => rfl
    | succ depth =>
      have opened : scanOnce maxDigits (depth + 1) (List.replicate (n + 2) '['.toNat) =
        readList (scanOnce maxDigits depth) (List.replicate (n + 1) '['.toNat) := rfl
      have same : skip (List.replicate (n + 1) '['.toNat) =
          '['.toNat :: List.replicate n '['.toNat :=
        skip_replicate rfl (n + 1)
      have inner := ih depth
      rw [List.replicate_succ] at inner
      rw [opened, readList, bracketed, same]
      simp only [List.length_cons, separated, inner, Nat.add_le_add_iff_right]
      rfl

/-- One bracket more than the levels that are left, or a list that is not closed. -/
theorem loads_brackets (limits : Limits) (n : Nat) :
    loads limits (List.replicate (n + 1) '['.toNat) =
    .error (if limits.depth ≤ n then .recursion else .decode) := by
  have noMark : (List.replicate (n + 1) '['.toNat).head? ≠ some 0xFEFF := by
    rw [List.replicate_succ, List.head?_cons]
    decide
  rw [loads, if_neg noMark, skip_replicate rfl, scanOnce_brackets]
  rfl

end AgentOE.JsonText
