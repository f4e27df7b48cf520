import Mathlib.Data.List.TakeWhile
import Mathlib.Data.Nat.Digits.Lemmas

/-! JSON text as Python's `json` module writes and reads it with its defaults. A text is the
list of its code points, as an escape can name half of a surrogate pair. Nothing here names
a particular program. -/
namespace AgentOE.JsonText

abbrev Text := List Nat

def ofString (s : String) : Text := s.toList.map Char.toNat

/-- A `float` is kept as the literal that it is read from. -/
inductive Value where
  | null
  | bool (value : Bool)
  | int (value : Int)
  | float (literal : Text)
  | str (value : Text)
  | list (items : List Value)
  | dict (members : List (Text × Value))

abbrev Dict := List (Text × Value)

/-- `JSONDecodeError`, another `ValueError`, and `RecursionError`. -/
inductive Error where
  | decode
  | value
  | recursion
  deriving DecidableEq

/-- What the interpreter allows: the digits that `int` converts (`sys.get_int_max_str_digits`),
and the levels of nesting that are left before a `RecursionError`. -/
structure Limits where
  digits : Nat
  depth : Nat

abbrev Reader (α : Type) := Text → Except Error (α × Text)

def isSpace (c : Nat) : Bool := c ∈ ofString " \t\n\r"

def skip (t : Text) : Text := t.dropWhile isSpace

def isDigit (c : Nat) : Bool := '0'.toNat ≤ c && c ≤ '9'.toNat

/-! ### Numbers -/

/-- A `.` and the digits behind it, or nothing. -/
def fraction (t : Text) : Text × Text :=
  match t with
  | c :: rest =>
    let digits := rest.takeWhile isDigit
    if c = '.'.toNat ∧ digits ≠ [] then (c :: digits, rest.dropWhile isDigit) else ([], t)
  | [] => ([], [])

def sign (allowed : Text) : Text → Text × Text
  | c :: rest => if c ∈ allowed then ([c], rest) else ([], c :: rest)
  | [] => ([], [])

def exponent (t : Text) : Text × Text :=
  match t with
  | c :: rest =>
    let (plusMinus, rest) := sign (ofString "+-") rest
    let digits := rest.takeWhile isDigit
    if c ∈ ofString "eE" ∧ digits ≠ [] then (c :: plusMinus ++ digits, rest.dropWhile isDigit)
    else ([], t)
  | [] => ([], [])

/-- One `0`, or digits that do not begin with it. -/
def whole (t : Text) : Text × Text :=
  match t with
  | c :: rest => if c = '0'.toNat then ([c], rest) else (t.takeWhile isDigit, t.dropWhile isDigit)
  | [] => ([], [])

inductive Number where
  | int (minus digits : Text)
  | float (literal : Text)

/-- The longest number in front of the text. -/
def number (t : Text) : Option (Number × Text) :=
  let (minus, t) := sign (ofString "-") t
  let (digits, t) := whole t
  if digits = [] then none
  else
    let (fraction, t) := fraction t
    let (exponent, t) := exponent t
    if fraction = [] ∧ exponent = [] then some (.int minus digits, t)
    else some (.float (minus ++ digits ++ fraction ++ exponent), t)

def digitsValue (digits : Text) : Nat := digits.foldl (fun n c => 10 * n + (c - '0'.toNat)) 0

def readNumber (maxDigits : Nat) : Reader Value := fun t =>
  match number t with
  | none => .error .decode
  | some (.float literal, rest) => .ok (.float literal, rest)
  | some (.int minus digits, rest) =>
    if maxDigits < digits.length then .error .value
    else if minus = [] then .ok (.int (digitsValue digits), rest)
    else .ok (.int (-digitsValue digits), rest)

/-! ### Strings -/

def hexDigit (c : Nat) : Option Nat :=
  if isDigit c then some (c - '0'.toNat)
  else if 'a'.toNat ≤ c ∧ c ≤ 'f'.toNat then some (c - 'a'.toNat + 10)
  else if 'A'.toNat ≤ c ∧ c ≤ 'F'.toNat then some (c - 'A'.toNat + 10)
  else none

def hex4 (a b c d : Nat) : Option Nat := do
  let a ← hexDigit a
  let b ← hexDigit b
  let c ← hexDigit c
  let d ← hexDigit d
  pure (((a * 16 + b) * 16 + c) * 16 + d)

/-- The escapes of one character, and what they stand for. -/
def escapes : List (Nat × Nat) :=
  [('"'.toNat, '"'.toNat), ('\\'.toNat, '\\'.toNat), ('/'.toNat, '/'.toNat), ('b'.toNat, 8),
    ('f'.toNat, 12), ('n'.toNat, 10), ('r'.toNat, 13), ('t'.toNat, 9)]

/-- A character of a string, and whether it is written as `\uXXXX`. -/
abbrev Piece := Nat × Bool

/-- The characters up to the closing quote. -/
def units : Text → Option (List Piece × Text)
  | [] => none
  | c :: rest =>
    if c = '"'.toNat then some ([], rest)
    else if c < 32 then none
    else if c = '\\'.toNat then
      match rest with
      | 117 :: a :: b :: c :: d :: rest => do
        let u ← hex4 a b c d
        let (us, rest) ← units rest
        pure ((u, true) :: us, rest)
      | e :: rest => do
        let u ← escapes.lookup e
        let (us, rest) ← units rest
        pure ((u, false) :: us, rest)
      | [] => none
    else do
      let (us, rest) ← units rest
      pure ((c, false) :: us, rest)

def isHigh (c : Nat) : Bool := 0xD800 ≤ c && c ≤ 0xDBFF

def isLow (c : Nat) : Bool := 0xDC00 ≤ c && c ≤ 0xDFFF

/-- Two escapes in a row that are the halves of a pair make one character. -/
def joinPairs : List Piece → Text
  | [] => []
  | [u] => [u.1]
  | u :: v :: rest =>
    if u.2 && v.2 && isHigh u.1 && isLow v.1 then
      (0x10000 + (u.1 - 0xD800) * 0x400 + (v.1 - 0xDC00)) :: joinPairs rest
    else u.1 :: joinPairs (v :: rest)

def readString : Reader Text := fun t =>
  match units t with
  | none => .error .decode
  | some (us, rest) => .ok (joinPairs us, rest)

/-! ### Values -/

/-- `dict[key] = value`. -/
def setKey (dict : Dict) (key : Text) (value : Value) : Dict :=
  if dict.any (·.1 = key) then
    dict.map fun member => if member.1 = key then (key, value) else member
  else dict ++ [(key, value)]

def toDict (members : Dict) : Dict :=
  members.foldl (fun dict member => setKey dict member.1 member.2) []

/-- What stands up to a closing character, with commas in between. The number bounds how
much there can be. -/
def separated (close : Nat) (read : Reader α) : Nat → Reader (List α)
  | 0, _ => .error .decode
  | n + 1, t => do
    let (first, t) ← read t
    match skip t with
    | c :: rest =>
      if c = close then pure ([first], rest)
      else if c = ','.toNat then
        let (others, rest) ← separated close read n (skip rest)
        pure (first :: others, rest)
      else .error .decode
    | [] => .error .decode

/-- The text behind an opening bracket, up to the closing one. -/
def bracketed (close : Nat) (read : Reader α) (make : List α → Value) : Reader Value := fun t =>
  match skip t with
  | [] => .error .decode
  | c :: rest =>
    if c = close then .ok (make [], rest)
    else do
      let (found, rest) ← separated close read (c :: rest).length (c :: rest)
      pure (make found, rest)

def readList (read : Reader Value) : Reader Value := bracketed ']'.toNat read .list

/-- A key, a colon and a value. -/
def member (read : Reader Value) : Reader (Text × Value)
  | [] => .error .decode
  | c :: t =>
    if c = '"'.toNat then do
      let (key, t) ← readString t
      match skip t with
      | c :: rest =>
        if c = ':'.toNat then
          let (value, rest) ← read (skip rest)
          pure ((key, value), rest)
        else .error .decode
      | [] => .error .decode
    else .error .decode

def readDict (read : Reader Value) : Reader Value :=
  bracketed '\x7d'.toNat (member read) fun entries => .dict (toDict entries)

/-- The names of constants, and their values. -/
def constants : List (Text × Value) :=
  [(ofString "null", .null), (ofString "true", .bool true), (ofString "false", .bool false),
    (ofString "NaN", .float (ofString "NaN")), (ofString "Infinity", .float (ofString "Infinity")),
    (ofString "-Infinity", .float (ofString "-Infinity"))]

/-- One value, with what is done behind an opening brace or bracket. -/
def readValue (maxDigits : Nat) (dict list : Reader Value) : Reader Value
  | [] => .error .decode
  | c :: rest =>
    if c = '"'.toNat then do
      let (value, rest) ← readString rest
      pure (.str value, rest)
    else if c = '\x7b'.toNat then dict rest
    else if c = '['.toNat then list rest
    else match constants.find? fun constant => constant.1.isPrefixOf (c :: rest) with
      | some (name, value) => .ok (value, (c :: rest).drop name.length)
      | none => readNumber maxDigits (c :: rest)

/-- `scan_once`, with so many levels of nesting left. -/
def scanOnce (maxDigits : Nat) : Nat → Reader Value
  | 0 => readValue maxDigits (fun _ => .error .recursion) (fun _ => .error .recursion)
  | depth + 1 =>
    readValue maxDigits (readDict (scanOnce maxDigits depth)) (readList (scanOnce maxDigits depth))

/-- `json.loads`. -/
def loads (limits : Limits) (t : Text) : Except Error Value :=
  if t.head? = some 0xFEFF then .error .decode
  else do
    let (value, rest) ← scanOnce limits.digits limits.depth (skip t)
    if skip rest = [] then pure value else .error .decode

/-! ### Floats -/

/-- The size of a literal as a fraction. There is none for `NaN` and the infinities. -/
def magnitude (literal : Text) : Option (Nat × Nat) :=
  let (digits, t) := whole (sign (ofString "-") literal).2
  if digits = [] then none
  else
    let (fraction, t) := fraction t
    let (plusMinus, exponent) := sign (ofString "+-") t.tail
    let mantissa := digitsValue (digits ++ fraction.tail)
    let places := 10 ^ fraction.tail.length
    let power := 10 ^ digitsValue (exponent.takeWhile isDigit)
    if plusMinus = ofString "-" then some (mantissa, places * power)
    else some (mantissa * power, places)

/-- `float(literal) == 1`: no double is closer, and a tie goes to the even one. -/
def floatIsOne (literal : Text) : Bool :=
  match magnitude literal with
  | none => false
  | some (n, d) =>
    literal.head? ≠ some '-'.toNat && (2 ^ 54 - 1) * d ≤ 2 ^ 54 * n && 2 ^ 54 * n ≤ (2 ^ 54 + 2) * d

/-- `float(literal) == 0`: half of the smallest double is rounded to zero. -/
def floatIsZero (literal : Text) : Bool :=
  match magnitude literal with
  | none => false
  | some (n, d) => 2 ^ 1075 * n ≤ d

/-! ### Writing -/

def hexChar (n : Nat) : Nat := if n < 10 then '0'.toNat + n else 'a'.toNat + (n - 10)

def unicodeEscape (n : Nat) : Text :=
  ofString "\\u" ++ [hexChar (n / 4096 % 16), hexChar (n / 256 % 16), hexChar (n / 16 % 16),
    hexChar (n % 16)]

/-- The characters that are escaped with one letter. -/
def shortEscapes : List (Nat × Nat) :=
  [('"'.toNat, '"'.toNat), ('\\'.toNat, '\\'.toNat), (8, 'b'.toNat), (12, 'f'.toNat),
    (10, 'n'.toNat), (13, 'r'.toNat), (9, 't'.toNat)]

/-- One character of a string, with `ensure_ascii`. -/
def escape (c : Nat) : Text :=
  match shortEscapes.lookup c with
  | some e => ['\\'.toNat, e]
  | none =>
    if ' '.toNat ≤ c ∧ c ≤ '~'.toNat then [c]
    else if c < 0x10000 then unicodeEscape c
    else unicodeEscape (0xD800 + (c - 0x10000) / 0x400) ++
      unicodeEscape (0xDC00 + (c - 0x10000) % 0x400)

def writeString (s : Text) : Text := '"'.toNat :: s.flatMap escape ++ ['"'.toNat]

def decimal (n : Nat) : Text :=
  if n = 0 then ['0'.toNat] else (Nat.digits 10 n).reverse.map ('0'.toNat + ·)

def writeInt : Int → Text
  | .ofNat n => decimal n
  | .negSucc n => '-'.toNat :: decimal (n + 1)

mutual

/-- `json.dumps`. -/
def dumps : Value → Text
  | .null => ofString "null"
  | .bool true => ofString "true"
  | .bool false => ofString "false"
  | .int n => writeInt n
  | .float literal => literal
  | .str s => writeString s
  | .list [] => ofString "[]"
  | .list (value :: values) => '['.toNat :: dumps value ++ dumpItems values ++ [']'.toNat]
  | .dict [] => ofString "\x7b\x7d"
  | .dict ((key, value) :: entries) =>
    '\x7b'.toNat :: writeString key ++ ofString ": " ++ dumps value ++ dumpMembers entries ++
      ['\x7d'.toNat]

/-- The items behind the first one. -/
def dumpItems : List Value → Text
  | [] => []
  | value :: values => ofString ", " ++ dumps value ++ dumpItems values

def dumpMembers : Dict → Text
  | [] => []
  | (key, value) :: entries =>
    ofString ", " ++ writeString key ++ ofString ": " ++ dumps value ++ dumpMembers entries

end

/-- No half of a surrogate pair. -/
def Scalar (s : Text) : Prop := ∀ c ∈ s, c < 0x110000 ∧ ¬(0xD800 ≤ c ∧ c ≤ 0xDFFF)

def IsFloat (literal : Text) : Prop := number literal = some (.float literal, [])

mutual

/-- The value is written as a text that can be read, with so many levels of nesting. -/
def Fits (maxDigits : Nat) : Nat → Value → Prop
  | _, .null | _, .bool _ => True
  | _, .int n => (decimal n.natAbs).length ≤ maxDigits
  | _, .float literal => IsFloat literal
  | _, .str s => Scalar s
  | 0, .list _ | 0, .dict _ => False
  | depth + 1, .list values => FitItems maxDigits depth values
  | depth + 1, .dict entries => (entries.map (·.1)).Nodup ∧ FitMembers maxDigits depth entries

def FitItems (maxDigits : Nat) : Nat → List Value → Prop
  | _, [] => True
  | depth, value :: values => Fits maxDigits depth value ∧ FitItems maxDigits depth values

def FitMembers (maxDigits : Nat) : Nat → Dict → Prop
  | _, [] => True
  | depth, (key, value) :: entries =>
    Scalar key ∧ Fits maxDigits depth value ∧ FitMembers maxDigits depth entries

end

end AgentOE.JsonText
