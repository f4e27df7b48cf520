import AgentOE.Text
import Mathlib.Algebra.Ring.Int.Defs
import Mathlib.Algebra.Ring.Nat

/-! FreeSWITCH events in `text/event-plain` form. Strings are byte sequences, as
they are on the wire and in the client. -/
namespace AgentOE.Esl
open Text

abbrev Bytes := List UInt8

instance bytesLawful : LawfulBEq Bytes := List.instLawfulBEq

def ascii (s : String) : Bytes := s.toList.map Char.toUInt8

def newline : UInt8 := 10
def carriageReturn : UInt8 := 13

/-- The UTF-8 encodings of the white space that `strings.TrimSpace` removes. -/
def whiteSpace : List Bytes :=
  [[9], [10], [11], [12], [13], [32], [0xC2, 0x85], [0xC2, 0xA0], [0xE1, 0x9A, 0x80],
    [0xE2, 0x80, 0x80], [0xE2, 0x80, 0x81], [0xE2, 0x80, 0x82], [0xE2, 0x80, 0x83],
    [0xE2, 0x80, 0x84], [0xE2, 0x80, 0x85], [0xE2, 0x80, 0x86], [0xE2, 0x80, 0x87],
    [0xE2, 0x80, 0x88], [0xE2, 0x80, 0x89], [0xE2, 0x80, 0x8A], [0xE2, 0x80, 0xA8],
    [0xE2, 0x80, 0xA9], [0xE2, 0x80, 0xAF], [0xE2, 0x81, 0x9F], [0xE3, 0x80, 0x80]]

def trimSpace (s : Bytes) : Bytes := trimTokens whiteSpace s

def isDigit (b : UInt8) : Bool := 48 ≤ b && b ≤ 57

def unhex (b : UInt8) : Option UInt8 :=
  if 48 ≤ b ∧ b ≤ 57 then some (b - 48)
  else if 97 ≤ b ∧ b ≤ 102 then some (b - 97 + 10)
  else if 65 ≤ b ∧ b ≤ 70 then some (b - 65 + 10)
  else none

/-- `none` for a `%` without two hexadecimal digits. -/
def queryUnescape : Bytes → Option Bytes
  | [] => some []
  | b :: s =>
    if b = 37 then
      match s with
      | high :: low :: rest =>
        (unhex high).bind fun h => (unhex low).bind fun l =>
          (queryUnescape rest).map ((h * 16 + l) :: ·)
      | _ => none
    else (queryUnescape s).map ((if b = 43 then 32 else b) :: ·)

/-- The newest assignment of a header stands first. -/
structure Event where
  headers : List (Bytes × Bytes)
  body : Bytes
  deriving DecidableEq

namespace Event

def get (event : Event) (key : Bytes) : Bytes :=
  let value := (event.headers.lookup key).getD []
  (queryUnescape value).getD value

def name (event : Event) : Bytes := event.get (ascii "Event-Name")

def uuid (event : Event) : Bytes := event.get (ascii "Unique-ID")

end Event

/-- One header line, after trimming; a line without `": "` assigns nothing. -/
def parseHeader (headers : List (Bytes × Bytes)) (line : Bytes) : List (Bytes × Bytes) :=
  match cut (ascii ": ") (trimSpace line) with
  | some (key, value) => (key, value) :: headers
  | none => headers

def parseEvent (data : Bytes) : Event :=
  let parts := (cut [newline, newline] data).getD (data, [])
  ⟨(parts.1.splitOn newline).foldl parseHeader [], parts.2⟩

theorem get_of_absent {event : Event} {key : Bytes} (absent : event.headers.lookup key = none) :
    event.get key = [] := by
  simp [Event.get, absent, queryUnescape]

/-- A header line of printable text assigns its value to its key. -/
theorem parseHeader_field {headers : List (Bytes × Bytes)} {key value : Bytes}
    (trimmed : trimSpace (key ++ ascii ": " ++ value) = key ++ ascii ": " ++ value)
    (plain : 58 ∉ key) :
    parseHeader headers (key ++ ascii ": " ++ value) = (key, value) :: headers := by
  have first : cut (ascii ": ") (key ++ ascii ": " ++ value) = some (key, value) := by
    clear trimmed
    induction key with
    | nil => rfl
    | cons b key ih =>
      obtain ⟨other, plain⟩ := not_or.mp (List.mem_cons.not.mp plain)
      have colon : ascii ": " = [58, 32] := rfl
      have apart : ¬(ascii ": ").isPrefixOf (b :: (key ++ ascii ": " ++ value)) := by
        simp [colon, other]
      rw [List.cons_append, List.cons_append, cut, if_neg apart, ih plain]
      rfl
  rw [parseHeader, trimmed, first]

/-- The source's own tests parse a flat event. -/
example : (parseEvent (ascii "Event-Name: DTMF\nUnique-ID: a%2Db\n\n")).uuid = ascii "a-b" := by
  decide +kernel

end AgentOE.Esl
