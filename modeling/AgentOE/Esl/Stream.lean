import Mathlib.Data.List.DropRight
import AgentOE.Esl.Event

/-! What the client does with the byte stream of one connection: `readEventData`
cuts it into frames and `eventLoop` routes each frame. -/
namespace AgentOE.Esl
open Text

inductive ReadError where
  | eof
  | shortBody (contentLength : Int)
  deriving DecidableEq

/-- The loop that reads header lines up to a blank one. `headers` is the text
collected so far. -/
def readHeaders (headers input : Bytes) : Option (Bytes × Bytes) :=
  match _ : readUntil newline input with
  | none => none
  | some (raw, rest) =>
    let line := raw.rdropWhile fun b => b = carriageReturn ∨ b = newline
    if line = [] then some (headers, rest)
    else readHeaders (headers ++ line ++ [newline]) rest
termination_by input.length
decreasing_by exact readUntil_shorter ‹_›

def scanSign : Bytes → Int × Bytes
  | [] => (1, [])
  | b :: s => if b = 43 then (1, s) else if b = 45 then (-1, s) else (1, b :: s)

/-- What `%d` reads from the text after `Content-Length:`. A failed scan leaves
the variable as it was. -/
def scanLength (text : Bytes) : Option Int :=
  let (sign, unsigned) := scanSign (dropTokens whiteSpace text)
  let digits := unsigned.takeWhile isDigit
  let value := sign * (digits.foldl (fun n b => 10 * n + (b.toNat - 48)) 0 : Nat)
  if digits ≠ [] ∧ -2 ^ 63 ≤ value ∧ value < 2 ^ 63 then some value else none

def contentLengthField : Bytes := ascii "Content-Length: "

def scanHeader (length : Int) (line : Bytes) : Int :=
  if contentLengthField.isPrefixOf line then
    (scanLength (line.drop contentLengthField.length)).getD length
  else length

def contentLength (headers : Bytes) : Int := (headers.splitOn newline).foldl scanHeader 0

/-- One frame and the unread rest of the stream. -/
def readEventData (input : Bytes) : Except ReadError (Bytes × Bytes) :=
  match readHeaders [] input with
  | none => .error .eof
  | some (headers, rest) =>
    if headers = [] then .ok ([], rest)
    else
      let length := contentLength headers
      if 0 < length then
        if rest.length < length then .error (.shortBody length)
        else .ok (headers ++ newline :: rest.take length.toNat, rest.drop length.toNat)
      else .ok (headers, rest)

/-- What one frame leads to: a string offered to `apiRespCh`, or a call of the
event handler. -/
inductive Output where
  | reply (body : Bytes)
  | handled (event : Event)
  deriving DecidableEq

def apiResponseType : Bytes := ascii "Content-Type: api/response"
def commandReplyType : Bytes := ascii "Content-Type: command/reply"

def route (data : Bytes) : Option Output :=
  if data = [] then none
  else if contains apiResponseType data ∨ contains commandReplyType data then
    some (.reply ((cut [newline, newline] data).elim [] Prod.snd))
  else
    let event := parseEvent data
    if event.name ≠ [] then some (.handled event) else none

theorem readHeaders_eof (read : readUntil newline input = none) :
    readHeaders headers input = none := by
  rw [readHeaders]
  split
  · rfl
  · rename_i found
    rw [read] at found
    cases found

theorem readHeaders_line (read : readUntil newline input = some (raw, rest)) :
    readHeaders headers input =
      let line := raw.rdropWhile fun b => b = carriageReturn ∨ b = newline
      if line = [] then some (headers, rest)
      else readHeaders (headers ++ line ++ [newline]) rest := by
  rw [readHeaders]
  split
  · rename_i found
    rw [read] at found
    cases found
  · rename_i found
    rw [read] at found
    cases found
    rfl

theorem readHeaders_shorter (read : readHeaders headers input = some (out, rest)) :
    rest.length < input.length := by
  induction headers, input using readHeaders.induct with
  | case1 headers input ended =>
    rw [readHeaders_eof ended] at read
    cases read
  | case2 headers input raw tail found line blank =>
    rw [readHeaders_line found] at read
    simp only [line, if_pos blank] at read
    cases read
    exact readUntil_shorter found
  | case3 headers input raw tail found line text ih =>
    rw [readHeaders_line found] at read
    simp only [line, if_neg text] at read
    exact (ih read).trans (readUntil_shorter found)

theorem readEventData_shorter (read : readEventData input = .ok (data, rest)) :
    rest.length < input.length := by
  unfold readEventData at read
  split at read
  · cases read
  · rename_i headers tail headersRead
    have shorter := readHeaders_shorter headersRead
    simp only at read
    split at read
    · cases read
      exact shorter
    · split at read
      · split at read
        · cases read
        · cases read
          simp only [List.length_drop]
          omega
      · cases read
        exact shorter

/-- The outputs of one connection, up to the end of the stream. -/
def eventLoop (input : Bytes) : List Output :=
  match _ : readEventData input with
  | .error _ => []
  | .ok (data, rest) => (route data).toList ++ eventLoop rest
termination_by input.length
decreasing_by exact readEventData_shorter ‹_›

theorem eventLoop_nil : eventLoop [] = [] := by
  have headers : readHeaders [] [] = none := readHeaders_eof rfl
  have ended : readEventData [] = .error .eof := by
    simp [readEventData, headers]
  rw [eventLoop]
  split
  · rfl
  · rename_i found
    rw [ended] at found
    cases found

theorem eventLoop_step (read : readEventData input = .ok (data, rest)) :
    eventLoop input = (route data).toList ++ eventLoop rest := by
  rw [eventLoop]
  split
  · rename_i found
    rw [read] at found
    cases found
  · rename_i found
    rw [read] at found
    cases found
    rfl

end AgentOE.Esl
