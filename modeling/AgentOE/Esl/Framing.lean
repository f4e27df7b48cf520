import Mathlib.Data.List.Forall2
import AgentOE.Esl.Stream

/-! FreeSWITCH's side of the stream: event frames, interleaved with the replies
to commands, and what the client makes of them. -/
namespace AgentOE.Esl
open Text

def decimal (n : Nat) : Bytes := (Nat.toDigits 10 n).map Char.toUInt8

/-- The header lines of an event, URL-encoded, and its optional body. -/
structure EventFrame where
  headers : List (Bytes × Bytes)
  body : Bytes
  encoded : ∀ header ∈ headers, (queryUnescape header.2).isSome
  lines : ∀ header ∈ headers, newline ∉ header.1 ∧ newline ∉ header.2
  unique : (headers.map Prod.fst).Nodup
  named : ∃ header ∈ headers, header.1 = ascii "Event-Name" ∧ header.2 ≠ []
  /-- A `Content-Length` is a Go `int`. -/
  bounded : (headers.flatMap fun header =>
    header.1 ++ ascii ": " ++ header.2 ++ [newline]).length + body.length + 1 < 2 ^ 63

namespace EventFrame

def text (frame : EventFrame) : Bytes :=
  (frame.headers.flatMap fun header => header.1 ++ ascii ": " ++ header.2 ++ [newline]) ++
    newline :: frame.body

/-- The value of a header that FreeSWITCH encoded into the frame. -/
def get (frame : EventFrame) (key : Bytes) : Bytes :=
  ((frame.headers.lookup key).bind queryUnescape).getD []

end EventFrame

inductive Frame where
  | event (frame : EventFrame)
  | apiResponse (body : Bytes) (bounded : body.length < 2 ^ 63)
  /-- `lines` are the reply's other headers, `Reply-Text` and `Job-UUID`. -/
  | commandReply (lines : List Bytes) (text : ∀ line ∈ lines,
      line ≠ [] ∧ newline ∉ line ∧ carriageReturn ∉ line ∧ ¬contentLengthField <+: line)

namespace Frame

def headerLines : Frame → List Bytes
  | event frame =>
    [contentLengthField ++ decimal frame.text.length, ascii "Content-Type: text/event-plain"]
  | apiResponse body _ => [apiResponseType, contentLengthField ++ decimal body.length]
  | commandReply lines _ => commandReplyType :: lines

def payload : Frame → Bytes
  | event frame => frame.text
  | apiResponse body _ => body
  | commandReply _ _ => []

def encode (frame : Frame) : Bytes :=
  unlines newline frame.headerLines ++ newline :: frame.payload

def event? : Frame → Option EventFrame
  | event frame => some frame
  | _ => none

/-- The body of a reply frame. -/
def reply? : Frame → Option Bytes
  | event _ => none
  | apiResponse body _ => some body
  | commandReply _ _ => some []

end Frame

def Output.event? : Output → Option Event
  | .handled event => some event
  | .reply _ => none

def Output.reply? : Output → Option Bytes
  | .handled _ => none
  | .reply body => some body

/-- Every event frame reaches the handler once, in order and with its headers
decoded, and `apiRespCh` is offered the bodies of the reply frames only. -/
structure Decodes (frames : List Frame) : Prop where
  events : List.Forall₂ (fun event frame => ∀ key, Event.get event key = EventFrame.get frame key)
    ((eventLoop (frames.flatMap Frame.encode)).filterMap Output.event?)
    (frames.filterMap Frame.event?)
  replies : (eventLoop (frames.flatMap Frame.encode)).filterMap Output.reply? =
    frames.filterMap Frame.reply?

/-! Reading back what FreeSWITCH wrote. -/

theorem digit_byte {c : Char} (digit : c.isDigit = true) :
    c.toUInt8.toNat = c.toNat ∧ 48 ≤ c.toNat ∧ c.toNat ≤ 57 := by
  have bounds : 48 ≤ c.toNat ∧ c.toNat ≤ 57 := by
    simpa [Char.isDigit, UInt32.le_iff_toNat_le] using digit
  refine ⟨?_, bounds⟩
  have small : c.toNat % 256 = c.toNat := Nat.mod_eq_of_lt (by omega)
  exact (UInt32.toNat_toUInt8 c.val).trans small

theorem decimal_digits : ∀ b ∈ decimal n, isDigit b = true := by
  intro b mem
  obtain ⟨c, digit, rfl⟩ := List.mem_map.mp mem
  obtain ⟨same, low, high⟩ :=
    digit_byte (Nat.isDigit_of_mem_toDigits (by decide) (by decide) digit)
  simp [isDigit, UInt8.le_iff_toNat_le, same, low, high]

theorem decimal_ne_nil : decimal n ≠ [] := by
  simp [decimal, Nat.toDigits_ne_nil]

theorem decimal_value : (decimal n).foldl (fun m b => 10 * m + (b.toNat - 48)) 0 = n := by
  have digits : ∀ c ∈ Nat.toDigits 10 n, c.toUInt8.toNat = c.toNat := by
    intro c mem
    exact (digit_byte (Nat.isDigit_of_mem_toDigits (by decide) (by decide) mem)).1
  rw [decimal, List.foldl_map]
  conv_rhs => rw [← Nat.ofDigitChars_ten_toDigits (n := n), Nat.ofDigitChars_eq_foldl]
  apply List.foldl_ext
  intro m c mem
  rw [digits c mem]
  rfl

def visible (b : UInt8) : Bool := 33 ≤ b && b ≤ 126

theorem whiteSpace_invisible : ∀ token ∈ whiteSpace, token ≠ [] ∧
    ∀ b ∈ token, visible b = false := by
  have unseen : ∀ token ∈ whiteSpace, token ≠ [] ∧ token.all (visible · = false) = true := by
    decide +kernel
  simpa only [List.all_eq_true, decide_eq_true_eq] using unseen

theorem not_prefix_visible {line : Bytes} (starts : line.head? = some first)
    (seen : visible first = true) : ∀ token ∈ whiteSpace, ¬token <+: line := by
  rintro token mem ⟨rest, rfl⟩
  obtain ⟨nonempty, unseen⟩ := whiteSpace_invisible token mem
  rw [List.head?_append_of_ne_nil _ nonempty] at starts
  rw [unseen first (List.mem_of_mem_head? starts)] at seen
  cases seen

theorem not_suffix_visible {line : Bytes} (ends : line.getLast? = some last)
    (seen : visible last = true) : ∀ token ∈ whiteSpace, ¬token <:+ line := by
  rintro token mem ⟨rest, rfl⟩
  obtain ⟨nonempty, unseen⟩ := whiteSpace_invisible token mem
  rw [List.getLast?_append_of_ne_nil _ nonempty] at ends
  rw [unseen last (List.mem_of_getLast? ends)] at seen
  cases seen

theorem trimSpace_visible {line : Bytes} (starts : line.head? = some first)
    (ends : line.getLast? = some last) (seenFirst : visible first = true)
    (seenLast : visible last = true) : trimSpace line = line :=
  trimTokens_eq_self (not_prefix_visible starts seenFirst) (not_suffix_visible ends seenLast)

theorem visible_of_digit (digit : isDigit b = true) : visible b = true := by
  simp only [isDigit, visible, Bool.and_eq_true, decide_eq_true_eq, UInt8.le_iff_toNat_le,
    UInt8.reduceToNat] at digit ⊢
  omega

theorem scanSign_digit (digit : isDigit b = true) : scanSign (b :: s) = (1, b :: s) := by
  have plus : b ≠ 43 := by
    rintro rfl
    cases digit
  have minus : b ≠ 45 := by
    rintro rfl
    cases digit
  simp [scanSign, plus, minus]

theorem scanLength_decimal (bounded : n < 2 ^ 63) : scanLength (decimal n) = some (n : Int) := by
  obtain ⟨b, s, shape⟩ := List.exists_cons_of_ne_nil (decimal_ne_nil (n := n))
  have digit : isDigit b = true := by
    apply decimal_digits (n := n)
    simp [shape]
  have untrimmed : dropTokens whiteSpace (decimal n) = decimal n :=
    dropTokens_eq_self (not_prefix_visible (by rw [shape]; rfl) (visible_of_digit digit))
  have sign : scanSign (decimal n) = (1, decimal n) := by
    rw [shape, scanSign_digit digit]
  have digits : (decimal n).takeWhile isDigit = decimal n :=
    List.takeWhile_eq_self_iff.mpr decimal_digits
  simp only [scanLength, untrimmed, sign, digits, decimal_value, Int.one_mul]
  rw [if_pos ⟨decimal_ne_nil, by omega, by omega⟩]

theorem readHeaders_unlines (text : ∀ line ∈ lines,
      line ≠ [] ∧ newline ∉ line ∧ carriageReturn ∉ line) :
    readHeaders headers (unlines newline lines ++ newline :: rest) =
      some (headers ++ unlines newline lines, rest) := by
  induction lines generalizing headers with
  | nil =>
    have blank : readUntil newline (newline :: rest) = some ([newline], rest) := by
      simp [readUntil]
    simp [unlines, readHeaders_line blank, List.rdropWhile_singleton]
  | cons line lines ih =>
    obtain ⟨⟨nonempty, clean, noReturn⟩, text⟩ := List.forall_mem_cons.mp text
    have trimmed : (line ++ [newline]).rdropWhile (fun b => b = carriageReturn ∨ b = newline) =
        line := by
      rw [List.rdropWhile_concat_pos _ _ _ (by simp), List.rdropWhile_eq_self_iff]
      intro _ ended
      rcases of_decide_eq_true ended with last | last
      · exact noReturn (last ▸ List.getLast_mem nonempty)
      · exact clean (last ▸ List.getLast_mem nonempty)
    have split : unlines newline (line :: lines) ++ newline :: rest =
        line ++ newline :: (unlines newline lines ++ newline :: rest) := by
      simp [unlines]
    rw [split, readHeaders_line (readUntil_line clean)]
    simp only [trimmed, if_neg nonempty]
    rw [ih text]
    simp [unlines]

theorem newline_not_decimal : newline ∉ decimal n ∧ carriageReturn ∉ decimal n := by
  constructor
  · intro mem
    cases decimal_digits _ mem
  · intro mem
    cases decimal_digits _ mem

theorem lengthField_text : contentLengthField ++ decimal n ≠ [] ∧
    newline ∉ contentLengthField ++ decimal n ∧
    carriageReturn ∉ contentLengthField ++ decimal n := by
  obtain ⟨noLine, noReturn⟩ := newline_not_decimal (n := n)
  refine ⟨List.append_ne_nil_of_left_ne_nil (by decide) _, ?_, ?_⟩
  · exact fun mem => (List.mem_append.mp mem).elim (by decide) noLine
  · exact fun mem => (List.mem_append.mp mem).elim (by decide) noReturn

theorem headerLines_text (frame : Frame) : ∀ line ∈ frame.headerLines,
    line ≠ [] ∧ newline ∉ line ∧ carriageReturn ∉ line := by
  cases frame with
  | event frame =>
    refine List.forall_mem_cons.mpr ⟨lengthField_text, ?_⟩
    decide
  | apiResponse body bounded =>
    refine List.forall_mem_cons.mpr ⟨by decide, ?_⟩
    exact List.forall_mem_cons.mpr ⟨lengthField_text, by simp⟩
  | commandReply lines text =>
    refine List.forall_mem_cons.mpr ⟨by decide, ?_⟩
    intro line mem
    obtain ⟨nonempty, noLine, noReturn, -⟩ := text line mem
    exact ⟨nonempty, noLine, noReturn⟩

theorem scanHeader_length (bounded : n < 2 ^ 63) :
    scanHeader length (contentLengthField ++ decimal n) = n := by
  have field : contentLengthField.isPrefixOf (contentLengthField ++ decimal n) = true := by
    simp
  rw [scanHeader, if_pos field, List.drop_left, scanLength_decimal bounded]
  rfl

theorem scanHeader_other (other : ¬contentLengthField <+: line) :
    scanHeader length line = length := by
  simp [scanHeader, other]

theorem scanHeader_others {lines : List Bytes}
    (others : ∀ line ∈ lines, ¬contentLengthField <+: line) :
    lines.foldl scanHeader length = length := by
  induction lines with
  | nil => rfl
  | cons line lines ih =>
    obtain ⟨other, others⟩ := List.forall_mem_cons.mp others
    rw [List.foldl_cons, scanHeader_other other, ih others]

/-- The length that the client reads from a frame's headers. -/
theorem contentLength_frame (frame : Frame) :
    contentLength (unlines newline frame.headerLines) = frame.payload.length := by
  have clean : ∀ line ∈ frame.headerLines, newline ∉ line :=
    fun line mem => (headerLines_text frame line mem).2.1
  rw [contentLength, splitOn_unlines clean]
  cases frame with
  | event frame =>
    have bounded : frame.text.length < 2 ^ 63 := by
      have := frame.bounded
      simp only [EventFrame.text, List.length_append, List.length_cons]
      omega
    rw [Frame.headerLines, List.cons_append, List.foldl_cons, scanHeader_length bounded]
    exact scanHeader_others (by decide)
  | apiResponse body bounded =>
    rw [Frame.headerLines, List.cons_append, List.foldl_cons, scanHeader_other (by decide),
      List.cons_append, List.foldl_cons, scanHeader_length bounded]
    exact scanHeader_others (by decide)
  | commandReply lines text =>
    rw [Frame.headerLines, List.cons_append, List.foldl_cons, scanHeader_other (by decide)]
    apply scanHeader_others
    intro line mem
    rcases List.mem_append.mp mem with mem | mem
    · exact (text line mem).2.2.2
    · rw [List.mem_singleton.mp mem]
      decide

/-- What `readEventData` returns for a frame. -/
def Frame.data (frame : Frame) : Bytes :=
  if frame.payload = [] then unlines newline frame.headerLines
  else unlines newline frame.headerLines ++ newline :: frame.payload

theorem readHeaders_encode (frame : Frame) (rest : Bytes) :
    readHeaders [] (frame.encode ++ rest) =
      some (unlines newline frame.headerLines, frame.payload ++ rest) := by
  rw [Frame.encode, List.append_assoc, List.cons_append,
    readHeaders_unlines (headerLines_text frame), List.nil_append]

theorem readEventData_encode (frame : Frame) (rest : Bytes) :
    readEventData (frame.encode ++ rest) = .ok (frame.data, rest) := by
  have nonempty : unlines newline frame.headerLines ≠ [] := by
    cases frame <;> simp [unlines, Frame.headerLines]
  simp only [readEventData, readHeaders_encode, if_neg nonempty, contentLength_frame]
  by_cases empty : frame.payload = []
  · simp [empty, Frame.data]
  · have positive : (0 : Int) < frame.payload.length := by
      exact_mod_cast List.length_pos_of_ne_nil empty
    have complete : ¬((frame.payload ++ rest).length : Int) < frame.payload.length := by
      simp only [List.length_append]
      omega
    rw [if_pos positive, if_neg complete]
    simp [Frame.data, empty]

theorem eventLoop_encode (frames : List Frame) :
    eventLoop (frames.flatMap Frame.encode) =
      frames.flatMap fun frame => (route frame.data).toList := by
  induction frames with
  | nil => rw [List.flatMap_nil, eventLoop_nil, List.flatMap_nil]
  | cons frame frames ih =>
    rw [List.flatMap_cons, List.flatMap_cons, eventLoop_step (readEventData_encode frame _), ih]

theorem route_reply {data : Bytes}
    (reply : contains apiResponseType data ∨ contains commandReplyType data) :
    route data = some (.reply ((cut [newline, newline] data).elim [] Prod.snd)) := by
  have nonempty : data ≠ [] := by
    rintro rfl
    revert reply
    decide
  rw [route, if_neg nonempty, if_pos reply]

/-- The routing searches the whole frame, its headers among it. -/
theorem headerLine_infix_data {frame : Frame} (mem : line ∈ frame.headerLines) :
    line <:+: frame.data := by
  have block : line <:+: unlines newline frame.headerLines := infix_unlines mem
  unfold Frame.data
  split
  · exact block
  · exact block.trans (List.prefix_append _ _).isInfix

theorem headerLines_ne_nil (frame : Frame) : frame.headerLines ≠ [] := by
  cases frame <;> simp [Frame.headerLines]

theorem cut_data (frame : Frame) :
    (cut [newline, newline] frame.data).elim [] Prod.snd = frame.payload := by
  have text := headerLines_text frame
  have nonempty : [] ∉ frame.headerLines := fun mem => (text [] mem).1 rfl
  have clean : ∀ line ∈ frame.headerLines, newline ∉ line := fun line mem => (text line mem).2.1
  by_cases empty : frame.payload = []
  · rw [Frame.data, if_pos empty, cut_unlines_none nonempty clean, empty]
    rfl
  · rw [Frame.data, if_neg empty, cut_unlines (headerLines_ne_nil frame) nonempty clean]
    rfl

theorem parseHeader_length {headers : List (Bytes × Bytes)} :
    parseHeader headers (contentLengthField ++ decimal n) =
      (ascii "Content-Length", decimal n) :: headers := by
  have field : contentLengthField = ascii "Content-Length" ++ ascii ": " := rfl
  have ends := List.getLast?_eq_some_getLast (decimal_ne_nil (n := n))
  have digit := decimal_digits _ (List.getLast_mem (decimal_ne_nil (n := n)))
  have trimmed : trimSpace (contentLengthField ++ decimal n) = contentLengthField ++ decimal n := by
    refine trimSpace_visible rfl ?_ rfl (visible_of_digit digit)
    rw [List.getLast?_append_of_ne_nil _ decimal_ne_nil, ends]
  rw [field] at trimmed ⊢
  exact parseHeader_field trimmed (by decide)

/-- An event frame's own headers are only its length and its type. -/
theorem parseEvent_event (frame : EventFrame) :
    (parseEvent (Frame.event frame).data).headers =
      [(ascii "Content-Type", ascii "text/event-plain"),
        (ascii "Content-Length", decimal frame.text.length)] := by
  have text := headerLines_text (.event frame)
  have nonempty : [] ∉ (Frame.event frame).headerLines := fun mem => (text [] mem).1 rfl
  have clean : ∀ line ∈ (Frame.event frame).headerLines, newline ∉ line :=
    fun line mem => (text line mem).2.1
  have payload : (Frame.event frame).payload ≠ [] := by
    simp [Frame.payload, EventFrame.text]
  have trimmed : trimSpace (ascii "Content-Type" ++ ascii ": " ++ ascii "text/event-plain") =
      ascii "Content-Type" ++ ascii ": " ++ ascii "text/event-plain" :=
    trimSpace_visible rfl rfl rfl rfl
  have typeLine : ascii "Content-Type: text/event-plain" =
      ascii "Content-Type" ++ ascii ": " ++ ascii "text/event-plain" := rfl
  rw [parseEvent, Frame.data, if_neg payload, cut_unlines (headerLines_ne_nil _) nonempty clean]
  simp only [Option.getD_some]
  rw [List.splitOn_intercalate _ clean (headerLines_ne_nil _), Frame.headerLines,
    List.foldl_cons, List.foldl_cons, List.foldl_nil, parseHeader_length, typeLine,
    parseHeader_field trimmed (by decide)]

theorem route_event (frame : EventFrame) :
    (route (Frame.event frame).data).bind Output.event? = none := by
  by_cases reply : contains apiResponseType (Frame.event frame).data ∨
      contains commandReplyType (Frame.event frame).data
  · rw [route_reply reply]
    rfl
  · have unnamed : (parseEvent (Frame.event frame).data).name = [] := by
      apply get_of_absent
      rw [parseEvent_event]
      rfl
    simp [route, reply, unnamed]

theorem route_frame (frame : Frame) (reply : frame.event? = none) :
    frame.reply? = some frame.payload ∧ route frame.data = some (.reply frame.payload) := by
  have known : frame.reply? = some frame.payload ∧
      (contains apiResponseType frame.data ∨ contains commandReplyType frame.data) := by
    cases frame with
    | event frame => cases reply
    | apiResponse body bounded =>
      refine ⟨rfl, .inl (decide_eq_true ?_)⟩
      exact headerLine_infix_data List.mem_cons_self
    | commandReply lines text =>
      refine ⟨rfl, .inr (decide_eq_true ?_)⟩
      exact headerLine_infix_data List.mem_cons_self
  rw [route_reply known.2, cut_data]
  exact ⟨known.1, rfl⟩

/-- The handler is never called, whatever the events. -/
theorem handled_nil (frames : List Frame) :
    (eventLoop (frames.flatMap Frame.encode)).filterMap Output.event? = [] := by
  rw [eventLoop_encode, List.filterMap_flatMap, List.flatMap_eq_nil_iff]
  intro frame _
  have none : (route frame.data).bind Output.event? = none := by
    cases kind : frame.event? with
    | none =>
      rw [(route_frame frame kind).2]
      rfl
    | some event =>
      cases frame with
      | event frame => exact route_event frame
      | apiResponse body bounded => cases kind
      | commandReply lines text => cases kind
  cases routed : route frame.data with
  | none => rfl
  | some output =>
    rw [routed] at none
    simpa using none

theorem replies_of_no_event (frames : List Frame) (quiet : ∀ frame ∈ frames, frame.event? = none) :
    (eventLoop (frames.flatMap Frame.encode)).filterMap Output.reply? =
      frames.filterMap Frame.reply? := by
  rw [eventLoop_encode]
  induction frames with
  | nil => rfl
  | cons frame frames ih =>
    obtain ⟨first, quiet⟩ := List.forall_mem_cons.mp quiet
    obtain ⟨reply, routed⟩ := route_frame frame first
    rw [List.flatMap_cons, List.filterMap_append, ih quiet, routed, List.filterMap_cons_some reply]
    rfl

/-- The client decodes a stream exactly when there is no event to decode. -/
theorem decodes_iff_no_event (frames : List Frame) :
    Decodes frames ↔ ∀ frame ∈ frames, frame.event? = none := by
  constructor
  · intro decodes
    have events := decodes.events
    rw [handled_nil, List.forall₂_nil_left_iff, List.filterMap_eq_nil_iff] at events
    exact events
  · intro quiet
    have silent : frames.filterMap Frame.event? = [] := List.filterMap_eq_nil_iff.mpr quiet
    refine ⟨?_, replies_of_no_event frames quiet⟩
    rw [handled_nil, silent]
    exact .nil

/-- An incoming call, as FreeSWITCH announces it. -/
def channelCreate : EventFrame where
  headers := [(ascii "Event-Name", ascii "CHANNEL_CREATE"), (ascii "Unique-ID", ascii "6ba7b810")]
  body := []
  encoded := by decide +kernel
  lines := by decide
  unique := by decide
  named := by decide
  bounded := by decide

theorem channelCreate_not_decoded : ¬Decodes [.event channelCreate] := by
  intro decodes
  have events := decodes.events
  rw [handled_nil] at events
  cases events

end AgentOE.Esl
