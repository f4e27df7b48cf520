import Mathlib.Tactic.Tauto
import AgentOE.Esl.Event

/-! The commands that the call-control API sends, as text and as arguments.
FreeSWITCH separates arguments by spaces, the variables of a dial string by
commas and its legs by commas or bars. -/
namespace AgentOE.Esl
open Text

def space : UInt8 := 32
def comma : UInt8 := 44
def bar : UInt8 := 124
def openBrace : UInt8 := 123
def closeBrace : UInt8 := 125

inductive Command where
  | originate (uuid target callerID : Bytes) (useStandby : Bool)
  | sendDtmf (uuid digits : Bytes)
  | transfer (uuid target : Bytes)
  | bridge (uuidA uuidB : Bytes)
  | recordStart (uuid path : Bytes)
  | recordStop (uuid : Bytes)
  | eavesdrop (supervisorUUID targetUUID : Bytes)
  | attendedTransfer (uuid target : Bytes)
  deriving DecidableEq

/-- What `sendCommandLocked` writes before the blank line. -/
def Command.text : Command → Bytes
  | originate uuid target callerID useStandby =>
    let cidParam := if callerID ≠ [] then
        ascii ",origination_caller_id_number=" ++ callerID ++
          ascii ",origination_caller_id_name=" ++ callerID
      else []
    let gateway := ascii "sofia/gateway/pbx-main/" ++ target ++
      if useStandby then ascii "|sofia/gateway/pbx-standby/" ++ target else []
    ascii "bgapi originate \x7borigination_uuid=" ++ uuid ++ cidParam ++
      ascii ",failure_causes=NORMAL_TEMPORARY_FAILURE,originate_timeout=30\x7d" ++ gateway ++
      ascii " &park()"
  | sendDtmf uuid digits => ascii "api uuid_send_dtmf " ++ uuid ++ ascii " " ++ digits
  | transfer uuid target =>
    ascii "api uuid_transfer " ++ uuid ++ ascii " " ++ target ++ ascii " XML default"
  | bridge uuidA uuidB => ascii "api uuid_bridge " ++ uuidA ++ ascii " " ++ uuidB
  | recordStart uuid path => ascii "api uuid_record " ++ uuid ++ ascii " start " ++ path
  | recordStop uuid => ascii "api uuid_record " ++ uuid ++ ascii " stop"
  | eavesdrop supervisorUUID targetUUID =>
    ascii "api uuid_transfer " ++ supervisorUUID ++ ascii " 'eavesdrop::" ++ targetUUID ++
      ascii "' inline"
  | attendedTransfer uuid target =>
    ascii "api uuid_transfer " ++ uuid ++
      ascii " 'att_xfer::\x7borigination_caller_id_name=Transfer\x7dsofia/gateway/pbx-main/" ++
      target ++ ascii "' inline"

def sendCommandLocked (cmd : Bytes) : Bytes := cmd ++ [newline, newline]

structure DialString where
  opening : Bytes
  vars : List Bytes
  legs : List Bytes
  deriving DecidableEq

def DialString.text (dial : DialString) : Bytes :=
  dial.opening ++ openBrace :: ([comma].intercalate dial.vars ++
    closeBrace :: [bar].intercalate dial.legs)

/-- How FreeSWITCH takes a dial string apart. -/
def parseDial (text : Bytes) : Option DialString :=
  (cut [openBrace] text).bind fun (opening, rest) =>
    (cut [closeBrace] rest).map fun (block, legs) =>
      ⟨opening, block.splitOn comma, legs.splitOnP fun b => b = comma ∨ b = bar⟩

/-- The dial string that a command is meant to contain. -/
def Command.dial? : Command → Option DialString
  | originate uuid target callerID useStandby => some {
      opening := []
      vars := (ascii "origination_uuid=" ++ uuid) ::
        (if callerID ≠ [] then
          [ascii "origination_caller_id_number=" ++ callerID,
            ascii "origination_caller_id_name=" ++ callerID]
        else []) ++
        [ascii "failure_causes=NORMAL_TEMPORARY_FAILURE", ascii "originate_timeout=30"]
      legs := (ascii "sofia/gateway/pbx-main/" ++ target) ::
        if useStandby then [ascii "sofia/gateway/pbx-standby/" ++ target] else [] }
  | attendedTransfer _ target => some {
      opening := ascii "'att_xfer::"
      vars := [ascii "origination_caller_id_name=Transfer"]
      legs := [ascii "sofia/gateway/pbx-main/" ++ target ++ ascii "'"] }
  | _ => none

/-- The arguments that a command is meant to have. -/
def Command.words (command : Command) : List Bytes :=
  match command with
  | originate _ _ _ _ =>
    [ascii "bgapi", ascii "originate", command.dial?.elim [] DialString.text, ascii "&park()"]
  | sendDtmf uuid digits => [ascii "api", ascii "uuid_send_dtmf", uuid, digits]
  | transfer uuid target =>
    [ascii "api", ascii "uuid_transfer", uuid, target, ascii "XML", ascii "default"]
  | bridge uuidA uuidB => [ascii "api", ascii "uuid_bridge", uuidA, uuidB]
  | recordStart uuid path => [ascii "api", ascii "uuid_record", uuid, ascii "start", path]
  | recordStop uuid => [ascii "api", ascii "uuid_record", uuid, ascii "stop"]
  | eavesdrop supervisorUUID targetUUID =>
    [ascii "api", ascii "uuid_transfer", supervisorUUID,
      ascii "'eavesdrop::" ++ targetUUID ++ ascii "'", ascii "inline"]
  | attendedTransfer uuid _ =>
    [ascii "api", ascii "uuid_transfer", uuid, command.dial?.elim [] DialString.text,
      ascii "inline"]

/-- The frame is one command, and every argument keeps to its own place. -/
structure OneFrame (command : Command) : Prop where
  frame : cut [newline, newline] (sendCommandLocked command.text) = some (command.text, [])
  line : newline ∉ command.text ∧ carriageReturn ∉ command.text
  words : command.text.splitOn space = command.words
  dial : ∀ dial, command.dial? = some dial → parseDial dial.text = some dial

/-- Text that cannot leave its argument. -/
def Plain (text : Bytes) : Prop := newline ∉ text ∧ carriageReturn ∉ text ∧ space ∉ text

instance (text : Bytes) : Decidable (Plain text) :=
  inferInstanceAs (Decidable (_ ∧ _ ∧ _))

def separators : List UInt8 :=
  [newline, carriageReturn, space, comma, bar, openBrace, closeBrace]

def Inert (text : Bytes) : Prop := ∀ b ∈ text, b ∉ separators

theorem inert_of_class (allowed : UInt8 → Bool) (apart : ∀ b ∈ separators, allowed b = false)
    (accepted : ∀ b ∈ text, allowed b = true) : Inert text := by
  intro b mem separator
  have refused := apart b separator
  rw [accepted b mem] at refused
  cases refused

theorem Inert.plain (inert : Inert text) : Plain text := by
  refine ⟨?_, ?_, ?_⟩
  · intro mem
    exact inert _ mem (by decide)
  · intro mem
    exact inert _ mem (by decide)
  · intro mem
    exact inert _ mem (by decide)

theorem plain_append : Plain (a ++ b) ↔ Plain a ∧ Plain b := by
  simp only [Plain, List.mem_append, not_or]
  tauto

/-- The literals of the command texts, cut at their separators. -/
theorem command_literals :
    ascii "bgapi originate \x7borigination_uuid=" = ascii "bgapi" ++ space ::
      (ascii "originate" ++ space :: openBrace :: ascii "origination_uuid=") ∧
    ascii ",origination_caller_id_number=" = comma :: ascii "origination_caller_id_number=" ∧
    ascii ",origination_caller_id_name=" = comma :: ascii "origination_caller_id_name=" ∧
    ascii ",failure_causes=NORMAL_TEMPORARY_FAILURE,originate_timeout=30\x7d" =
      comma :: (ascii "failure_causes=NORMAL_TEMPORARY_FAILURE" ++
        comma :: (ascii "originate_timeout=30" ++ [closeBrace])) ∧
    ascii "|sofia/gateway/pbx-standby/" = bar :: ascii "sofia/gateway/pbx-standby/" ∧
    ascii " &park()" = space :: ascii "&park()" := by
  decide +kernel

theorem api_literals :
    ascii "api uuid_send_dtmf " = ascii "api" ++ space :: (ascii "uuid_send_dtmf" ++ [space]) ∧
    ascii "api uuid_transfer " = ascii "api" ++ space :: (ascii "uuid_transfer" ++ [space]) ∧
    ascii "api uuid_bridge " = ascii "api" ++ space :: (ascii "uuid_bridge" ++ [space]) ∧
    ascii "api uuid_record " = ascii "api" ++ space :: (ascii "uuid_record" ++ [space]) ∧
    ascii " XML default" = space :: (ascii "XML" ++ space :: ascii "default") ∧
    ascii " start " = space :: (ascii "start" ++ [space]) ∧
    ascii " stop" = space :: ascii "stop" ∧
    ascii " 'eavesdrop::" = space :: ascii "'eavesdrop::" ∧
    ascii " 'att_xfer::\x7borigination_caller_id_name=Transfer\x7dsofia/gateway/pbx-main/" =
      space :: (ascii "'att_xfer::" ++ openBrace ::
        (ascii "origination_caller_id_name=Transfer" ++
          closeBrace :: ascii "sofia/gateway/pbx-main/")) ∧
    ascii "' inline" = ascii "'" ++ space :: ascii "inline" ∧
    ascii " " = [space] := by
  decide +kernel

theorem text_eq_words (command : Command) :
    command.text = [space].intercalate command.words := by
  cases command with
  | originate uuid target callerID useStandby =>
    obtain ⟨start, number, name, causes, standby, park⟩ := command_literals
    simp only [Command.text, Command.words, Command.dial?, DialString.text, Option.elim, start,
      number, name, causes, standby, park]
    by_cases anonymous : callerID = [] <;> cases useStandby <;>
      simp [anonymous, List.intercalate_cons_cons]
  | _ =>
    obtain ⟨dtmf, transfer, bridge, record, xml, start, stop, eavesdrop, attended, inline, gap⟩ :=
      api_literals
    simp [Command.text, Command.words, Command.dial?, DialString.text, dtmf, transfer, bridge,
      record, xml, start, stop, eavesdrop, attended, inline, gap, List.intercalate_cons_cons]

theorem ascii_eq_nil {s : String} : ascii s = [] ↔ s = "" := by
  simp [ascii]

theorem text_ne_nil (command : Command) : command.text ≠ [] := by
  cases command <;> simp [Command.text, ascii_eq_nil]

/-- A dial string is read back exactly when its parts hold none of its separators. -/
theorem parseDial_text_iff (dial : DialString) (vars : dial.vars ≠ []) (legs : dial.legs ≠ []) :
    parseDial dial.text = some dial ↔ openBrace ∉ dial.opening ∧
      (∀ var ∈ dial.vars, comma ∉ var ∧ closeBrace ∉ var) ∧
      ∀ leg ∈ dial.legs, comma ∉ leg ∧ bar ∉ leg := by
  constructor
  · intro parsed
    obtain ⟨⟨opening, rest⟩, opened, parsed⟩ := Option.bind_eq_some_iff.mp parsed
    obtain ⟨⟨block, tail⟩, closed, same⟩ := Option.map_eq_some_iff.mp parsed
    have joined : [comma].intercalate (block.splitOn comma) = block :=
      List.intercalate_splitOn comma
    have unclosed := not_mem_of_cut_single closed
    rw [← joined, not_mem_intercalate_iff (by decide)] at unclosed
    subst same
    refine ⟨not_mem_of_cut_single opened, fun var mem => ⟨?_, unclosed var mem⟩,
      fun leg mem => ⟨?_, ?_⟩⟩
    · intro inside
      have other := not_of_mem_splitOnP mem _ inside
      simp at other
    · intro inside
      have other := not_of_mem_splitOnP mem _ inside
      simp at other
    · intro inside
      have other := not_of_mem_splitOnP mem _ inside
      simp at other
  · rintro ⟨opening, cleanVars, cleanLegs⟩
    have unclosed : closeBrace ∉ [comma].intercalate dial.vars :=
      (not_mem_intercalate_iff (by decide)).mpr fun var mem => (cleanVars var mem).2
    have varsBack : ([comma].intercalate dial.vars).splitOn comma = dial.vars :=
      (splitOn_intercalate_iff vars).mpr fun var mem => (cleanVars var mem).1
    have legsBack : ([bar].intercalate dial.legs).splitOnP (fun b => b = comma ∨ b = bar) =
        dial.legs := by
      refine (splitOnP_intercalate_iff (by simp) legs).mpr ?_
      intro leg mem b inside
      obtain ⟨noComma, noBar⟩ := cleanLegs leg mem
      have apart : b ≠ comma ∧ b ≠ bar :=
        ⟨fun same => noComma (same ▸ inside), fun same => noBar (same ▸ inside)⟩
      simp [apart]
    simp only [parseDial, DialString.text, cut_single opening, Option.bind_some,
      cut_single unclosed, Option.map_some, varsBack, legsBack]

/-- One frame means plain arguments and a dial string that is read back. -/
theorem oneFrame_iff (command : Command) : OneFrame command ↔
    (∀ word ∈ command.words, Plain word) ∧
      ∀ dial, command.dial? = some dial → parseDial dial.text = some dial := by
  have words : command.words ≠ [] := by
    cases command <;> simp [Command.words]
  constructor
  · rintro ⟨-, ⟨noLine, noReturn⟩, split, dial⟩
    rw [text_eq_words] at noLine noReturn split
    rw [splitOn_intercalate_iff words] at split
    rw [not_mem_intercalate_iff (by decide)] at noLine noReturn
    exact ⟨fun word mem => ⟨noLine word mem, noReturn word mem, split word mem⟩, dial⟩
  · rintro ⟨plain, dial⟩
    have clean : newline ∉ command.text ∧ carriageReturn ∉ command.text := by
      rw [text_eq_words, not_mem_intercalate_iff (by decide), not_mem_intercalate_iff (by decide)]
      exact ⟨fun word mem => (plain word mem).1, fun word mem => (plain word mem).2.1⟩
    refine ⟨?_, clean, ?_, dial⟩
    · rw [sendCommandLocked, cut_line (text_ne_nil command) clean.1]
      rfl
    · rw [text_eq_words, splitOn_intercalate_iff words]
      exact fun word mem => (plain word mem).2.2

theorem plain_dial (dial : DialString) : Plain dial.text ↔
    Plain dial.opening ∧ (∀ var ∈ dial.vars, Plain var) ∧ ∀ leg ∈ dial.legs, Plain leg := by
  have outside : ∀ b ∉ [comma, bar, openBrace, closeBrace], b ∉ dial.text ↔
      b ∉ dial.opening ∧ (∀ var ∈ dial.vars, b ∉ var) ∧ ∀ leg ∈ dial.legs, b ∉ leg := by
    intro b other
    simp only [List.mem_cons, List.not_mem_nil, or_false, not_or] at other
    rw [← not_mem_intercalate_iff other.1, ← not_mem_intercalate_iff other.2.1]
    simp [DialString.text, other]
  simp only [Plain, outside newline (by decide), outside carriageReturn (by decide),
    outside space (by decide)]
  constructor
  · rintro ⟨⟨line, lineVars, lineLegs⟩, ⟨ret, retVars, retLegs⟩, gap, gapVars, gapLegs⟩
    exact ⟨⟨line, ret, gap⟩, fun var mem => ⟨lineVars var mem, retVars var mem, gapVars var mem⟩,
      fun leg mem => ⟨lineLegs leg mem, retLegs leg mem, gapLegs leg mem⟩⟩
  · rintro ⟨⟨line, ret, gap⟩, vars, legs⟩
    exact ⟨⟨line, fun var mem => (vars var mem).1, fun leg mem => (legs leg mem).1⟩,
      ⟨ret, fun var mem => (vars var mem).2.1, fun leg mem => (legs leg mem).2.1⟩,
      gap, fun var mem => (vars var mem).2.2, fun leg mem => (legs leg mem).2.2⟩

theorem keywords_plain :
    Plain (ascii "api") ∧ Plain (ascii "bgapi") ∧ Plain (ascii "originate") ∧
    Plain (ascii "&park()") ∧ Plain (ascii "uuid_send_dtmf") ∧ Plain (ascii "uuid_transfer") ∧
    Plain (ascii "XML") ∧ Plain (ascii "default") ∧ Plain (ascii "uuid_bridge") ∧
    Plain (ascii "uuid_record") ∧ Plain (ascii "start") ∧ Plain (ascii "stop") ∧
    Plain (ascii "'eavesdrop::") ∧ Plain (ascii "'") ∧ Plain (ascii "inline") := by
  decide +kernel

theorem oneFrame_sendDtmf (uuid : Inert u) : OneFrame (.sendDtmf u digits) ↔ Plain digits := by
  simp [oneFrame_iff, Command.words, Command.dial?, keywords_plain, uuid.plain]

theorem oneFrame_transfer (uuid : Inert u) : OneFrame (.transfer u target) ↔ Plain target := by
  simp [oneFrame_iff, Command.words, Command.dial?, keywords_plain, uuid.plain]

theorem oneFrame_eavesdrop (uuid : Inert u) :
    OneFrame (.eavesdrop supervisor u) ↔ Plain supervisor := by
  simp [oneFrame_iff, Command.words, Command.dial?, plain_append, keywords_plain, uuid.plain]

theorem oneFrame_bridge (first : Inert u) (second : Inert v) : OneFrame (.bridge u v) := by
  simp [oneFrame_iff, Command.words, Command.dial?, keywords_plain, first.plain, second.plain]

theorem oneFrame_recordStart (uuid : Inert u) (path : Inert file) :
    OneFrame (.recordStart u file) := by
  simp [oneFrame_iff, Command.words, Command.dial?, keywords_plain, uuid.plain, path.plain]

theorem oneFrame_recordStop (uuid : Inert u) : OneFrame (.recordStop u) := by
  simp [oneFrame_iff, Command.words, Command.dial?, keywords_plain, uuid.plain]

/-- A command around a dial string is one frame if all separators are in place. -/
theorem oneFrame_dial {command : Command} {dial : DialString} (has : command.dial? = some dial)
    (vars : dial.vars ≠ []) (legs : dial.legs ≠ []) (opening : openBrace ∉ dial.opening)
    (words : (∀ word ∈ command.words, Plain word) ↔ Plain dial.text) :
    OneFrame command ↔ Plain dial.opening ∧
      (∀ var ∈ dial.vars, Plain var ∧ comma ∉ var ∧ closeBrace ∉ var) ∧
      ∀ leg ∈ dial.legs, Plain leg ∧ comma ∉ leg ∧ bar ∉ leg := by
  rw [oneFrame_iff, words, plain_dial]
  constructor
  · rintro ⟨⟨plainOpening, plainVars, plainLegs⟩, parsed⟩
    obtain ⟨-, cleanVars, cleanLegs⟩ := (parseDial_text_iff dial vars legs).mp (parsed dial has)
    exact ⟨plainOpening, fun var mem => ⟨plainVars var mem, cleanVars var mem⟩,
      fun leg mem => ⟨plainLegs leg mem, cleanLegs leg mem⟩⟩
  · rintro ⟨plainOpening, okVars, okLegs⟩
    refine ⟨⟨plainOpening, fun var mem => (okVars var mem).1, fun leg mem => (okLegs leg mem).1⟩,
      ?_⟩
    intro other same
    cases Option.some.inj (has.symm.trans same)
    exact (parseDial_text_iff dial vars legs).mpr ⟨opening,
      fun var mem => (okVars var mem).2, fun leg mem => (okLegs leg mem).2⟩

/-- A value that stays inside its variable. -/
def VariableValue (text : Bytes) : Prop := Plain text ∧ comma ∉ text ∧ closeBrace ∉ text

/-- A destination that stays inside its leg. -/
def LegTarget (text : Bytes) : Prop := Plain text ∧ comma ∉ text ∧ bar ∉ text

instance (text : Bytes) : Decidable (VariableValue text) :=
  inferInstanceAs (Decidable (_ ∧ _ ∧ _))

instance (text : Bytes) : Decidable (LegTarget text) :=
  inferInstanceAs (Decidable (_ ∧ _ ∧ _))

theorem Inert.variableValue (inert : Inert text) : VariableValue text :=
  ⟨inert.plain, fun mem => inert _ mem (by decide), fun mem => inert _ mem (by decide)⟩

theorem Inert.legTarget (inert : Inert text) : LegTarget text :=
  ⟨inert.plain, fun mem => inert _ mem (by decide), fun mem => inert _ mem (by decide)⟩

theorem variableValue_append :
    VariableValue (a ++ b) ↔ VariableValue a ∧ VariableValue b := by
  simp only [VariableValue, plain_append, List.mem_append, not_or]
  tauto

theorem legTarget_append : LegTarget (a ++ b) ↔ LegTarget a ∧ LegTarget b := by
  simp only [LegTarget, plain_append, List.mem_append, not_or]
  tauto

/-- The fixed parts of the variables and legs. -/
theorem dial_literals :
    VariableValue (ascii "origination_uuid=") ∧
    VariableValue (ascii "origination_caller_id_number=") ∧
    VariableValue (ascii "origination_caller_id_name=") ∧
    VariableValue (ascii "failure_causes=NORMAL_TEMPORARY_FAILURE") ∧
    VariableValue (ascii "originate_timeout=30") ∧
    VariableValue (ascii "origination_caller_id_name=Transfer") ∧
    LegTarget (ascii "sofia/gateway/pbx-main/") ∧ LegTarget (ascii "sofia/gateway/pbx-standby/") ∧
    LegTarget (ascii "'") ∧ VariableValue [] := by
  decide +kernel

theorem oneFrame_attendedTransfer (uuid : Inert u) (dest : Inert target) :
    OneFrame (.attendedTransfer u target) := by
  have opening : Plain (ascii "'att_xfer::") ∧ openBrace ∉ ascii "'att_xfer::" := by
    decide +kernel
  rw [oneFrame_dial rfl (by simp) (by simp) opening.2]
  · change _ ∧ (∀ var ∈ _, VariableValue var) ∧ ∀ leg ∈ _, LegTarget leg
    simp [opening, legTarget_append, dial_literals, dest.legTarget]
  · simp [Command.words, Command.dial?, keywords_plain, uuid.plain]

theorem oneFrame_originate (uuid : Inert u) :
    OneFrame (.originate u target callerID useStandby) ↔
      LegTarget target ∧ VariableValue callerID := by
  rw [oneFrame_dial rfl (by simp) (by simp) (by simp)]
  · change Plain [] ∧ (∀ var ∈ _, VariableValue var) ∧ (∀ leg ∈ _, LegTarget leg) ↔ _
    have empty : Plain [] := by decide
    by_cases absent : callerID = []
    · cases useStandby <;>
        simp [absent, variableValue_append, legTarget_append, dial_literals, uuid.variableValue,
          empty]
    · cases useStandby <;>
        simp [absent, variableValue_append, legTarget_append, dial_literals, uuid.variableValue,
          empty, and_comm]
  · simp [Command.words, Command.dial?, keywords_plain]

end AgentOE.Esl
