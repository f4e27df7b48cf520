import AgentOE.Idempotency.Middleware
import AgentOE.Regex

/-! `mask_pii` and `mask_pii_dict`, the log processor that masks personal data in an event.
An event nests dicts, lists and tuples; its other values are opaque. -/
namespace AgentOE.PiiMask
open Regex Regex.Pattern
open Idempotency (isSpace)

/-- Character classes of the interpreter's Unicode database. -/
structure Unicode where
  decimal : Char → Bool
  alnum : Char → Bool

def Unicode.ascii : Unicode := ⟨Char.isDigit, Char.isAlphanum⟩

structure Settings where
  piiMaskingEnabled : Bool

section Patterns
variable (unicode : Unicode)

/-- `\w`. -/
def word (c : Char) : Bool := unicode.alnum c || c = '_'

def one (c : Char) : Pattern Char := symbol (· = c)

def digit : Pattern Char := symbol unicode.decimal

/-- `\d{low,low+more}`. -/
def digits (low more : Nat) : Pattern Char := times low more (digit unicode)

/-- `[\s-]?`. -/
def gap : Pattern Char := maybe (symbol fun c => isSpace c || c = '-')

def oneOf (chars : String) : Pattern Char := symbol (· ∈ chars.toList)

def rrn : Pattern Char := sequence [boundary, digits unicode 6 0, gap, digits unicode 7 0, boundary]

def email : Pattern Char :=
  sequence [boundary, run fun c => word unicode c || c ∈ ['.', '+', '-'], one '@',
  run fun c => word unicode c || c = '-', one '.', run fun c => word unicode c || c ∈ ['.', '-'],
    boundary]

def creditCard : Pattern Char :=
  sequence [boundary, times 13 6 (sequence [digit unicode, maybe (oneOf " -")]), digit unicode,
    boundary]

def phoneKr : Pattern Char :=
  sequence [boundary, one '0', one '1', oneOf "016789", gap, digits unicode 3 1, gap,
  digits unicode 4 0, boundary]

def phoneGen : Pattern Char :=
  sequence [boundary, one '0', digits unicode 1 1, gap, digits unicode 3 1, gap,
  digits unicode 4 0, boundary]

def bank : Pattern Char :=
  sequence [boundary, digits unicode 3 3, one '-', digits unicode 2 4, one '-',
  digits unicode 2 4, maybe (sequence [one '-', digits unicode 1 5]), boundary]

def ipv4 : Pattern Char :=
  sequence [boundary, times 3 0 (sequence [digits unicode 1 2, one '.']), digits unicode 1 2,
    boundary]

def passport : Pattern Char :=
  sequence [boundary, times 1 1 (symbol fun c => 'A' ≤ c && c ≤ 'Z'), digits unicode 7 1, boundary]

/-- `_PII_PATTERNS`, in the order in which they are applied. -/
def piiPatterns : List (String × Pattern Char × String) :=
  [("rrn", rrn unicode, "[RRN]"), ("email", email unicode, "[EMAIL]"),
    ("credit_card", creditCard unicode, "[CARD]"), ("phone_kr", phoneKr unicode, "[PHONE]"),
    ("phone_gen", phoneGen unicode, "[PHONE]"), ("bank", bank unicode, "[ACCT]"),
    ("ipv4", ipv4 unicode, "[IP]"), ("passport", passport unicode, "[PASSPORT]")]

def piiSafeKeys : List String :=
  ["session_id", "tenant_id", "request_id", "client_id", "trace_id", "span_id", "event", "level",
    "timestamp", "logger", "stage", "pipeline_stage", "policy_level", "latency_ms", "status_code",
    "path", "method", "model", "circuit_state", "severity"]

def maskPii (settings : Settings) (text : String) : String :=
  if text = "" then text
  else if !settings.piiMaskingEnabled then text
  else String.ofList ((piiPatterns unicode).foldl (fun masked entry =>
    sub (word unicode) entry.2.1 entry.2.2.toList masked) text.toList)

end Patterns

/-- A key of a dict that is not a string is opaque. -/
inductive Key (K : Type) where
  | str (name : String)
  | other (key : K)
  deriving DecidableEq

def Key.safe {K : Type} : Key K → Bool
  | .str name => name ∈ piiSafeKeys
  | .other _ => false

inductive Kind where
  | list
  | tuple
  deriving DecidableEq

inductive Value (K A : Type) where
  | str (text : String)
  | leaf (a : A)
  | dict (entries : List (Key K × Value K A))
  | items (kind : Kind) (values : List (Value K A))

abbrev Dict (K A : Type) := List (Key K × Value K A)

variable {K A : Type}

def Value.isContainer : Value K A → Bool
  | .dict _ | .items _ _ => true
  | _ => false

section Masking
variable (unicode : Unicode) (settings : Settings)

/-- An item of a list or tuple. -/
def maskItem : Value K A → Value K A
  | .str text => .str (maskPii unicode settings text)
  | other => other

mutual

/-- The value of a key that is not safe. -/
def maskField : Value K A → Value K A
  | .str text => .str (maskPii unicode settings text)
  | .dict entries => .dict (if settings.piiMaskingEnabled then maskEntries entries else entries)
  | .items kind values => .items kind (values.map (maskItem unicode settings))
  | .leaf a => .leaf a

/-- The loop of `mask_pii_dict`. -/
def maskEntries : Dict K A → Dict K A
  | [] => []
  | (k, v) :: entries => (k, if k.safe then v else maskField v) :: maskEntries entries

end

def maskPiiDict (d : Dict K A) : Dict K A :=
  if !settings.piiMaskingEnabled then d else maskEntries unicode settings d

def structlogPiiProcessor (event : Dict K A) : Dict K A :=
  if !settings.piiMaskingEnabled then event else maskPiiDict unicode settings event

/-! What masking is for: no string outside the safe keys stays as it was, at any depth. -/

mutual

def maskAll : Value K A → Value K A
  | .str text => .str (maskPii unicode settings text)
  | .leaf a => .leaf a
  | .dict entries => .dict (maskAllEntries entries)
  | .items kind values => .items kind (maskAllItems values)

def maskAllItems : List (Value K A) → List (Value K A)
  | [] => []
  | v :: values => maskAll v :: maskAllItems values

def maskAllEntries : Dict K A → Dict K A
  | [] => []
  | (k, v) :: entries => (k, if k.safe then v else maskAll v) :: maskAllEntries entries

end

mutual

/-- Masking changes no string outside the safe keys. -/
def Clean : Value K A → Prop
  | .str text => maskPii unicode settings text = text
  | .leaf _ => True
  | .dict entries => CleanEntries entries
  | .items _ values => CleanItems values

def CleanItems : List (Value K A) → Prop
  | [] => True
  | v :: values => Clean v ∧ CleanItems values

def CleanEntries : Dict K A → Prop
  | [] => True
  | (k, v) :: entries => (k.safe = false → Clean v) ∧ CleanEntries entries

end

mutual

/-- Whatever is nested in a list or tuple is clean. -/
def Shallow : Value K A → Prop
  | .str _ => True
  | .leaf _ => True
  | .dict entries => ShallowEntries entries
  | .items _ values => ∀ v ∈ values, v.isContainer = true → Clean unicode settings v

/-- The same of the values of the keys that are not safe. -/
def ShallowEntries : Dict K A → Prop
  | [] => True
  | (k, v) :: entries => (k.safe = false → Shallow v) ∧ ShallowEntries entries

end

end Masking

variable {unicode : Unicode} {settings : Settings}

/-- What every pattern needs one symbol of. -/
def telling (unicode : Unicode) (c : Char) : Bool := unicode.decimal c || c = '@'

theorem digit_needs : (digit unicode).Needs (word unicode) (telling unicode) :=
  needs_symbol fun c isDigit => by simp [telling, isDigit]

theorem digits_needs (low more : Nat) : (digits unicode (low + 1) more).Needs (word unicode)
    (telling unicode) := digit_needs.times low more

theorem piiPatterns_need : ∀ entry ∈ piiPatterns unicode,
    entry.2.1.Needs (word unicode) (telling unicode) := by
  have octet : (sequence [digits unicode 1 2, one '.']).Needs (word unicode) (telling unicode) :=
    (digits_needs 0 2).of_mem (by simp)
  simp only [piiPatterns, List.forall_mem_cons, List.not_mem_nil, false_implies, implies_true,
    and_true]
  have atSign : (one '@').Needs (word unicode) (telling unicode) :=
    needs_symbol fun c here => by simp [telling, of_decide_eq_true here]
  refine ⟨?_, ?_, ?_, ?_, ?_, ?_, ?_, ?_⟩
  · exact (digits_needs 5 0).of_mem (by simp)
  · exact atSign.of_mem (by simp)
  · exact digit_needs.of_mem (by simp)
  · exact (digits_needs 2 1).of_mem (by simp)
  · exact (digits_needs 0 1).of_mem (by simp)
  · exact (digits_needs 2 3).of_mem (by simp)
  · exact (octet.times 2 0).of_mem (by simp)
  · exact (digits_needs 6 1).of_mem (by simp)

/-- A text without digits and without `@` is left alone. -/
theorem maskPii_plain {text : String} (plain : ∀ c ∈ text.toList, telling unicode c = false) :
    maskPii unicode settings text = text := by
  have go : ∀ patterns : List (String × Regex.Pattern Char × String),
      (∀ entry ∈ patterns, entry.2.1.Needs
      (word unicode) (telling unicode)) → patterns.foldl (fun masked entry =>
        sub (word unicode) entry.2.1 entry.2.2.toList masked) text.toList = text.toList := by
    intro patterns need
    induction patterns with
    | nil => rfl
    | cons entry patterns ih =>
      obtain ⟨first, rest⟩ := List.forall_mem_cons.mp need
      rw [List.foldl_cons, sub_of_needs first plain, ih rest]
  unfold maskPii
  split
  · rfl
  · split
    · rfl
    · rw [go _ piiPatterns_need, String.ofList_toList]

theorem maskPii_off (off : settings.piiMaskingEnabled = false) (text : String) :
    maskPii unicode settings text = text := by
  simp [maskPii, off]

mutual

theorem maskAll_eq_self_iff (v : Value K A) :
    maskAll unicode settings v = v ↔ Clean unicode settings v := by
  cases v with
  | str text => simp only [maskAll, Clean, Value.str.injEq]
  | leaf a => simp only [maskAll, Clean]
  | dict entries => simp only [maskAll, Clean, Value.dict.injEq, maskAllEntries_eq_self_iff entries]
  | items kind values =>
    simp only [maskAll, Clean, Value.items.injEq, true_and, maskAllItems_eq_self_iff values]

theorem maskAllItems_eq_self_iff (values : List (Value K A)) :
    maskAllItems unicode settings values = values ↔ CleanItems unicode settings values := by
  match values with
  | [] => simp only [maskAllItems, CleanItems]
  | v :: values =>
    simp only [maskAllItems, CleanItems, List.cons.injEq, maskAll_eq_self_iff v,
      maskAllItems_eq_self_iff values]

theorem maskAllEntries_eq_self_iff (entries : Dict K A) :
    maskAllEntries unicode settings entries = entries ↔ CleanEntries unicode settings entries := by
  match entries with
  | [] => simp only [maskAllEntries, CleanEntries]
  | (k, v) :: entries =>
    have here : maskAll unicode settings v = v ↔ Clean unicode settings v := maskAll_eq_self_iff v
    simp only [maskAllEntries, CleanEntries, List.cons.injEq, Prod.mk.injEq, true_and,
      maskAllEntries_eq_self_iff entries]
    cases k.safe <;> simp [here]

end

theorem maskAllItems_eq_map (values : List (Value K A)) :
    maskAllItems unicode settings values = values.map (maskAll unicode settings) := by
  induction values with
  | nil => rfl
  | cons v values ih => rw [maskAllItems, ih, List.map_cons]

/-- An item that is no container is masked like any value; a container is passed over. -/
theorem maskItem_eq_maskAll_iff (v : Value K A) :
    maskItem unicode settings v = maskAll unicode settings v ↔
    (v.isContainer = true → Clean unicode settings v) := by
  cases v with
  | str text => simp [maskItem, maskAll, Value.isContainer]
  | leaf a => simp [maskItem, maskAll, Value.isContainer]
  | dict entries =>
    rw [← maskAll_eq_self_iff]
    simpa only [maskItem, Value.isContainer, true_implies] using eq_comm
  | items kind values =>
    rw [← maskAll_eq_self_iff]
    simpa only [maskItem, Value.isContainer, true_implies] using eq_comm

mutual

theorem maskField_eq_maskAll_iff (on : settings.piiMaskingEnabled = true) (v : Value K A) :
    maskField unicode settings v = maskAll unicode settings v ↔ Shallow unicode settings v := by
  cases v with
  | str text => simp only [maskField, maskAll, Shallow]
  | leaf a => simp only [maskField, maskAll, Shallow]
  | dict entries =>
    simp only [maskField, on, if_true, maskAll, Shallow, Value.dict.injEq,
      maskEntries_eq_maskAll_iff on entries]
  | items kind values =>
    simp only [maskField, maskAll, Shallow, Value.items.injEq, true_and, maskAllItems_eq_map,
      List.map_inj_left, maskItem_eq_maskAll_iff]

theorem maskEntries_eq_maskAll_iff (on : settings.piiMaskingEnabled = true) (entries : Dict K A) :
    maskEntries unicode settings entries = maskAllEntries unicode settings entries ↔
      ShallowEntries unicode settings entries := by
  match entries with
  | [] => simp only [maskEntries, maskAllEntries, ShallowEntries]
  | (k, v) :: entries =>
    have here := maskField_eq_maskAll_iff on v
    simp only [maskEntries, maskAllEntries, ShallowEntries, List.cons.injEq, Prod.mk.injEq,
      true_and, maskEntries_eq_maskAll_iff on entries]
    cases k.safe <;> simp [here]

end

/-! With masking off every string is clean. -/

mutual

theorem clean_off (off : settings.piiMaskingEnabled = false) (v : Value K A) :
    Clean unicode settings v := by
  cases v with
  | str text => exact maskPii_off off text
  | leaf a => trivial
  | dict entries => exact cleanEntries_off off entries
  | items kind values => exact cleanItems_off off values

theorem cleanItems_off (off : settings.piiMaskingEnabled = false) (values : List (Value K A)) :
    CleanItems unicode settings values := by
  match values with
  | [] => trivial
  | v :: values => exact ⟨clean_off off v, cleanItems_off off values⟩

theorem cleanEntries_off (off : settings.piiMaskingEnabled = false) (entries : Dict K A) :
    CleanEntries unicode settings entries := by
  match entries with
  | [] => trivial
  | (k, v) :: entries => exact ⟨fun _ => clean_off off v, cleanEntries_off off entries⟩

end

mutual

theorem shallow_off (off : settings.piiMaskingEnabled = false) (v : Value K A) :
    Shallow unicode settings v := by
  cases v with
  | str text => trivial
  | leaf a => trivial
  | dict entries => exact shallowEntries_off off entries
  | items kind values => exact fun v _ _ => clean_off off v

theorem shallowEntries_off (off : settings.piiMaskingEnabled = false) (entries : Dict K A) :
    ShallowEntries unicode settings entries := by
  match entries with
  | [] => trivial
  | (k, v) :: entries => exact ⟨fun _ => shallow_off off v, shallowEntries_off off entries⟩

end

/-- Every string outside the safe keys is masked, and nothing else is changed, if and only if
what is nested in lists and tuples holds no string that masking changes. -/
theorem mask_complete_iff (unicode : Unicode) (settings : Settings) (d : Dict K A) :
    maskPiiDict unicode settings d = maskAllEntries unicode settings d ↔
      ShallowEntries unicode settings d := by
  cases enabled : settings.piiMaskingEnabled with
  | true =>
    rw [maskPiiDict, enabled]
    exact maskEntries_eq_maskAll_iff enabled d
  | false =>
    have all : maskAllEntries unicode settings d = d :=
      (maskAllEntries_eq_self_iff d).mpr (cleanEntries_off enabled d)
    rw [maskPiiDict, enabled, all]
    exact iff_of_true rfl (shallowEntries_off enabled d)

/-- An event with a list of participants. -/
def participants : Dict Empty Empty :=
  [(.str "participants", .items .list [.dict [(.str "contact", .str "kim@example.com")]])]

theorem nested_contact_leaks : maskPiiDict .ascii ⟨true⟩ participants = participants ∧
    maskPiiDict .ascii ⟨true⟩ participants ≠ maskAllEntries .ascii ⟨true⟩ participants := by
  have masked : maskPii .ascii ⟨true⟩ "kim@example.com" = "[EMAIL]" := by decide +kernel
  have kept : maskPiiDict .ascii ⟨true⟩ participants = participants := rfl
  refine ⟨kept, fun complete => ?_⟩
  have clean := (maskAllEntries_eq_self_iff participants).mp (complete.symm.trans kept)
  have same : maskPii .ascii ⟨true⟩ "kim@example.com" = "kim@example.com" := ((clean.1 rfl).1.1 rfl)
  exact absurd (masked.symm.trans same) (by decide)

end AgentOE.PiiMask
