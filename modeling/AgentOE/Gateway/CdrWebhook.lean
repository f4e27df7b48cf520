import AgentOE.Census
import AgentOE.GoJson
import AgentOE.Text
import AgentOE.Transition

/-! `SendAsync` and `backupToFile` of `webhook.go`: a goroutine for every call that has ended, and
one file to which those append whose record is not delivered. -/
namespace AgentOE.CdrWebhook
open Transition Census GoJson Text
open JsonText (Limits Value Error decimal loads)

structure WebhookPayload where
  sessionId : GoString
  nodeId : GoString
  fsUuid : GoString
  callerId : GoString
  destNum : GoString
  duration : Int64
  cause : GoString
  timestamp : GoString
  deriving DecidableEq

def WebhookPayload.fields (p : WebhookPayload) : Struct :=
  [("session_id", .string p.sessionId), ("node_id", .string p.nodeId),
    ("fs_uuid", .string p.fsUuid), ("caller_id", .string p.callerId),
    ("dest_num", .string p.destNum), ("duration_sec", .int p.duration.toInt),
    ("hangup_cause", .string p.cause), ("timestamp", .string p.timestamp)]

def WebhookPayload.body (p : WebhookPayload) : JsonText.Text := marshal p.fields

/-- What a reader of JSON makes of it. -/
def WebhookPayload.value (p : WebhookPayload) : Value := .dict (p.fields.map readMember)

/-- Times are nanoseconds, and `none` is the zero time. -/
structure SessionState where
  sessionId : GoString
  nodeId : GoString
  fsUuid : GoString
  callerId : GoString
  destNum : GoString
  answeredAt : Option Int
  hangupAt : Option Int

/-- `seconds` is `int(d.Seconds())`, and `format` the UTC time in the layout of RFC 3339. -/
structure Config where
  cdrWebhookUrl : String
  seconds : Int → Int64
  format : Int → GoString

def duration (cfg : Config) (now : Int) (s : SessionState) : Int64 :=
  match s.answeredAt with
  | none => 0
  | some answered => cfg.seconds (s.hangupAt.getD now - answered)

def payload (cfg : Config) (now : Int) (s : SessionState) (cause : GoString) : WebhookPayload :=
  ⟨s.sessionId, s.nodeId, s.fsUuid, s.callerId, s.destNum, duration cfg now s, cause,
    cfg.format now⟩

/-- Where a goroutine is. `opening`, `writing` and `ending` hold the mutex: in front of the
directory and the file, of the record, and of the end of its line. -/
inductive Phase where
  | idle
  | sending (p : WebhookPayload)
  | delivered (p : WebhookPayload)
  | failed (p : WebhookPayload)
  | opening (p : WebhookPayload)
  | writing (p : WebhookPayload)
  | ending (p : WebhookPayload)
  | returned (p : WebhookPayload)
  deriving DecidableEq

/-- `backedUp` is history: the records whose backup is over, in that order. -/
structure State where
  file : JsonText.Text
  backupMu : Option Nat := none
  phase : Nat → Phase := fun _ => .idle
  backedUp : List WebhookPayload := []

/-- `answer` is the status of the response, or nothing where there is no request or no response. A
write is whole, or stops behind a part of the text. -/
inductive Label where
  | sendAsync (g : Nat) (now : Int) (s : SessionState) (cause : GoString)
  | answer (g : Nat) (status : Option Nat)
  | lock (g : Nat)
  | openFile (g : Nat) (opened : Bool)
  | writeBody (g : Nat) (part : Option JsonText.Text)
  | writeNewline (g : Nat) (written : Bool)

def newline : Nat := '\n'.toNat

def State.moveTo (s : State) (g : Nat) (phase : Phase) : State :=
  { s with phase := Function.update s.phase g phase }

/-- `backupToFile` returns. -/
def State.unlock (s : State) (g : Nat) (p : WebhookPayload) : State :=
  { s with backupMu := none, backedUp := s.backedUp ++ [p] }.moveTo g (.returned p)

/-- The errors of the two writes are not looked at. -/
def step (cfg : Config) (s : State) : Label → Option State
  | .sendAsync g now session cause => match s.phase g with
    | .idle => some (if cfg.cdrWebhookUrl = "" then s
      else s.moveTo g (.sending (payload cfg now session cause)))
    | _ => none
  | .answer g status => match s.phase g with
    | .sending p => some (s.moveTo g (if status.any (· < 400) then .delivered p else .failed p))
    | _ => none
  | .lock g => match s.phase g, s.backupMu with
    | .failed p, none => some ({ s with backupMu := some g }.moveTo g (.opening p))
    | _, _ => none
  | .openFile g opened => match s.phase g with
    | .opening p => some (if opened then s.moveTo g (.writing p) else s.unlock g p)
    | _ => none
  | .writeBody g part => match s.phase g with
    | .writing p =>
      if ∀ text ∈ part, text <+: p.body ∧ text ≠ p.body then
        some ({ s with file := s.file ++ part.getD p.body }.moveTo g (.ending p))
      else none
    | _ => none
  | .writeNewline g written => match s.phase g with
    | .ending p => some ({ s with file := s.file ++ if written then [newline] else [] }.unlock g p)
    | _ => none

/-- No operation on the file fails. -/
def Writes : Label → Prop
  | .openFile _ opened => opened = true
  | .writeBody _ part => part = none
  | .writeNewline _ written => written = true
  | .sendAsync .. | .answer .. | .lock _ => True

def Phase.unended : Phase → JsonText.Text
  | .ending p => p.body
  | .idle | .sending _ | .delivered _ | .failed _ | .opening _ | .writing _ | .returned _ => []

/-- The record in the file whose line is not ended. -/
def State.unended (s : State) : JsonText.Text :=
  (s.backupMu.map fun g => (s.phase g).unended).getD []

/-- The file has a line for every backup that is over, behind what it had before. -/
def Exact (old : JsonText.Text) (s : State) : Prop :=
  s.file = old ++ unlines newline (s.backedUp.map WebhookPayload.body) ++ s.unended

/-- The lines of a file that are ended, each as it is read. -/
def replay (limits : Limits) (file : JsonText.Text) : List (Except Error Value) :=
  (file.splitOn newline).dropLast.map (loads limits)

/-- Holds the mutex. -/
def Phase.inside : Phase → Bool
  | .opening _ | .writing _ | .ending _ => true
  | .idle | .sending _ | .delivered _ | .failed _ | .returned _ => false

structure Valid (s : State) : Prop where
  holder : ∀ g, (s.phase g).inside = true ↔ s.backupMu = some g
  backups : ∀ p, Number (fun g => s.phase g = .returned p) (s.backedUp.count p)

variable {cfg : Config} {s t : State} {l : Label} {ls : List Label} {g h : Nat}
    {p q : WebhookPayload}
variable {phase : Phase} {old : JsonText.Text}

@[simp] theorem moveTo_self : (s.moveTo g phase).phase g = phase := Function.update_self ..

theorem moveTo_other (other : h ≠ g) : (s.moveTo g phase).phase h = s.phase h :=
  Function.update_of_ne other ..

@[simp] theorem moveTo_file : (s.moveTo g phase).file = s.file := rfl

@[simp] theorem moveTo_backupMu : (s.moveTo g phase).backupMu = s.backupMu := rfl

@[simp] theorem moveTo_backedUp : (s.moveTo g phase).backedUp = s.backedUp := rfl

/-- A step moves one goroutine on; what else it does is said here. -/
inductive Does (cfg : Config) (s t : State) : Label → Prop where
  | off (g : Nat) (now : Int) (session : SessionState) (cause : GoString) (same : t = s) :
      Does cfg s t (.sendAsync g now session cause)
  | send (g : Nat) (now : Int) (session : SessionState) (cause : GoString) (was : s.phase g = .idle)
      (done : t = s.moveTo g (.sending (payload cfg now session cause))) :
      Does cfg s t (.sendAsync g now session cause)
  | answer (g : Nat) (status : Option Nat) (p : WebhookPayload) (phase : Phase)
      (was : s.phase g = .sending p) (result : phase = .delivered p ∨ phase = .failed p)
      (done : t = s.moveTo g phase) :
      Does cfg s t (.answer g status)
  | lock (g : Nat) (p : WebhookPayload) (was : s.phase g = .failed p) (free : s.backupMu = none)
      (done : t = { s with backupMu := some g }.moveTo g (.opening p)) : Does cfg s t (.lock g)
  | opened (g : Nat) (p : WebhookPayload) (was : s.phase g = .opening p)
      (done : t = s.moveTo g (.writing p)) :
      Does cfg s t (.openFile g true)
  | unopened (g : Nat) (p : WebhookPayload) (was : s.phase g = .opening p)
      (done : t = s.unlock g p) :
      Does cfg s t (.openFile g false)
  | writeBody (g : Nat) (part : Option JsonText.Text) (p : WebhookPayload)
      (was : s.phase g = .writing p) (short : ∀ text ∈ part, text ≠ p.body)
      (done : t = { s with file := s.file ++ part.getD p.body }.moveTo g (.ending p)) :
      Does cfg s t (.writeBody g part)
  | writeNewline (g : Nat) (written : Bool) (p : WebhookPayload) (was : s.phase g = .ending p)
      (done : t = { s with file := s.file ++ if written then [newline] else [] }.unlock g p) :
      Does cfg s t (.writeNewline g written)

theorem step_does (stepped : step cfg s l = some t) : Does cfg s t l := by
  cases l with
  | sendAsync g now session cause =>
    simp only [step] at stepped
    split at stepped
    · rename_i was
      cases Option.some.inj stepped
      split
      · exact .off g now session cause rfl
      · exact .send g now session cause was rfl
    · cases stepped
  | answer g status =>
    simp only [step] at stepped
    split at stepped
    · rename_i p was
      refine .answer g status p _ was ?_ (Option.some.inj stepped).symm
      split
      · exact .inl rfl
      · exact .inr rfl
    · cases stepped
  | lock g =>
    simp only [step] at stepped
    split at stepped
    · rename_i p was free
      exact .lock g p was free (Option.some.inj stepped).symm
    · cases stepped
  | openFile g opened =>
    simp only [step] at stepped
    split at stepped
    · rename_i p was
      cases opened with
      | true => exact .opened g p was (Option.some.inj stepped).symm
      | false => exact .unopened g p was (Option.some.inj stepped).symm
    · cases stepped
  | writeBody g part =>
    simp only [step] at stepped
    split at stepped
    · rename_i p was
      obtain ⟨short, now⟩ := Option.ite_none_right_eq_some.mp stepped
      exact .writeBody g part p was (fun text mem => (short text mem).2) (Option.some.inj now).symm
    · cases stepped
  | writeNewline g written =>
    simp only [step] at stepped
    split at stepped
    · rename_i p was
      exact .writeNewline g written p was (Option.some.inj stepped).symm
    · cases stepped

/-! ### The mutex -/

/-- A goroutine moves on without the mutex, or keeps it. -/
theorem Valid.moveTo (valid : Valid s) (kept : phase.inside = (s.phase g).inside)
    (before : ∀ q, s.phase g ≠ .returned q) (after : ∀ q, phase ≠ .returned q) :
    Valid (s.moveTo g phase) := by
  constructor
  · intro h
    by_cases self : h = g
    · rw [self, moveTo_self, kept]
      exact valid.holder g
    · rw [moveTo_other self]
      exact valid.holder h
  · refine fun q => (valid.backups q).congr fun h => ?_
    by_cases self : h = g
    · rw [self, moveTo_self]
      exact iff_of_false (after q) (before q)
    · rw [moveTo_other self]

theorem Valid.lock (valid : Valid s) (was : s.phase g = .failed p) (free : s.backupMu = none) :
    Valid ({ s with backupMu := some g }.moveTo g (.opening p)) := by
  constructor
  · intro h
    by_cases self : h = g
    · rw [self, moveTo_self]
      exact iff_of_true rfl rfl
    · have outside : (s.phase h).inside ≠ true := by
        rw [Ne, valid.holder h, free]
        exact Option.some_ne_none h ∘ Eq.symm
      rw [moveTo_other self]
      exact iff_of_false outside fun held => self (Option.some.inj held).symm
  · refine fun q => (valid.backups q).congr fun h => ?_
    by_cases self : h = g
    · rw [self, moveTo_self, was]
      simp
    · rw [moveTo_other self]

theorem Valid.unlock (valid : Valid s) (inside : (s.phase g).inside = true) :
    Valid (s.unlock g p) := by
  have held : s.backupMu = some g := (valid.holder g).mp inside
  constructor
  · intro h
    by_cases self : h = g
    · rw [self, State.unlock, moveTo_self]
      exact iff_of_false Bool.false_ne_true (Option.some_ne_none g ∘ Eq.symm)
    · have outside : (s.phase h).inside ≠ true := by
        rw [Ne, valid.holder h, held]
        exact fun same => self (Option.some.inj same).symm
      rw [State.unlock, moveTo_other self]
      exact iff_of_false outside (Option.some_ne_none h ∘ Eq.symm)
  · intro q
    have before : s.phase g ≠ .returned q := by
      intro returned
      rw [returned] at inside
      cases inside
    have others : ∀ h, h ≠ g → ((s.unlock g p).phase h = .returned q ↔
        s.phase h = .returned q) := by
      intro h other
      rw [State.unlock, moveTo_other other]
    have counted : (s.unlock g p).backedUp.count q = s.backedUp.count q + if p =
        q then 1 else 0 := by
      simp [State.unlock, List.count_append, List.count_singleton]
    rw [counted]
    split_ifs with same
    · exact (valid.backups q).gain before (by rw [State.unlock, moveTo_self, same]) others
    · refine (valid.backups q).congr fun h => ?_
      by_cases self : h = g
      · rw [self, State.unlock, moveTo_self]
        exact iff_of_false (fun returned => same (Phase.returned.inj returned)) before
      · exact others h self

theorem step_valid (valid : Valid s) (stepped : step cfg s l = some t) : Valid t := by
  cases step_does stepped with
  | off g now session cause same => exact same ▸ valid
  | send g now session cause was done =>
    exact done ▸ valid.moveTo (by rw [was]; rfl) (by simp [was]) (by simp)
  | answer g status p phase was result done =>
    rcases result with rfl | rfl
    · exact done ▸ valid.moveTo (by rw [was]; rfl) (by simp [was]) (by simp)
    · exact done ▸ valid.moveTo (by rw [was]; rfl) (by simp [was]) (by simp)
  | lock g p was free done => exact done ▸ valid.lock was free
  | opened g p was done => exact done ▸ valid.moveTo (by rw [was]; rfl) (by simp [was]) (by simp)
  | unopened g p was done => exact done ▸ valid.unlock (by rw [was]; rfl)
  | writeBody g part p was short done =>
    have written : Valid { s with file := s.file ++ part.getD p.body } :=
      ⟨valid.holder, valid.backups⟩
    exact done ▸ written.moveTo (by rw [was]; rfl) (by simp [was]) (by simp)
  | writeNewline g written p was done =>
    have ended : Valid { s with file := s.file ++ if written then [newline] else [] } :=
      ⟨valid.holder, valid.backups⟩
    exact done ▸ ended.unlock (by rw [was]; rfl)

/-! ### The file -/

theorem moveTo_unended : (s.moveTo g phase).unended = if s.backupMu =
    some g then phase.unended else s.unended := by
  simp only [State.unended, moveTo_backupMu]
  cases held : s.backupMu with
  | none => rfl
  | some h =>
    by_cases self : h = g
    · rw [self, if_pos rfl, Option.map_some, Option.getD_some, moveTo_self]
    · rw [if_neg fun same => self (Option.some.inj same), Option.map_some, Option.getD_some,
        moveTo_other self, Option.map_some, Option.getD_some]

theorem unended_of (held : s.backupMu = some g) (was : s.phase g = phase) :
    s.unended = phase.unended := by
  rw [State.unended, held, Option.map_some, Option.getD_some, was]

/-- A goroutine outside of the mutex leaves the file exact. -/
theorem Exact.outside (exact_ : Exact old s) (valid : Valid s)
    (outside : (s.phase g).inside = false) :
    Exact old (s.moveTo g phase) := by
  have other : s.backupMu ≠ some g := fun held => by
    rw [(valid.holder g).mpr held] at outside
    cases outside
  rw [Exact, moveTo_unended, if_neg other]
  exact exact_

theorem unlines_backup (done : List WebhookPayload) :
    unlines newline ((done ++ [p]).map WebhookPayload.body) =
    unlines newline (done.map WebhookPayload.body) ++ p.body ++ [newline] := by
  simp [unlines]

/-- A file that is exact up to the record of the holder is so after it when the line is ended. -/
theorem unlock_exact_iff {text : JsonText.Text}
    (file : s.file = old ++ unlines newline (s.backedUp.map WebhookPayload.body) ++ text) :
    Exact old (s.unlock g p) ↔ text = p.body ++ [newline] := by
  have empty : (s.unlock g p).unended = [] := rfl
  rw [Exact, empty, State.unlock, moveTo_file, moveTo_backedUp, unlines_backup, file,
    List.append_nil,
    List.append_assoc, List.append_assoc, List.append_cancel_left_eq, List.append_cancel_left_eq]

theorem step_exact (valid : Valid s) (exact_ : Exact old s) (stepped : step cfg s l = some t) :
    Exact old t ↔ Writes l := by
  cases step_does stepped with
  | off g now session cause same => exact ⟨fun _ => trivial, fun _ => same ▸ exact_⟩
  | send g now session cause was done =>
    exact ⟨fun _ => trivial, fun _ => done ▸ exact_.outside valid (by rw [was]; rfl)⟩
  | answer g status p phase was result done =>
    exact ⟨fun _ => trivial, fun _ => done ▸ exact_.outside valid (by rw [was]; rfl)⟩
  | lock g p was free done =>
    refine ⟨fun _ => trivial, fun _ => done ▸ ?_⟩
    have before : s.unended = [] := by rw [State.unended, free]; rfl
    rw [Exact, before] at exact_
    rw [Exact, moveTo_unended, if_pos rfl]
    exact exact_
  | opened g p was done =>
    have held : s.backupMu = some g := (valid.holder g).mp (by rw [was]; rfl)
    refine ⟨fun _ => rfl, fun _ => done ▸ ?_⟩
    rw [Exact, unended_of held was] at exact_
    rw [Exact, moveTo_unended, if_pos held]
    exact exact_
  | unopened g p was done =>
    have held : s.backupMu = some g := (valid.holder g).mp (by rw [was]; rfl)
    rw [Exact, unended_of held was] at exact_
    rw [done, unlock_exact_iff exact_]
    simp [Phase.unended, Writes]
  | writeBody g part p was short done =>
    have held : s.backupMu = some g := (valid.holder g).mp (by rw [was]; rfl)
    have before : s.file = old ++ unlines newline (s.backedUp.map WebhookPayload.body) := by
      rw [Exact, unended_of held was, Phase.unended, List.append_nil] at exact_
      exact exact_
    rw [done, Exact, moveTo_unended, if_pos held, moveTo_file, moveTo_backedUp, before,
      List.append_cancel_left_eq]
    cases part with
    | none => exact iff_of_true rfl rfl
    | some text => exact iff_of_false (short text rfl) (Option.some_ne_none text)
  | writeNewline g written p was done =>
    have held : s.backupMu = some g := (valid.holder g).mp (by rw [was]; rfl)
    have before : s.file ++ (if written then [newline] else []) =
        old ++ unlines newline (s.backedUp.map WebhookPayload.body) ++
          (p.body ++ if written then [newline] else []) := by
      rw [Exact, unended_of held was, Phase.unended] at exact_
      rw [exact_, List.append_assoc _ p.body]
    rw [done, unlock_exact_iff before, List.append_cancel_left_eq]
    cases written with
    | true => exact iff_of_true rfl rfl
    | false => exact iff_of_false (List.cons_ne_nil _ _ ∘ Eq.symm) Bool.false_ne_true

theorem start_valid : Valid { file := old } :=
  ⟨fun g => iff_of_false Bool.false_ne_true (Option.some_ne_none g ∘ Eq.symm),
    fun _ => number_zero.mpr fun _ returned => Phase.noConfusion returned⟩

theorem start_exact : Exact old { file := old } := by simp [Exact, unlines, State.unended]

theorem run_exact (run : exec (step cfg) { file := old } ls = some t)
    (writes : Along (step cfg) (fun _ => Writes) { file := old } ls) : Valid t ∧ Exact old t := by
  let sound (s : State) : Prop := Valid s ∧ Exact old s
  have carried : ∀ {s l u}, sound s → Writes l → step cfg s l = some u → sound u := by
    rintro s l u ⟨valid, exact_⟩ writes stepped
    exact ⟨step_valid valid stepped, (step_exact valid exact_ stepped).mpr writes⟩
  have kept : sound t := exec_invariant carried writes run ⟨start_valid, start_exact⟩
  exact kept

/-- However the goroutines interleave: at every moment the file has one line for each backup that is
over, in their order, and at most the record of one more behind them, just when no operation on the
file fails. -/
theorem backup_exact_iff (run : exec (step cfg) { file := old } ls = some t) :
    (∀ past u, past <+: ls → exec (step cfg) { file := old } past = some u → Exact old u) ↔
      Along (step cfg) (fun _ => Writes) { file := old } ls :=
  reached_iff_along (Q := fun _ _ => True) (fun s => Valid s ∧ Exact old s)
    (fun before _ stepped after => (step_exact before.1 before.2 stepped).mp after)
    (fun before _ stepped writes => ⟨step_valid before.1 stepped,
      (step_exact before.1 before.2 stepped).mpr writes⟩)
    And.right ⟨start_valid, start_exact⟩ (along_true _) run

/-! ### Reading it again -/

/-- A number of 64 bits has no more than 19 digits. -/
theorem short_duration (n : Int64) {maxDigits : Nat} (enough : 19 ≤ maxDigits) :
    (decimal n.toInt.natAbs).length ≤ maxDigits := by
  have bound : n.toInt.natAbs < 10 ^ 19 := by
    have upper := n.toInt_lt
    have lower := n.le_toInt
    omega
  refine le_trans ?_ enough
  unfold decimal
  split
  · decide
  · rw [List.length_map, List.length_reverse, Nat.digits_length_le_iff (by decide)]
    exact bound

theorem loads_body (p : WebhookPayload) {limits : Limits} (digits : 19 ≤ limits.digits)
    (nests : 0 < limits.depth) : loads limits p.body = .ok p.value := by
  refine loads_marshal (List.cons_ne_nil _ _) (by simp [WebhookPayload.fields]) ?_ nests
  intro entry mem
  cases shape : entry.2 with
  | string value => trivial
  | int value =>
    simp only [WebhookPayload.fields, List.mem_cons, List.not_mem_nil, or_false] at mem
    rcases mem with rfl | rfl | rfl | rfl | rfl | rfl | rfl | rfl
    all_goals cases shape
    exact short_duration p.duration digits

theorem body_line (p : WebhookPayload) : newline ∉ p.body :=
  fun mem => absurd (printable_marshal p.fields newline mem) (by decide)

/-- A run in which no operation on the file fails, over a file of whole lines: what is read from the
file is what it had before and then every record whose backup is over, and each of the goroutines
that gave up on its record has one line. -/
theorem backup_replayed {lines : List JsonText.Text} (whole : ∀ line ∈ lines, newline ∉ line)
    {limits : Limits} (digits : 19 ≤ limits.digits) (nests : 0 < limits.depth)
    (run : exec (step cfg) { file := unlines newline lines } ls = some t)
    (writes : Along (step cfg) (fun _ => Writes) { file := unlines newline lines } ls) :
    replay limits t.file = lines.map (loads limits) ++ t.backedUp.map (fun p => .ok p.value) ∧
      ∀ p, Number (fun g => t.phase g = .returned p) (t.backedUp.count p) := by
  obtain ⟨valid, exact_⟩ := run_exact run writes
  refine ⟨?_, valid.backups⟩
  have records : unlines newline lines ++ unlines newline (t.backedUp.map WebhookPayload.body) =
      unlines newline (lines ++ t.backedUp.map WebhookPayload.body) := List.flatMap_append.symm
  have clean : ∀ line ∈ lines ++ t.backedUp.map WebhookPayload.body, newline ∉ line := by
    intro line mem
    rcases List.mem_append.mp mem with mem | mem
    · exact whole line mem
    · obtain ⟨p, -, rfl⟩ := List.mem_map.mp mem
      exact body_line p
  have last : newline ∉ t.unended := by
    rw [State.unended]
    cases t.backupMu with
    | none => exact List.not_mem_nil
    | some g => cases shape : t.phase g with
      | ending p => simpa [shape, Phase.unended] using body_line p
      | _ => simp [shape, Phase.unended]
  have split : t.file.splitOn newline = lines ++ t.backedUp.map WebhookPayload.body ++
      [t.unended] := by
    rw [exact_, records]
    exact splitOn_unlines_append clean last
  rw [replay, split, List.dropLast_concat, List.map_append, List.map_map]
  congr 1
  exact List.map_congr_left fun p _ => loads_body p digits nests

def carrier : SessionState :=
  ⟨.ofString "s1", .ofString "n1", .ofString "u1", .ofString "010", [some '"', none], none, none⟩

def crm : Config :=
  ⟨"https://crm", fun d => .ofInt (d / 1000000000), fun _ => .ofString "2026-04-19T00:00:00Z"⟩

/-- Two calls end at once. The one is rejected, and the other does not get through. -/
def rejected : List Label :=
  [.sendAsync 0 100 carrier (.ofString "NORMAL_CLEARING"),
    .sendAsync 1 100 carrier (.ofString "USER_BUSY"), .answer 1 (some 503), .answer 0 none, .lock 1,
    .openFile 1 true, .writeBody 1 none, .writeNewline 1 true, .lock 0, .openFile 0 true,
    .writeBody 0 none, .writeNewline 0 true]

theorem rejected_exact_iff : ∃ t, exec (step crm) { file := [] } rejected = some t ∧
    ((∀ past u, past <+: rejected → exec (step crm) { file := [] } past = some u → Exact [] u) ↔
      Along (step crm) (fun _ => Writes) { file := [] } rejected) := by
  have run : ∃ t, exec (step crm) { file := [] } rejected = some t := ⟨_, rfl⟩
  obtain ⟨t, run⟩ := run
  exact ⟨t, run, backup_exact_iff run⟩

theorem rejected_replayed : ∃ t, exec (step crm) { file := [] } rejected = some t ∧
    replay ⟨4300, 1⟩ t.file = t.backedUp.map (fun p => .ok p.value) ∧
      ∀ p, Number (fun g => t.phase g = .returned p) (t.backedUp.count p) := by
  have run : ∃ t, exec (step crm) { file := [] } rejected = some t := ⟨_, rfl⟩
  obtain ⟨t, run⟩ := run
  have writes : Along (step crm) (fun _ => Writes) { file := [] } rejected := by
    refine along_of_forall (fun l mem _ => ?_) _
    simp only [rejected, List.mem_cons, List.not_mem_nil, or_false] at mem
    rcases mem with rfl | rfl | rfl | rfl | rfl | rfl | rfl | rfl | rfl | rfl | rfl | rfl
    all_goals trivial
  have whole : ∀ line ∈ ([] : List JsonText.Text),
    newline ∉ line := fun _ none => absurd none List.not_mem_nil
  exact ⟨t, run, backup_replayed whole (by decide) (by decide) run writes⟩

end AgentOE.CdrWebhook
