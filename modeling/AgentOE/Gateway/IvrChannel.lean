import AgentOE.Transition

/-! The IVR channel of a session: handlers that send on it, parks that replace it, and the
release that closes it. Every read and write of the session's field is a step of its own. -/
namespace AgentOE.Gateway.IvrChannel
open Transition

inductive IvrEvent where
  | dtmf (digit : String)
  | hangup
  | activateMenu
  deriving DecidableEq, Repr

/-- `make(chan any, 16)`. -/
structure Channel where
  buffer : List IvrEvent
  closed : Bool
  deriving DecidableEq, Repr

inductive Panic where
  | sendOnClosed
  | closeOfClosed
  | closeOfNil
  deriving DecidableEq, Repr

/-- A call of `onDtmf`, `Transfer` or `HandleLocalCommand` up to `selecting` and `waiting`,
of `onChannelPark`, or of `Release`. A channel is the number of its `make`. -/
inductive Call where
  | idle
  | sending (event : IvrEvent)
  | selecting (event : IvrEvent)
  | waiting (event : IvrEvent) (channel : Option Nat)
  | parking
  | releasing
  | taken
  | closing
  | closes (channel : Option Nat)
  | clearing
  | cancelling
  | finished
  | panicked (panic : Panic)
  deriving DecidableEq, Repr

structure State (C : Type) where
  stored : Bool
  ivrEventCh : Option Nat
  channels : List Channel
  cancelled : Bool
  call : C → Call

def State.initial (C : Type) : State C := ⟨true, none, [], false, fun _ => .idle⟩

inductive Case where
  | done
  | send
  | default
  deriving DecidableEq, Repr

inductive Label (C : Type) where
  | send (c : C) (event : IvrEvent)
  | park (c : C)
  | release (c : C)
  | next (c : C)
  /-- A `select` takes one of the cases that can proceed. -/
  | choose (c : C) (choice : Case)
  /-- Something is received from a channel. -/
  | receive (channel : Nat)
  deriving DecidableEq, Repr

variable {C : Type} [DecidableEq C]

def State.moveTo (σ : State C) (c : C) (call : Call) : State C :=
  { σ with call := Function.update σ.call c call }

def State.isClosed (σ : State C) (channel : Nat) : Bool := (σ.channels[channel]?).any Channel.closed

def advance (σ : State C) (c : C) : Call → Option (State C)
  | .sending event =>
    some (σ.moveTo c (if σ.ivrEventCh = none then .finished else .selecting event))
  | .selecting event => some (σ.moveTo c (.waiting event σ.ivrEventCh))
  | .parking =>
    let made : State C := { σ with
      ivrEventCh := some σ.channels.length, channels := σ.channels ++ [⟨[], false⟩] }
    some (made.moveTo c .finished)
  -- `LoadAndDelete`, or the deletion under the lock
  | .releasing =>
    some (if σ.stored then { σ with stored := false }.moveTo c .taken else σ.moveTo c .finished)
  | .taken => some (σ.moveTo c (if σ.ivrEventCh = none then .cancelling else .closing))
  | .closing => some (σ.moveTo c (.closes σ.ivrEventCh))
  | .closes none => some (σ.moveTo c (.panicked .closeOfNil))
  | .closes (some k) =>
    if σ.isClosed k then some (σ.moveTo c (.panicked .closeOfClosed))
    else
      let closed : State C :=
        { σ with channels := σ.channels.modify k fun ch => { ch with closed := true } }
      some (closed.moveTo c .clearing)
  | .clearing => some ({ σ with ivrEventCh := none }.moveTo c .cancelling)
  | .cancelling => some ({ σ with cancelled := true }.moveTo c .finished)
  | .idle | .waiting .. | .finished | .panicked _ => none

/-- The send case: a nil channel never proceeds, a closed one panics. -/
def trySend (σ : State C) (c : C) (event : IvrEvent) (channel : Option Nat) : Option (State C) :=
  channel.bind fun k => (σ.channels[k]?).bind fun ch =>
    if ch.closed then some (σ.moveTo c (.panicked .sendOnClosed))
    else if ch.buffer.length < 16 then
      some ({ σ with channels := σ.channels.set k { ch with buffer := ch.buffer ++ [event] } }.moveTo c .finished)
    else none

def step (σ : State C) : Label C → Option (State C)
  -- the handler has found the session in the store
  | .send c event =>
    if σ.call c = .idle ∧ σ.stored then some (σ.moveTo c (.sending event)) else none
  | .park c => if σ.call c = .idle ∧ σ.stored then some (σ.moveTo c .parking) else none
  | .release c => if σ.call c = .idle then some (σ.moveTo c .releasing) else none
  | .next c => advance σ c (σ.call c)
  | .choose c choice => match σ.call c, choice with
    | .waiting _ _, .done => if σ.cancelled then some (σ.moveTo c .finished) else none
    | .waiting event channel, .send => trySend σ c event channel
    | .waiting event channel, .default =>
      if !σ.cancelled ∧ trySend σ c event channel = none then some (σ.moveTo c .finished) else none
    | _, _ => none
  | .receive k => (σ.channels[k]?).bind fun ch => match ch.buffer with
    | [] => none
    | _ :: rest => some { σ with channels := σ.channels.set k { ch with buffer := rest } }

/-- No sender reads a closed channel from the field, and none is left with the channel that
is being closed. -/
def Guarded (σ : State C) : Label C → Prop
  | .next c => match σ.call c with
    | .selecting _ => ∀ k, σ.ivrEventCh = some k → σ.isClosed k = false
    | .closes (some k) => ∀ d event, σ.call d ≠ .waiting event (some k)
    | _ => True
  | _ => True

/-- The release that has taken the session out of the store, not yet done. -/
def Call.isReleaser : Call → Bool
  | .taken | .closing | .closes _ | .clearing | .cancelling => true
  | _ => false

/-- That release, before it closes. -/
def Call.beforeClose : Call → Bool
  | .taken | .closing | .closes _ => true
  | _ => false

/-- In every reachable state: one release at most is under way, and until it closes every
channel is open. -/
structure Inv (σ : State C) : Prop where
  sole : ∀ c d, (σ.call c).isReleaser = true → (σ.call d).isReleaser = true → c = d
  unstored : ∀ c, (σ.call c).isReleaser = true → σ.stored = false
  known : ∀ k, σ.ivrEventCh = some k → k < σ.channels.length
  held : ∀ c event k, σ.call c = .waiting event (some k) → k < σ.channels.length
  named : ∀ c, σ.call c = .closing → σ.ivrEventCh ≠ none
  closes : ∀ c channel, σ.call c = .closes channel → ∃ k, channel = some k ∧ k < σ.channels.length
  opened : (σ.stored = true ∨ ∃ c, (σ.call c).beforeClose = true) → ∀ k, σ.isClosed k = false
  clean : ∀ c, σ.call c ≠ .panicked .closeOfClosed ∧ σ.call c ≠ .panicked .closeOfNil

section Steps
variable {σ τ : State C} {c : C} {l : Label C}

theorem moveTo_call (σ : State C) (c d : C) (call : Call) :
    (σ.moveTo c call).call d = if d = c then call else σ.call d := by
  simp [State.moveTo, Function.update_apply]

omit [DecidableEq C] in
theorem Inv.initial : Inv (State.initial C) := by
  constructor
  case sole => exact fun c d releaser => nomatch releaser
  case unstored => exact fun c releaser => nomatch releaser
  case known => exact fun k named => nomatch named
  case held => exact fun c event k waiting => nomatch waiting
  case named => exact fun c closing => nomatch closing
  case closes => exact fun c channel closes => nomatch closes
  case opened => exact fun _ k => rfl
  case clean => exact fun c => ⟨nofun, nofun⟩

/-- What a call does to the fields, and where it goes. -/
theorem Inv.move (inv : Inv σ) {base : State C} {call : Call} (calls : base.call = σ.call)
    (released : call.isReleaser = true → base.stored = false ∧
      ((σ.call c).isReleaser = true ∨ σ.stored = true))
    (kept : base.stored = true → σ.stored = true)
    (longer : σ.channels.length ≤ base.channels.length)
    (known : ∀ k, base.ivrEventCh = some k → k < base.channels.length)
    (held : ∀ event k, call = .waiting event (some k) → k < base.channels.length)
    (named : ∀ d, (if d = c then call else σ.call d) = .closing → base.ivrEventCh ≠ none)
    (closes : ∀ channel, call = .closes channel → ∃ k, channel = some k ∧ k < base.channels.length)
    (opened : (base.stored = true ∨ ∃ d, (if d = c then call else σ.call d).beforeClose = true) →
      ∀ k, base.isClosed k = false)
    (clean : call ≠ .panicked .closeOfClosed ∧ call ≠ .panicked .closeOfNil) :
    Inv (base.moveTo c call) := by
  have moved : ∀ d, (base.moveTo c call).call d = if d = c then call else σ.call d := by
    intro d
    rw [moveTo_call, calls]
  have alone : call.isReleaser = true → ∀ d, d ≠ c → (σ.call d).isReleaser ≠ true := by
    intro mine d other theirs
    rcases (released mine).2 with releaser | stored
    · exact other (inv.sole d c theirs releaser)
    · cases stored.symm.trans (inv.unstored d theirs)
  constructor
  case sole =>
    intro d e first second
    rw [moved] at first second
    split at first <;> split at second
    · rename_i left right
      exact left.trans right.symm
    · rename_i other
      exact absurd second (alone first e other)
    · rename_i other _
      exact absurd first (alone second d other)
    · exact inv.sole d e first second
  case unstored =>
    intro d releaser
    rw [moved] at releaser
    change base.stored = false
    split at releaser
    · exact (released releaser).1
    · have gone := inv.unstored d releaser
      cases stored : base.stored with
      | true => cases (kept stored).symm.trans gone
      | false => rfl
  case known => exact known
  case held =>
    intro d event k waiting
    rw [moved] at waiting
    split at waiting
    · exact held event k waiting
    · exact Nat.lt_of_lt_of_le (inv.held d event k waiting) longer
  case named =>
    intro d closing
    rw [moved] at closing
    exact named d closing
  case closes =>
    intro d channel here
    rw [moved] at here
    split at here
    · exact closes channel here
    · obtain ⟨k, same, inside⟩ := inv.closes d channel here
      exact ⟨k, same, Nat.lt_of_lt_of_le inside longer⟩
  case opened =>
    rintro (stored | ⟨d, before⟩)
    · exact opened (.inl stored)
    · rw [moved] at before
      exact opened (.inr ⟨d, before⟩)
  case clean =>
    intro d
    rw [moved]
    split
    · exact clean
    · exact inv.clean d

/-- While a release is under way and has closed, none is before its close. -/
theorem Inv.no_other (inv : Inv σ) (mine : (σ.call c).isReleaser = true) {call : Call}
    (past : call.beforeClose = false) :
    ¬(σ.stored = true ∨ ∃ d, (if d = c then call else σ.call d).beforeClose = true) := by
  rintro (stored | ⟨d, before⟩)
  · cases stored.symm.trans (inv.unstored c mine)
  · split at before
    · cases past.symm.trans before
    · rename_i other
      refine other (inv.sole d c ?_ mine)
      cases phase : σ.call d <;> rw [phase] at before <;> first | rfl | cases before

theorem Inv.named_moved (inv : Inv σ) {call : Call} (other : call ≠ .closing) (d : C)
    (closing : (if d = c then call else σ.call d) = .closing) : σ.ivrEventCh ≠ none := by
  split at closing
  · exact absurd closing other
  · exact inv.named d closing

/-- A step of a call that is no release, or of one that is done. -/
theorem Inv.pass (inv : Inv σ) {call : Call} (other : call.isReleaser = false)
    (held : ∀ event k, call = .waiting event (some k) → k < σ.channels.length)
    (clean : call ≠ .panicked .closeOfClosed ∧ call ≠ .panicked .closeOfNil) :
    Inv (σ.moveTo c call) := by
  have harmless : call ≠ .closing ∧ call.beforeClose = false ∧
      ∀ channel, call ≠ .closes channel := by
    cases call <;> first | exact ⟨nofun, rfl, nofun⟩ | cases other
  refine inv.move rfl (fun releaser => ?_) id (Nat.le_refl _) inv.known held
    (inv.named_moved harmless.1)
    (fun channel here => absurd here (harmless.2.2 channel)) (fun early => inv.opened ?_) clean
  · cases other.symm.trans releaser
  · rcases early with stored | ⟨d, before⟩
    · exact .inl stored
    · split at before
      · cases harmless.2.1.symm.trans before
      · exact .inr ⟨d, before⟩

omit [DecidableEq C] in
/-- Only buffers change. -/
theorem Inv.buffers (inv : Inv σ) {channels : List Channel}
    (size : channels.length = σ.channels.length)
    (same : ∀ k, (channels[k]?).any Channel.closed = σ.isClosed k) :
    Inv { σ with channels := channels } := by
  constructor
  case sole => exact inv.sole
  case unstored => exact inv.unstored
  case known => exact fun k named => size.symm ▸ inv.known k named
  case held => exact fun d event k waiting => size.symm ▸ inv.held d event k waiting
  case named => exact inv.named
  case closes =>
    intro d channel here
    obtain ⟨k, named, inside⟩ := inv.closes d channel here
    exact ⟨k, named, size.symm ▸ inside⟩
  case opened => exact fun early k => (same k).trans (inv.opened early k)
  case clean => exact inv.clean

theorem any_closed_set {channels : List Channel} {ch : Channel} {k : Nat}
    (found : channels[k]? = some ch) (buffer : List IvrEvent) (j : Nat) :
    ((channels.set k { ch with buffer := buffer })[j]?).any Channel.closed =
      (channels[j]?).any Channel.closed := by
  rw [List.getElem?_set]
  split
  · rename_i same
    subst same
    rw [if_pos (List.getElem?_eq_some_iff.mp found).1, found]
    rfl
  · rfl

/-- The send case of a select. -/
theorem trySend_cases {event : IvrEvent} {channel : Option Nat}
    (sent : trySend σ c event channel = some τ) :
    ∃ k ch, channel = some k ∧ σ.channels[k]? = some ch ∧
      ((ch.closed = true ∧ τ = σ.moveTo c (.panicked .sendOnClosed)) ∨
        (ch.closed = false ∧ τ = State.moveTo
          { σ with channels := σ.channels.set k { ch with buffer := ch.buffer ++ [event] } } c .finished)) := by
  simp only [trySend, Option.bind_eq_some_iff] at sent
  obtain ⟨k, rfl, ch, found, sent⟩ := sent
  refine ⟨k, ch, rfl, found, ?_⟩
  split at sent
  · rename_i closed
    exact .inl ⟨closed, (Option.some.inj sent).symm⟩
  · rename_i opened
    split at sent
    · exact .inr ⟨eq_false_of_ne_true opened, (Option.some.inj sent).symm⟩
    · cases sent

omit [DecidableEq C] in
theorem isClosed_eq {ch : Channel} {k : Nat} (found : σ.channels[k]? = some ch) :
    σ.isClosed k = ch.closed := by
  unfold State.isClosed
  rw [found]
  rfl

omit [DecidableEq C] in
theorem isClosed_append (ch : Channel) (opened : ch.closed = false) (k : Nat) :
    ((σ.channels ++ [ch])[k]?).any Channel.closed = σ.isClosed k := by
  unfold State.isClosed
  rw [List.getElem?_append]
  split
  · rfl
  · rename_i beyond
    rw [List.getElem?_eq_none (Nat.le_of_not_lt beyond)]
    cases k - σ.channels.length with
    | zero => exact opened
    | succ n => rfl

omit [DecidableEq C] in
theorem isClosed_modify (j k : Nat) :
    ((σ.channels.modify j fun ch => { ch with closed := true })[k]?).any
    Channel.closed = (σ.isClosed k || (decide (k = j) && decide (k < σ.channels.length))) := by
  unfold State.isClosed
  rw [List.getElem?_modify]
  by_cases inside : k < σ.channels.length
  · rw [List.getElem?_eq_getElem inside]
    by_cases same : j = k
    · simp [same, inside]
    · simp [same, Ne.symm same]
  · rw [List.getElem?_eq_none (Nat.le_of_not_lt inside)]
    simp [inside]

theorem advance_inv (inv : Inv σ) (stepped : advance σ c (σ.call c) = some τ) : Inv τ := by
  have harmless : ∀ call : Call, call.isReleaser = false →
      (∀ event k, call ≠ .waiting event (some k)) →
      (∀ panic, call ≠ .panicked panic) → Inv (σ.moveTo c call) := by
    intro call other elsewhere whole
    exact inv.pass other (fun event k waiting => absurd waiting (elsewhere event k))
      ⟨whole _, whole _⟩
  cases phase : σ.call c with
  | sending event =>
    rw [phase] at stepped
    cases stepped
    split <;> exact harmless _ rfl nofun nofun
  | selecting event =>
    rw [phase] at stepped
    cases stepped
    exact inv.pass rfl (fun event' k waiting => inv.known k (Call.waiting.inj waiting).2)
      ⟨nofun, nofun⟩
  | parking =>
    rw [phase] at stepped
    cases stepped
    refine inv.move rfl nofun id ?_ (fun k named => ?_) nofun (fun d closing => nofun) nofun
      (fun early k => ?_)
      ⟨nofun, nofun⟩
    · simp
    · cases named
      simp
    · refine (isClosed_append _ rfl k).trans (inv.opened ?_ k)
      rcases early with stored | ⟨d, before⟩
      · exact .inl stored
      · split at before
        · cases before
        · exact .inr ⟨d, before⟩
  | releasing =>
    rw [phase] at stepped
    cases stepped
    split
    · rename_i stored
      exact inv.move rfl (fun _ => ⟨rfl, .inr stored⟩) nofun (Nat.le_refl _) inv.known nofun
        (inv.named_moved nofun) nofun (fun _ k => inv.opened (.inl stored) k) ⟨nofun, nofun⟩
    · exact harmless _ rfl nofun nofun
  | taken =>
    rw [phase] at stepped
    cases stepped
    have mine : (σ.call c).isReleaser = true := by rw [phase]; rfl
    have before : (σ.call c).beforeClose = true := by rw [phase]; rfl
    have gone := inv.unstored c mine
    refine inv.move rfl (fun _ => ⟨gone, .inl mine⟩) id (Nat.le_refl _) inv.known ?_
      (fun d closing => ?_) ?_
      (fun _ k => inv.opened (.inr ⟨c, before⟩) k) ?_
    · split <;> exact nofun
    · split at closing
      · split at closing
        · cases closing
        · assumption
      · exact inv.named d closing
    · split <;> exact nofun
    · split <;> exact ⟨nofun, nofun⟩
  | closing =>
    rw [phase] at stepped
    cases stepped
    have mine : (σ.call c).isReleaser = true := by rw [phase]; rfl
    have before : (σ.call c).beforeClose = true := by rw [phase]; rfl
    refine inv.move rfl (fun _ => ⟨inv.unstored c mine, .inl mine⟩) id
      (Nat.le_refl _) inv.known nofun
      (inv.named_moved nofun) (fun channel here => ?_) (fun _ k => inv.opened (.inr ⟨c, before⟩) k)
        ⟨nofun, nofun⟩
    obtain ⟨k, named⟩ := Option.ne_none_iff_exists'.mp (inv.named c phase)
    cases here
    exact ⟨k, named, inv.known k named⟩
  | closes channel =>
    rw [phase] at stepped
    have mine : (σ.call c).isReleaser = true := by rw [phase]; rfl
    have before : (σ.call c).beforeClose = true := by rw [phase]; rfl
    obtain ⟨k, rfl, inside⟩ := inv.closes c channel phase
    simp only [advance, inv.opened (.inr ⟨c, before⟩) k, Bool.false_eq_true, ↓reduceIte] at stepped
    cases stepped
    refine inv.move rfl (fun _ => ⟨inv.unstored c mine, .inl mine⟩) id (Nat.le_of_eq ?_)
      (fun j named => ?_) nofun
      (inv.named_moved nofun) nofun (fun early => absurd early (inv.no_other mine rfl))
        ⟨nofun, nofun⟩
    · exact List.length_modify .. |>.symm
    · exact Nat.lt_of_lt_of_eq (inv.known j named) (List.length_modify ..).symm
  | clearing =>
    rw [phase] at stepped
    cases stepped
    have mine : (σ.call c).isReleaser = true := by rw [phase]; rfl
    refine inv.move rfl (fun _ => ⟨inv.unstored c mine, .inl mine⟩) id (Nat.le_refl _) nofun nofun
      (fun d closing => ?_) nofun (fun early => absurd early (inv.no_other mine rfl)) ⟨nofun, nofun⟩
    split at closing
    · cases closing
    · rename_i other
      exact absurd (inv.sole d c (by rw [closing]; rfl) mine) other
  | cancelling =>
    rw [phase] at stepped
    cases stepped
    have mine : (σ.call c).isReleaser = true := by rw [phase]; rfl
    exact inv.move rfl nofun id (Nat.le_refl _) inv.known nofun (inv.named_moved nofun) nofun
      (fun early => absurd early (inv.no_other mine rfl)) ⟨nofun, nofun⟩
  | idle | waiting _ _ | finished | panicked _ =>
    rw [phase] at stepped
    cases stepped

omit [DecidableEq C] in
theorem Inv.set_buffer (inv : Inv σ) {ch : Channel} {k : Nat} (found : σ.channels[k]? = some ch)
    (buffer : List IvrEvent) :
    Inv { σ with channels := σ.channels.set k { ch with buffer := buffer } } :=
  inv.buffers (List.length_set ..) (any_closed_set found buffer)

theorem step_inv (inv : Inv σ) (stepped : step σ l = some τ) : Inv τ := by
  cases l with
  | send d event | park d | release d =>
    obtain ⟨_, ⟨⟩⟩ := Option.ite_none_right_eq_some.mp stepped
    exact inv.pass rfl nofun ⟨nofun, nofun⟩
  | next d => exact advance_inv inv stepped
  | choose d choice =>
    simp only [step] at stepped
    split at stepped
    · obtain ⟨_, ⟨⟩⟩ := Option.ite_none_right_eq_some.mp stepped
      exact inv.pass rfl nofun ⟨nofun, nofun⟩
    · obtain ⟨k, ch, rfl, found, ⟨_, rfl⟩ | ⟨_, rfl⟩⟩ := trySend_cases stepped
      · exact inv.pass rfl nofun ⟨nofun, nofun⟩
      · exact (inv.set_buffer found _).pass rfl nofun ⟨nofun, nofun⟩
    · obtain ⟨_, ⟨⟩⟩ := Option.ite_none_right_eq_some.mp stepped
      exact inv.pass rfl nofun ⟨nofun, nofun⟩
    · cases stepped
  | receive k =>
    obtain ⟨ch, found, taken⟩ := Option.bind_eq_some_iff.mp stepped
    split at taken
    · cases taken
    · cases taken
      exact inv.set_buffer found _

/-- Every sender that has evaluated the field holds an open channel, and none has panicked. -/
structure Spared (σ : State C) : Prop where
  opened : ∀ c event k, σ.call c = .waiting event (some k) → σ.isClosed k = false
  whole : ∀ c, σ.call c ≠ .panicked .sendOnClosed

omit [DecidableEq C] in
theorem Spared.initial : Spared (State.initial C) := by
  constructor
  case opened => exact fun c event k waiting => nomatch waiting
  case whole => exact fun c => nofun

theorem Spared.move (spared : Spared σ) {base : State C} {call : Call} (calls : base.call = σ.call)
    (kept : ∀ k, (∃ d event, d ≠ c ∧ σ.call d = .waiting event (some k)) → σ.isClosed k = false →
      base.isClosed k = false)
    (held : ∀ event k, call = .waiting event (some k) → base.isClosed k = false)
    (whole : call ≠ .panicked .sendOnClosed) : Spared (base.moveTo c call) := by
  constructor
  case opened =>
    intro d event k waiting
    change base.isClosed k = false
    rw [moveTo_call, calls] at waiting
    split at waiting
    · exact held event k waiting
    · rename_i other
      exact kept k ⟨d, event, other, waiting⟩ (spared.opened d event k waiting)
  case whole =>
    intro d
    rw [moveTo_call, calls]
    split
    · exact whole
    · exact spared.whole d

omit [DecidableEq C] in
theorem Spared.set_buffer (spared : Spared σ) {ch : Channel} {k : Nat}
    (found : σ.channels[k]? = some ch) (buffer : List IvrEvent) :
    Spared { σ with channels := σ.channels.set k { ch with buffer := buffer } } where
  opened d event j waiting :=
    (any_closed_set found buffer j).trans (spared.opened d event j waiting)
  whole := spared.whole

/-- A step that closes nothing, to a call that holds no channel. -/
theorem Spared.pass (spared : Spared σ) {base : State C} {call : Call} (calls : base.call = σ.call)
    (channels : base.channels = σ.channels) (elsewhere : ∀ event k, call ≠ .waiting event (some k))
    (whole : call ≠ .panicked .sendOnClosed) : Spared (base.moveTo c call) := by
  refine spared.move calls (fun k _ opened => ?_)
    (fun event k waiting => absurd waiting (elsewhere event k)) whole
  exact (congrArg (fun channels : List Channel =>
    (channels[k]?).any Channel.closed) channels).trans opened

theorem advance_spared (spared : Spared σ) (guarded : Guarded σ (.next c))
    (stepped : advance σ c (σ.call c) = some τ) : Spared τ := by
  cases phase : σ.call c with
  | sending event | taken | releasing =>
    rw [phase] at stepped
    cases stepped
    split <;> exact spared.pass rfl rfl nofun nofun
  | selecting event =>
    simp only [Guarded, phase] at guarded
    rw [phase] at stepped
    cases stepped
    refine spared.move rfl (fun k _ opened => opened) (fun event' k waiting => guarded k ?_) nofun
    exact (Call.waiting.inj waiting).2
  | parking =>
    rw [phase] at stepped
    cases stepped
    exact spared.move rfl (fun k _ opened => (isClosed_append _ rfl k).trans opened) nofun nofun
  | closing | clearing | cancelling =>
    rw [phase] at stepped
    cases stepped
    exact spared.pass rfl rfl nofun nofun
  | closes channel =>
    simp only [Guarded, phase] at guarded
    rw [phase] at stepped
    cases channel with
    | none =>
      cases stepped
      exact spared.pass rfl rfl nofun nofun
    | some j =>
      simp only [advance] at stepped
      split at stepped
      · cases stepped
        exact spared.pass rfl rfl nofun nofun
      · cases stepped
        refine spared.move rfl (fun k user opened => ?_) nofun nofun
        obtain ⟨d, event, _, waiting⟩ := user
        have other : k ≠ j := fun same => guarded d event (same ▸ waiting)
        refine (isClosed_modify j k).trans ?_
        simp [opened, other]
  | idle | waiting _ _ | finished | panicked _ =>
    rw [phase] at stepped
    cases stepped

theorem step_spared (spared : Spared σ) (guarded : Guarded σ l) (stepped : step σ l = some τ) :
    Spared τ := by
  cases l with
  | send d event | park d | release d =>
    obtain ⟨_, ⟨⟩⟩ := Option.ite_none_right_eq_some.mp stepped
    exact spared.pass rfl rfl nofun nofun
  | next d => exact advance_spared spared guarded stepped
  | choose d choice =>
    simp only [step] at stepped
    split at stepped
    · obtain ⟨_, ⟨⟩⟩ := Option.ite_none_right_eq_some.mp stepped
      exact spared.pass rfl rfl nofun nofun
    · rename_i waiting
      obtain ⟨k, ch, rfl, found, ⟨closed, rfl⟩ | ⟨_, rfl⟩⟩ := trySend_cases stepped
      · cases ((isClosed_eq found).trans closed).symm.trans (spared.opened d _ k waiting)
      · exact (spared.set_buffer found _).pass rfl rfl nofun nofun
    · obtain ⟨_, ⟨⟩⟩ := Option.ite_none_right_eq_some.mp stepped
      exact spared.pass rfl rfl nofun nofun
    · cases stepped
  | receive k =>
    obtain ⟨ch, found, taken⟩ := Option.bind_eq_some_iff.mp stepped
    split at taken
    · cases taken
    · cases taken
      exact spared.set_buffer found _

/-- The send case of a select panics where the channel it holds is closed. -/
theorem send_panics {event : IvrEvent} {k : Nat} (waiting : σ.call c = .waiting event (some k))
    (closed : σ.isClosed k = true) :
    step σ (.choose c .send) = some (σ.moveTo c (.panicked .sendOnClosed)) := by
  cases found : σ.channels[k]? with
  | none =>
    rw [State.isClosed, found] at closed
    cases closed
  | some ch =>
    have shut : ch.closed = true := (isClosed_eq found).symm.trans closed
    simp [step, waiting, trySend, found, shut]

/-- A step that is not guarded leaves a sender whose send would panic. -/
theorem panic_of_not_guarded (inv : Inv σ) (unguarded : ¬Guarded σ l)
    (stepped : step σ l = some τ) :
    ∃ d event k, τ.call d = .waiting event (some k) ∧ τ.isClosed k = true := by
  cases l with
  | next c =>
    simp only [step] at stepped
    cases phase : σ.call c with
    | selecting event =>
      simp only [Guarded, phase, not_forall, Bool.not_eq_false] at unguarded
      obtain ⟨k, named, closed⟩ := unguarded
      rw [phase] at stepped
      cases stepped
      refine ⟨c, event, k, ?_, closed⟩
      rw [moveTo_call, if_pos rfl, named]
    | closes channel =>
      obtain ⟨k, rfl, inside⟩ := inv.closes c channel phase
      simp only [Guarded, phase, not_forall, ne_eq, not_not] at unguarded
      obtain ⟨d, event, waiting⟩ := unguarded
      have other : d ≠ c := by
        rintro rfl
        cases phase.symm.trans waiting
      have opened : σ.isClosed k = false := inv.opened (.inr ⟨c, by rw [phase]; rfl⟩) k
      simp only [phase, advance, opened, Bool.false_eq_true, ↓reduceIte] at stepped
      cases stepped
      refine ⟨d, event, k, ?_, ?_⟩
      · rw [moveTo_call, if_neg other]
        exact waiting
      · refine (isClosed_modify k k).trans ?_
        simp [inside]
    | _ => simp [Guarded, phase] at unguarded
  | _ => exact absurd trivial unguarded

end Steps

/-- No channel is closed twice, and a run sends on no closed channel just when it is guarded. -/
theorem closed_channels_spared {labels : List (Label C)} {τ : State C}
    (run : exec step (State.initial C) labels = some τ) :
    (∀ c, τ.call c ≠ .panicked .closeOfClosed ∧ τ.call c ≠ .panicked .closeOfNil) ∧
    (Along step Guarded (State.initial C) labels → ∀ c, τ.call c ≠ .panicked .sendOnClosed) ∧
    (Along step Guarded (State.initial C) labels ↔ ∀ past σ, past <+: labels →
      exec step (State.initial C) past = some σ → ∀ c σ', step σ (.choose c .send) = some σ' →
        σ'.call c ≠ .panicked .sendOnClosed) := by
  have inv : Inv τ :=
    exec_preserves Inv (fun _ _ _ inv stepped => step_inv inv stepped) run Inv.initial
  have spared (along : Along step Guarded (State.initial C) labels) : Spared τ :=
    exec_invariant (fun before guarded stepped =>
      step_spared before guarded stepped) along run Spared.initial
  refine ⟨inv.clean, fun along => (spared along).whole, Iff.symm ?_⟩
  refine reached_iff_along (fun σ => Inv σ ∧ Spared σ) ?_ ?_ ?_ ⟨Inv.initial, Spared.initial⟩
    (along_true _) run
  · rintro σ l ρ ⟨inv, -⟩ - stepped safe
    by_contra unguarded
    obtain ⟨d, event, k, waiting, closed⟩ := panic_of_not_guarded inv unguarded stepped
    refine safe d _ (send_panics waiting closed) ?_
    rw [moveTo_call, if_pos rfl]
  · rintro σ l ρ ⟨inv, before⟩ - stepped guarded
    exact ⟨step_inv inv stepped, step_spared before guarded stepped⟩
  · rintro σ ⟨-, before⟩ c σ' sent
    exact (step_spared (l := .choose c .send) before trivial sent).whole c

/-- A park, a digit that is received, and a release. -/
def orderly : List (Label (Fin 3)) :=
  [.park 0, .next 0, .send 1 (.dtmf "1"), .next 1, .next 1, .choose 1 .send, .receive 0, .release 2,
    .next 2, .next 2, .next 2, .next 2, .next 2, .next 2]

theorem orderly_run_spared : ∃ τ, exec step (State.initial (Fin 3)) orderly = some τ ∧
    ∀ c, τ.call c ≠ .panicked .sendOnClosed := by
  obtain ⟨τ, run⟩ : ∃ τ, exec step (State.initial (Fin 3)) orderly = some τ := ⟨_, rfl⟩
  have guarded : Along step Guarded (State.initial (Fin 3)) orderly := by
    iterate 4 refine along_cons trivial rfl ?_
    refine along_cons (fun k named => ?_) rfl ?_
    · cases named
      rfl
    iterate 6 refine along_cons trivial rfl ?_
    refine along_cons (fun d event => ?_) rfl ?_
    · revert d
      simp [Fin.forall_fin_succ, State.moveTo, State.initial, Function.update]
    iterate 2 refine along_cons trivial rfl ?_
    trivial
  exact ⟨τ, run, (closed_channels_spared run).2.1 guarded⟩

/-- A sender has evaluated the field when the release closes the channel. -/
def overtaken : List (Label (Fin 3)) :=
  [.park 0, .next 0, .send 1 (.dtmf "1"), .next 1, .next 1, .release 2, .next 2, .next 2, .next 2,
    .next 2, .choose 1 .send]

theorem overtaken_sender_panics : ∃ τ, exec step (State.initial (Fin 3)) overtaken = some τ ∧
    τ.call 1 = .panicked .sendOnClosed := ⟨_, rfl, rfl⟩

end AgentOE.Gateway.IvrChannel
