import AgentOE.Gateway.IvrChannel

/-! The IVR machines of a session. Every park makes a channel, a forwarder and a machine, and stops
none of the earlier ones. ESL events and control requests are handled one at a time, between the
steps of the goroutines. -/
namespace AgentOE.Gateway.IvrMachine
open Transition
open IvrChannel (IvrEvent Channel)

structure IvrNode where
  onDtmf : List (String × String)
  action : String
  deriving DecidableEq, Repr

structure Scenario where
  initialState : String
  nodes : List (String × IvrNode)
  deriving DecidableEq, Repr

inductive Callback where
  | enterAiChat
  | transfer
  | disconnect
  | repeatMenu
  | forwardDtmf (digit : String)
  deriving DecidableEq, Repr

def executeAction (node : IvrNode) : List Callback :=
  if node.action = "START_AI" then [.enterAiChat]
  else if node.action = "TRANSFER" then [.transfer]
  else if node.action = "DISCONNECT" then [.disconnect]
  else if node.action = "REPEAT_MENU" then [.repeatMenu]
  else []

/-- The next state and the callbacks made. -/
def handleDtmf (scenario : Scenario) (state digit : String) : String × List Callback :=
  match scenario.nodes.lookup state with
  | none => (state, [])
  | some node => match node.onDtmf.lookup digit with
    | none => (state, if node.action = "START_AI" then [.forwardDtmf digit] else [])
    -- a state that the map does not have reads as the zero node
    | some nextState => (nextState, executeAction ((scenario.nodes.lookup nextState).getD ⟨[], ""⟩))

def handleEvent (scenario : Scenario) (state : String) : IvrEvent → String × List Callback
  | .activateMenu => (scenario.initialState, [.repeatMenu])
  | .hangup => ("IDLE", [])
  | .dtmf digit => handleDtmf scenario state digit

/-- What `NewMachine` takes for a nil scenario, as every park passes it. -/
def minimalScenario : Scenario := ⟨"IDLE", [("IDLE", ⟨[], ""⟩)]⟩

/-- Seconds. -/
def defaultInactivityTimeout : Nat := 300

inductive Phase where
  | starting
  | running (deadline : Nat)
  | stopped
  deriving DecidableEq, Repr

/-- `received` is what the machine has handled. -/
structure Machine where
  state : String
  eventCh : List IvrEvent
  phase : Phase
  received : List IvrEvent
  deriving DecidableEq, Repr

/-- The goroutine between a channel and a machine: about to evaluate the field, in a `select`
on the channel it evaluated, or with an event in hand. -/
inductive Forwarder where
  | reading
  | waiting (channel : Option Nat)
  | carrying (event : IvrEvent)
  | stopped
  deriving DecidableEq, Repr

/-- What one `onChannelPark` has made. -/
structure Park where
  channel : Channel
  forwarder : Forwarder
  machine : Machine
  deriving DecidableEq, Repr

/-- The channel of the field is named by the park that made it. `called` are the callbacks of the
machines, of which `disconnect` kills the call, and `pressed` the digits since the last park. -/
structure State where
  now : Nat
  stored : Bool
  cancelled : Bool
  ivrEventCh : Option Nat
  parks : List Park
  aiPaused : Bool
  bridgedWith : String
  called : List (Nat × Callback)
  pressed : List String
  deriving DecidableEq, Repr

def State.initial : State := ⟨0, true, false, none, [], false, "", [], []⟩

inductive Label where
  | park
  | dtmf (digit : String)
  | hangup
  | bridge (first : Bool) (other : String) (ok : Bool)
  | unbridge (first : Bool) (ok : Bool)
  | transfer
  | forward (p : Nat)
  | leave (p : Nat)
  | start (p : Nat)
  | handle (p : Nat)
  | timeout (p : Nat)
  | stop (p : Nat)
  | wait (seconds : Nat)
  deriving DecidableEq, Repr

def State.update (σ : State) (p : Nat) (f : Park → Park) : State :=
  { σ with parks := σ.parks.modify p f }

def Park.push (r : Park) (event : IvrEvent) : Park :=
  { r with channel := { r.channel with buffer := r.channel.buffer ++ [event] } }

def Park.pop (r : Park) : Park :=
  { r with channel := { r.channel with buffer := r.channel.buffer.tail } }

def Park.drive (r : Park) (forwarder : Forwarder) : Park := { r with forwarder := forwarder }

def Park.deliver (r : Park) (event : IvrEvent) : Park :=
  { r with forwarder := .reading, machine := { r.machine with eventCh := r.machine.eventCh ++ [event] } }

def Park.enter (r : Park) (phase : Phase) : Park :=
  { r with machine := { r.machine with phase := phase } }

def Park.handled (r : Park) (event : IvrEvent) (deadline : Nat) : Park :=
  { r with machine := ⟨(handleEvent minimalScenario r.machine.state event).1, r.machine.eventCh.tail,
    .running deadline, r.machine.received ++ [event]⟩ }

/-- The `select` of a sender with a `default`: the event is dropped when the channel is full.
The field names no closed channel here. -/
def offer (σ : State) (event : IvrEvent) : State :=
  match σ.ivrEventCh with
  | none => σ
  | some k => if ((σ.parks[k]?).all fun r => decide (r.channel.buffer.length < 16)) = true then
      σ.update k (·.push event) else σ

/-- One step of the forwarder. -/
def forward (σ : State) (p : Nat) (r : Park) : Option State :=
  match r.forwarder with
  | .reading => some (σ.update p (·.drive (.waiting σ.ivrEventCh)))
  | .waiting none => none
  | .waiting (some k) => (σ.parks[k]?).bind fun q => match q.channel.buffer with
    | event :: _ => some ((σ.update k Park.pop).update p (·.drive (.carrying event)))
    | [] => if q.channel.closed then some (σ.update p (·.drive .stopped)) else none
  | .carrying event =>
    if r.machine.eventCh.length < 16 then some (σ.update p (·.deliver event)) else none
  | .stopped => none

def step (σ : State) : Label → Option State
  | .park => if σ.stored then
      some { σ with
        ivrEventCh := some σ.parks.length
        parks := σ.parks ++ [⟨⟨[], false⟩, .reading,
          ⟨minimalScenario.initialState, [.activateMenu], .starting, []⟩⟩]
        pressed := [] }
    else some σ
  | .dtmf digit => if σ.stored then
      some (offer { σ with pressed := σ.pressed ++ [digit] } (.dtmf digit)) else some σ
  -- `Release`
  | .hangup => if σ.stored then
      let closed := match σ.ivrEventCh with
        | some k => σ.update k fun r => { r with channel := { r.channel with closed := true } }
        | none => σ
      some { closed with stored := false, ivrEventCh := none, cancelled := true }
    else some σ
  | .bridge first other ok => if σ.stored then
      if ok then some { σ with aiPaused := first || σ.aiPaused, bridgedWith := other }
      else some { σ with aiPaused := !first && σ.aiPaused }
    else some σ
  | .unbridge first ok => if σ.stored ∧ ok then
      some { σ with aiPaused := !first && σ.aiPaused, bridgedWith := "" } else some σ
  | .transfer => if σ.stored then some (offer σ .hangup) else some σ
  | .forward p => (σ.parks[p]?).bind fun r => forward σ p r
  | .leave p => (σ.parks[p]?).bind fun r => match r.forwarder with
    | .waiting _ | .carrying _ => if σ.cancelled then some (σ.update p (·.drive .stopped)) else none
    | _ => none
  | .start p => (σ.parks[p]?).bind fun r => match r.machine.phase with
    | .starting => some (σ.update p (·.enter (.running (σ.now + defaultInactivityTimeout))))
    | _ => none
  | .handle p => (σ.parks[p]?).bind fun r => match r.machine.phase, r.machine.eventCh with
    | .running _, event :: _ =>
      let callbacks := (handleEvent minimalScenario r.machine.state event).2
      some { σ.update p (·.handled event (σ.now + defaultInactivityTimeout)) with
        called := σ.called ++ callbacks.map (p, ·) }
    | _, _ => none
  | .timeout p => (σ.parks[p]?).bind fun r => match r.machine.phase with
    | .running deadline => if deadline ≤ σ.now then
        some { σ.update p (·.enter .stopped) with called := σ.called ++ [(p, .disconnect)] }
      else none
    | _ => none
  | .stop p => (σ.parks[p]?).bind fun r => match r.machine.phase with
    | .running _ => if σ.cancelled then some (σ.update p (·.enter .stopped)) else none
    | _ => none
  | .wait seconds => some { σ with now := σ.now + seconds }

/-- The machine has not returned from `Run`. -/
def State.Live (σ : State) (p : Nat) : Prop :=
  ∃ r, σ.parks[p]? = some r ∧ r.machine.phase ≠ .stopped

instance (σ : State) (p : Nat) : Decidable (σ.Live p) :=
  decidable_of_iff (((σ.parks[p]?).any fun r => decide (r.machine.phase ≠ .stopped)) = true) <| by
    simp [State.Live, Option.any_eq_true]

def digitOf : IvrEvent → Option String
  | .dtmf digit => some digit
  | _ => none

def Forwarder.hand : Forwarder → List IvrEvent
  | .carrying event => [event]
  | _ => []

/-- The events on the way from a channel to its machine and those that are there, in order. -/
def Park.events (r : Park) : List IvrEvent :=
  r.machine.received ++ r.machine.eventCh ++ r.forwarder.hand ++ r.channel.buffer

def Park.digits (r : Park) : List String := r.events.filterMap digitOf

/-- The machine is done, and the forwarder can take nothing from a later channel. -/
def Park.Retired (r : Park) (p : Nat) : Prop :=
  r.machine.phase = .stopped ∧ (r.forwarder = .stopped ∨
    (r.forwarder = .waiting (some p) ∧ r.channel.buffer = []) ∨
    (∃ event, r.forwarder = .carrying event) ∧ 16 ≤ r.machine.eventCh.length)

/-- A park comes when all earlier ones are retired, and a digit finds room in the channel. -/
def Settled (σ : State) : Label → Prop
  | .park => σ.stored = true → ∀ (p : Nat) (r : Park), σ.parks[p]? = some r → r.Retired p
  | .dtmf _ => ∀ (k : Nat) (r : Park), σ.ivrEventCh = some k → σ.parks[k]? = some r →
      r.channel.buffer.length < 16
  | _ => True

theorem hand_ne_nil {f : Forwarder} : f.hand ≠ [] ↔ ∃ event, f = .carrying event := by
  cases f <;> simp [Forwarder.hand]

instance (r : Park) (p : Nat) : Decidable (r.Retired p) :=
  decidable_of_iff (r.machine.phase = .stopped ∧ (r.forwarder = .stopped ∨
    (r.forwarder = .waiting (some p) ∧ r.channel.buffer = []) ∨
    r.forwarder.hand ≠ [] ∧ 16 ≤ r.machine.eventCh.length)) <| by rw [hand_ne_nil]; rfl

instance (σ : State) : (l : Label) → Decidable (Settled σ l)
  | .park => decidable_of_iff (σ.stored = true → ∀ q ∈ σ.parks.zipIdx, q.1.Retired q.2) <| by
      simp only [Settled, Prod.forall, List.mem_zipIdx_iff_getElem?]
      exact imp_congr_right fun _ => forall_comm
  | .dtmf _ =>
    decidable_of_iff (∀ k ∈ σ.ivrEventCh, ∀ r ∈ σ.parks[k]?, r.channel.buffer.length < 16) <| by
      simp only [Settled, Option.mem_def]
      exact forall_congr' fun k => ⟨fun room r named found => room named r found,
        fun room named r found => room r named found⟩
  | .hangup | .bridge .. | .unbridge .. | .transfer | .forward _ | .leave _ | .start _
  | .handle _ | .timeout _ | .stop _ | .wait _ => .isTrue trivial

/-- The forwarder of the last park serves its channel, while the session is stored. -/
def Park.Current (r : Park) (p : Nat) : Prop :=
  r.channel.closed = false ∧
    (r.forwarder = .reading ∨ r.forwarder = .waiting (some p) ∨
      ∃ event, r.forwarder = .carrying event)

structure Inv (σ : State) : Prop where
  retired : ∀ p r, σ.parks[p]? = some r → p + 1 < σ.parks.length → r.Retired p
  alive : σ.stored = true → σ.cancelled = false
  field : σ.stored = true → ∀ p, σ.ivrEventCh = some p ↔ p + 1 = σ.parks.length
  current : σ.stored = true → ∀ p r, σ.parks[p]? = some r → p + 1 = σ.parks.length → r.Current p
  digits : σ.stored = true → ∀ p r, σ.parks[p]? = some r → p + 1 = σ.parks.length →
    r.digits = σ.pressed

section Steps
variable {σ τ : State} {p k : Nat} {r : Park} {l : Label}

theorem Inv.initial : Inv State.initial := by
  constructor
  case retired => exact fun p r found => nomatch found
  case alive => exact fun _ => rfl
  case field => exact fun _ p => by simp [State.initial]
  case current => exact fun _ p r found => nomatch found
  case digits => exact fun _ p r found => nomatch found

/-- Steps that make no park. -/
theorem Inv.change (inv : Inv σ) (size : τ.parks.length = σ.parks.length)
    (fields : τ.stored = true → σ.stored = true ∧ τ.cancelled = σ.cancelled ∧
      τ.ivrEventCh = σ.ivrEventCh)
    (kept : ∀ p r', τ.parks[p]? = some r' → ∃ r, σ.parks[p]? = some r ∧
      (p + 1 < σ.parks.length → r.Retired p → r'.Retired p) ∧
      (τ.stored = true → p + 1 = σ.parks.length → r.Current p → r.digits = σ.pressed →
        r'.Current p ∧ r'.digits = τ.pressed)) : Inv τ := by
  have old : ∀ p r', τ.parks[p]? = some r' → p + 1 < τ.parks.length → r'.Retired p := by
    intro p r' found early
    obtain ⟨r, before, retired, -⟩ := kept p r' found
    rw [size] at early
    exact retired early (inv.retired p r before early)
  have last : τ.stored = true → ∀ p r', τ.parks[p]? = some r' → p + 1 = τ.parks.length →
      r'.Current p ∧ r'.digits = τ.pressed := by
    intro stored p r' found last
    obtain ⟨r, before, -, current⟩ := kept p r' found
    rw [size] at last
    have was := (fields stored).1
    exact current stored last (inv.current was p r before last) (inv.digits was p r before last)
  constructor
  case retired => exact old
  case alive =>
    intro stored
    obtain ⟨was, cancelled, -⟩ := fields stored
    exact cancelled.trans (inv.alive was)
  case field =>
    intro stored p
    obtain ⟨was, -, same⟩ := fields stored
    rw [same, size]
    exact inv.field was p
  case current => exact fun stored p r' found end_ => (last stored p r' found end_).1
  case digits => exact fun stored p r' found end_ => (last stored p r' found end_).2

/-- One park changes. -/
theorem Inv.update (inv : Inv σ) {f : Park → Park} (found : σ.parks[p]? = some r)
    (parks : τ.parks = σ.parks.modify p f)
    (fields : τ.stored = σ.stored ∧ τ.cancelled = σ.cancelled ∧ τ.ivrEventCh = σ.ivrEventCh)
    (retired : p + 1 < σ.parks.length → r.Retired p → (f r).Retired p)
    (current : τ.stored = true → p + 1 = σ.parks.length → r.Current p → r.digits = σ.pressed →
      (f r).Current p ∧ (f r).digits = τ.pressed) (same :
    τ.pressed = σ.pressed ∨ p + 1 = σ.parks.length) :
    Inv τ := by
  refine inv.change (parks ▸ List.length_modify ..) (fun stored => ⟨fields.1 ▸ stored, fields.2⟩)
    fun q r' after => ?_
  rw [parks, List.getElem?_modify] at after
  obtain ⟨r₀, before, rfl⟩ := Option.map_eq_some_iff.mp after
  refine ⟨r₀, before, ?_, ?_⟩
  · intro early was
    split
    · rename_i here
      subst here
      cases Option.some.inj (before.symm.trans found)
      exact retired early was
    · exact was
  · intro stored last was digits
    split
    · rename_i here
      subst here
      cases Option.some.inj (before.symm.trans found)
      exact current stored last was digits
    · rename_i elsewhere
      rcases same with same | other
      · exact ⟨was, digits.trans same.symm⟩
      · exact absurd (Nat.succ.inj (other.trans last.symm)) elsewhere

theorem park_inv (inv : Inv σ) (settled : Settled σ .park) (stepped : step σ .park = some τ) :
    Inv τ := by
  simp only [step] at stepped
  split at stepped
  · rename_i stored
    cases stepped
    have size : ∀ made : Park, (σ.parks ++ [made]).length =
      σ.parks.length + 1 := fun made => by simp
    have before : ∀ {made r : Park} {p : Nat}, (σ.parks ++ [made])[p]? = some r →
        p + 1 < σ.parks.length + 1 → σ.parks[p]? = some r := by
      intro made r p found early
      rwa [List.getElem?_append_left (Nat.lt_of_succ_lt_succ early)] at found
    have new : ∀ {made r : Park} {p : Nat}, (σ.parks ++ [made])[p]? = some r →
        p + 1 = σ.parks.length + 1 → r = made := by
      intro made r p found last
      cases Nat.succ.inj last
      rw [List.getElem?_concat_length] at found
      exact (Option.some.inj found).symm
    constructor
    case retired =>
      intro p r found early
      rw [size] at early
      exact settled stored p r (before found early)
    case alive => exact fun _ => inv.alive stored
    case field =>
      intro _ p
      rw [size]
      constructor
      · rintro ⟨⟩
        rfl
      · exact fun last => congrArg some (Nat.succ.inj last).symm
    case current =>
      intro _ p r found last
      obtain rfl := new found (last.trans (size _))
      exact ⟨rfl, .inl rfl⟩
    case digits =>
      intro _ p r found last
      obtain rfl := new found (last.trans (size _))
      rfl
  · cases stepped
    exact inv

theorem Park.push_digits (r : Park) (event : IvrEvent) :
    (r.push event).digits = r.digits ++ [event].filterMap digitOf := by
  simp only [Park.digits, Park.events, Park.push, ← List.filterMap_append, List.append_assoc]

/-- The event is put where there is room for it, or is none that counts. -/
theorem offer_inv {event : IvrEvent} {pressed : List String} (inv : Inv σ)
    (stored : σ.stored = true) (counted : pressed = σ.pressed ++ [event].filterMap digitOf)
    (room : digitOf event = none ∨ ∀ (k : Nat) (r : Park), σ.ivrEventCh = some k →
      σ.parks[k]? = some r → r.channel.buffer.length < 16) :
    Inv (offer { σ with pressed := pressed } event) := by
  subst counted
  unfold offer
  split
  · rename_i unparked
    refine inv.change rfl (fun _ => ⟨stored, rfl, rfl⟩) fun p r found =>
      ⟨r, found, fun _ was => was, ?_⟩
    intro _ last
    cases unparked.symm.trans ((inv.field stored p).mpr last)
  · rename_i k named
    have last := (inv.field stored k).mp named
    obtain ⟨r, found⟩ : ∃ r, σ.parks[k]? = some r :=
      ⟨_, List.getElem?_eq_getElem (Nat.lt_of_lt_of_eq (Nat.lt_succ_self k) last)⟩
    split
    · refine inv.update found rfl ⟨rfl, rfl, rfl⟩ (fun early => ?_)
        (fun _ _ was digits => ⟨was, ?_⟩) (.inr last)
      · exact absurd last (Nat.ne_of_lt early)
      · rw [Park.push_digits, digits]
        rfl
    · rename_i full
      rcases room with uncounted | room
      · refine inv.change rfl (fun _ => ⟨stored, rfl, rfl⟩) fun p r found =>
          ⟨r, found, fun _ was => was, ?_⟩
        intro _ _ was digits
        refine ⟨was, digits.trans ?_⟩
        simp [uncounted]
      · refine absurd ?_ full
        simpa [found] using room k r named found

/-- The forwarder takes the next event of the channel that it waits on. -/
theorem take_inv {q : Park} {event : IvrEvent} {rest : List IvrEvent} (inv : Inv σ)
    (found : σ.parks[p]? = some r) (waiting : r.forwarder = .waiting (some k))
    (channel : σ.parks[k]? = some q) (buffer : q.channel.buffer = event :: rest) :
    Inv ((σ.update k Park.pop).update p (·.drive (.carrying event))) := by
  -- a park that is retired or current waits on its own channel
  have retired : ¬r.Retired p := by
    rintro ⟨-, stopped | ⟨here, empty⟩ | ⟨⟨held, carrying⟩, -⟩⟩
    · cases waiting.symm.trans stopped
    · cases waiting.symm.trans here
      cases found.symm.trans channel
      cases buffer.symm.trans empty
    · cases waiting.symm.trans carrying
  have own : r.Current p → k = p := by
    rintro ⟨-, reading | here | ⟨held, carrying⟩⟩
    · cases waiting.symm.trans reading
    · cases waiting.symm.trans here
      rfl
    · cases waiting.symm.trans carrying
  have inside : p < σ.parks.length := (List.getElem?_eq_some_iff.mp found).1
  have last : p + 1 = σ.parks.length := by
    by_contra early
    exact retired (inv.retired p r found (by omega))
  refine inv.change (by simp [State.update]) (fun stored => ⟨stored, rfl, rfl⟩) fun j r' after => ?_
  simp only [State.update, List.getElem?_modify, Option.map_eq_map, Option.map_map] at after
  obtain ⟨r₀, before, rfl⟩ := Option.map_eq_some_iff.mp after
  refine ⟨r₀, before, fun early was => ?_, fun stored end_ was digits => ?_⟩
  · have other : p ≠ j := by omega
    simp only [Function.comp, if_neg other]
    split
    · obtain ⟨done, idle⟩ := was
      refine ⟨done, ?_⟩
      rcases idle with stopped | ⟨here, empty⟩ | full
      · exact .inl stopped
      · exact .inr (.inl ⟨here, congrArg List.tail empty⟩)
      · exact .inr (.inr full)
    · exact ⟨was.1, was.2⟩
  · have here : p = j := by omega
    subst here
    cases found.symm.trans before
    obtain rfl := own was
    cases found.symm.trans channel
    refine ⟨⟨?_, .inr (.inr ⟨event, by simp [Park.drive]⟩)⟩, Eq.trans ?_ digits⟩
    · simpa [Park.drive, Park.pop] using was.1
    simp [Park.digits, Park.events, Park.drive, Park.pop, waiting, buffer, Forwarder.hand]

theorem forward_inv (inv : Inv σ) (found : σ.parks[p]? = some r)
    (stepped : forward σ p r = some τ) :
    Inv τ := by
  unfold forward at stepped
  split at stepped
  · rename_i reading
    cases stepped
    refine inv.update found rfl ⟨rfl, rfl, rfl⟩ (fun _ was => ?_)
      (fun stored last current digits => ⟨?_, ?_⟩) (.inl rfl)
    · rcases was.2 with stopped | ⟨here, -⟩ | ⟨⟨held, carrying⟩, -⟩
      · cases reading.symm.trans stopped
      · cases reading.symm.trans here
      · cases reading.symm.trans carrying
    · exact ⟨current.1, .inr (.inl (congrArg Forwarder.waiting ((inv.field stored p).mpr last)))⟩
    · refine Eq.trans ?_ digits
      simp [Park.digits, Park.events, Park.drive, reading, Forwarder.hand]
  · cases stepped
  · rename_i k waiting
    obtain ⟨q, channel, taken⟩ := Option.bind_eq_some_iff.mp stepped
    split at taken
    · rename_i buffer
      cases taken
      exact take_inv inv found waiting channel buffer
    · split at taken
      · rename_i closed
        cases taken
        refine inv.update found rfl ⟨rfl, rfl, rfl⟩ (fun _ was => ⟨was.1, .inl rfl⟩)
          (fun _ _ current _ => ?_) (.inl rfl)
        rcases current with ⟨opened, reading | here | ⟨held, carrying⟩⟩
        · cases waiting.symm.trans reading
        · cases waiting.symm.trans here
          cases found.symm.trans channel
          cases closed.symm.trans opened
        · cases waiting.symm.trans carrying
      · cases taken
  · rename_i event carrying
    obtain ⟨room, ⟨⟩⟩ := Option.ite_none_right_eq_some.mp stepped
    refine inv.update found rfl ⟨rfl, rfl, rfl⟩ (fun _ was => ?_)
      (fun _ _ current digits => ⟨⟨current.1, .inl rfl⟩, ?_⟩) (.inl rfl)
    · rcases was.2 with stopped | ⟨here, -⟩ | ⟨-, full⟩
      · cases carrying.symm.trans stopped
      · cases carrying.symm.trans here
      · exact absurd full (Nat.not_le_of_lt room)
    · refine Eq.trans ?_ digits
      simp [Park.digits, Park.events, Park.deliver, carrying, Forwarder.hand]
  · cases stepped

theorem hangup_inv (inv : Inv σ) (stepped : step σ .hangup = some τ) : Inv τ := by
  simp only [step] at stepped
  split at stepped
  · cases stepped
    split
    · rename_i k _
      refine inv.change (List.length_modify ..) nofun fun p r' after => ?_
      simp only [State.update, List.getElem?_modify] at after
      obtain ⟨r, before, rfl⟩ := Option.map_eq_some_iff.mp after
      refine ⟨r, before, fun _ was => ?_, nofun⟩
      split <;> exact was
    · exact inv.change rfl nofun fun p r found => ⟨r, found, fun _ was => was, nofun⟩
  · cases stepped
    exact inv

/-- A step of a machine or of a forwarder that leaves the events where they are. -/
theorem Inv.retain (inv : Inv σ) {f : Park → Park} (found : σ.parks[p]? = some r)
    (parks : τ.parks = σ.parks.modify p f)
    (fields : τ.stored = σ.stored ∧ τ.cancelled = σ.cancelled ∧ τ.ivrEventCh = σ.ivrEventCh)
    (pressed : τ.pressed = σ.pressed) (live : r.machine.phase ≠ .stopped)
    (same : (f r).channel = r.channel ∧ (f r).forwarder = r.forwarder ∧ (f r).digits = r.digits) :
    Inv τ := by
  refine inv.update found parks fields (fun _ was => absurd was.1 live)
    (fun _ _ was digits => ⟨?_, ?_⟩)
    (.inl pressed)
  · exact ⟨same.1 ▸ was.1, same.2.1 ▸ was.2⟩
  · exact same.2.2.trans (digits.trans pressed.symm)

theorem step_inv (inv : Inv σ) (settled : Settled σ l) (stepped : step σ l = some τ) : Inv τ := by
  have untouched : ∀ {τ : State}, τ.parks = σ.parks → τ.stored = σ.stored →
      τ.cancelled = σ.cancelled → τ.ivrEventCh = σ.ivrEventCh → τ.pressed = σ.pressed → Inv τ := by
    intro τ parks stored cancelled field pressed
    refine inv.change (congrArg List.length parks)
      (fun kept => ⟨stored ▸ kept, cancelled, field⟩) ?_
    intro p r found
    exact ⟨r, parks ▸ found, fun _ was => was,
      fun _ _ was digits => ⟨was, digits.trans pressed.symm⟩⟩
  cases l with
  | park => exact park_inv inv settled stepped
  | dtmf digit =>
    simp only [step] at stepped
    split at stepped
    · rename_i stored
      cases stepped
      exact offer_inv inv stored rfl (.inr settled)
    · cases stepped
      exact inv
  | hangup => exact hangup_inv inv stepped
  | bridge first other ok =>
    simp only [step] at stepped
    split at stepped
    · split at stepped <;> cases stepped <;> exact untouched rfl rfl rfl rfl rfl
    · cases stepped
      exact inv
  | unbridge first ok =>
    simp only [step] at stepped
    split at stepped <;> cases stepped <;> exact untouched rfl rfl rfl rfl rfl
  | transfer =>
    simp only [step] at stepped
    split at stepped
    · rename_i stored
      cases stepped
      exact offer_inv inv stored (List.append_nil _).symm (.inl rfl)
    · cases stepped
      exact inv
  | forward p =>
    obtain ⟨r, found, moved⟩ := Option.bind_eq_some_iff.mp stepped
    exact forward_inv inv found moved
  | leave p =>
    obtain ⟨r, found, moved⟩ := Option.bind_eq_some_iff.mp stepped
    have left : ∀ {τ : State}, (if σ.cancelled then some (σ.update p (·.drive .stopped))
        else none) = some τ → Inv τ := by
      intro τ moved
      obtain ⟨cancelled, ⟨⟩⟩ := Option.ite_none_right_eq_some.mp moved
      refine inv.update found rfl ⟨rfl, rfl, rfl⟩ (fun _ was => ⟨was.1, .inl rfl⟩)
        (fun stored => ?_) (.inl rfl)
      cases cancelled.symm.trans (inv.alive stored)
    split at moved
    · exact left moved
    · exact left moved
    · cases moved
  | start p =>
    obtain ⟨r, found, moved⟩ := Option.bind_eq_some_iff.mp stepped
    split at moved
    · rename_i starting
      cases moved
      exact inv.retain found rfl ⟨rfl, rfl, rfl⟩ rfl (by rw [starting]; nofun) ⟨rfl, rfl, rfl⟩
    · cases moved
  | handle p =>
    obtain ⟨r, found, moved⟩ := Option.bind_eq_some_iff.mp stepped
    simp only at moved
    split at moved
    · rename_i event rest running eventCh
      cases moved
      refine inv.retain found rfl ⟨rfl, rfl, rfl⟩ rfl (by rw [running]; nofun) ⟨rfl, rfl, ?_⟩
      simp [Park.digits, Park.events, Park.handled, eventCh]
    · cases moved
  | timeout p =>
    obtain ⟨r, found, moved⟩ := Option.bind_eq_some_iff.mp stepped
    split at moved
    · rename_i running
      obtain ⟨_, ⟨⟩⟩ := Option.ite_none_right_eq_some.mp moved
      exact inv.retain found rfl ⟨rfl, rfl, rfl⟩ rfl (by rw [running]; nofun) ⟨rfl, rfl, rfl⟩
    · cases moved
  | stop p =>
    obtain ⟨r, found, moved⟩ := Option.bind_eq_some_iff.mp stepped
    split at moved
    · rename_i running
      obtain ⟨_, ⟨⟩⟩ := Option.ite_none_right_eq_some.mp moved
      exact inv.retain found rfl ⟨rfl, rfl, rfl⟩ rfl (by rw [running]; nofun) ⟨rfl, rfl, rfl⟩
    · cases moved
  | wait seconds =>
    cases stepped
    exact untouched rfl rfl rfl rfl rfl

theorem update_get (f : Park → Park) (found : σ.parks[p]? = some r) :
    (σ.update p f).parks[p]? = some (f r) := by
  simp only [State.update, List.getElem?_modify, found]
  simp

def Forwarder.distance : Forwarder → Nat
  | .carrying _ => 3
  | .reading => 1
  | _ => 0

def Phase.distance : Phase → Nat
  | .starting => 1
  | _ => 0

/-- Bounds the steps until the machine has handled everything. -/
def Park.distance (r : Park) : Nat :=
  4 * r.channel.buffer.length + r.forwarder.distance + r.machine.eventCh.length +
    r.machine.phase.distance

/-- The steps of the last park's own goroutines. -/
def Label.Serves (p : Nat) (l : Label) : Prop := l = .start p ∨ l = .forward p ∨ l = .handle p

/-- A step after which the park is closer to having handled everything. -/
structure Closer (σ : State) (p : Nat) (r : Park) (τ : State) (r' : Park) : Prop where
  found : τ.parks[p]? = some r'
  less : r'.distance < r.distance
  live : r'.machine.phase ≠ .stopped
  stored : τ.stored = true
  last : p + 1 = τ.parks.length
  pressed : τ.pressed = σ.pressed

theorem closer_update {f : Park → Park} (parks : τ.parks = σ.parks.modify p f)
    (stored : τ.stored = true) (pressed : τ.pressed = σ.pressed) (last : p + 1 = σ.parks.length)
    (found : σ.parks[p]? = some r) (live : (f r).machine.phase ≠ .stopped)
    (less : (f r).distance < r.distance) : Closer σ p r τ (f r) where
  found := by
    rw [parks]
    exact update_get f found
  less := less
  live := live
  stored := stored
  last := by rw [parks, List.length_modify, last]
  pressed := pressed

/-- The forwarder of the last park moves on when there is something to bring. -/
theorem forward_closer (inv : Inv σ) (stored : σ.stored = true) (last : p + 1 = σ.parks.length)
    (found : σ.parks[p]? = some r) (live : r.machine.phase ≠ .stopped)
    (drained : r.machine.eventCh = [])
    (far : 0 < 4 * r.channel.buffer.length + r.forwarder.distance) :
    ∃ τ r', step σ (.forward p) = some τ ∧ Closer σ p r τ r' := by
  have looked : step σ (.forward p) = forward σ p r := by simp [step, found]
  rw [looked]
  obtain ⟨_, reading | waiting | ⟨event, carrying⟩⟩ := inv.current stored p r found last
  · have read : forward σ p r = some (σ.update p (·.drive (.waiting σ.ivrEventCh))) := by
      simp [forward, reading]
    refine ⟨_, _, read, closer_update rfl stored rfl last found live ?_⟩
    simp [Park.distance, Park.drive, reading, Forwarder.distance]
  · cases buffer : r.channel.buffer with
    | nil => simp [buffer, waiting, Forwarder.distance] at far
    | cons event rest =>
      have popped := update_get Park.pop found
      have taken : forward σ p r = some ((σ.update p Park.pop).update p
          (·.drive (.carrying event))) := by
        simp [forward, waiting, found, buffer]
      refine ⟨_, _, taken, update_get _ popped, ?_, live, stored, ?_, rfl⟩
      · simp only [Park.distance, Park.drive, Park.pop, waiting, buffer, Forwarder.distance,
          List.tail_cons, List.length_cons]
        omega
      · simpa [State.update] using last
  · have delivered : forward σ p r = some (σ.update p (·.deliver event)) := by
      simp [forward, carrying, drained]
    refine ⟨_, _, delivered, closer_update rfl stored rfl last found live ?_⟩
    simp only [Park.distance, Park.deliver, carrying, Forwarder.distance, List.length_append,
      List.length_singleton]
    omega

theorem exists_closer (inv : Inv σ) (stored : σ.stored = true) (last : p + 1 = σ.parks.length)
    (found : σ.parks[p]? = some r) (live : r.machine.phase ≠ .stopped) (far : 0 < r.distance) :
    ∃ l τ r', Label.Serves p l ∧ step σ l = some τ ∧ Closer σ p r τ r' := by
  cases phase : r.machine.phase with
  | stopped => exact absurd phase live
  | starting =>
    have started : step σ (.start p) =
        some (σ.update p (·.enter (.running (σ.now + defaultInactivityTimeout)))) := by
      simp [step, found, phase]
    refine ⟨.start p, _, _, .inl rfl, started, closer_update rfl stored rfl last found ?_ ?_⟩
    · exact Phase.noConfusion
    · simp [Park.distance, Park.enter, phase, Phase.distance]
  | running deadline =>
    cases eventCh : r.machine.eventCh with
    | cons event rest =>
      have handled : ∃ called, step σ (.handle p) = some
          { σ.update p (·.handled event (σ.now + defaultInactivityTimeout)) with called := called } := by
        simp [step, found, phase, eventCh]
      obtain ⟨called, handled⟩ := handled
      refine ⟨.handle p, _, _, .inr (.inr rfl), handled,
        closer_update rfl stored rfl last found ?_ ?_⟩
      · exact Phase.noConfusion
      · simp [Park.distance, Park.handled, phase, eventCh, Phase.distance]
    | nil =>
      have bring : 0 < 4 * r.channel.buffer.length + r.forwarder.distance := by
        simpa [Park.distance, phase, eventCh, Phase.distance] using far
      obtain ⟨τ, r', stepped, closer⟩ := forward_closer inv stored last found live eventCh bring
      exact ⟨.forward p, τ, r', .inr (.inl rfl), stepped, closer⟩

/-- The goroutines of the last park can always bring every digit to its machine. -/
theorem digits_delivered (inv : Inv σ) (stored : σ.stored = true) (last : p + 1 = σ.parks.length)
    (found : σ.parks[p]? = some r) (live : r.machine.phase ≠ .stopped) :
    ∃ later τ r', (∀ l ∈ later, Label.Serves p l) ∧ exec step σ later = some τ ∧
      τ.parks[p]? = some r' ∧ r'.machine.received.filterMap digitOf = σ.pressed := by
  induction size : r.distance using Nat.strongRecOn generalizing σ r with
  | ind n ih =>
    by_cases far : 0 < r.distance
    · obtain ⟨l, τ, r', serves, stepped, closer⟩ := exists_closer inv stored last found live far
      have settled : Settled σ l := by rcases serves with rfl | rfl | rfl <;> trivial
      obtain ⟨later, ρ, r'', serve, walked, there, received⟩ := ih _ (size ▸ closer.less)
        (step_inv inv settled stepped) closer.stored closer.last closer.found closer.live rfl
      refine ⟨l :: later, ρ, r'', List.forall_mem_cons.mpr ⟨serves, serve⟩,
        exec_cons.mpr ⟨τ, stepped, walked⟩,
        there, received.trans closer.pressed⟩
    · refine ⟨[], σ, r, nofun, rfl, found, ?_⟩
      have arrived := inv.digits stored p r found last
      simp only [Park.distance, Nat.not_lt, Nat.le_zero, Nat.add_eq_zero_iff,
        List.length_eq_zero_iff] at far
      obtain ⟨⟨⟨empty, idle⟩, drained⟩, -⟩ := far
      have free : r.forwarder.hand = [] := by
        cases forwarder : r.forwarder with
        | carrying event =>
          rw [forwarder] at idle
          cases idle
        | _ => rfl
      have buffer : r.channel.buffer = [] := List.length_eq_zero_iff.mp (by omega)
      simpa [Park.digits, Park.events, drained, free, buffer] using arrived

theorem live_last (inv : Inv σ) (live : σ.Live p) : p + 1 = σ.parks.length := by
  obtain ⟨r, found, running⟩ := live
  have inside : p < σ.parks.length := (List.getElem?_eq_some_iff.mp found).1
  by_contra early
  exact running (inv.retired p r found (by omega)).1

end Steps

/-- Where the parks are settled, at most one machine lives, it is given every digit, and no earlier
machine times out. -/
theorem one_machine_lives {labels : List Label} {σ : State}
    (run : exec step State.initial labels = some σ)
    (settled : Along step Settled State.initial labels) :
    (∀ p q, σ.Live p → σ.Live q → p = q) ∧
    (∀ p, σ.Live p → σ.stored = true →
      (∀ r, σ.parks[p]? = some r → r.digits = σ.pressed) ∧
      ∃ later τ r, (∀ l ∈ later, Label.Serves p l) ∧ exec step σ later = some τ ∧
        τ.parks[p]? = some r ∧ r.machine.received.filterMap digitOf = σ.pressed) ∧
    (∀ p, p + 1 < σ.parks.length → step σ (.timeout p) = none) := by
  have preserves : ∀ {σ : State} {l : Label} {τ : State}, Inv σ → Settled σ l → step σ l = some τ →
    Inv τ := step_inv
  have inv : Inv σ := exec_invariant preserves settled run Inv.initial
  refine ⟨fun p q first second => ?_, fun p live stored => ?_, fun p early => ?_⟩
  · exact Nat.succ.inj ((live_last inv first).trans (live_last inv second).symm)
  · have last := live_last inv live
    obtain ⟨r, found, running⟩ := live
    exact ⟨fun r found => inv.digits stored p r found last,
      digits_delivered inv stored last found running⟩
  · have inside : p < σ.parks.length := Nat.lt_of_succ_lt early
    have found := List.getElem?_eq_getElem inside
    have stopped := (inv.retired p _ found early).1
    simp [step, stopped, inside]

/-- A call that is parked, presses two digits and is parked again when its machine has timed out. -/
def patient : List Label :=
  [.park, .start 0, .handle 0, .forward 0, .dtmf "1", .forward 0, .forward 0, .handle 0, .forward 0,
    .wait 300, .timeout 0, .park, .start 1, .dtmf "2"]

theorem patient_call_served : ∃ σ, exec step State.initial patient = some σ ∧
    ∃ later τ r, (∀ l ∈ later, Label.Serves 1 l) ∧ exec step σ later = some τ ∧
      τ.parks[1]? = some r ∧ r.machine.received.filterMap digitOf = ["2"] := by
  have reached : (exec step State.initial patient).map
      (fun σ => decide (σ.Live 1 ∧ σ.stored = true ∧
      σ.pressed = ["2"])) = some true := by decide +kernel
  obtain ⟨σ, run, checked⟩ := Option.map_eq_some_iff.mp reached
  obtain ⟨live, stored, pressed⟩ := of_decide_eq_true checked
  have settled : Along step Settled State.initial patient := by decide +kernel
  obtain ⟨-, reach, -⟩ := one_machine_lives run settled
  exact ⟨σ, run, pressed ▸ (reach 1 live stored).2⟩

/-- Parked, bridged, unbridged and so parked again. -/
def reparked : List Label :=
  [.park, .start 0, .handle 0, .wait 200, .bridge true "s-2" true, .unbridge true true, .park,
    .start 1, .handle 1, .wait 50, .dtmf "1", .forward 1, .forward 1, .forward 1, .handle 1,
    .wait 50]

theorem reparked_call_killed : ∃ σ τ, exec step State.initial reparked = some σ ∧ σ.Live 0 ∧
    σ.Live 1 ∧ step σ (.timeout 0) = some τ ∧ τ.called = σ.called ++ [(0, .disconnect)] := by
  have reached : (exec step State.initial reparked).map (fun σ => decide (σ.Live 0 ∧ σ.Live 1 ∧
      (step σ (.timeout 0)).map State.called = some (σ.called ++ [(0, .disconnect)]))) =
          some true := by
    decide +kernel
  obtain ⟨σ, run, checked⟩ := Option.map_eq_some_iff.mp reached
  obtain ⟨earlier, later, timedOut⟩ := of_decide_eq_true checked
  obtain ⟨τ, stepped, called⟩ := Option.map_eq_some_iff.mp timedOut
  exact ⟨σ, τ, run, earlier, later, stepped, called⟩

end AgentOE.Gateway.IvrMachine
