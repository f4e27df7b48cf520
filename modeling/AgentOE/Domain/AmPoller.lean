import AgentOE.Json
import AgentOE.Transition
import Mathlib.Data.Finset.SDiff
import Mathlib.Data.Fintype.Basic

/-! The pods that poll Alertmanager in turn and publish what has changed since their own last
poll. -/
namespace AgentOE.AmPoller
open Transition Json

variable {P F : Type} [DecidableEq P]

/-- `digest` is that of the labels as JSON, `str` the text of a value that is no string. -/
structure Env (P F : Type) where
  podId : P → String
  str : Value F → String
  digest : Value F → String
  nonzero : F → Bool

def lockRenewInterval : Nat := 20

def pollInterval : Nat := 10

variable (env : Env P F)

def truthy : Value F → Bool
  | .null => false
  | .bool value => value
  | .int value => value ≠ 0
  | .float value => env.nonzero value
  | .str value => value ≠ ""
  | .arr items => !items.isEmpty
  | .obj entries => !entries.isEmpty

def fingerprint (alert : Dict F) : String :=
  match (alert.lookup "fingerprint").filter (truthy env) with
  | some (.str fp) => fp
  | some fp => env.str fp
  | none => env.digest ((alert.lookup "labels").getD (.obj []))

/-- `current`, the latest alert of a fingerprint first. -/
def byFingerprint (alerts : List (Value F)) : List (String × Dict F) :=
  (alerts.filterMap fun
    | .obj alert => some (fingerprint env alert, alert)
    | _ => none).reverse

def fingerprints (current : List (String × Dict F)) : Finset String :=
  (current.map Prod.fst).toFinset

/-- The dictionary of `_publish`, in which the payload's own `event` wins. -/
def message (event : String) (payload : Dict F) : Dict F :=
  match payload.lookup "event" with
  | some own => ("event", own) :: payload.filter (·.1 ≠ "event")
  | none => ("event", .str event) :: payload

/-- `_poll_and_publish` between two of its publishes, with what is left to publish. -/
structure Poll (F : Type) where
  current : List (String × Dict F)
  firing : Finset String
  resolved : Finset String

/-- `leading` is there in the leader loop, and counts the seconds since the lock was renewed.
`ended` is set once an exception has left the pod's task. -/
structure Pod (F : Type) where
  prev : Finset String
  leading : Option Nat
  poll : Option (Poll F)
  ended : Bool

def Pod.fresh : Pod F := ⟨∅, none, none, false⟩

/-- `told` is a history variable: the fingerprints for which `alert.firing` was delivered, and
`alert.resolved` not since. -/
structure State (P F : Type) where
  lock : Option String
  pod : P → Pod F
  channel : List (Dict F)
  told : Finset String

def State.initial : State P F := ⟨none, fun _ => .fresh, [], ∅⟩

/-- The end of a Redis command: with its reply, with an error after or before its effect. -/
inductive Fate where
  | ok
  | lostReply
  | lost
  deriving DecidableEq, Repr

inductive Label (P F : Type) where
  | acquire (p : P) (fate : Fate)
  /-- There is no Redis client, which makes the pod a leader or keeps it one. -/
  | alone (p : P)
  | renew (p : P) (fate : Fate)
  /-- The lock's time to live ends. -/
  | expire
  /-- Alertmanager's answer, which is an empty list where the request fails. -/
  | fetch (p : P) (alerts : List (Value F))
  /-- A poll that ends with nothing published. -/
  | skip (p : P)
  | firing (p : P) (fp : String) (fate : Fate)
  | resolved (p : P) (fp : String) (fate : Fate)
  | complete (p : P)
  /-- The pod stops, wherever it is, and starts anew. -/
  | restart (p : P)

/-- Where a publish leaves the pod. The handler of `_publish` gives its `logger.warning` an `event`
beside the positional one, and the `TypeError` leaves `_leader_loop` and `_run`. -/
def Pod.published (pod : Pod F) (fate : Fate) (poll : Poll F) : Pod F :=
  if fate = .ok then { pod with poll := some poll }
  else { pod with leading := none, poll := none, ended := true }

namespace State
variable (σ : State P F)

def set (p : P) (pod : Pod F) : State P F := { σ with pod := Function.update σ.pod p pod }

def publish (fate : Fate) (msg : Dict F) (told : Finset String) : State P F :=
  if fate = .lost then σ else { σ with channel := σ.channel ++ [msg], told := told }

end State

def step (σ : State P F) : Label P F → Option (State P F)
  | .acquire p fate =>
    match (σ.pod p).leading, (σ.pod p).poll, (σ.pod p).ended with
    | none, none, false =>
      match fate, σ.lock with
      | .ok, none =>
        some { σ.set p { σ.pod p with leading := some 0 } with lock := some (env.podId p) }
      | .lostReply, none => some { σ with lock := some (env.podId p) }
      | _, _ => some σ
    | _, _, _ => none
  | .alone p =>
    match (σ.pod p).leading, (σ.pod p).poll with
    | none, none =>
      if (σ.pod p).ended then none else some (σ.set p { σ.pod p with leading := some 0 })
    | some elapsed, none =>
      if lockRenewInterval ≤ elapsed then some (σ.set p { σ.pod p with leading := some 0 })
      else none
    | _, some _ => none
  | .renew p fate =>
    match (σ.pod p).leading, (σ.pod p).poll with
    | some elapsed, none =>
      if lockRenewInterval ≤ elapsed then
        some (σ.set p { σ.pod p with
          leading := if fate = .ok ∧ σ.lock = some (env.podId p) then some 0 else none })
      else none
    | _, _ => none
  | .expire => some { σ with lock := none }
  | .fetch p alerts =>
    match (σ.pod p).leading, (σ.pod p).poll with
    | some elapsed, none =>
      if elapsed < lockRenewInterval then
        let current := byFingerprint env alerts
        some (σ.set p { σ.pod p with
          poll := some ⟨current, fingerprints current \ (σ.pod p).prev,
            (σ.pod p).prev \ fingerprints current⟩ })
      else none
    | _, _ => none
  | .skip p =>
    match (σ.pod p).leading, (σ.pod p).poll with
    | some elapsed, none =>
      if elapsed < lockRenewInterval then
        some (σ.set p { σ.pod p with leading := some (elapsed + pollInterval) })
      else none
    | _, _ => none
  | .firing p fp fate =>
    match (σ.pod p).poll with
    | some poll =>
      if fp ∈ poll.firing then
        let msg := message "alert.firing" ((poll.current.lookup fp).getD [])
        some ((σ.publish fate msg (insert fp σ.told)).set p
          ((σ.pod p).published fate { poll with firing := poll.firing.erase fp }))
      else none
    | none => none
  | .resolved p fp fate =>
    match (σ.pod p).poll with
    | some poll =>
      if poll.firing = ∅ ∧ fp ∈ poll.resolved then
        let msg := message "alert.resolved" [("fingerprint", .str fp)]
        some ((σ.publish fate msg (σ.told.erase fp)).set p
          ((σ.pod p).published fate { poll with resolved := poll.resolved.erase fp }))
      else none
    | none => none
  | .complete p =>
    match (σ.pod p).poll with
    | some poll =>
      if poll.firing = ∅ ∧ poll.resolved = ∅ then
        some (σ.set p { σ.pod p with
          prev := fingerprints poll.current
          leading := (σ.pod p).leading.map (· + pollInterval)
          poll := none })
      else none
    | none => none
  | .restart p => some (σ.set p .fresh)

/-! What the messages say. -/

/-- A message in the set of the alerts that fire, under the fingerprint that it carries. -/
def receive (firing : Finset String) (msg : Dict F) : Finset String :=
  match msg.lookup "event", msg.lookup "fingerprint" with
  | some (.str event), some (.str fp) =>
    if event = "alert.firing" then insert fp firing
    else if event = "alert.resolved" then firing.erase fp
    else firing
  | _, _ => firing

def reproduced (channel : List (Dict F)) : Finset String := channel.foldl receive ∅

/-- The alert has this fingerprint as a text, and no field that would stand for the event. -/
def carries (alert : Dict F) (fp : String) : Bool :=
  match alert.lookup "fingerprint", alert.lookup "event" with
  | some (.str own), none => own == fp
  | _, _ => false

/-- Nobody is publishing when a poll is fetched, and the pod's previous set tells what has changed
since what the delivered messages say; and an alert that is delivered carries its fingerprint. -/
def Orderly (σ : State P F) : Label P F → Prop
  | .fetch p alerts => (∀ q, (σ.pod q).poll.isNone = true) ∧
    (∀ fp ∈ σ.told, fp ∉ fingerprints (byFingerprint env alerts) → fp ∈ (σ.pod p).prev) ∧
    ∀ fp ∈ (σ.pod p).prev, fp ∈ fingerprints (byFingerprint env alerts) → fp ∈ σ.told
  | .firing p fp fate => fate ≠ .lost →
    ∀ poll ∈ (σ.pod p).poll, ∀ alert ∈ poll.current.lookup fp, carries alert fp = true
  | _ => True

instance [Fintype P] : Decidable (Orderly env σ l) := by
  cases l <;> unfold Orderly <;> infer_instance

theorem reproduced_append (channel : List (Dict F)) (msg : Dict F) :
    reproduced (channel ++ [msg]) = receive (reproduced channel) msg := by
  simp [reproduced]

theorem receive_firing (firing : Finset String) (carried : carries alert fp = true) :
    receive firing (message "alert.firing" (alert : Dict F)) = insert fp firing := by
  rw [carries] at carried
  split at carried
  · rename_i own found absent
    rw [message, absent]
    simp only [receive, List.lookup_cons, beq_self_eq_true]
    rw [show ("fingerprint" == "event") = false by decide]
    simp [found, beq_iff_eq.mp carried]
  · cases carried

theorem receive_resolved (firing : Finset String) (fp : String) :
    receive firing (message "alert.resolved" [("fingerprint", (.str fp : Value F))]) =
      firing.erase fp := by
  simp [message, receive, List.lookup_cons]

/-! What a poll has made of the set so far. -/

/-- With `last` told before the poll and `now` after what it has published. -/
structure Progress (last prev : Finset String) (poll : Poll F) (now : Finset String) : Prop where
  firing : ∀ fp ∈ poll.firing, fp ∈ fingerprints poll.current ∧ fp ∉ prev
  resolved : ∀ fp ∈ poll.resolved, fp ∈ prev ∧ fp ∉ fingerprints poll.current
  known : ∀ fp ∈ last, fp ∉ fingerprints poll.current → fp ∈ prev
  told : ∀ fp ∈ prev, fp ∈ fingerprints poll.current → fp ∈ last
  reached : ∀ fp, fp ∈ now ↔
    (fp ∈ fingerprints poll.current ∧ (fp ∈ last ∨ fp ∉ prev ∧ fp ∉ poll.firing)) ∨
    fp ∉ fingerprints poll.current ∧ fp ∈ last ∧ fp ∈ poll.resolved

theorem Progress.begin {current : List (String × Dict F)} {last prev : Finset String}
    (known : ∀ fp ∈ last, fp ∉ fingerprints current → fp ∈ prev)
    (told : ∀ fp ∈ prev, fp ∈ fingerprints current → fp ∈ last) :
    Progress last prev ⟨current, fingerprints current \ prev,
      prev \ fingerprints current⟩ last where
  firing := by simp
  resolved := by simp
  known := known
  told := told
  reached := by
    intro fp
    have before := known fp
    simp only [Finset.mem_sdiff]
    tauto

theorem Progress.fire {last prev now : Finset String} {poll : Poll F}
    (progress : Progress last prev poll now) (mem : fp ∈ poll.firing) :
    Progress last prev { poll with firing := poll.firing.erase fp } (insert fp now) where
  firing := fun other inside => progress.firing other (Finset.mem_of_mem_erase inside)
  resolved := progress.resolved
  known := progress.known
  told := progress.told
  reached := by
    intro other
    obtain ⟨current, new⟩ := progress.firing fp mem
    have before := progress.reached other
    simp only [Finset.mem_erase]
    by_cases same : other = fp
    · subst same
      simp [current, new]
    · simp [before, same]

theorem Progress.resolve {last prev now : Finset String} {poll : Poll F}
    (progress : Progress last prev poll now) (mem : fp ∈ poll.resolved) :
    Progress last prev { poll with resolved := poll.resolved.erase fp } (now.erase fp) where
  firing := progress.firing
  resolved := fun other inside => progress.resolved other (Finset.mem_of_mem_erase inside)
  known := progress.known
  told := progress.told
  reached := by
    intro other
    obtain ⟨old, gone⟩ := progress.resolved fp mem
    have before := progress.reached other
    simp only [Finset.mem_erase]
    by_cases same : other = fp
    · subst same
      simp [gone]
    · simp [before, same]

theorem Progress.finish {last prev now : Finset String} {poll : Poll F}
    (progress : Progress last prev poll now) (firing : poll.firing = ∅)
    (resolved : poll.resolved = ∅) : now = fingerprints poll.current := by
  ext fp
  have told := progress.told fp
  rw [progress.reached fp, firing, resolved]
  simp only [Finset.notMem_empty, not_false_eq_true, and_true, and_false, or_false]
  tauto

/-- A poll began with what had been told then. -/
structure Inv (σ : State P F) : Prop where
  told : reproduced σ.channel = σ.told
  polling : ∀ p poll, (σ.pod p).poll = some poll → (∀ q, q ≠ p → (σ.pod q).poll = none) ∧
    ∃ last, Progress last (σ.pod p).prev poll σ.told

variable {env} {σ τ : State P F}

theorem set_pod (σ : State P F) (p q : P) (pod : Pod F) :
    (σ.set p pod).pod q = if q = p then pod else σ.pod q := by
  simp [State.set, Function.update_apply]

omit [DecidableEq P] in
/-- Nothing that the polls look at has changed, but for polls that have ended. -/
theorem Inv.congr (inv : Inv σ)
    (polls : ∀ q, (τ.pod q).poll = none ∨ (τ.pod q).poll = (σ.pod q).poll ∧
      (τ.pod q).prev = (σ.pod q).prev)
    (channel : τ.channel = σ.channel) (told : τ.told = σ.told) : Inv τ where
  told := by
    rw [channel, told]
    exact inv.told
  polling := by
    intro p poll polling
    have same := (polls p).resolve_left (by rw [polling]; exact Option.some_ne_none poll)
    rw [same.1] at polling
    obtain ⟨alone, last, progress⟩ := inv.polling p poll polling
    refine ⟨fun q other => ?_, last, ?_⟩
    · rcases polls q with ended | kept
      · exact ended
      · exact kept.1.trans (alone q other)
    · rw [same.2, told]
      exact progress

/-- A pod that goes on as it was, or stops publishing. -/
theorem Inv.set (inv : Inv σ) (p : P) (pod : Pod F)
    (poll : pod.poll = none ∨ pod.poll = (σ.pod p).poll ∧ pod.prev = (σ.pod p).prev)
    (lock : Option String) : Inv { σ.set p pod with lock := lock } := by
  refine inv.congr (fun q => ?_) rfl rfl
  change ((σ.set p pod).pod q).poll = none ∨
    ((σ.set p pod).pod q).poll = _ ∧ ((σ.set p pod).pod q).prev = _
  rw [set_pod]
  split
  · rename_i same
    rwa [same]
  · exact .inr ⟨rfl, rfl⟩

/-- A pod changes what concerns its leadership only. -/
theorem Inv.lead (inv : Inv σ) (leading : Option Nat) (lock : Option String) :
    Inv { σ.set p { σ.pod p with leading := leading } with lock := lock } :=
  inv.set p { σ.pod p with leading := leading } (.inr ⟨rfl, rfl⟩) lock

/-- The one pod that publishes. -/
theorem Inv.progress {pod : Pod F} {poll : Poll F} {last : Finset String}
    (told : reproduced σ.channel = σ.told) (alone : ∀ q, q ≠ p → (σ.pod q).poll = none)
    (running : pod.poll = some poll) (progress : Progress last pod.prev poll σ.told) :
    Inv (σ.set p pod) where
  told := told
  polling := by
    intro q poll' polling
    rw [set_pod] at polling
    by_cases same : q = p
    · subst same
      rw [if_pos rfl, running] at polling
      cases Option.some.inj polling
      refine ⟨fun r other => ?_, last, ?_⟩
      · rw [set_pod, if_neg other]
        exact alone r other
      · rw [set_pod, if_pos rfl]
        exact progress
    · rw [if_neg same, alone q same] at polling
      cases polling

/-- A message of the pod that publishes, delivered or not. -/
theorem Inv.publish (inv : Inv σ) {poll next : Poll F} {told : Finset String} (fate : Fate)
    (msg : Dict F)
    (polling : (σ.pod p).poll = some poll) (received : fate ≠ .lost → receive σ.told msg = told)
    (progress : ∀ last, Progress last (σ.pod p).prev poll σ.told →
      Progress last (σ.pod p).prev next told) :
    Inv ((σ.publish fate msg told).set p ((σ.pod p).published fate next)) := by
  obtain ⟨alone, last, before⟩ := inv.polling p poll polling
  have delivered : fate ≠ .lost → reproduced (σ.channel ++ [msg]) = told := fun sent => by
    rw [reproduced_append, inv.told]
    exact received sent
  cases fate with
  | ok =>
    exact .progress (σ := σ.publish .ok msg told) (delivered (by decide)) alone rfl
      (progress last before)
  | lostReply =>
    -- the pod was the only one to publish, and has ended
    refine ⟨delivered (by decide), fun q poll' polling => ?_⟩
    rw [set_pod] at polling
    split at polling
    · cases polling
    · rename_i other
      exact absurd polling (by simp [State.publish, alone q other])
  | lost => exact inv.set p _ (.inl rfl) σ.lock

theorem step_inv (inv : Inv σ) (orderly : Orderly env σ l) (stepped : step env σ l = some τ) :
    Inv τ := by
  cases l with
  | acquire p fate =>
    simp only [step] at stepped
    split at stepped
    · split at stepped <;> cases stepped
      · exact inv.lead _ _
      · exact inv.congr (fun _ => .inr ⟨rfl, rfl⟩) rfl rfl
      · exact inv
    · cases stepped
  | alone p =>
    simp only [step] at stepped
    split at stepped
    · split at stepped <;> cases stepped
      exact inv.lead _ _
    · split at stepped <;> cases stepped
      exact inv.lead _ _
    · cases stepped
  | renew p fate =>
    simp only [step] at stepped
    split at stepped
    · split at stepped <;> cases stepped
      exact inv.lead _ _
    · cases stepped
  | expire =>
    cases stepped
    exact inv.congr (fun _ => .inr ⟨rfl, rfl⟩) rfl rfl
  | fetch p alerts =>
    obtain ⟨idle, known, told⟩ := orderly
    have quiet : ∀ q, (σ.pod q).poll = none := fun q => Option.isNone_iff_eq_none.mp (idle q)
    simp only [step] at stepped
    split at stepped
    · split at stepped <;> cases stepped
      exact .progress inv.told (fun q _ => quiet q) rfl (.begin known told)
    · cases stepped
  | skip p =>
    simp only [step] at stepped
    split at stepped
    · split at stepped <;> cases stepped
      exact inv.lead _ _
    · cases stepped
  | firing p fp fate =>
    simp only [step] at stepped
    split at stepped
    · rename_i poll polling
      split at stepped <;> cases stepped
      rename_i mem
      refine inv.publish fate _ polling (fun sent => ?_) fun last progress => progress.fire mem
      obtain ⟨alone, last, progress⟩ := inv.polling p poll polling
      obtain ⟨alert, found⟩ : ∃ alert, poll.current.lookup fp = some alert := by
        obtain ⟨entry, inside, rfl⟩ :=
          List.mem_map.mp (List.mem_toFinset.mp (progress.firing fp mem).1)
        exact Option.isSome_iff_exists.mp (List.lookup_isSome_iff.mpr ⟨entry, inside, by simp⟩)
      rw [found, Option.getD_some]
      exact receive_firing _ (orderly sent poll polling alert found)
    · cases stepped
  | resolved p fp fate =>
    simp only [step] at stepped
    split at stepped
    · rename_i poll polling
      split at stepped <;> cases stepped
      rename_i ready
      exact inv.publish fate _ polling (fun _ => receive_resolved _ fp) fun last progress =>
        progress.resolve ready.2
    · cases stepped
  | complete p =>
    simp only [step] at stepped
    split at stepped
    · split at stepped <;> cases stepped
      exact inv.set p _ (.inl rfl) σ.lock
    · cases stepped
  | restart p =>
    cases stepped
    exact inv.set p _ (.inl rfl) σ.lock

omit [DecidableEq P] in
theorem initial_inv : Inv (.initial : State P F) where
  told := rfl
  polling := fun _ _ polling => by cases polling

theorem complete_reproduces (inv : Inv σ) (stepped : step env σ (.complete p) = some τ) :
    ∃ poll, (σ.pod p).poll = some poll ∧ reproduced τ.channel = fingerprints poll.current := by
  simp only [step] at stepped
  split at stepped
  · rename_i poll polling
    split at stepped <;> cases stepped
    rename_i ready
    obtain ⟨alone, last, progress⟩ := inv.polling p poll polling
    exact ⟨poll, polling, inv.told.trans (progress.finish ready.1 ready.2)⟩
  · cases stepped

/-- Once a poll of an orderly run is complete, the messages received since the start give its
fingerprints. -/
theorem events_reproduce_polls (run : exec (step env) .initial labels = some σ)
    (orderly : Along (step env) (Orderly env) .initial labels)
    (completed : past ++ [.complete p] <+: labels) :
    ∃ before poll after, exec (step env) .initial past = some before ∧
      (before.pod p).poll = some poll ∧ step env before (.complete p) = some after ∧
        reproduced after.channel = fingerprints poll.current := by
  obtain ⟨rest, rfl⟩ := completed
  rw [List.append_assoc] at run orderly
  obtain ⟨before, walked, remaining⟩ := exec_append.mp run
  obtain ⟨after, stepped, -⟩ := exec_cons.mp remaining
  have inv : Inv before := exec_invariant step_inv (along_append_left orderly) walked initial_inv
  obtain ⟨poll, polling, reproduces⟩ := complete_reproduces inv stepped
  exact ⟨before, poll, after, walked, polling, stepped, reproduces⟩

/-- Two pods; the digest is that of alerts without labels. -/
def twoPods : Env (Fin 2) Unit where
  podId := fun p => if p = 0 then "backend-0" else "backend-1"
  str := fun _ => ""
  digest := fun _ => "bf21a9e8fbc5a3846fb05b4fa0859e0917b2202f"
  nonzero := fun _ => true

def alert (fp : String) : Value Unit := .obj [("fingerprint", .str fp)]

/-- The first pod ends on a publish that fails when no alert had been told, and the second takes
over. -/
def handover : List (Label (Fin 2) Unit) :=
  [.acquire 0 .ok, .fetch 0 [alert "a"], .firing 0 "a" .ok, .complete 0,
    .fetch 0 [], .resolved 0 "a" .ok, .complete 0,
    .renew 0 .ok, .fetch 0 [alert "b"], .firing 0 "b" .lost,
    .expire, .acquire 1 .ok, .fetch 1 [alert "b"], .firing 1 "b" .ok, .complete 1]

theorem handover_reproduces : ∃ before poll after,
    exec (step twoPods) .initial handover.dropLast = some before ∧ (before.pod 1).poll = some poll ∧
      step twoPods before (.complete 1) = some after ∧
        reproduced after.channel = fingerprints poll.current := by
  obtain ⟨σ, run⟩ : ∃ σ, exec (step twoPods) .initial handover = some σ :=
    Option.isSome_iff_exists.mp (by decide +kernel)
  have orderly : Along (step twoPods) (Orderly twoPods) .initial handover := by decide +kernel
  exact events_reproduce_polls run orderly ⟨[], rfl⟩

/-- The second pod takes over while an alert fires, and does not see that it has gone. -/
def missedResolve : List (Label (Fin 2) Unit) :=
  [.acquire 0 .ok, .fetch 0 [alert "a"], .firing 0 "a" .ok, .complete 0, .expire, .acquire 1 .ok,
    .fetch 1 []]

def unmarked : List (Label (Fin 2) Unit) :=
  [.acquire 0 .ok, .fetch 0 [.obj []], .firing 0 "bf21a9e8fbc5a3846fb05b4fa0859e0917b2202f" .ok]

/-- The first pod ends on a publish that fails, with one alert told that the second pod never
saw. -/
def abandoned : List (Label (Fin 2) Unit) :=
  [.acquire 0 .ok, .fetch 0 [alert "a", alert "b"], .firing 0 "a" .ok, .firing 0 "b" .lost,
    .expire, .acquire 1 .ok, .fetch 1 [alert "b"], .firing 1 "b" .ok]

/-- The messages and the set of the poll that is then completed. -/
def completing (run : List (Label (Fin 2) Unit)) (p : Fin 2) :
    Option (Finset String × Finset String) := do
  let before ← exec (step twoPods) .initial run
  let poll ← (before.pod p).poll
  let after ← step twoPods before (.complete p)
  return (reproduced after.channel, fingerprints poll.current)

theorem handover_not_reproduced : completing missedResolve 1 = some ({"a"}, ∅) ∧
    completing unmarked 0 = some (∅, {"bf21a9e8fbc5a3846fb05b4fa0859e0917b2202f"}) ∧
    completing abandoned 1 = some ({"a", "b"}, {"b"}) := by
  decide +kernel

end AgentOE.AmPoller
