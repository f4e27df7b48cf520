import AgentOE.Coroutine

/-! Asynchronous generators: coroutines over what they have done, the items that they yield and
their other effects. A consumer that asks for no more leaves a generator at a yield. Nothing
here names a particular generator. -/
namespace AgentOE.Generator
open Coroutine
variable {Y E F α β : Type} {failure : F}

inductive Act (Y E : Type) where
  | yielded (item : Y)
  | did (effect : E)
  deriving DecidableEq

abbrev Gen (Y E F α : Type) := Coroutine (List (Act Y E)) F α

def give (item : Y) : Gen Y E F Unit := modify (· ++ [.yielded item])

def act (effect : E) : Gen Y E F Unit := modify (· ++ [.did effect])

def raise (failure : F) : Gen Y E F α := await (.error failure)

def Act.item : Act Y E → Option Y
  | .yielded item => some item
  | .did _ => none

def Act.effect : Act Y E → Option E
  | .yielded _ => none
  | .did effect => some effect

def yields (acts : List (Act Y E)) : List Y := acts.filterMap Act.item

def effects (acts : List (Act Y E)) : List E := acts.filterMap Act.effect

@[simp] theorem yields_append (xs ys : List (Act Y E)) :
    yields (xs ++ ys) = yields xs ++ yields ys :=
  List.filterMap_append

@[simp] theorem yields_nil : yields ([] : List (Act Y E)) = [] := rfl

@[simp] theorem yields_yielded (item : Y) (acts : List (Act Y E)) :
    yields (.yielded item :: acts) = item :: yields acts := rfl

@[simp] theorem yields_did (effect : E) (acts : List (Act Y E)) :
    yields (.did effect :: acts) = yields acts := rfl

@[simp] theorem effects_append (xs ys : List (Act Y E)) :
    effects (xs ++ ys) = effects xs ++ effects ys :=
  List.filterMap_append

@[simp] theorem effects_nil : effects ([] : List (Act Y E)) = [] := rfl

@[simp] theorem effects_yielded (item : Y) (acts : List (Act Y E)) :
    effects (.yielded item :: acts) = effects acts := rfl

@[simp] theorem effects_did (effect : E) (acts : List (Act Y E)) :
    effects (.did effect :: acts) = effect :: effects acts := rfl

/-- Whatever was done before, the generator does this and ends so. -/
def Emits (x : Gen Y E F α) (acts : List (Act Y E)) (result : Except F α) : Prop :=
  ∀ past, x past = (result, past ++ acts)

theorem emits_pure (a : α) : Emits (pure a : Gen Y E F α) [] (.ok a) := fun past => by simp

theorem emits_give (item : Y) : Emits (give item : Gen Y E F Unit) [.yielded item] (.ok ()) :=
    fun _ => rfl

theorem emits_act (effect : E) : Emits (act effect : Gen Y E F Unit) [.did effect] (.ok ()) :=
    fun _ => rfl

theorem emits_await (result : Except F α) : Emits (await result : Gen Y E F α) [] result :=
  fun past => by simp

theorem emits_raise (failure : F) : Emits (raise failure : Gen Y E F α) [] (.error failure) :=
  emits_await _

theorem Emits.bind {x : Gen Y E F α} {f : α → Gen Y E F β} (first : Emits x xs (.ok a))
    (rest : Emits (f a) ys result) : Emits (x >>= f) (xs ++ ys) result := by
  intro past
  rw [bind_ok f (first past), rest, List.append_assoc]

theorem Emits.bind_error {x : Gen Y E F α} {f : α → Gen Y E F β}
    (failed : Emits x acts (.error failure)) :
    Emits (x >>= f) acts (.error failure) := by
  intro past
  rw [Coroutine.bind_error f (failed past)]

/-- What a generator has done when it was asked for so many items. -/
def pulled : Nat → List (Act Y E) → List (Act Y E)
  | 0, _ => []
  | _ + 1, [] => []
  | n + 1, .did effect :: acts => .did effect :: pulled (n + 1) acts
  | n + 1, .yielded item :: acts => .yielded item :: pulled n acts

@[simp] theorem pulled_nil (n : Nat) : pulled n ([] : List (Act Y E)) = [] := by
  cases n with
  | zero => rfl
  | succ n => rfl

theorem pulled_append (n : Nat) (xs ys : List (Act Y E)) :
    pulled n (xs ++ ys) =
      if n ≤ (yields xs).length then pulled n xs else xs ++ pulled (n - (yields xs).length) ys := by
  fun_induction pulled n xs with
  | case1 acts => simp [pulled]
  | case2 n => simp
  | case3 n effect acts ih =>
    rw [List.cons_append, pulled, ih, yields_did]
    split
    · rfl
    · rfl
  | case4 n item acts ih =>
    rw [List.cons_append, pulled, ih, yields_yielded, List.length_cons]
    by_cases within : n ≤ (yields acts).length
    · rw [if_pos within, if_pos (Nat.succ_le_succ within)]
    · rw [if_neg within, if_neg (mt Nat.le_of_succ_le_succ within), Nat.succ_sub_succ]
      rfl

/-- A consumer that asks until there is no more. -/
theorem pulled_all {acts : List (Act Y E)} (asked : (yields acts).length < n) :
    pulled n acts = acts := by
  have all := pulled_append n acts []
  rwa [List.append_nil, if_neg (Nat.not_le.mpr asked), pulled_nil, List.append_nil] at all

theorem pulled_subset (n : Nat) (acts : List (Act Y E)) : ∀ x ∈ pulled n acts, x ∈ acts := by
  fun_induction pulled n acts with
  | case1 acts => simp
  | case2 n => simp
  | case3 n effect acts ih =>
    intro x mem
    rcases List.mem_cons.mp mem with rfl | later
    · exact List.mem_cons_self
    · exact List.mem_cons_of_mem _ (ih x later)
  | case4 n item acts ih =>
    intro x mem
    rcases List.mem_cons.mp mem with rfl | later
    · exact List.mem_cons_self
    · exact List.mem_cons_of_mem _ (ih x later)

/-- A generator is not left where it does not yield. -/
theorem pulled_quiet (quiet : yields acts = []) (asked : 0 < n) (rest : List (Act Y E)) :
    pulled n (acts ++ rest) = acts ++ pulled n rest := by
  rw [pulled_append, quiet, List.length_nil, if_neg (Nat.not_le.mpr asked), Nat.sub_zero]

/-- `async for item in generator: body`. A body that fails leaves the generator. -/
def consume (body : β → Y → Except F β) (start : β) (run : Except F Unit × List (Act Y E)) :
    Except F β := do
  let last ← (yields run.2).foldlM body start
  let () ← run.1
  pure last

/-- A body that cannot fail. -/
theorem consume_pure (body : β → Y → β) (start : β) (run : Except F Unit × List (Act Y E)) :
    consume (fun b item => pure (body b item)) start run = run.1.map fun _ =>
      (yields run.2).foldl body start := by
  rw [consume, List.foldlM_pure]
  cases run.1 with
  | ok _ => rfl
  | error failure => rfl

end AgentOE.Generator
