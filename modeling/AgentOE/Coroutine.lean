import Mathlib.Logic.Basic
import Mathlib.Order.Defs.Unbundled

/-! Coroutines that can fail at any await. A coroutine leaves a state behind
whether it returns or fails, so what it did before a failure is kept. Nothing
here names a particular system. -/
namespace AgentOE

/-- `F` are the failures that an await can end with, cancellation among them. -/
def Coroutine (S F α : Type) := S → Except F α × S

namespace Coroutine
variable {S F α β : Type} {s t : S} {e : F}

instance : Monad (Coroutine S F) where
  pure a s := (.ok a, s)
  bind x f s := match x s with
    | (.ok a, t) => f a t
    | (.error e, t) => (.error e, t)

/-- An await that changes nothing itself. -/
def await (result : Except F α) : Coroutine S F α := fun s => (result, s)

def get : Coroutine S F S := fun s => (.ok s, s)

def modify (f : S → S) : Coroutine S F Unit := fun s => (.ok (), f s)

/-- `try: body except caught: handler`. -/
def catching (caught : F → Bool) (body handler : Coroutine S F α) : Coroutine S F α := fun s =>
  match body s with
  | (.ok a, t) => (.ok a, t)
  | (.error e, t) => if caught e then handler t else (.error e, t)

/-- `try: body finally: cleanup`. A failure of the cleanup replaces the result. -/
def ensure (body : Coroutine S F α) (cleanup : Coroutine S F Unit) : Coroutine S F α := fun s =>
  match cleanup (body s).2 with
  | (.ok _, t) => ((body s).1, t)
  | (.error e, t) => (.error e, t)

/-- `try: body except Exception as e: …`, with the result for the code that follows. -/
def attempt (body : Coroutine S F α) : Coroutine S F (Except F α) := fun s =>
  (.ok (body s).1, (body s).2)

@[simp] theorem pure_apply (a : α) (s : S) : (pure a : Coroutine S F α) s = (.ok a, s) := rfl

@[simp] theorem await_apply (result : Except F α) (s : S) : await result s = (result, s) := rfl

@[simp] theorem modify_apply (f : S → S) (s : S) :
    (modify f : Coroutine S F Unit) s = (.ok (), f s) := rfl

theorem bind_ok {x : Coroutine S F α} (f : α → Coroutine S F β) (returned : x s = (.ok a, t)) :
    (x >>= f) s = f a t := by
  simp only [bind, returned]

theorem bind_error {x : Coroutine S F α} (f : α → Coroutine S F β) (failed : x s = (.error e, t)) :
    (x >>= f) s = (.error e, t) := by
  simp only [bind, failed]

theorem of_bind_ok {x : Coroutine S F α} {f : α → Coroutine S F β}
    (returned : (x >>= f) s = (.ok b, u)) : ∃ a t, x s = (.ok a, t) ∧ f a t = (.ok b, u) := by
  rcases ended : x s with ⟨result, t⟩
  cases result with
  | ok a => exact ⟨a, t, rfl, (bind_ok f ended).symm.trans returned⟩
  | error e =>
    rw [bind_error f ended] at returned
    cases returned

/-- Work on a result that cannot fail. -/
theorem bind_pure_of {x : Coroutine S F α} (g : α → β) (ended : x s = (result, t)) :
    (x >>= fun a => pure (g a)) s = (result.map g, t) := by
  cases result with
  | ok a => exact bind_ok _ ended
  | error e => exact bind_error _ ended

@[simp] theorem pure_bind_apply (a : α) (f : α → Coroutine S F β) (s : S) :
    ((pure a : Coroutine S F α) >>= f) s = f a s := rfl

@[simp] theorem modify_bind_apply (g : S → S) (f : Unit → Coroutine S F β) (s : S) :
    (modify g >>= f) s = f () (g s) := rfl

@[simp] theorem get_bind_apply (f : S → Coroutine S F β) (s : S) : (get >>= f) s = f s s := rfl

@[simp] theorem await_bind_apply (result : Except F α) (f : α → Coroutine S F β) (s : S) :
    (await result >>= f) s = match result with
      | .ok a => f a s
      | .error e => (.error e, s) := by
  cases result <;> rfl

@[simp] theorem attempt_bind_apply (body : Coroutine S F α) (f : Except F α → Coroutine S F β)
    (s : S) : (attempt body >>= f) s = f (body s).1 (body s).2 := rfl

theorem ensure_state (body : Coroutine S F α) (cleanup : Coroutine S F Unit) (s : S) :
    (ensure body cleanup s).2 = (cleanup (body s).2).2 := by
  simp only [ensure]
  split
  case h_1 returned => rw [returned]
  case h_2 failed => rw [failed]

/-- The result of a body whose caught failures become `a`. -/
def rescue (caught : F → Bool) (a : α) : Except F α → Except F α
  | .ok b => .ok b
  | .error e => if caught e then .ok a else .error e

@[simp] theorem catching_pure_apply (caught : F → Bool) (body : Coroutine S F α) (a : α) (s : S) :
    body.catching caught (pure a) s = (rescue caught a (body s).1, (body s).2) := by
  rcases ended : body s with ⟨result, t⟩
  cases result with
  | ok b => simp [catching, ended, rescue]
  | error e =>
    simp only [catching, ended, rescue, pure_apply]
    split <;> rfl

/-- The coroutine neither looks at nor changes what `g` sets. -/
def Commutes (g : S → S) (x : Coroutine S F α) : Prop := ∀ s, x (g s) = ((x s).1, g (x s).2)

section Commutes
variable {g : S → S}

theorem commutes_pure (a : α) : Commutes g (pure a : Coroutine S F α) := fun _ => rfl

theorem commutes_modify {h : S → S} (swap : ∀ s, h (g s) = g (h s)) :
    Commutes g (modify h : Coroutine S F Unit) := by
  intro s
  rw [modify_apply, modify_apply, swap]

theorem Commutes.bind {x : Coroutine S F α} {f : α → Coroutine S F β} (first : Commutes g x)
    (rest : ∀ a, Commutes g (f a)) : Commutes g (x >>= f) := by
  intro s
  have moved := first s
  rcases ended : x s with ⟨result, t⟩
  rw [ended] at moved
  cases result with
  | ok a => rw [bind_ok f ended, bind_ok f moved, rest a]
  | error e => rw [bind_error f ended, bind_error f moved]

theorem commutes_get_bind {f : S → Coroutine S F β} (blind : ∀ s, f (g s) = f s)
    (rest : ∀ s, Commutes g (f s)) : Commutes g (get >>= f) := by
  intro s
  rw [get_bind_apply, get_bind_apply, blind, rest]

theorem Commutes.attempt {body : Coroutine S F α} (inner : Commutes g body) :
    Commutes g (attempt body) := by
  intro s
  simp only [Coroutine.attempt, inner s]

/-- What `g` sets is as it was. -/
theorem Commutes.kept {x : Coroutine S F α} (commutes : Commutes g x) (fixed : g s = s) :
    g (x s).2 = (x s).2 := by
  have moved := commutes s
  rw [fixed] at moved
  exact (congrArg Prod.snd moved).symm

end Commutes

/-- The coroutine changes nothing, however it ends. -/
def Silent (x : Coroutine S F α) : Prop := ∀ s, (x s).2 = s

theorem silent_pure (a : α) : Silent (pure a : Coroutine S F α) := fun _ => rfl

theorem silent_await (result : Except F α) : Silent (await result : Coroutine S F α) := fun _ => rfl

theorem Silent.bind {x : Coroutine S F α} {f : α → Coroutine S F β} (first : Silent x)
    (rest : ∀ a, Silent (f a)) : Silent (x >>= f) := by
  intro s
  rcases ended : x s with ⟨result, t⟩
  have same : t = s := by simpa only [ended] using first s
  cases result with
  | ok a => simpa only [bind_ok f ended, same] using rest a s
  | error e => simpa only [bind_error f ended] using same

theorem Silent.catching {body handler : Coroutine S F α} (caught : F → Bool) (first : Silent body)
    (rest : Silent handler) : Silent (body.catching caught handler) := by
  intro s
  have same := first s
  simp only [Coroutine.catching]
  split
  case h_1 ended => simpa only [ended] using same
  case h_2 ended =>
    simp only [ended] at same
    split
    · simpa only [same] using rest s
    · exact same

/-- However the coroutine ends, it has gone to a state that `R` allows. -/
def Follows (R : S → S → Prop) (x : Coroutine S F α) : Prop := ∀ s, R s (x s).2

theorem follows_modify {R : S → S → Prop} {g : S → S} (moves : ∀ s, R s (g s)) :
    Follows R (modify g : Coroutine S F Unit) := moves

theorem Follows.attempt {R : S → S → Prop} {body : Coroutine S F α} (inner : Follows R body) :
    Follows R (attempt body) := inner

section Follows
variable {R : S → S → Prop} [IsPreorder S R]

theorem follows_pure (a : α) : Follows R (pure a : Coroutine S F α) := fun s => refl_of R s

theorem Follows.bind {x : Coroutine S F α} {f : α → Coroutine S F β} (first : Follows R x)
    (rest : ∀ a, Follows R (f a)) : Follows R (x >>= f) := by
  intro s
  have moved := first s
  rcases ended : x s with ⟨result, t⟩
  rw [ended] at moved
  cases result with
  | ok a =>
    rw [bind_ok f ended]
    exact trans_of R moved (rest a t)
  | error e => rwa [bind_error f ended]

theorem follows_get_bind {f : S → Coroutine S F β} (rest : ∀ s, Follows R (f s)) :
    Follows R (get >>= f) := Follows.bind (fun s => refl_of R s) rest

end Follows

end Coroutine

end AgentOE
